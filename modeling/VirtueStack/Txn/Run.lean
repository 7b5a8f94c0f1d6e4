import VirtueStack.Txn.Embed

/-!
# Transactions: the runs of one session, with their statements

* `Run.all`, `Run.each_of` what is true of all statements, and of all runs, is true of this one;
* `MayIf.run` what may be sent is sent in some run;
* `Call.Can` some run with this outcome, all of whose statements are of a kind, from its parts.
-/

namespace Txn
open List Call

/-- a statement of a run -/
structure Sent (S : Store) where
  stmt : S.Stmt
  event : Event S
  db : S.Db

def Sent.writes {S : Store} (s : Sent S) : List S.Write := (S.answer s.stmt s.db s.event).2

section
variable {S : Store} {ε α : Type}

/-- the runs of a program that opens no transaction -/
inductive Prog.Run : Prog S α → S.Db → List (Sent S) → α → S.Db → Prop where
  | ret (a : α) (db : S.Db) : Prog.Run (.ret a) db [] a db
  | step {q : S.Stmt} {k : (Req.run q).Ans → Prog S α} {e : Event S} {db : S.Db}
      {tr : List (Sent S)} {a : α} {db' : S.Db}
      (h : Prog.Run (k (S.answer q db e).1) (S.view db (S.answer q db e).2) tr a db') :
      Prog.Run (.req (.run q) k) db (⟨q, e, db⟩ :: tr) a db'

variable {A I : S.Stmt → Event S → S.Db → Prop} {p : Prog S α} {db db' : S.Db} {tr : List (Sent S)}
  {a : α} {ok : S.Stmt → Prop}

lemma Prog.Run.all (h : p.Run db tr a db') (hp : p.All ok) : ∀ s ∈ tr, ok s.stmt := by
  induction h with
  | ret a db => exact forall_mem_nil _
  | step h ih => exact forall_mem_cons.mpr ⟨hp.1, ih (hp.2 _)⟩

section
variable {Q : α → S.Db → Prop} (h : p.Run db tr a db')
include h

lemma Prog.Run.each_of (hA : ∀ s ∈ tr, A s.stmt s.event s.db) (hp : p.Each A I Q db) :
    (∀ s ∈ tr, I s.stmt s.event s.db) ∧ Q a db' := by
  induction h with
  | ret a db => exact ⟨forall_mem_nil _, hp⟩
  | step h ih =>
    obtain ⟨he, htr⟩ := forall_mem_cons.mp hA
    obtain ⟨hq, hk⟩ := hp _ he
    obtain ⟨hI, hQ⟩ := ih htr hk
    exact ⟨forall_mem_cons.mpr ⟨hq, hI⟩, hQ⟩

lemma Prog.Run.each (hp : p.Each (fun _ _ _ => True) I Q db) :
    (∀ s ∈ tr, I s.stmt s.event s.db) ∧ Q a db' :=
  h.each_of (fun _ _ => trivial) hp

end

lemma Prog.exists_run (hp : p.All ok) (hA : ∀ q db, ∃ e, A q e db) (db : S.Db) :
    ∃ tr a db', p.Run db tr a db' ∧ ∀ s ∈ tr, A s.stmt s.event s.db := by
  induction p, hp using Prog.All.rule generalizing db with
  | ret a => exact ⟨[], a, db, .ret a db, forall_mem_nil _⟩
  | run q k _ _ ih =>
    obtain ⟨e, he⟩ := hA q db
    obtain ⟨tr, a, db', hrun, htr⟩ := ih _ (S.view db (S.answer q db e).2)
    exact ⟨_, a, db', .step hrun, forall_mem_cons.mpr ⟨he, htr⟩⟩

lemma Prog.run_of_not_each {Q : α → S.Db → Prop} (hp : p.All ok)
    (hA : ∀ q db, ∃ e, A q e db) (h : ¬ p.Each A I Q db) :
    ∃ tr a db', p.Run db tr a db' ∧ (∀ s ∈ tr, A s.stmt s.event s.db) ∧
      ((∃ s ∈ tr, ¬ I s.stmt s.event s.db) ∨ ¬ Q a db') := by
  induction p, hp using Prog.All.rule generalizing db with
  | ret a => exact ⟨[], a, db, .ret a db, forall_mem_nil _, .inr h⟩
  | run q k _ hk ih =>
    have hne : ∃ e, A q e db ∧ ¬ (I q e db ∧
        Prog.Each A I Q (k (S.answer q db e).1) (S.view db (S.answer q db e).2)) := by
      by_contra hall
      refine h fun e he => ?_
      by_contra hcon
      exact hall ⟨e, he, hcon⟩
    obtain ⟨e, he, hbad⟩ := hne
    by_cases hq : I q e db
    · obtain ⟨tr, a, db', hrun, htr, hrest⟩ := ih _ fun hk => hbad ⟨hq, hk⟩
      refine ⟨⟨q, e, db⟩ :: tr, a, db', .step hrun, forall_mem_cons.mpr ⟨he, htr⟩, ?_⟩
      rcases hrest with ⟨s, hs, hrest⟩ | hrest
      · exact .inl ⟨s, mem_cons_of_mem _ hs, hrest⟩
      · exact .inr hrest
    · -- the statement is there whatever comes after it, and some run goes on
      obtain ⟨tr, a, db', hrun, htr⟩ := Prog.exists_run (hk _) hA (S.view db (S.answer q db e).2)
      exact ⟨_, a, db', .step hrun, forall_mem_cons.mpr ⟨he, htr⟩,
        .inl ⟨⟨q, e, db⟩, mem_cons_self, hq⟩⟩

namespace Call

def Run (c : Call S ε α) (db : S.Db) (tr : List (Sent S)) (r : Except ε α) (db' : S.Db) : Prop :=
  Prog.Run c db tr r db'

variable {c : Call S ε α}

lemma MayIf.run {P : S.Stmt → Event S → S.Db → Prop} (hc : c.All ok) (hA : ∀ q db, ∃ e, A q e db)
    (h : c.MayIf A P db) : ∃ tr r db', c.Run db tr r db' ∧ (∀ s ∈ tr, A s.stmt s.event s.db) ∧
      ∃ s ∈ tr, P s.stmt s.event s.db := by
  obtain ⟨tr, r, db', hrun, htr, hbad⟩ := Prog.run_of_not_each hc hA h
  refine ⟨tr, r, db', hrun, htr, ?_⟩
  rcases hbad with ⟨s, hs, hbad⟩ | hbad
  · exact ⟨s, hs, not_not.mp hbad⟩
  · exact absurd trivial hbad

lemma run_attempt {β : Type} {f : Except ε α → Call S ε β} {r : Except ε β}
    (h : (c.attempt f).Run db tr r db') :
    ∃ tr₁ r₁ db₁ tr₂, c.Run db tr₁ r₁ db₁ ∧ (f r₁).Run db₁ tr₂ r db' ∧ tr = tr₁ ++ tr₂ := by
  unfold Run at h ⊢
  change Prog.Run (Prog.bind c f) db tr r db' at h
  induction c generalizing db tr with
  | ret r₁ => exact ⟨[], r₁, db, tr, .ret r₁ db, h, rfl⟩
  | req q k ih =>
    cases h with
    | step h =>
      obtain ⟨tr₁, r₁, db₁, tr₂, h1, h2, rfl⟩ := ih _ h
      exact ⟨_, r₁, db₁, tr₂, .step h1, h2, rfl⟩

lemma run_bind {β : Type} {f : α → Call S ε β} {r : Except ε β} (h : (c >>= f).Run db tr r db') :
    (∃ tr₁ a db₁ tr₂, c.Run db tr₁ (.ok a) db₁ ∧ (f a).Run db₁ tr₂ r db' ∧ tr = tr₁ ++ tr₂) ∨
      ∃ e, c.Run db tr (.error e) db' ∧ r = .error e := by
  obtain ⟨tr₁, r1, db₁, tr₂, h1, h2, rfl⟩ := run_attempt h
  cases r1 with
  | ok a => exact .inl ⟨tr₁, a, db₁, tr₂, h1, h2, rfl⟩
  | error e =>
    cases h2
    rw [append_nil]
    exact .inr ⟨e, h1, rfl⟩

variable {err : S.Err → ε} {q : S.Stmt}

lemma run_stmt {r : Except ε (S.Ans q)} (h : (stmt q err).Run db tr r db') :
    ∃ e, tr = [⟨q, e, db⟩] ∧ r = (S.answer q db e).1.mapError err ∧ db' = S.view db
      (S.answer q db e).2 := by
  cases h with
  | step h =>
    rename_i e tr
    cases hr : (S.answer q db e).1 with
    | ok a | error err' =>
      rw [hr] at h
      cases h
      exact ⟨e, rfl, congrArg (Except.mapError err) hr.symm, rfl⟩

/-! ## runs from their parts -/

/-- a run with this outcome in which every statement meets `P` -/
def Can (P : Sent S → Prop) (c : Call S ε α) (db : S.Db) (r : Except ε α) (db' : S.Db) : Prop :=
  ∃ tr, c.Run db tr r db' ∧ ∀ s ∈ tr, P s

variable {P : Sent S → Prop} {β : Type} {c : Call S ε α} {db'' : S.Db}

lemma can_ret (r : Except ε α) : Can P (Prog.ret r) db r db :=
  ⟨[], .ret r db, forall_mem_nil _⟩

variable {r : Except ε α}

lemma Can.attempt {f : Except ε α → Call S ε β} {r' : Except ε β} (hc : c.Can P db r db')
    (hf : (f r).Can P db' r' db'') : (c.attempt f).Can P db r' db'' := by
  obtain ⟨tr, hrun, htr⟩ := hc
  obtain ⟨tr', hrun', htr'⟩ := hf
  refine ⟨tr ++ tr', ?_, forall_mem_append.mpr ⟨htr, htr'⟩⟩
  clear htr htr'
  unfold Run at hrun hrun' ⊢
  induction hrun with
  | ret a db => exact hrun'
  | step h ih => exact .step (ih hrun')

lemma Can.bind {f : α → Call S ε β} {a : α} {r : Except ε β} (hc : c.Can P db (.ok a) db')
    (hf : (f a).Can P db' r db'') : (c >>= f).Can P db r db'' := Can.attempt hc hf

lemma Can.bind_error {f : α → Call S ε β} {e : ε} (hc : c.Can P db (.error e) db') :
    (c >>= f).Can P db (.error e) db' := Can.attempt hc (can_ret _)

lemma can_req {k : (Req.run q).Ans → Call S ε α} (e : Event S)
    (hP : P ⟨q, e, db⟩) (hk : (k (S.answer q db e).1).Can P (S.view db (S.answer q db e).2) r db') :
    Can P (Prog.req (.run q) k) db r db' := by
  obtain ⟨tr, hrun, htr⟩ := hk
  exact ⟨⟨q, e, db⟩ :: tr, .step hrun, forall_mem_cons.mpr ⟨hP, htr⟩⟩

lemma can_stmt_ok {x : S.Inp} {a : S.Ans q} {ws : List S.Write}
    (hx : S.exec q x x db = .ok (a, ws)) (hP : P ⟨q, .ok x, db⟩) :
    (stmt q err).Can P db (.ok a) (S.view db ws) := by
  refine can_req (.ok x) hP ?_
  rw [Store.answer_of_ok hx]
  exact can_ret _

lemma can_stmt_fail (e : S.Fault) (hP : P ⟨q, .fail e, db⟩) :
    (stmt q err).Can P db (.error (err (S.fault e))) db := can_req (.fail e) hP (can_ret _)

variable {R : S.Stmt → Event S → S.Db → Prop}

/-- after a run of the first part, the second comes to a statement that meets `R` -/
lemma Can.mayIf_attempt {f : Except ε α → Call S ε β} (hP : ∀ s, P s → A s.stmt s.event s.db)
    (hc : c.Can P db r db') (h : (f r).MayIf A R db') : (c.attempt f).MayIf A R db := by
  obtain ⟨tr, hrun, htr⟩ := hc
  intro hall
  exact h (hrun.each_of (fun s hs => hP s (htr s hs)) ((each_attempt f).mp hall)).2

lemma Can.mayIf_bind {f : α → Call S ε β} {a : α}
    (hP : ∀ s, P s → A s.stmt s.event s.db) (hc : c.Can P db (.ok a) db')
    (h : (f a).MayIf A R db') :
    (c >>= f).MayIf A R db := Can.mayIf_attempt hP hc h

/-- a run in which every statement fails changes nothing -/
lemma can_failing (e : S.Fault) (hc : c.All ok)
    (hP : ∀ q db, ok q → P ⟨q, .fail e, db⟩) : ∃ r, c.Can P db r db := by
  induction c, hc using Prog.All.rule with
  | ret r => exact ⟨r, can_ret r⟩
  | run q k hq _ ih =>
    obtain ⟨r, hr⟩ := ih (.error (S.fault e))
    exact ⟨r, can_req (.fail e) (hP q db hq) hr⟩

end Call

end

section
variable {S T : Store} {ε α : Type} {L : Part S T}

lemma Call.Can.embed {P : Sent S → Prop} {P' : Sent T → Prop} {c : Call S ε α} {h h' : S.Db}
    {r : Except ε α} (hL : ∀ e, ∃ e', L.event e' = e)
    (hP : ∀ q e db, P' ⟨L.stmt q, e, db⟩) {db : T.Db} (hdb : L.db db = h) (hc : c.Can P h r h') :
    ∃ db', (c.embed L).Can P' db r db' ∧ L.db db' = h' := by
  obtain ⟨tr, hrun, -⟩ := hc
  unfold Run at hrun
  unfold Call.Can Call.Run Call.embed
  induction hrun generalizing db with
  | ret a h => exact ⟨db, ⟨[], .ret a db, forall_mem_nil _⟩, hdb⟩
  | @step q k e h tr a h' hrun ih =>
    obtain ⟨e', rfl⟩ := hL e
    have hview := L.db_view q db e'
    have hreply := L.reply_answer q db e'
    rw [hdb] at hview hreply
    obtain ⟨db', ⟨tr', hrun', htr'⟩, hdb'⟩ := ih hview
    refine ⟨db', ⟨⟨L.stmt q, e', db⟩ :: tr', .step ?_, forall_mem_cons.mpr ⟨hP q e' db, htr'⟩⟩,
      hdb'⟩
    rw [hreply]
    exact hrun'

end

end Txn
