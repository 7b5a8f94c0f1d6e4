import VirtueStack.Txn.Rules

/-!
# Transactions: one session by itself

A client that opens no transaction and has the store for itself is a function of what the outside
answers to its statements.

* `Store.answer` what one statement gives back, and what it writes;
* `alone_reaches_from` such a run is a run of the machine with one session.
-/

namespace Txn
open List Call Function

section
variable {S : Store} {ε ε' α β : Type}

/-! ## one statement -/

def Store.answer (S : Store) (q : S.Stmt) (db : S.Db) :
    Event S → Except S.Err (S.Ans q) × List S.Write
  | .ok x =>
    match S.exec q x x db with
    | .ok (a, ws) => (.ok a, ws)
    | .error e => (.error e, [])
  | .fail e => (.error (S.fault e), [])

variable {ws : List S.Write} {q : S.Stmt} {e : Event S} {f : α → Prog S β} {p : Prog S α}
  {ok : S.Stmt → Prop} {db : S.Db}

lemma Store.answer_of_ok {x : S.Inp} {a : S.Ans q}
    (h : S.exec q x x db = .ok (a, ws)) : S.answer q db (.ok x) = (.ok a, ws) := by
  simp only [Store.answer, h]

lemma Store.answer_of_error {x : S.Inp} {err : S.Err} (h : S.exec q x x db = .error err) :
    S.answer q db (.ok x) = (.error err, []) := by
  simp only [Store.answer, h]

lemma Store.exec_of_answer {a : S.Ans q}
    (h : S.answer q db e = (.ok a, ws)) : ∃ x, e = .ok x ∧ S.exec q x x db = .ok (a, ws) := by
  cases e with
  | fail e => cases h
  | ok x =>
    simp only [Store.answer] at h
    split at h
    · rename_i hx
      cases h
      exact ⟨x, rfl, hx⟩
    · cases h

lemma Store.exec_of_mem_answer {w : S.Write} (hw : w ∈ (S.answer q db e).2) :
    ∃ x a ws, e = .ok x ∧ S.exec q x x db = .ok (a, ws) ∧ w ∈ ws := by
  cases e with
  | fail e => cases hw
  | ok x =>
    simp only [Store.answer] at hw
    split at hw
    · rename_i a ws hx
      exact ⟨x, a, ws, rfl, hx, hw⟩
    · cases hw

lemma Store.answer_error {err : S.Err} (h : S.answer q db e = (.error err, ws)) : ws = [] := by
  cases e with
  | fail e =>
    cases h
    rfl
  | ok x =>
    simp only [Store.answer] at h
    split at h
    · cases h
    · cases h
      rfl

lemma exec_run_idle (q : S.Stmt) (e : Event S) (db : S.Db) : ∃ need, (Req.run q).exec e .idle db =
      some ⟨(S.answer q db e).1, .idle, (S.answer q db e).2, need, .keep⟩ := by
  cases e with
  | fail e => exact ⟨[], rfl⟩
  | ok x =>
    cases hx : S.exec q x x db with
    | ok r => exact ⟨S.locks q x db, by simp only [Req.exec, Loc.idle, Store.answer, hx]⟩
    | error e => exact ⟨[], by simp only [Req.exec, Loc.idle, Store.answer, hx]⟩

/-! ## a whole program -/

/-- the run of `p` on `db`; a program for which this is meant opens no transaction -/
def Prog.alone (o : S.Stmt → Event S) : Prog S α → S.Db → α × S.Db
  | .ret a, db => (a, db)
  | .req (.run q) k, db =>
    Prog.alone o (k (S.answer q db (o q)).1) (S.view db (S.answer q db (o q)).2)
  | .req .begin k, db => Prog.alone o (k (.ok ())) db
  | .req .commit k, db => Prog.alone o (k (.ok ())) db
  | .req .rollback k, db => Prog.alone o (k ()) db

/-- the statements of the run, each with the state it finds -/
def Prog.calls (o : S.Stmt → Event S) : Prog S α → S.Db → List (S.Stmt × S.Db)
  | .ret _, _ => []
  | .req (.run q) k, db =>
    (q, db) :: Prog.calls o (k (S.answer q db (o q)).1) (S.view db (S.answer q db (o q)).2)
  | .req .begin k, db => Prog.calls o (k (.ok ())) db
  | .req .commit k, db => Prog.calls o (k (.ok ())) db
  | .req .rollback k, db => Prog.calls o (k ()) db

variable {o : S.Stmt → Event S}

section
variable (p : Prog S α) (f : α → Prog S β) (db : S.Db)

lemma Prog.alone_bind : (p.bind f).alone o db = (f (p.alone o db).1).alone o (p.alone o db).2 := by
  induction p generalizing db with
  | ret a => rfl
  | req r k ih =>
    cases r with
    | run q | begin | commit | rollback => exact ih _ _

lemma Prog.calls_bind :
    (p.bind f).calls o db = p.calls o db ++ (f (p.alone o db).1).calls o (p.alone o db).2 := by
  induction p generalizing db with
  | ret a => rfl
  | req r k ih =>
    cases r with
    | run q => exact congrArg (List.cons (q, db)) (ih _ _)
    | begin | commit | rollback => exact ih _ _

end

namespace Call

section
variable (o : S.Stmt → Event S) (c : Call S ε α) (db : S.Db)

def alone : Except ε α × S.Db := Prog.alone o c db

def calls : List (S.Stmt × S.Db) :=
  Prog.calls o c db

end

@[simp] lemma alone_pure (a : α) : (Call.pure a : Call S ε α).alone o db = (.ok a, db) := rfl
lemma alone_attempt (c : Call S ε α) (f : Except ε α → Call S ε β) :
    (c.attempt f).alone o db = (f (c.alone o db).1).alone o (c.alone o db).2 :=
  Prog.alone_bind (S := S) c f db

variable {db' : S.Db} {c : Call S ε α} {f : α → Call S ε β}

lemma alone_attempt_of {f : Except ε α → Call S ε β} {r : Except ε α}
    (h : c.alone o db = (r, db')) : (c.attempt f).alone o db = (f r).alone o db' := by
  rw [alone_attempt, h]

lemma alone_bind_ok {a : α} (h : c.alone o db = (.ok a, db')) :
    (c >>= f).alone o db = (f a).alone o db' :=
  alone_attempt_of h

lemma alone_bind_error {e : ε} (h : c.alone o db = (.error e, db')) :
    (c >>= f).alone o db = (.error e, db') :=
  alone_attempt_of h

lemma alone_stmt (q : S.Stmt) (err : S.Err → ε) : (stmt q err).alone o db =
    ((S.answer q db (o q)).1.mapError err, S.view db (S.answer q db (o q)).2) := by
  unfold alone stmt
  show (Prog.alone o (match (S.answer q db (o q)).1 with
    | .ok a => Call.pure a
    | .error e => Call.fail (err e)) _) = _
  cases (S.answer q db (o q)).1 <;> rfl

lemma alone_bind_eq_ok {b : β} {db'' : S.Db} : (c >>= f).alone o db = (.ok b, db'') ↔
      ∃ a db', c.alone o db = (.ok a, db') ∧ (f a).alone o db' = (.ok b, db'') := by
  cases hc : c.alone o db with
  | mk r db' =>
    cases r with
    | ok a =>
      rw [alone_bind_ok hc]
      constructor
      · exact fun h => ⟨a, db', rfl, h⟩
      · rintro ⟨a', db1, h1, h2⟩
        cases h1
        exact h2
    | error e =>
      rw [alone_bind_error hc]
      constructor
      · intro h
        cases h
      · rintro ⟨a', db1, h1, h2⟩
        cases h1

lemma calls_attempt (c : Call S ε α) (f : Except ε α → Call S ε β) :
    (c.attempt f).calls o db = c.calls o db ++ (f (c.alone o db).1).calls o (c.alone o db).2 :=
  Prog.calls_bind (S := S) c f db

lemma calls_bind_ok {a : α} (h : c.alone o db = (.ok a, db')) :
    (c >>= f).calls o db = c.calls o db ++ (f a).calls o db' := by
  refine (calls_attempt c _).trans ?_
  rw [h]

lemma calls_bind_error {e : ε} (h : c.alone o db = (.error e, db')) :
    (c >>= f).calls o db = c.calls o db := by
  refine (calls_attempt c _).trans ?_
  rw [h]
  exact append_nil _

lemma forall_calls_bind {P : S.Stmt × S.Db → Prop} (hc : ∀ x ∈ c.calls o db, P x)
    (hf : ∀ a db', c.alone o db = (.ok a, db') → ∀ x ∈ (f a).calls o db', P x) :
    ∀ x ∈ (c >>= f).calls o db, P x := by
  cases hr : c.alone o db with
  | mk r db' =>
    cases r with
    | error e =>
      rw [calls_bind_error hr]
      exact hc
    | ok a =>
      rw [calls_bind_ok hr]
      exact forall_mem_append.mpr ⟨hc, hf a db' hr⟩

lemma calls_stmt (q : S.Stmt) (err : S.Err → ε) : (stmt q err).calls o db = [(q, db)] := by
  unfold calls stmt
  show (q, db) :: (Prog.calls o (match (S.answer q db (o q)).1 with
    | .ok a => Call.pure a
    | .error e => Call.fail (err e)) _) = _
  cases (S.answer q db (o q)).1 <;> rfl

end Call

/-! ## the statements of a program -/

/-- every statement `p` can send is in `ok`, and `p` opens no transaction -/
def Prog.All (ok : S.Stmt → Prop) : Prog S α → Prop
  | .ret _ => True
  | .req (.run q) k => ok q ∧ ∀ a, (k a).All ok
  | .req .begin _ => False
  | .req .commit _ => False
  | .req .rollback _ => False

/-- induction on a program that opens no transaction -/
@[elab_as_elim] lemma Prog.All.rule {motive : (p : Prog S α) → p.All ok → Prop}
    (ret : ∀ a, motive (.ret a) trivial)
    (run : ∀ q k (hq : ok q) (hk : ∀ a, (k a).All ok), (∀ a, motive (k a) (hk a)) →
      motive (.req (.run q) k) ⟨hq, hk⟩) (p : Prog S α) (hp : p.All ok) : motive p hp := by
  induction p with
  | ret a => exact ret a
  | req r k ih =>
    cases r with
    | run q => exact run q k hp.1 hp.2 fun a => ih a (hp.2 a)
    | begin | commit | rollback => exact hp.elim

/-- the values the program can end with -/
def Prog.Returns : Prog S α → α → Prop
  | .ret a, b => a = b
  | .req _ k, b => ∃ x, (k x).Returns b

lemma Prog.returns_bind {b : β} (h : (p.bind f).Returns b) :
    ∃ a, p.Returns a ∧ (f a).Returns b := by
  induction p with
  | ret a => exact ⟨a, rfl, h⟩
  | req r k ih =>
    obtain ⟨x, hx⟩ := h
    obtain ⟨a, ha, hb⟩ := ih x hx
    exact ⟨a, ⟨x, ha⟩, hb⟩

lemma Prog.All.bind_of (hp : p.All ok) (hf : ∀ a, p.Returns a → (f a).All ok) :
    (p.bind f).All ok := by
  induction p, hp using Prog.All.rule with
  | ret a => exact hf a rfl
  | run q k hq _ ih => exact ⟨hq, fun x => ih x fun a ha => hf a ⟨x, ha⟩⟩

lemma Prog.All.bind (hp : p.All ok) (hf : ∀ a, (f a).All ok) :
    (p.bind f).All ok := hp.bind_of fun a _ => hf a

lemma Prog.All.of_bind (h : (p.bind f).All ok) (db : S.Db) : (f (p.alone o db).1).All ok := by
  induction p generalizing db with
  | ret a => exact h
  | req r k ih =>
    cases r with
    | run q => exact ih _ (h.2 _) _
    | begin | commit | rollback => exact h.elim

lemma Prog.All.mono {ok' : S.Stmt → Prop} (h : ∀ q, ok q → ok' q) (hp : p.All ok) : p.All ok' := by
  induction p, hp using Prog.All.rule with
  | ret a => trivial
  | run q k hq _ ih => exact ⟨h q hq, ih⟩

namespace Call
variable {ok : S.Stmt → Prop}

def All (ok : S.Stmt → Prop) (c : Call S ε α) : Prop := Prog.All ok c

lemma All.ret (r : Except ε α) : All ok (Prog.ret r : Call S ε α) := trivial

variable {c : Call S ε α} {f : α → Call S ε β}

lemma All.attempt {f : Except ε α → Call S ε β} (hc : c.All ok)
    (hf : ∀ r, (f r).All ok) : (c.attempt f).All ok := Prog.All.bind hc hf

lemma All.bind (hc : c.All ok) (hf : ∀ a, (f a).All ok) : (c.bind f).All ok := by
  refine All.attempt hc fun r => ?_
  cases r with
  | ok a => exact hf a
  | error e => exact All.ret _

def Returns (c : Call S ε α) (a : α) : Prop := Prog.Returns c (.ok a)

lemma returns_bind {b : β} (h : (c >>= f).Returns b) : ∃ a, c.Returns a ∧ (f a).Returns b := by
  obtain ⟨r, hr, hb⟩ := Prog.returns_bind (S := S) h
  cases r with
  | ok a => exact ⟨a, hr, hb⟩
  | error e => cases hb

lemma All.bind_of (hc : c.All ok) (hf : ∀ a, c.Returns a → (f a).All ok) : (c >>= f).All ok := by
  refine Prog.All.bind_of (S := S) hc fun r hr => ?_
  cases r with
  | ok a => exact hf a hr
  | error e => exact All.ret _

lemma All.of_bind {a : α} {db' : S.Db} (h : (c >>= f).All ok) (ha : c.alone o db = (.ok a, db')) :
    (f a).All ok := by
  have hall := Prog.All.of_bind (o := o) h db
  unfold alone at ha
  rw [ha] at hall
  exact hall

lemma All.stmt {q : S.Stmt} {err : S.Err → ε} (hq : ok q) : (stmt q err).All ok := by
  refine ⟨hq, fun a => ?_⟩
  cases a with
  | ok a => trivial
  | error e => trivial

lemma All.ite {p : Prop} [Decidable p] {d : Call S ε α} (hc : p → c.All ok) (hd : ¬ p → d.All ok) :
    All ok (if p then c else d) := by
  by_cases h : p
  · rw [if_pos h]
    exact hc h
  · rw [if_neg h]
    exact hd h

/-- what every statement of the call keeps holds where each of them is sent, and at the end -/
lemma All.invariant {I : S.Db → Prop} (hc : c.All ok)
    (h : ∀ q, ok q → ∀ db e, I db → I (S.view db (S.answer q db e).2)) (hI : I db) :
    (∀ q ∈ c.calls o db, I q.2 ∧ ok q.1) ∧ I (c.alone o db).2 := by
  unfold calls alone
  induction c, hc using Prog.All.rule generalizing db with
  | ret r => exact ⟨forall_mem_nil _, hI⟩
  | run p k hp _ ih =>
    obtain ⟨hcalls, hend⟩ := ih _ (h p hp db (o p) hI)
    exact ⟨forall_mem_cons.mpr ⟨⟨hI, hp⟩, hcalls⟩, hend⟩

/-- what no statement of the call changes is not changed by its run -/
lemma All.alone_frame {γ : Type} {g : S.Db → γ} (hc : c.All ok)
    (h : ∀ q, ok q → ∀ db e, g (S.view db (S.answer q db e).2) = g db) :
    g (c.alone o db).2 = g db :=
  (hc.invariant (I := fun db' => g db' = g db) (fun q hq db' e hI => (h q hq db' e).trans hI) rfl).2

lemma All.mem_calls (hc : c.All ok) {q : S.Stmt × S.Db} (hq : q ∈ c.calls o db) : ok q.1 :=
  ((hc.invariant (I := fun _ => True) (fun _ _ _ _ _ => trivial) trivial).1 q hq).2

end Call

end

section
variable {S : Store} {α : Type} {s : State S Unit α}

lemma step_alone {q : S.Stmt} {k : (Req.run q).Ans → Prog S α}
    (hp : s.prog () = some (.req (.run q) k)) (hl : s.loc () = .idle) (ho : ∀ l, s.owner l = none)
    (e : Event S) : ∃ s', step s () (.ev e) = some s' ∧
      s'.prog () = some (k (S.answer q s.mem.db e).1) ∧
      s'.loc () = .idle ∧ (∀ l, s'.owner l = none) ∧ s'.mem.db = S.view s.mem.db
        (S.answer q s.mem.db e).2 := by
  obtain ⟨need, hexec⟩ := exec_run_idle q e s.mem.db
  have hneed : ∀ l ∈ need, s.owner l = none ∨ s.owner l = some () := fun l _ => .inl (ho l)
  refine ⟨⟨s.mem.publish () (S.answer q s.mem.db e).2, LockMode.keep.owner () need s.owner,
    update s.loc () .idle, update s.prog () (some (k (S.answer q s.mem.db e).1))⟩,
    ?_, ?_, ?_, ho, Mem.publish_db _ _ _⟩
  · simp only [step, hp, hl, hexec]
    exact if_pos hneed
  · exact update_self () _ s.prog
  · exact update_self () _ s.loc

lemma alone_reaches_from (o : S.Stmt → Event S) {p : Prog S α} (hall : p.All fun _ => True)
    (hp : s.prog () = some p) (hl : s.loc () = .idle)
    (ho : ∀ l, s.owner l = none) : ∃ s', Reaches always s s' ∧
      s'.prog () = some (.ret (p.alone o s.mem.db).1) ∧ s'.mem.db = (p.alone o s.mem.db).2 := by
  induction p, hall using Prog.All.rule generalizing s with
  | ret a => exact ⟨s, Relation.ReflTransGen.refl, hp, rfl⟩
  | run q k _ _ ih =>
    obtain ⟨s1, hstep, hp1, hl1, ho1, hdb1⟩ := step_alone hp hl ho (o q)
    obtain ⟨s2, hr, hp2, hdb2⟩ := ih _ hp1 hl1 ho1
    rw [hdb1] at hp2 hdb2
    exact ⟨s2, Relation.ReflTransGen.head ⟨(), _, fun _ _ _ => trivial, hstep⟩ hr, hp2, hdb2⟩

end

end Txn
