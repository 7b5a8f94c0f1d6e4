import VirtueStack.Txn.Serial

/-!
# Transactions: one session by itself, whatever the outside does

The outside settles each statement anew: it is carried out with some input, or it fails.

* `Prog.Each A I Q` in every run of the program whose statements meet what `A` allows, `I` holds of
  every statement where it is sent, and `Q` of the outcome and of the state at the end;
* `each_bind`, `each_attempt`, `each_stmt` a program, from its parts;
* `Call.May P`, `Call.MayIf A P` in some run a statement meets `P` where it is sent.
-/

namespace Txn

section
variable {S : Store} {ε α β : Type}

def Prog.Each (A I : S.Stmt → Event S → S.Db → Prop) (Q : α → S.Db → Prop) : Prog S α → S.Db → Prop
  | .ret a, db => Q a db
  | .req (.run q) k, db => ∀ e, A q e db →
      I q e db ∧ Prog.Each A I Q (k (S.answer q db e).1) (S.view db (S.answer q db e).2)
  | .req .begin _, _ => False
  | .req .commit _, _ => False
  | .req .rollback _, _ => False

variable {A I J : S.Stmt → Event S → S.Db → Prop} {Q Q' : α → S.Db → Prop} {db : S.Db}
  {p : Prog S α}

lemma Prog.Each.imp (hI : ∀ q e db, I q e db → J q e db) (hQ : ∀ a db, Q a db → Q' a db)
    (hp : p.Each A I Q db) : p.Each A J Q' db := by
  induction p generalizing db with
  | ret a => exact hQ a db hp
  | req r k ih =>
    cases r with
    | run q => exact fun e he => ⟨hI q e db (hp e he).1, ih _ (hp e he).2⟩
    | begin | commit | rollback => exact hp

lemma Prog.Each.mono (h : ∀ a db, Q a db → Q' a db) (hp : p.Each A I Q db) : p.Each A I Q' db :=
  hp.imp (fun _ _ _ h => h) h

lemma Prog.each_bind {Q : β → S.Db → Prop} (p : Prog S α) (f : α → Prog S β) (db : S.Db) :
    (p.bind f).Each A I Q db ↔ p.Each A I (fun a db => (f a).Each A I Q db) db := by
  induction p generalizing db with
  | ret a => exact Iff.rfl
  | req r k ih =>
    cases r with
    | run q => exact forall_congr' fun e => imp_congr_right fun _ => and_congr_right fun _ => ih _ _
    | begin | commit | rollback => exact Iff.rfl

variable {o : S.Stmt → Event S}

lemma Prog.Each.alone (ho : ∀ q db, A q (o q) db)
    (hp : p.Each A I Q db) : Q (p.alone o db).1 (p.alone o db).2 := by
  induction p generalizing db with
  | ret a => exact hp
  | req r k ih =>
    cases r with
    | run q => exact ih _ (hp (o q) (ho q db)).2
    | begin | commit | rollback => exact hp.elim

lemma Prog.not_each_of_mem_calls {P : S.Stmt → Event S → S.Db → Prop} {q : S.Stmt}
    {db' : S.Db} (hq : (q, db') ∈ p.calls o db) (h : P q (o q) db') :
    ¬ p.Each (fun _ _ _ => True) (fun q e db => ¬ P q e db) (fun _ _ => True) db := by
  intro hp
  induction p generalizing db with
  | ret a => cases hq
  | req r k ih =>
    cases r with
    | run q' =>
      obtain ⟨hno, hk⟩ := hp (o q') trivial
      rcases List.mem_cons.mp hq with hq | hq
      · cases hq
        exact hno h
      · exact ih _ hq hk
    | begin | commit | rollback => exact hp

lemma Prog.Each.returning (hp : p.Each A I Q db) :
    p.Each A I (fun a db => Q a db ∧ p.Returns a) db := by
  induction p generalizing db with
  | ret a => exact ⟨hp, rfl⟩
  | req r k ih =>
    cases r with
    | run q => exact fun e he => ⟨(hp e he).1, (ih _ (hp e he).2).mono fun a db h => ⟨h.1, _, h.2⟩⟩
    | begin | commit | rollback => exact hp

def Silent (q : S.Stmt) (e : Event S) (db : S.Db) : Prop := (S.answer q db e).2 = []

/-- a program none of whose statements writes leaves the state as it is -/
lemma Prog.Each.silent (hp : p.Each A Silent Q db) :
    p.Each A Silent (fun a db' => db' = db ∧ Q a db') db := by
  induction p generalizing db with
  | ret a => exact ⟨rfl, hp⟩
  | req r k ih =>
    cases r with
    | run q =>
      intro e he
      obtain ⟨hq, hk⟩ := hp e he
      refine ⟨hq, ?_⟩
      unfold Silent at hq
      rw [hq] at hk ⊢
      exact ih _ hk
    | begin | commit | rollback => exact hp

namespace Call

/-- the same of a call, whose outcome is a value or an error -/
def Each (A I : S.Stmt → Event S → S.Db → Prop) (Q : Except ε α → S.Db → Prop) (c : Call S ε α)
    (db : S.Db) : Prop := Prog.Each A I Q c db

variable {Q Q' : Except ε α → S.Db → Prop} {c : Call S ε α} {db : S.Db}

lemma Each.mono (h : ∀ r db, Q r db → Q' r db) (hc : c.Each A I Q db) : c.Each A I Q' db :=
  Prog.Each.mono h hc

variable {Q : Except ε β → S.Db → Prop}

lemma each_attempt (f : Except ε α → Call S ε β) :
    (c.attempt f).Each A I Q db ↔ c.Each A I (fun r db => (f r).Each A I Q db) db :=
  Prog.each_bind (S := S) c f db

/-- how a sequence goes on after its first part -/
def Next (A I : S.Stmt → Event S → S.Db → Prop) (Q : Except ε β → S.Db → Prop)
    (f : α → Call S ε β) : Except ε α → S.Db → Prop
  | .ok a, db => (f a).Each A I Q db
  | .error e, db => Q (.error e) db

lemma each_bind (f : α → Call S ε β) : (c >>= f).Each A I Q db ↔ c.Each A I (Next A I Q f) db := by
  refine (Prog.each_bind (S := S) c _ db).trans ?_
  constructor
  · refine Prog.Each.mono fun r db hr => ?_
    cases r with
    | ok a => exact hr
    | error e => exact hr
  · refine Prog.Each.mono fun r db hr => ?_
    cases r with
    | ok a => exact hr
    | error e => exact hr

variable {q : S.Stmt} {err : S.Err → ε} {f : α → Call S ε β}

lemma each_stmt {Q : Except ε (S.Ans q) → S.Db → Prop} : (Call.stmt q err).Each A I Q db ↔
    ∀ e, A q e db → I q e db ∧
      Q ((S.answer q db e).1.mapError err) (S.view db (S.answer q db e).2) := by
  refine forall_congr' fun e => imp_congr_right fun _ => and_congr_right fun _ => ?_
  cases h : (S.answer q db e).1 with
  | ok a | error err => exact Iff.rfl

section
variable {R : Except ε α → S.Db → Prop} {Q : Except ε β → S.Db → Prop}

lemma Each.bind (hc : c.Each A I R db) (hok : ∀ a db, R (.ok a) db → (f a).Each A I Q db)
    (herr : ∀ e db, R (.error e) db → Q (.error e) db) : (c >>= f).Each A I Q db := by
  refine (each_bind f).mpr (hc.mono fun r db hr => ?_)
  cases r with
  | ok a => exact hok a db hr
  | error e => exact herr e db hr

lemma Each.attempt {f : Except ε α → Call S ε β} (hc : c.Each A I R db)
    (hf : ∀ r db, R r db → (f r).Each A I Q db) : (c.attempt f).Each A I Q db :=
  (each_attempt f).mpr (hc.mono hf)

end

/-- **A call each of whose statements keeps `K` keeps `K`.** -/
theorem Each.of_all {ok : S.Stmt → Prop} {K : S.Db → Prop} (hall : c.All ok)
    (h : ∀ q, ok q → ∀ e db, A q e db → K db →
      I q e db ∧ K (S.view db (S.answer q db e).2)) (hK : K db) :
    c.Each A I (fun _ db => K db) db := by
  unfold Call.Each
  induction c, hall using Prog.All.rule generalizing db with
  | ret r => exact hK
  | run q k hq _ ih => exact fun e he => ⟨(h q hq e db he hK).1, ih _ (h q hq e db he hK).2⟩

/-! ## calls that only read -/

/-- the state is the one before, and a value meets `P` -/
def Kept (db : S.Db) (P : α → Prop) (r : Except ε α) (db' : S.Db) : Prop :=
  db' = db ∧ ∀ a, r = .ok a → P a

lemma Each.kept_bind {P : α → Prop} (hc : c.Each A I (Kept db P) db)
    (hok : ∀ a, P a → (f a).Each A I Q db) (herr : ∀ e, Q (.error e) db) :
    (c >>= f).Each A I Q db := by
  refine hc.bind (fun a db' hr => ?_) fun e db' hr => ?_
  · rw [hr.1]
    exact hok a (hr.2 a rfl)
  · rw [hr.1]
    exact herr e

lemma each_stmt_kept {P : S.Ans q → Prop} (hq : ∀ e, (S.answer q db e).2 = []) (hI : ∀ e, I q e db)
    (hP : ∀ e a, (S.answer q db e).1 = .ok a → P a) :
    (Call.stmt q err).Each A I (Kept db P) db := by
  refine each_stmt.mpr fun e _ => ⟨hI e, ?_, fun a ha => hP e a ?_⟩
  · rw [hq e]
    rfl
  · cases hr : (S.answer q db e).1 with
    | ok b =>
      rw [hr] at ha
      cases ha
      rfl
    | error err' =>
      rw [hr] at ha
      cases ha

/-! ## some run -/

/-- some run of the call, among those that `A` allows, sends a statement that meets `P` -/
def MayIf (A P : S.Stmt → Event S → S.Db → Prop) (c : Call S ε α) (db : S.Db) : Prop :=
  ¬ c.Each A (fun q e db => ¬ P q e db) (fun _ _ => True) db

variable {P : S.Stmt → Event S → S.Db → Prop} {o : S.Stmt → Event S} {db' : S.Db}

lemma mayIf_stmt (e : Event S) (hA : A q e db) (h : P q e db) : (Call.stmt q err).MayIf A P db :=
  fun hc => (each_stmt.mp hc e hA).1 h

lemma MayIf.attempt {f : Except ε α → Call S ε β} (h : c.MayIf A P db) :
    (c.attempt f).MayIf A P db :=
  fun hc => h (((each_attempt f).mp hc).mono fun _ _ _ => trivial)

lemma MayIf.bind (h : c.MayIf A P db) : (c >>= f).MayIf A P db :=
  fun hc => h (((each_bind f).mp hc).mono fun _ _ _ => trivial)

/-- some run of the call sends a statement that meets `P` -/
def May (P : S.Stmt → Event S → S.Db → Prop) (c : Call S ε α) (db : S.Db) : Prop :=
  c.MayIf (fun _ _ _ => True) P db

lemma not_may_of_all {ok : S.Stmt → Prop} (hall : c.All ok) (h : ∀ q, ok q → ∀ e db, ¬ P q e db) :
    ¬ c.May P db := by
  refine not_not_intro ((Each.of_all (K := fun _ => True) hall (fun q hq e db _ _ => ?_) trivial))
  exact ⟨h q hq e db, trivial⟩

lemma may_stmt (e : Event S) (h : P q e db) : (Call.stmt q err).May P db :=
  mayIf_stmt e trivial h

lemma May.attempt {f : Except ε α → Call S ε β} (h : c.May P db) : (c.attempt f).May P db :=
  MayIf.attempt h

lemma May.bind (h : c.May P db) : (c >>= f).May P db := MayIf.bind h

lemma may_attempt {f : Except ε α → Call S ε β} {r : Except ε α} (hc : c.alone o db = (r, db'))
    (h : (f r).May P db') : (c.attempt f).May P db := by
  intro hall
  have hend := Prog.Each.alone (o := o) (fun _ _ => trivial) ((each_attempt f).mp hall)
  unfold Call.alone at hc
  rw [hc] at hend
  exact h hend

lemma may_bind {a : α} (hc : c.alone o db = (.ok a, db')) (h : (f a).May P db') :
    (c >>= f).May P db := may_attempt hc h

end Call

end

end Txn
