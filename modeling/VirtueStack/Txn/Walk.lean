import VirtueStack.Txn.Serial

/-!
# Transactions: the statements of a call, by rewriting

* `Call.AllTo c ok Q E` every statement that `c` can send is in `ok`, every value it can end with in
  `Q` and every error in `E`;
* `all_*`, `allTo_*` the rules for the parts of a call, as a simp set: `simp` walks a call, and what
  is left are facts about its statements. `allTo_true` turns what is asked of a called
  function into `All`, for which it has a lemma of its own.
-/

namespace Txn
open Call

variable {S : Store} {ε α β : Type}

def Prog.AllTo (p : Prog S α) (ok : S.Stmt → Prop) (Q : α → Prop) : Prop :=
  match p with
  | .ret a => Q a
  | .req (.run q) k => ok q ∧ ∀ a, (k a).AllTo ok Q
  | .req .begin _ => False
  | .req .commit _ => False
  | .req .rollback _ => False

lemma Prog.allTo_bind {ok : S.Stmt → Prop} {Q : β → Prop} (p : Prog S α) (f : α → Prog S β) :
    (p.bind f).AllTo ok Q ↔ p.AllTo ok fun a => (f a).AllTo ok Q := by
  induction p with
  | ret a => exact Iff.rfl
  | req r k ih =>
    cases r with
    | run q => exact and_congr_right fun _ => forall_congr' fun a => ih a
    | begin | commit | rollback => exact Iff.rfl

lemma Prog.allTo_true {ok : S.Stmt → Prop} (p : Prog S α) : p.AllTo ok (fun _ => True) ↔
    p.All ok := by
  induction p with
  | ret a => exact Iff.rfl
  | req r k ih =>
    cases r with
    | run q => exact and_congr_right fun _ => forall_congr' fun a => ih a
    | begin | commit | rollback => exact Iff.rfl

namespace Call
variable {ok : S.Stmt → Prop} {Q : β → Prop} {E : ε → Prop}

/-- the outcomes with a value in `Q` or an error in `E` -/
def Ends (Q : α → Prop) (E : ε → Prop) : Except ε α → Prop
  | .ok a => Q a
  | .error e => E e

@[simp] lemma elim_true (r : Option α) : r.elim True fun _ => True := by
  cases r <;> trivial

-- the call comes first, so that its statement is known before the types that depend on it are
-- compared
def AllTo (c : Call S ε α) (ok : S.Stmt → Prop) (Q : α → Prop) (E : ε → Prop) : Prop :=
  Prog.AllTo c ok (Ends Q E)

lemma forall_outcome {P : Except ε α → Prop} : (∀ r, P r) ↔
    (∀ a, P (.ok a)) ∧ ∀ e, P (.error e) := by
  refine ⟨fun h => ⟨fun a => h (.ok a), fun e => h (.error e)⟩, fun h r => ?_⟩
  cases r with
  | ok a => exact h.1 a
  | error e => exact h.2 e

lemma allTo_of_ends {R R' : Except ε α → Prop} (c : Call S ε α) (h : ∀ r, R r = R' r) :
    Prog.AllTo c ok R ↔ Prog.AllTo c ok R' := by rw [funext h]

@[simp] lemma allTo_true (c : Call S ε α) : c.AllTo ok (fun _ => True) (fun _ => True) ↔
    c.All ok := by
  refine (allTo_of_ends c fun r => ?_).trans (Prog.allTo_true c)
  cases r <;> rfl

@[simp] lemma allTo_pure (a : β) : (Call.pure a : Call S ε β).AllTo ok Q E ↔ Q a := Iff.rfl

@[simp] lemma allTo_fail (e : ε) : (Call.fail e : Call S ε β).AllTo ok Q E ↔ E e := Iff.rfl

@[simp] lemma allTo_attempt (c : Call S ε α) (f : Except ε α → Call S ε β) :
    (c.attempt f).AllTo ok Q E ↔
      c.AllTo ok (fun a => (f (.ok a)).AllTo ok Q E) fun e => (f (.error e)).AllTo ok Q E := by
  refine (Prog.allTo_bind _ _).trans (allTo_of_ends c fun r => ?_)
  cases r <;> rfl

@[simp] lemma allTo_bind (c : Call S ε α) (f : α → Call S ε β) :
    (c >>= f).AllTo ok Q E ↔ c.AllTo ok (fun a => (f a).AllTo ok Q E) E := allTo_attempt c _

@[simp] lemma allTo_stmt (q : S.Stmt) (err : S.Err → ε) (R : S.Ans q → Prop) :
    AllTo (α := no_index (S.Ans q)) (stmt q err) ok R E ↔ ok q ∧ (∀ a, R a) ∧ ∀ e, E (err e) :=
  and_congr_right fun _ => forall_outcome

@[simp] lemma allTo_ite (p : Prop) [Decidable p] (c d : Call S ε β) :
    AllTo (if p then c else d) ok Q E ↔ (p → c.AllTo ok Q E) ∧ (¬ p → d.AllTo ok Q E) := by
  by_cases h : p <;> simp [h]

@[simp] lemma all_pure (a : β) : (Call.pure a : Call S ε β).All ok := trivial

@[simp] lemma all_return (a : β) : (Pure.pure a : Call S ε β).All ok := trivial

@[simp] lemma all_fail (e : ε) : (Call.fail e : Call S ε β).All ok := trivial

@[simp] lemma all_attempt (c : Call S ε α) (f : Except ε α → Call S ε β) : (c.attempt f).All ok ↔
      c.AllTo ok (fun a => (f (.ok a)).All ok) fun e => (f (.error e)).All ok := by
  simp only [← allTo_true, allTo_attempt]

@[simp] lemma all_bind (c : Call S ε α) (f : α → Call S ε β) :
    (c >>= f).All ok ↔ c.AllTo ok (fun a => (f a).All ok) fun _ => True := all_attempt c _

@[simp] lemma all_stmt (q : S.Stmt) (err : S.Err → ε) :
    All (α := no_index (S.Ans q)) ok (stmt q err) ↔ ok q := ⟨fun h => h.1, All.stmt⟩

@[simp] lemma all_ite (p : Prop) [Decidable p] (c d : Call S ε β) :
    All ok (if p then c else d) ↔ (p → c.All ok) ∧ (¬ p → d.All ok) := by
  by_cases h : p <;> simp [h]

end Call

end Txn
