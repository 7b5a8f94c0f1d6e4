import VirtueStack.Txn.Each

/-!
# Transactions: runs on a schedule

`Reaches` restricts a run by what a request finds. Here the restriction is on who moves when: the
condition `turn` sees how far every session is.

* `Prog.next` the statement a session is about to send;
* `Prog.Runs.step` a move of a session that opens no transaction.
-/

namespace Txn

section
variable {S : Store} {ι ρ : Type} [DecidableEq ι] {turn : State S ι ρ → ι → Label S → Prop}
  {s s' : State S ι ρ}

section
variable (turn : State S ι ρ → ι → Label S → Prop)

/-- one move of a session whose turn it is -/
def StepOn (s s' : State S ι ρ) : Prop :=
  ∃ i a, turn s i a ∧ step s i a = some s'

def ReachesOn : State S ι ρ → State S ι ρ → Prop :=
  Relation.ReflTransGen (StepOn turn)

end

def Prog.next {α : Type} : Option (Prog S α) → Option S.Stmt
  | some (.req (.run q) _) => some q
  | _ => none

/-- no request of the program is about a transaction -/
def Prog.Runs {α : Type} (p : Prog S α) : Prop := ∀ r k, p = .req r k → ∃ q, r = .run q

lemma Prog.Each.runs {A I : S.Stmt → Event S → S.Db → Prop} {Q : ρ → S.Db → Prop}
    {p : Prog S ρ} {db : S.Db} (hp : p.Each A I Q db) : p.Runs := by
  rintro r k rfl
  cases r with
  | run q => exact ⟨q, rfl⟩
  | begin | commit | rollback => exact hp.elim

/-- **A move of one session**: the others are where they were. -/
lemma Prog.Runs.step {i : ι} {a : Label S} {p : Prog S ρ} (hp : p.Runs) (hi : s.prog i = some p)
    (hidle : ∀ j, s.loc j = .idle) (hs : step s i a = some s') : ∃ q k, p = .req (.run q) k ∧
      (∀ j, s'.loc j = .idle) ∧ (∀ j, j ≠ i → s'.prog j = s.prog j) ∧
      ((∃ e, a = .ev e ∧ s'.prog i = some (k (S.answer q s.mem.db e).1) ∧
        s'.mem.db = S.view s.mem.db (S.answer q s.mem.db e).2) ∨
      a = .crash ∧ s'.prog i = none ∧ s'.mem = s.mem) := by
  have hloc : ∀ l, l = .idle → ∀ j, Function.update s.loc i l j = .idle := by
    rintro l rfl j
    by_cases hj : j = i
    · subst hj
      exact Function.update_self ..
    · exact (Function.update_of_ne hj _ _).trans (hidle j)
  have hother : ∀ c j, j ≠ i → Function.update s.prog i c j = s.prog j :=
    fun _ _ hj => Function.update_of_ne hj _ _
  cases a with
  | crash =>
    obtain ⟨r, k, hr, rfl⟩ := step_crash hs
    obtain rfl := Option.some.inj (hi.symm.trans hr)
    obtain ⟨q, rfl⟩ := hp r k rfl
    exact ⟨q, k, rfl, hloc _ rfl, hother _, .inr ⟨rfl, Function.update_self .., rfl⟩⟩
  | ev e =>
    obtain ⟨r, k, o, hr, ho, -, rfl⟩ := step_ev hs
    obtain rfl := Option.some.inj (hi.symm.trans hr)
    obtain ⟨q, rfl⟩ := hp r k rfl
    obtain ⟨need, hneed⟩ := exec_run_idle q e s.mem.db
    rw [hidle i] at ho
    cases hneed.symm.trans ho
    exact ⟨q, k, rfl, hloc _ rfl, hother _,
      .inl ⟨e, rfl, Function.update_self .., Mem.publish_db ..⟩⟩

/-- **The invariant rule.** -/
theorem ReachesOn.keeps {I : State S ι ρ → Prop}
    (hI : ∀ s s' i a, I s → turn s i a → step s i a = some s' → I s')
    (h : ReachesOn turn s s') (hs : I s) : I s' := by
  induction h with
  | refl => exact hs
  | tail _ hstep ih =>
    obtain ⟨i, a, hturn, hstep⟩ := hstep
    exact hI _ _ i a ih hturn hstep

/-- every move of the list is made by a session whose turn it is -/
def scheduled (turn : State S ι ρ → ι → Label S → Prop) [∀ s i a, Decidable (turn s i a)]
    (s : State S ι ρ) : List (ι × Label S) → Bool
  | [] => true
  | a :: as => decide (turn s a.1 a.2) && (step s a.1 a.2).all fun s' => scheduled turn s' as

lemma reachesOn_scheduled [∀ s i a, Decidable (turn s i a)] {as : List (ι × Label S)}
    (h : run s as = some s') (hc : scheduled turn s as = true) : ReachesOn turn s s' := by
  induction as generalizing s with
  | nil =>
    cases h
    exact Relation.ReflTransGen.refl
  | cons a as ih =>
    obtain ⟨s₁, h1, h2⟩ := Option.bind_eq_some_iff.mp h
    obtain ⟨hd, ht⟩ := Bool.and_eq_true_iff.mp hc
    refine Relation.ReflTransGen.head ⟨a.1, a.2, of_decide_eq_true hd, h1⟩ (ih h2 ?_)
    rw [h1] at ht
    exact ht

end

end Txn
