import Mathlib.Logic.Function.Basic

/-!
# Calls that take their steps in turn

`next` says what call `i` does where it stands; the list of a run names the call that goes on, and
what it meets.
-/

namespace Steps

/-- what the calls share, and how far each of them is -/
structure State (ι σ π : Type) where
  shared : σ
  position : ι → π

variable {ι σ π ε : Type} [DecidableEq ι] (next : ι → ε → σ → π → σ × π)

def State.step (s : State ι σ π) (e : ι × ε) : State ι σ π :=
  let r := next e.1 e.2 s.shared (s.position e.1)
  ⟨r.1, Function.update s.position e.1 r.2⟩

def State.run (s : State ι σ π) (es : List (ι × ε)) : State ι σ π :=
  es.foldl (State.step next) s

/-- each step of the run is `ok` in the state in which it is taken -/
def Meets (ok : State ι σ π → ι × ε → Prop) : State ι σ π → List (ι × ε) → Prop
  | _, [] => True
  | s, e :: es => ok s e ∧ Meets ok (s.step next e) es

variable {next} {ok : State ι σ π → ι × ε → Prop}

instance Meets.decidable [∀ s e, Decidable (ok s e)] :
    (s : State ι σ π) → (es : List (ι × ε)) → Decidable (Meets next ok s es)
  | _, [] => .isTrue trivial
  | s, e :: es =>
    have := Meets.decidable (s.step next e) es
    inferInstanceAs (Decidable (ok s e ∧ Meets next ok (s.step next e) es))

/-- **What each such step keeps, a whole run keeps.** -/
theorem Meets.keeps {I : State ι σ π → Prop} (hI : ∀ s e, I s → ok s e → I (s.step next e))
    {s : State ι σ π} {es : List (ι × ε)} (hm : Meets next ok s es) (hs : I s) :
    I (s.run next es) := by
  induction es generalizing s with
  | nil => exact hs
  | cons e es ih => exact ih hm.2 (hI s e hs hm.1)

end Steps
