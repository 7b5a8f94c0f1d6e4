import Mathlib.Data.List.Basic
import Mathlib.Order.Lattice

/-!
# Reading a list page by page

A list is read in pages of `p` rows. The cursor of the next page is the id of the last row read, and
a page starts at the first row whose id is below the cursor. Nothing says that the ids and the list
are in the same order.

* `Separates` the id of the last row of `a` is above those of `b` and below those of `a`;
* `Aligned p L` every page boundary of `L` separates.
-/

set_option linter.unusedSectionVars false

namespace Paging
open List Option

section
variable {α κ : Type} [LinearOrder κ] (id : α → κ)

/-- the rows below the cursor; without one, all of them -/
def after (L : List α) : Option κ → List α
  | none => L
  | some c => L.filter fun a => id a < c

/-- the cursor of the next page, when there is one -/
def next (p : Nat) (rest : List α) : Option κ :=
  if p < rest.length then (rest.take p).getLast?.map id else none

/-- the pages from the cursor on, `none` if there are more than the fuel -/
def walk (p : Nat) (L : List α) : Nat → Option κ → Option (List α)
  | 0, _ => none
  | fuel + 1, c =>
    match next id p (after id L c) with
    | none => some (after id L c)
    | some c' => (walk p L fuel (some c')).map ((after id L c).take p ++ ·)

variable {c : Option κ} {fuel k : Nat}

lemma walk_none {p : Nat} {L : List α} (fuel : Nat)
    (h : next id p (after id L c) = none) : walk id p L (fuel + 1) c = some (after id L c) := by
  unfold walk
  rw [h]

lemma walk_some {p : Nat} {L : List α} {c' : κ} (fuel : Nat)
    (h : next id p (after id L c) = some c') : walk id p L (fuel + 1) c =
      (walk id p L fuel (some c')).map ((after id L c).take p ++ ·) := by
  show (match next id p (after id L c) with
    | none => some (after id L c)
    | some c' => (walk id p L fuel (some c')).map ((after id L c).take p ++ ·)) = _
  rw [h]

def Separates (a b : List α) : Prop :=
  ∀ x, a.getLast? = some x → (∀ y ∈ a, id x ≤ id y) ∧ ∀ y ∈ b, id y < id x

def Aligned (p : Nat) (L : List α) : Prop :=
  ∀ k, p * k < L.length → Separates id (L.take (p * k)) (L.drop (p * k))

variable {id} {p : Nat} {L : List α}

lemma next_eq_none {rest : List α} (hp : 0 < p) : next id p rest = none ↔ rest.length ≤ p := by
  unfold next
  by_cases h : p < rest.length
  · rw [if_pos h, map_eq_none_iff, getLast?_eq_none_iff, take_eq_nil_iff]
    constructor
    · rintro (h' | rfl)
      · omega
      · simp at h
    · intro h'
      omega
  · rw [if_neg h]
    exact ⟨fun _ => Nat.le_of_not_lt h, fun _ => rfl⟩

lemma next_eq_some {rest : List α} {c : κ} (h : next id p rest = some c) :
    p < rest.length ∧ ∃ x, (rest.take p).getLast? = some x ∧ id x = c := by
  unfold next at h
  by_cases hl : p < rest.length
  · rw [if_pos hl] at h
    exact ⟨hl, map_eq_some_iff.mp h⟩
  · rw [if_neg hl] at h
    cases h

lemma mem_after {c : κ} {a : α} : a ∈ after id L (some c) ↔ a ∈ L ∧ id a < c := by
  unfold after
  rw [mem_filter, decide_eq_true_iff]

/-- after the last row of `a`, exactly the rows of `b` are left -/
lemma Separates.after {a b : List α} {x : α} (h : Separates id a b) (hx : a.getLast? = some x) :
    after id (a ++ b) (some (id x)) = b := by
  obtain ⟨ha, hb⟩ := h x hx
  show (a ++ b).filter (fun y => decide (id y < id x)) = b
  rw [filter_append, filter_eq_nil_iff.mpr, filter_eq_self.mpr, nil_append]
  · exact fun y hy => decide_eq_true (hb y hy)
  · intro y hy hlt
    exact absurd (of_decide_eq_true hlt) (not_lt.mpr (ha y hy))

lemma head_after {a b : List α} {c : κ} {y : α} (hy : y ∈ a) (hlt : id y < c) :
    ∃ z ∈ a, (after id (a ++ b) (some c)).head? = some z := by
  show ∃ z ∈ a, ((a ++ b).filter fun x => decide (id x < c)).head? = some z
  rw [filter_append]
  cases hf : a.filter fun x => decide (id x < c) with
  | nil => exact absurd (decide_eq_true hlt) (filter_eq_nil_iff.mp hf y hy)
  | cons z l =>
    have hz : z ∈ a.filter fun x => decide (id x < c) := hf ▸ mem_cons_self
    exact ⟨z, (mem_filter.mp hz).1, rfl⟩

lemma walk_mem {c : κ} {out : List α} (h : walk id p L fuel (some c) = some out) :
    ∀ a ∈ out, id a < c := by
  induction fuel generalizing c out with
  | zero => cases h
  | succ fuel ih =>
    unfold walk at h
    split at h
    · cases h
      exact fun a ha => (mem_after.mp ha).2
    · rename_i c' hnext
      obtain ⟨out', hw, rfl⟩ := map_eq_some_iff.mp h
      obtain ⟨-, x, hx, rfl⟩ := next_eq_some hnext
      have hlt : id x < c :=
        (mem_after.mp (mem_of_mem_take (mem_of_getLast? hx))).2
      intro a ha
      rcases mem_append.mp ha with ha | ha
      · exact (mem_after.mp (mem_of_mem_take ha)).2
      · exact lt_trans (ih hw a ha) hlt

lemma walk_head {out : List α} (hp : 0 < p) (h : walk id p L fuel c = some out) :
    out.head? = (after id L c).head? := by
  cases fuel with
  | zero => cases h
  | succ fuel =>
    unfold walk at h
    split at h
    · cases h
      rfl
    · rename_i c' hnext
      obtain ⟨out', -, rfl⟩ := map_eq_some_iff.mp h
      obtain ⟨hl, -⟩ := next_eq_some hnext
      obtain ⟨p, rfl⟩ := Nat.exists_eq_add_of_lt hp
      cases hrest : after id L c with
      | nil => rw [hrest] at hl; simp at hl
      | cons a rest => simp

/-! ## the pages make up the list -/

lemma getLast?_take {x : α} (hx : ((L.drop (p * k)).take p).getLast? = some x) :
    (L.take (p * (k + 1))).getLast? = some x := by
  rw [Nat.mul_succ, take_add, getLast?_append, hx]
  rfl

lemma walk_of_aligned (hp : 0 < p) (hA : Aligned id p L)
    (hc : after id L c = L.drop (p * k)) (hf : (L.drop (p * k)).length < fuel) :
    walk id p L fuel c = some (L.drop (p * k)) := by
  induction fuel generalizing k c with
  | zero => exact absurd hf (Nat.not_lt_zero _)
  | succ fuel ih =>
    unfold walk
    rw [hc]
    split
    · rfl
    · rename_i c' hnext
      obtain ⟨hl, x, hx, rfl⟩ := next_eq_some hnext
      have hlen : p * (k + 1) < L.length := by
        rw [length_drop] at hl
        rw [Nat.mul_succ]
        omega
      have hdrop : L.drop (p * (k + 1)) = (L.drop (p * k)).drop p := by
        rw [drop_drop, Nat.mul_succ]
      have hafter : after id L (some (id x)) = L.drop (p * (k + 1)) := by
        have := (hA (k + 1) hlen).after (getLast?_take hx)
        rwa [take_append_drop] at this
      rw [ih hafter, hdrop]
      · exact congrArg some (take_append_drop p _)
      · rw [hdrop, length_drop]
        omega

lemma aligned_of_walk (hp : 0 < p) (hL : L.Nodup)
    (hc : after id L c = L.drop (p * k)) (h : walk id p L fuel c = some (L.drop (p * k))) :
    ∀ j, k < j → p * j < L.length → Separates id (L.take (p * j)) (L.drop (p * j)) := by
  induction fuel generalizing k c with
  | zero => cases h
  | succ fuel ih =>
    intro j hkj hj
    have hmul : p * (k + 1) ≤ p * j := Nat.mul_le_mul_left p hkj
    unfold walk at h
    rw [hc] at h
    split at h
    · rename_i hnext
      have hl := (next_eq_none hp).mp hnext
      rw [length_drop] at hl
      rw [Nat.mul_succ] at hmul
      omega
    · rename_i c' hnext
      obtain ⟨-, x, hx, rfl⟩ := next_eq_some hnext
      obtain ⟨out, hw, hout⟩ := map_eq_some_iff.mp h
      -- the rows that follow are those of the rest of the walk
      obtain rfl : out = L.drop (p * (k + 1)) := by
        have hsplit := hout.trans (take_append_drop p (L.drop (p * k))).symm
        rw [Nat.mul_succ, ← drop_drop]
        exact append_cancel_left hsplit
      have hlast := getLast?_take hx
      -- a row above the boundary would be read again, as the first row of the next page
      have hge : ∀ y ∈ L.take (p * (k + 1)), id x ≤ id y := by
        intro y hy
        by_contra hlt
        obtain ⟨z, hz, hhead⟩ := head_after (b := L.drop (p * (k + 1))) hy (not_le.mp hlt)
        rw [take_append_drop, ← walk_head hp hw] at hhead
        exact disjoint_take_drop hL (Nat.le_refl _) hz (mem_of_head? hhead)
      have hsep : Separates id (L.take (p * (k + 1))) (L.drop (p * (k + 1))) := by
        intro x' hx'
        obtain rfl : x = x' := mem_unique hlast hx'
        exact ⟨hge, walk_mem hw⟩
      have hafter : after id L (some (id x)) = L.drop (p * (k + 1)) := by
        have := hsep.after hlast
        rwa [take_append_drop] at this
      rcases Nat.lt_or_ge (k + 1) j with hlt | hge'
      · exact ih hafter hw j hlt hj
      · obtain rfl : j = k + 1 := Nat.le_antisymm hge' hkj
        exact hsep

/-- **The pages make up the list exactly when every page boundary separates.** -/
theorem walk_eq_iff (hp : 0 < p) (hL : L.Nodup) : walk id p L (L.length + 1) none = some L ↔
    Aligned id p L := by
  have h0 : after id L none = L.drop (p * 0) := rfl
  constructor
  · intro h k hk
    cases k with
    | zero => exact fun x hx => by cases hx
    | succ k => exact aligned_of_walk hp hL h0 h (k + 1) (Nat.succ_pos k) hk
  · exact fun hA => walk_of_aligned hp hA h0 (Nat.lt_succ_self _)

end

end Paging
