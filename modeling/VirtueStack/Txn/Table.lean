import Mathlib.Data.List.Pairwise

/-!
# Transactions: tables with unique indexes

A row occupies the index entries `keys a`: its primary key and one entry for each further unique
index it takes part in. No entry is occupied twice, which the table carries as a field.

* `find` the row at an index entry;
* `insert` appends a row; it is refused where an entry is taken, and `clash` names the entry;
* `filter` the rows that a delete leaves;
* `put` replaces the row with the same entries, which is what an update of other columns does.
-/

set_option linter.unusedSectionVars false

namespace Txn
open List

structure Table {α κ : Type} (keys : α → List κ) where
  rows : List α
  unique : rows.Pairwise fun a b => ∀ k ∈ keys a, k ∉ keys b

lemma length_le_one_of_pairwise {α : Type} {l : List α} (h : l.Pairwise fun _ _ => False) :
    l.length ≤ 1 := by
  match l, h with
  | [], _ => exact Nat.zero_le 1
  | [_], _ => exact Nat.le_refl 1
  | _ :: _ :: _, h => exact ((pairwise_cons.mp h).1 _ mem_cons_self).elim

namespace Table
variable {α κ : Type} [DecidableEq κ] {keys : α → List κ} {t : Table keys} {a b : α} {k : κ}

def empty : Table keys := ⟨[], List.Pairwise.nil⟩

def find (t : Table keys) (k : κ) : Option α := t.rows.find? fun a => decide (k ∈ keys a)

/-- the first entry of `a` that another row occupies -/
def clash (t : Table keys) (a : α) : Option κ := (keys a).find? fun k => (t.find k).isSome

lemma find_eq_none : t.find k = none ↔ ∀ a ∈ t.rows, k ∉ keys a := by
  unfold find
  rw [find?_eq_none]
  simp

lemma find_some (h : t.find k = some a) : a ∈ t.rows ∧ k ∈ keys a :=
  ⟨mem_of_find?_eq_some h, by simpa using find?_some h⟩

lemma eq_of_key (ha : a ∈ t.rows) (hb : b ∈ t.rows) (hk : k ∈ keys a) (hk' : k ∈ keys b) :
    a = b := by
  by_contra hne
  have : Std.Symm fun x y : α => ∀ k ∈ keys x, k ∉ keys y :=
    ⟨fun x y h k hy hx => h k hx hy⟩
  exact t.unique.forall ha hb hne k hk hk'

lemma length_filter_le_one {p : α → Bool} (h : ∀ a ∈ t.rows, p a = true → k ∈ keys a) :
    (t.rows.filter p).length ≤ 1 := by
  refine length_le_one_of_pairwise
    (List.Pairwise.imp_of_mem (fun {a b} ha hb hab => ?_) (t.unique.filter p))
  obtain ⟨ha, hpa⟩ := mem_filter.mp ha
  obtain ⟨hb, hpb⟩ := mem_filter.mp hb
  exact hab k (h a ha hpa) (h b hb hpb)

lemma nodup_map {β : Type} {f : α → β} (h : ∀ a b, f a = f b → ∃ k ∈ keys a, k ∈ keys b) :
    (t.rows.map f).Nodup := by
  refine pairwise_map.mpr (t.unique.imp fun {a b} hab he => ?_)
  obtain ⟨k, hk, hk'⟩ := h a b he
  exact hab k hk hk'

lemma find_eq_some : t.find k = some a ↔ a ∈ t.rows ∧ k ∈ keys a := by
  refine ⟨find_some, fun ⟨ha, hk⟩ => ?_⟩
  cases hf : t.find k with
  | none => exact absurd hk (find_eq_none.mp hf a ha)
  | some b =>
    obtain ⟨hb, hkb⟩ := find_some hf
    rw [eq_of_key hb ha hkb hk]

lemma clash_eq_none : t.clash a = none ↔ ∀ k ∈ keys a, t.find k = none := by
  unfold clash
  rw [find?_eq_none]
  simp

def insert (t : Table keys) (a : α) : Table keys :=
  if h : t.clash a = none then
    ⟨t.rows ++ [a], pairwise_append.mpr ⟨t.unique, pairwise_singleton _ _,
      fun b hb c hc k hk hk' => by
        rw [mem_singleton.mp hc] at hk'
        exact find_eq_none.mp (clash_eq_none.mp h k hk') b hb hk⟩⟩
  else t

lemma rows_insert (h : t.clash a = none) : (t.insert a).rows = t.rows ++ [a] := by
  unfold insert
  rw [dif_pos h]

lemma rows_prefix_insert (t : Table keys) (a : α) : t.rows <+: (t.insert a).rows := by
  by_cases h : t.clash a = none
  · rw [rows_insert h]; exact prefix_append _ _
  · have hself : t.insert a = t := dif_neg h
    exact hself.symm ▸ prefix_rfl

lemma find_insert (h : t.clash a = none) :
    (t.insert a).find k = if k ∈ keys a then some a else t.find k := by
  by_cases hk : k ∈ keys a
  · rw [if_pos hk, find_eq_some, rows_insert h]
    exact ⟨mem_append_right _ (mem_singleton_self a), hk⟩
  · rw [if_neg hk]
    unfold find
    rw [rows_insert h, find?_append]
    simp [hk]

lemma find_insert_of_notMem (hk : k ∉ keys a) : (t.insert a).find k = t.find k := by
  by_cases h : t.clash a = none
  · rw [find_insert h, if_neg hk]
  · unfold insert; rw [dif_neg h]

def filter (t : Table keys) (p : α → Bool) : Table keys := ⟨t.rows.filter p, t.unique.filter p⟩

/-- the row that stands in the place of `b` after `a` was put -/
def swap (keys : α → List κ) (a b : α) : α := if keys b = keys a then a else b

lemma keys_swap (keys : α → List κ) (a b : α) : keys (swap keys a b) = keys b := by
  unfold swap
  by_cases h : keys b = keys a
  · rw [if_pos h, h]
  · rw [if_neg h]

def put (t : Table keys) (a : α) : Table keys :=
  ⟨t.rows.map (swap keys a), pairwise_map.mpr (t.unique.imp fun h k hk hk' => by
    rw [keys_swap keys] at hk hk'
    exact h k hk hk')⟩

lemma find_put : (t.put a).find k = (t.find k).map (swap keys a) := by
  unfold find put
  rw [find?_map]
  congr 2
  funext b
  simp [keys_swap]

lemma find_put_self (h : t.find k = some b) (hk : keys b = keys a) : (t.put a).find k = some a := by
  rw [find_put, h]
  exact congrArg some (if_pos hk)

lemma find_put_of_notMem (hk : k ∉ keys a) : (t.put a).find k = t.find k := by
  rw [find_put]
  cases hf : t.find k with
  | none => rfl
  | some b =>
    have hb : keys b ≠ keys a := fun h => hk (h ▸ (find_some hf).2)
    exact congrArg some (if_neg hb)

/-- a row that is left in place is not at the entries of the row that was put -/
lemma eq_or_of_mem_rows_put (h : b ∈ (t.put a).rows) : b = a ∨ b ∈ t.rows ∧ keys b ≠ keys a := by
  obtain ⟨c, hc, rfl⟩ := mem_map.mp h
  unfold swap
  by_cases hk : keys c = keys a
  · rw [if_pos hk]
    exact .inl rfl
  · rw [if_neg hk]
    exact .inr ⟨hc, hk⟩

lemma mem_rows_put (h : b ∈ (t.put a).rows) :
    b = a ∨ b ∈ t.rows := (eq_or_of_mem_rows_put h).imp_right And.left

lemma map_rows_put {β : Type} {f : α → β} (h : ∀ b ∈ t.rows, keys b = keys a → f a = f b) :
    (t.put a).rows.map f = t.rows.map f := by
  show (t.rows.map (swap keys a)).map f = t.rows.map f
  rw [map_map]
  refine map_congr_left fun b hb => ?_
  by_cases hk : keys b = keys a
  · exact (congrArg f (if_pos hk)).trans (h b hb hk)
  · exact congrArg f (if_neg hk)

/-- a row is put in the place of the one with its keys -/
lemma rows_put_of_find (h : t.find k = some b) (hk : keys b = keys a) :
    ∃ before after, t.rows = before ++ b :: after ∧ (t.put a).rows = before ++ a :: after := by
  obtain ⟨hb, hkb⟩ := find_some h
  obtain ⟨before, after, hrows⟩ := append_of_mem hb
  refine ⟨before, after, hrows, ?_⟩
  have hunique := t.unique
  rw [hrows, pairwise_append, pairwise_cons] at hunique
  obtain ⟨-, ⟨hafter, -⟩, hbefore⟩ := hunique
  have hother : ∀ c, k ∉ keys c → swap keys a c = c := fun c hc => if_neg fun h =>
    hc (by rw [h, ← hk]; exact hkb)
  have hmap : ∀ l : List α, (∀ c ∈ l, k ∉ keys c) → l.map (swap keys a) = l := fun l hl =>
    (map_congr_left fun c hc => hother c (hl c hc)).trans (map_id l)
  show t.rows.map (swap keys a) = _
  rw [hrows, map_append, map_cons, hmap before fun c hc hkc =>
    hbefore c hc b mem_cons_self k hkc hkb, hmap after fun c hc => hafter c hc k hkb]
  exact congrArg (fun c => before ++ c :: after) (if_pos hk)

/-! ## one key -/

section
variable {f : α → κ} {t : Table fun a => [f a]}

lemma key_of_find (h : t.find k = some a) : f a = k := (mem_singleton.mp (find_some h).2).symm

lemma find_of_mem (h : a ∈ t.rows) : t.find (f a) = some a :=
  find_eq_some.mpr ⟨h, mem_singleton_self _⟩

variable (h : t.find (f a) = none)
include h

lemma clash_eq_none_of_find : t.clash a = none :=
  clash_eq_none.mpr fun k hk => by rwa [mem_singleton.mp hk]

lemma rows_insert_of_find : (t.insert a).rows = t.rows ++ [a] :=
  rows_insert (clash_eq_none_of_find h)

lemma find_insert_self : (t.insert a).find (f a) = some a :=
  (find_insert (clash_eq_none_of_find h)).trans (if_pos (mem_singleton_self _))

end

end Table

end Txn
