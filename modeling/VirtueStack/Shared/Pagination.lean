import VirtueStack.Shared.Errors
import Mathlib.Data.List.Sort
import Mathlib.Data.String.Basic

/-!
# Cursors (models/base.go) and the queries that use them

A cursor travels as base64 of JSON. Here it is taken in decoded form; the empty cursor stands for
no cursor and for one that cannot be decoded. Ids are UUIDs in their text form, in which the order
of the texts is that of the UUIDs.

* `newestFirst` `ORDER BY created_at DESC, id DESC`;
* `trimPage` the page, and whether there is more.
-/

namespace VirtueStack
open List

structure CursorPagination where
  lastID : String
  direction : String
  deriving DecidableEq, Repr

def CursorPagination.empty : CursorPagination := ⟨"", ""⟩

def encodeCursor (lastID direction : String) : CursorPagination := ⟨lastID, direction⟩

structure PaginationParams where
  perPage : Nat
  cursor : CursorPagination

structure PaginationMeta where
  perPage : Nat
  hasMore : Bool
  nextCursor : CursorPagination

def newCursorPaginationMeta (perPage : Nat) (hasMore : Bool) (lastID : String) :
    PaginationMeta where
  perPage := perPage
  hasMore := hasMore
  nextCursor := if hasMore ∧ lastID ≠ "" then encodeCursor lastID "next" else .empty

section
variable {α : Type} (id : α → String) (createdAt : α → Int)

def Newer (a b : α) : Prop := createdAt b < createdAt a ∨ createdAt b = createdAt a ∧ id b ≤ id a

instance : DecidableRel (Newer id createdAt) := fun _ _ => inferInstanceAs (Decidable (_ ∨ _))

def newestFirst (rows : List α) : List α := rows.insertionSort (Newer id createdAt)

/-- the rows after the cursor, at most one more than `perPage` -/
def selectPage (perPage : Nat) (cp : CursorPagination) (rows : List α) : List α :=
  (newestFirst id createdAt (rows.filter fun a => cp.lastID = "" ∨ id a < cp.lastID)).take
    (perPage + 1)

end

def trimPage {α : Type} (perPage : Nat) (rows : List α) : List α × Bool :=
  if perPage < rows.length then (rows.take perPage, true) else (rows, false)

/-! ## the order of a query -/

section
variable {α : Type} {id : α → String} {createdAt : α → Int}

instance : Std.Total (Newer id createdAt) := ⟨fun a b => by
  unfold Newer
  rcases lt_trichotomy (createdAt a) (createdAt b) with h | h | h
  · exact .inr (.inl h)
  · rcases le_total (id a) (id b) with h' | h'
    · exact .inr (.inr ⟨h, h'⟩)
    · exact .inl (.inr ⟨h.symm, h'⟩)
  · exact .inl (.inl h)⟩

instance : IsTrans α (Newer id createdAt) := ⟨fun a b c hab hbc => by
  unfold Newer at *
  rcases hab with h | ⟨h, h'⟩ <;> rcases hbc with h₁ | ⟨h₁, h₁'⟩
  · exact .inl (h₁.trans h)
  · exact .inl (h₁ ▸ h)
  · exact .inl (h ▸ h₁)
  · exact .inr ⟨h₁.trans h, h₁'.trans h'⟩⟩

lemma newestFirst_perm (rows : List α) : (newestFirst id createdAt rows).Perm rows :=
  perm_insertionSort _ _

lemma newestFirst_pairwise (rows : List α) :
    (newestFirst id createdAt rows).Pairwise (Newer id createdAt) :=
  pairwise_insertionSort _ _

lemma Newer.id_eq {a b : α} (hab : Newer id createdAt a b) (hba : Newer id createdAt b a) :
    id a = id b := by
  rcases hab with h | ⟨h, h'⟩ <;> rcases hba with h₁ | ⟨h₁, h₁'⟩
  · omega
  · omega
  · omega
  · exact le_antisymm h₁' h'

/-- the order of the query does not depend on which rows the cursor leaves out -/
lemma newestFirst_filter {rows : List α} (hid : (rows.map id).Nodup) (p : α → Bool) :
    newestFirst id createdAt (rows.filter p) = (newestFirst id createdAt rows).filter p := by
  have hperm : (newestFirst id createdAt (rows.filter p)).Perm
    ((newestFirst id createdAt rows).filter p) :=
    (newestFirst_perm _).trans ((newestFirst_perm rows).symm.filter p)
  refine hperm.eq_of_pairwise (fun a b ha hb (hab : Newer id createdAt a b) hba => ?_)
    (newestFirst_pairwise _) ((newestFirst_pairwise rows).filter p)
  have ha' := (mem_filter.mp ((newestFirst_perm _).mem_iff.mp ha)).1
  have hb' := (newestFirst_perm rows).mem_iff.mp (mem_filter.mp hb).1
  exact inj_on_of_nodup_map hid ha' hb' (hab.id_eq hba)

end

end VirtueStack
