import VirtueStack.Net.Addr
import Mathlib.Tactic.FinCases

/-!
# Networks: addresses as text

The text forms of addresses and networks belong to the library and to the database; what programs
rely on is that what one of them writes the other reads back, and that the empty text is no network.

* `Text` the two text forms, with that law.
-/

namespace Net
open List

structure Text where
  ofAddr : Addr → String
  toAddr : String → Except String Addr
  /-- an IPv4 address is read in its form of sixteen bytes -/
  toNetwork : String → Except String Network
  toAddr_ofAddr : ∀ a, toAddr (ofAddr a) = .ok a
  toNetwork_ofAddr : ∀ a n, n ≤ 128 → toNetwork (ofAddr a ++ "/" ++ toString n) = .ok ⟨a, n⟩
  toNetwork_empty : ∀ n, toNetwork "" ≠ .ok n

namespace Text

def ofNetwork (T : Text) (n : Network) : String := T.ofAddr n.addr ++ "/" ++ toString n.bits

lemma toNetwork_ofNetwork (T : Text) {n : Network} (h : n.bits ≤ 128) :
    T.toNetwork (T.ofNetwork n) = .ok n :=
  T.toNetwork_ofAddr n.addr n.bits h

/-! ## hexadecimal digits -/

def hexDigits : List Char := "0123456789abcdef".toList

/-- the two digits of a byte -/
def hex (b : BitVec 8) : List Char :=
  [hexDigits.getD (b.toNat / 16) '0', hexDigits.getD (b.toNat % 16) '0']

/-- the byte whose digits are at a place -/
def byteAt (l : List Char) (k : Nat) : BitVec 8 :=
  BitVec.ofNat 8 (16 * hexDigits.idxOf (l.getD k '0') + hexDigits.idxOf (l.getD (k + 1) '0'))

lemma idxOf_hexDigits : ∀ d < 16, hexDigits.idxOf (hexDigits.getD d '0') = d := by decide

lemma byteAt_hex (b : BitVec 8) : byteAt (hex b) 0 = b := by
  have hb := b.isLt
  show BitVec.ofNat 8 (16 * hexDigits.idxOf (hexDigits.getD (b.toNat / 16) '0') +
    hexDigits.idxOf (hexDigits.getD (b.toNat % 16) '0')) = b
  rw [idxOf_hexDigits _ (by omega), idxOf_hexDigits _ (by omega), Nat.div_add_mod,
    BitVec.ofNat_toNat, BitVec.setWidth_eq]

/-- two bytes in each of eight groups -/
def groups (a : Addr) : List Char :=
  (List.finRange 16).flatMap fun k => hex (a k) ++ if k.val % 2 = 1 ∧ k.val < 15 then [':'] else []

def ungroup (l : List Char) : Addr := fun k => byteAt l (5 * (k.val / 2) + 2 * (k.val % 2))

lemma length_groups (a : Addr) : (groups a).length = 39 := rfl

lemma ungroup_groups (a : Addr) (rest : List Char) : ungroup (groups a ++ rest) = a := by
  funext k
  fin_cases k <;> exact byteAt_hex (a _)

/-- the length behind the slash -/
def length? (rest : List Char) : Option Nat :=
  (List.range 129).find? fun n => '/' :: (toString n).toList = rest

variable {n : Nat}

lemma digits_inj {n' : Nat} (h : (toString n).toList = (toString n').toList) : n = n' := by
  have hdigits : ∀ k : Nat, Nat.ofDigitChars 10 (toString k).toList 0 = k := by
    intro k
    show Nat.ofDigitChars 10 (String.ofList (Nat.toDigits 10 k)).toList 0 = k
    rw [String.toList_ofList, Nat.ofDigitChars_toDigits (by decide) (by decide)]
  rw [← hdigits n, h, hdigits n']

lemma length?_toString (h : n ≤ 128) : length? ('/' :: (toString n).toList) = some n := by
  unfold length?
  rw [find?_range_eq_some]
  refine ⟨by simp, mem_range.mpr (by omega), fun j hj => ?_⟩
  have hne : (toString j).toList ≠ (toString n).toList := fun he =>
    absurd (digits_inj he) (Nat.ne_of_lt hj)
  simpa using hne

def plainAddr (l : List Char) : Except String Addr :=
  if groups (ungroup l) = l then .ok (ungroup l) else .error "no address"

def plainNetwork (l : List Char) : Except String Network :=
  match length? (l.drop 39) with
  | some n => (plainAddr (l.take 39)).map fun a => ⟨a, n⟩
  | none => .error "no '/'"

lemma plainAddr_groups (a : Addr) : plainAddr (groups a) = .ok a := by
  have hread : ungroup (groups a) = a := by
    rw [← append_nil (groups a), ungroup_groups]
  unfold plainAddr
  rw [hread, if_pos rfl]

lemma plainNetwork_groups (a : Addr) (h : n ≤ 128) :
    plainNetwork (groups a ++ '/' :: (toString n).toList) = .ok ⟨a, n⟩ := by
  unfold plainNetwork
  rw [← length_groups a, drop_left, take_left, length?_toString h, plainAddr_groups]
  rfl

/-- addresses in full, without `::` -/
def plain : Text where
  ofAddr a := String.ofList (groups a)
  toAddr s := plainAddr s.toList
  toNetwork s := plainNetwork s.toList
  toAddr_ofAddr a := by rw [String.toList_ofList, plainAddr_groups]
  toNetwork_ofAddr a n h := by
    rw [String.toList_append, String.toList_append, String.toList_ofList, append_assoc]
    exact plainNetwork_groups a h
  toNetwork_empty n h := by cases h

end Text

end Net
