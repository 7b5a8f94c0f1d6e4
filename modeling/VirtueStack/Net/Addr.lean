import Mathlib.Data.Fintype.Pi
import Mathlib.Logic.Function.Basic
import Mathlib.Tactic.Ring

/-!
# Networks: IPv6 addresses and prefixes

An address is its sixteen bytes, and bit 0 is the first bit of the first byte.

* `Network` an address and the number of bits that belong to the network;
* `Mem` an address is in a network if it agrees with it on those bits;
* `put16` a number in two bytes, the higher one first; `get16` reads it back;
* `sub64` the subnets of length 64 of a network of length 48, by their number; `first` is the
  address ::1 of a network.

Networks are compared byte by byte: `disjoint_of_byte_ne` and `within_of_bytes`.
-/

namespace Net
open Function

/-- there is a first byte -/
instance sixteen_ne_zero : NeZero 16 := ⟨by decide⟩

/-- `[16]byte` -/
abbrev Addr : Type := Fin 16 → BitVec 8

/-- the bits of an address, the first byte first -/
def Addr.bit (a : Addr) (i : Nat) : Bool :=
  if h : i / 8 < 16 then (a ⟨i / 8, h⟩).getMsbD (i % 8) else false

structure Network where
  addr : Addr
  bits : Nat
  deriving DecidableEq

namespace Network
variable {n n' : Network}

def Mem (n : Network) (a : Addr) : Prop := ∀ i < n.bits, a.bit i = n.addr.bit i

def Disjoint (n n' : Network) : Prop := ∀ a, n.Mem a → ¬ n'.Mem a

def Within (n n' : Network) : Prop := ∀ a, n.Mem a → n'.Mem a

/-- the bits that do not belong to the network are zero -/
def HostBitsZero (n : Network) : Prop := ∀ i < 128, n.bits ≤ i → n.addr.bit i = false

instance : Decidable n.HostBitsZero :=
  inferInstanceAs (Decidable (∀ i < 128, n.bits ≤ i → n.addr.bit i = false))

lemma mem_self (n : Network) : n.Mem n.addr := fun _ _ => rfl

lemma Disjoint.symm (h : n.Disjoint n') : n'.Disjoint n := fun a ha ha' => h a ha' ha

end Network

/-! ## bits and bytes -/

variable {a b : Addr} {k : Fin 16}

lemma bit_of_byte {i : Nat} (h : i / 8 < 16) (hb : a ⟨i / 8, h⟩ = b ⟨i / 8, h⟩) :
    a.bit i = b.bit i := by
  unfold Addr.bit
  rw [dif_pos h, dif_pos h, hb]

lemma bit_mul_add (a : Addr) (k : Fin 16) {t : Nat} (ht : t < 8) :
    a.bit (8 * k.val + t) = (a k).getMsbD t := by
  have hdiv : (8 * k.val + t) / 8 = k.val := by omega
  have hmod : (8 * k.val + t) % 8 = t := by omega
  have hk : (8 * k.val + t) / 8 < 16 := by omega
  have hsame : (⟨(8 * k.val + t) / 8, hk⟩ : Fin 16) = k := Fin.ext hdiv
  unfold Addr.bit
  rw [dif_pos hk, hsame, hmod]

lemma exists_bit_ne (h : a k ≠ b k) : ∃ t < 8, a.bit (8 * k.val + t) ≠ b.bit (8 * k.val + t) := by
  by_contra hall
  refine h (BitVec.eq_of_getMsbD_eq fun t ht => ?_)
  by_contra hne
  refine hall ⟨t, ht, ?_⟩
  rw [bit_mul_add a k ht, bit_mul_add b k ht]
  exact hne

namespace Network
variable {n n' : Network}

lemma disjoint_of_byte_ne (h : n.addr k ≠ n'.addr k) (hk : 8 * k.val + 8 ≤ n.bits)
    (hk' : 8 * k.val + 8 ≤ n'.bits) : n.Disjoint n' := by
  obtain ⟨t, ht, hne⟩ := exists_bit_ne h
  intro a ha ha'
  refine hne ?_
  rw [← ha (8 * k.val + t) (by omega), ← ha' (8 * k.val + t) (by omega)]

lemma within_of_bytes (hbits : n'.bits ≤ n.bits)
    (h : ∀ k : Fin 16, 8 * k.val < n'.bits → n.addr k = n'.addr k) : n.Within n' := by
  intro a ha i hi
  rw [ha i (Nat.lt_of_lt_of_le hi hbits)]
  by_cases hlt : i / 8 < 16
  · exact bit_of_byte hlt (h ⟨i / 8, hlt⟩ (by show 8 * (i / 8) < n'.bits; omega))
  · unfold Addr.bit
    rw [dif_neg hlt, dif_neg hlt]

end Network

/-! ## a number in two bytes -/

/-- the lowest eight bits -/
def byte (m : Nat) : BitVec 8 := BitVec.ofNat 8 m

/-- the number `m` in the bytes `k` and `l` -/
def Addr.put16 (a : Addr) (k l : Fin 16) (m : Nat) : Addr :=
  update (update a k (byte (m >>> 8))) l (byte m)

/-- the number in the bytes `k` and `l` -/
def Addr.get16 (a : Addr) (k l : Fin 16) : Nat := (a k).toNat * 256 + (a l).toNat

section
variable {l : Fin 16} {m m' : Nat}

lemma put16_of_ne {j : Fin 16} (hk : j ≠ k) (hl : j ≠ l) : a.put16 k l m j = a j := by
  unfold Addr.put16
  rw [update_of_ne hl, update_of_ne hk]

/-- **What was put is read back.** -/
theorem get16_put16 (hkl : k ≠ l) (hm : m < 65536) : (a.put16 k l m).get16 k l = m := by
  unfold Addr.get16 Addr.put16
  rw [update_self, update_of_ne hkl, update_self]
  unfold byte
  rw [BitVec.toNat_ofNat, BitVec.toNat_ofNat, Nat.shiftRight_eq_div_pow]
  omega

lemma put16_byte_ne (hkl : k ≠ l) (hm : m < 65536) (hm' : m' < 65536) (h : m ≠ m') :
    a.put16 k l m k ≠ b.put16 k l m' k ∨ a.put16 k l m l ≠ b.put16 k l m' l := by
  by_contra hnot
  push Not at hnot
  refine h ?_
  rw [← get16_put16 (a := a) hkl hm, ← get16_put16 (a := b) hkl hm']
  unfold Addr.get16
  rw [hnot.1, hnot.2]

end

/-! ## subnets of length 64 -/

namespace Network
variable {n n' : Network} {m m' : Nat}

/-- the subnet `m`: the number stands in the bits 48 to 63 -/
def sub64 (n : Network) (m : Nat) : Network := ⟨n.addr.put16 6 7 m, 64⟩

def first (n : Network) : Addr := update n.addr 15 1

lemma sub64_index (hm : m < 65536) : (n.sub64 m).addr.get16 6 7 = m := get16_put16 (by decide) hm

lemma sub64_byte {k : Fin 16} (h : k ≠ 6) (h' : k ≠ 7) : (n.sub64 m).addr k = n.addr k :=
  put16_of_ne h h'

lemma ne_of_lt_48 (h : n.bits ≤ 48) {k : Fin 16} (hk : 8 * k.val < n.bits) : k ≠ 6 ∧ k ≠ 7 := by
  replace hk := Nat.lt_of_lt_of_le hk h
  constructor
  · rintro rfl
    exact absurd hk (by decide)
  · rintro rfl
    exact absurd hk (by decide)

lemma sub64_within (h : n.bits = 48) : (n.sub64 m).Within n := by
  have hbits : n.bits ≤ (n.sub64 m).bits := by
    rw [h]
    exact Nat.le_add_right 48 16
  refine within_of_bytes hbits fun k hk => ?_
  obtain ⟨h6, h7⟩ := ne_of_lt_48 h.le hk
  exact sub64_byte h6 h7

/-- **Subnets with different numbers are disjoint**, also in different networks. -/
theorem sub64_disjoint_of_ne (hm : m < 65536) (hm' : m' < 65536) (h : m ≠ m') :
    (n.sub64 m).Disjoint (n'.sub64 m') := by
  rcases put16_byte_ne (a := n.addr) (b := n'.addr) (k := 6) (l := 7)
    (by decide) hm hm' h with hne | hne
  · exact disjoint_of_byte_ne (k := 6) hne (Nat.le_add_right 56 8) (Nat.le_add_right 56 8)
  · exact disjoint_of_byte_ne (k := 7) hne (Nat.le_refl 64) (Nat.le_refl 64)

/-- **Subnets of disjoint networks are disjoint.** -/
theorem sub64_disjoint (h : n.Disjoint n') (hn : n.bits = 48) (hn' : n'.bits = 48) :
    (n.sub64 m).Disjoint (n'.sub64 m') := fun a ha ha' =>
  h a (sub64_within hn a ha) (sub64_within hn' a ha')

lemma HostBitsZero.byte (h : n.HostBitsZero) {k : Fin 16} (hk : n.bits ≤ 8 * k.val) :
    n.addr k = 0 := by
  refine BitVec.eq_of_getMsbD_eq fun t ht => ?_
  rw [← bit_mul_add n.addr k ht, h (8 * k.val + t) (by omega) (by omega)]
  simp

lemma HostBitsZero.sub64 (h : n.HostBitsZero) (hn : n.bits = 48) : (n.sub64 m).HostBitsZero := by
  intro i hi hbits
  have h64 : 64 ≤ i := hbits
  have hlt : i / 8 < 16 := by omega
  have hbyte : (n.sub64 m).addr ⟨i / 8, hlt⟩ = n.addr ⟨i / 8, hlt⟩ := by
    refine sub64_byte (fun he => ?_) fun he => ?_
    · have h6 : i / 8 = 6 := congrArg Fin.val he
      omega
    · have h7 : i / 8 = 7 := congrArg Fin.val he
      omega
  rw [bit_of_byte hlt hbyte]
  exact h i hi (by omega)

end Network

end Net
