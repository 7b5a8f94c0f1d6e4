import VirtueStack.Agent.IPv6Manager
import VirtueStack.Txn.Machine

/-!
# Subnets survive restarts of the agent

Any sequence of calls and restarts, with the same prefix of length 48 throughout.

* `Inv` **the invariant**: memory and files say the same. Each VM has one index, and for each index
  that is taken there is the file of its VM, and no other file.
-/

namespace VirtueStack.Agent
open Net List Option AList

/-! ## the index in the address -/

lemma extractSubnetIndex_eq {n : Network} (h : n.bits = 64) :
    extractSubnetIndex n = n.addr.get16 6 7 := by
  have hlow : (n.addr 7).toNat < 2 ^ 8 := (n.addr 7).isLt
  unfold extractSubnetIndex Addr.get16
  rw [if_neg (fun hne => hne h), ← Nat.shiftLeft_add_eq_or_of_lt hlow, Nat.shiftLeft_eq]

lemma extractSubnetIndex_sub64 {n : Network} {i : Nat} (h : i < 65536) :
    extractSubnetIndex (n.sub64 i) = i := by
  rw [extractSubnetIndex_eq rfl, Network.sub64_index h]

section
variable {T : Text} {pfx : String} {net : Network}

lemma buildSubnetFromIndex_eq (hp : T.toNetwork pfx = .ok net) (vmID : String) (i : Nat) :
    buildSubnetFromIndex T pfx vmID i =
      ⟨vmID, T.ofNetwork (net.sub64 i), T.ofAddr (net.sub64 i).first, 64, i⟩ := by
  have hbyte6 : BitVec.ofInt 8 ((i : Int) >>> (8 : Nat)) = byte (i >>> 8) :=
    BitVec.ofInt_natCast 8 (i >>> 8)
  have hbyte7 : BitVec.ofInt 8 (i : Int) = byte i := BitVec.ofInt_natCast 8 i
  have haddr : nodeAddr T pfx = net.addr := by
    unfold nodeAddr
    rw [hp]
  unfold buildSubnetFromIndex
  rw [hbyte6, hbyte7, haddr]
  rfl

end

/-! ## the file of a VM -/

lemma unmarshal_marshal (info : IPv6Info) : IPv6Info.unmarshal info.marshal = .ok info := by
  have hkeys : [("vm_id", Json.str info.vmID), ("subnet", Json.str info.subnet),
    ("gateway", Json.str info.gateway),
      ("addresses", Json.arr (info.addresses.map .str))].map Prod.fst = IPv6Info.tags := rfl
  have hsep : Separate IPv6Info.tags IPv6Info.tags := by decide
  have hnd : IPv6Info.tags.Nodup := by decide
  have h1 := stringField_of_singleton (stored_getElem hkeys hsep hnd 0 0 rfl rfl)
  have h2 := stringField_of_singleton (stored_getElem hkeys hsep hnd 1 1 rfl rfl)
  have h3 := stringField_of_singleton (stored_getElem hkeys hsep hnd 2 2 rfl rfl)
  have h4 := stringsField_of_singleton (stored_getElem hkeys hsep hnd 3 3 rfl rfl)
  unfold IPv6Info.unmarshal IPv6Info.marshal Json.members
  rw [ok_bind, h1, ok_bind, h2, ok_bind, h3, ok_bind, h4]
  rfl

lemma hasSuffix_append (s suffix : String) : hasSuffix (s ++ suffix) suffix = true := by
  unfold hasSuffix
  rw [String.toList_append, isSuffixOf_iff_suffix]
  exact suffix_append _ _

lemma trimSuffix_append (s suffix : String) : trimSuffix (s ++ suffix) suffix = s := by
  unfold trimSuffix
  rw [if_pos (hasSuffix_append s suffix), String.toList_append, length_append, Nat.add_sub_cancel,
    take_left, String.ofList_toList]

lemma statusFileName_inj {v w : String} (h : statusFileName v = statusFileName w) : v = w := by
  rw [← trimSuffix_append v ipv6StatusSuffix, ← trimSuffix_append w ipv6StatusSuffix]
  exact congrArg (fun s => trimSuffix s ipv6StatusSuffix) h

section
variable {T : Text} {net : Network}

section
variable (T : Text) (net : Network) (v : String) (i : Int)

def infoOf : IPv6Info :=
  ⟨v, T.ofNetwork (net.sub64 i.toNat), T.ofAddr (net.sub64 i.toNat).first, []⟩

def entryOf : Σ _ : String, File :=
  ⟨statusFileName v, some (infoOf T net v i).marshal⟩

end

lemma entryOf_inj {v w : String} {i j : Int} (hi : 0 ≤ i ∧ i < 65536) (hj : 0 ≤ j ∧ j < 65536)
    (h : entryOf T net v i = entryOf T net w j) : v = w ∧ i = j := by
  have h64 : ∀ k, (net.sub64 k).bits ≤ 128 := fun _ => Nat.le_add_right 64 64
  have hfile := congrArg (fun e : Σ _ : String, File => e.2) h
  have hinfo := congrArg IPv6Info.unmarshal (Option.some.inj hfile)
  rw [unmarshal_marshal, unmarshal_marshal] at hinfo
  have hsub : T.ofNetwork (net.sub64 i.toNat) = T.ofNetwork (net.sub64 j.toNat) :=
    congrArg IPv6Info.subnet (Except.ok.inj hinfo)
  have hnet := congrArg T.toNetwork hsub
  rw [T.toNetwork_ofNetwork (h64 _), T.toNetwork_ofNetwork (h64 _)] at hnet
  have hindex := congrArg extractSubnetIndex (Except.ok.inj hnet)
  rw [extractSubnetIndex_sub64 (by omega), extractSubnetIndex_sub64 (by omega)] at hindex
  exact ⟨statusFileName_inj (congrArg Sigma.fst h), by omega⟩

lemma loadEntry_entryOf {v : String} {i : Int} (h₀ : 0 ≤ i) (h₁ : i < 65536) (acc : SubnetAlloc) :
    loadEntry T acc (entryOf T net v i) = acc.insert i v := by
  have hlt : i.toNat < 65536 := by omega
  have h64 : (net.sub64 i.toNat).bits ≤ 128 := Nat.le_add_right 64 64
  have hread : readSubnet T (some (infoOf T net v i).marshal) = some (net.sub64 i.toNat) := by
    unfold readSubnet
    dsimp only
    rw [unmarshal_marshal]
    show (T.toNetwork (T.ofNetwork (net.sub64 i.toNat))).toOption = _
    rw [T.toNetwork_ofNetwork h64]
    rfl
  have hindex : extractSubnetIndex (net.sub64 i.toNat) = i := by
    rw [extractSubnetIndex_sub64 hlt]
    exact Int.toNat_of_nonneg h₀
  have hsuffix : ¬ ¬ hasSuffix (statusFileName v) ipv6StatusSuffix = true := fun hn =>
    hn (hasSuffix_append v ipv6StatusSuffix)
  unfold loadEntry entryOf
  dsimp only
  rw [if_neg hsuffix, hread]
  dsimp only
  rw [hindex, if_pos h₀, statusFileName, trimSuffix_append]

end

/-! ## maps and their entries -/

section
variable {alloc acc : SubnetAlloc} {order : List (Σ _ : Int, String)} {v : String} {i : Int}

lemma existing_some (hperm : order.Perm alloc.entries) (h : existing order v = some i) :
    alloc.lookup i = some v := by
  obtain ⟨entry, hfind, rfl⟩ := map_eq_some_iff.mp h
  have hv : entry.2 = v := by simpa using find?_some hfind
  have hmem : entry ∈ alloc.entries := hperm.mem_iff.mp (mem_of_find?_eq_some hfind)
  rw [← hv]
  exact mem_lookup_iff.mpr hmem

lemma existing_none (hperm : order.Perm alloc.entries) (h : existing order v = none) :
    alloc.lookup i ≠ some v := by
  intro hl
  have hmem : (⟨i, v⟩ : Σ _ : Int, String) ∈ order := hperm.mem_iff.mpr (mem_lookup_iff.mp hl)
  have hfind := find?_eq_none.mp (map_eq_none_iff.mp h) _ hmem
  simp at hfind

/-- everything `acc` says, `alloc` says too -/
def Extends (alloc acc : SubnetAlloc) : Prop :=
  ∀ i v, acc.lookup i = some v → alloc.lookup i = some v

lemma Extends.insert (h : Extends alloc acc) (hl : alloc.lookup i = some v) :
    Extends alloc (acc.insert i v) := by
  intro j w hj
  by_cases hij : j = i
  · subst hij
    rw [lookup_insert] at hj
    rw [hl, hj]
  · rw [lookup_insert_ne hij] at hj
    exact h j w hj

lemma extends_insert (h : Extends alloc acc) (hl : alloc.lookup i = some v) :
    Extends (acc.insert i v) acc := by
  intro j w hj
  by_cases hij : j = i
  · subst hij
    rw [lookup_insert, ← hl, h j w hj]
  · rw [lookup_insert_ne hij, hj]

lemma nextFree_none {n k : Nat} (h : nextFree alloc n k = none) :
    ∀ j, k ≤ j → j < k + n → (alloc.lookup (j : Int)).isSome = true := by
  induction n generalizing k with
  | zero =>
    intro j hj hj'
    omega
  | succ n ih =>
    intro j hj hj'
    unfold nextFree at h
    split at h
    · rename_i htaken
      rcases Nat.eq_or_lt_of_le hj with rfl | hlt
      · exact htaken
      · exact ih h j hlt (by omega)
    · cases h

lemma nextFree_some {n k j : Nat} (h : nextFree alloc n k = some j) :
    j < k + n ∧ alloc.lookup (j : Int) = none := by
  induction n generalizing k with
  | zero => cases h
  | succ n ih =>
    unfold nextFree at h
    split at h
    · obtain ⟨hlt, hfree⟩ := ih h
      exact ⟨by omega, hfree⟩
    · rename_i hfree
      cases h
      exact ⟨by omega, by simpa using hfree⟩

lemma chooseIndex_ok {subnetIndex : Int} (h : chooseIndex alloc subnetIndex = .ok i) :
    0 ≤ i ∧ i < 65536 ∧ alloc.lookup i = none := by
  unfold chooseIndex at h
  by_cases hneg : 0 ≤ subnetIndex
  · rw [if_pos hneg] at h
    by_cases hbig : (ipv6MaxSubnets : Int) ≤ subnetIndex
    · rw [if_pos hbig] at h
      cases h
    · rw [if_neg hbig] at h
      have hlt : subnetIndex < 65536 := Int.not_le.mp hbig
      split at h
      · cases h
      · rename_i hfree
        cases h
        exact ⟨hneg, hlt, hfree⟩
  · rw [if_neg hneg] at h
    split at h
    · rename_i j hj
      cases h
      obtain ⟨hlt, hfree⟩ := nextFree_some hj
      have hlt' : j < 65536 := by simpa [ipv6MaxSubnets] using hlt
      exact ⟨by omega, by omega, hfree⟩
    · cases h

lemma chooseIndex_error {subnetIndex : Int} {e : GoError} (hneg : subnetIndex < 0)
    (h : chooseIndex alloc subnetIndex = .error e) :
    ∀ j : Nat, j < 65536 → (alloc.lookup (j : Int)).isSome = true := by
  unfold chooseIndex at h
  rw [if_neg (by omega)] at h
  split at h
  · cases h
  · rename_i hnone
    intro j hj
    refine nextFree_none hnone j (Nat.zero_le j) ?_
    simpa [ipv6MaxSubnets] using hj

end

/-! ## memory and files -/

section
variable {T : Text} {pfx : String} {net : Network} {s : State}

def State.Owns (s : State) (v : String) (i : Int) : Prop := s.manager.subnetAlloc.lookup i = some v

structure Inv (T : Text) (pfx : String) (net : Network) (s : State) : Prop where
  nodePrefix : s.manager.nodePrefix = pfx
  range : ∀ v i, s.Owns v i → 0 ≤ i ∧ i < 65536
  unique : ∀ v i j, s.Owns v i → s.Owns v j → i = j
  file : ∀ v i, s.Owns v i → s.dir.lookup (statusFileName v) =
    some (some (infoOf T net v i).marshal)
  files : ∀ name file, s.dir.lookup name = some file → ∃ v i, name = statusFileName v ∧ s.Owns v i

lemma Inv.entry (h : Inv T pfx net s) {entry : Σ _ : String, File} (he : entry ∈ s.dir.entries) :
    ∃ v i, entry = entryOf T net v i ∧ s.Owns v i := by
  have hl : s.dir.lookup entry.1 = some entry.2 := mem_lookup_iff.mpr he
  obtain ⟨v, i, hname, howns⟩ := h.files entry.1 entry.2 hl
  refine ⟨v, i, ?_, howns⟩
  have hfile := h.file v i howns
  rw [← hname, hl] at hfile
  cases entry with
  | mk name file =>
    cases hname
    cases hfile
    rfl

lemma foldl_loadEntry {alloc : SubnetAlloc}
    (hrange : ∀ i v, alloc.lookup i = some v → 0 ≤ i ∧ i < 65536)
    (entries : List (Σ _ : String, File))
    (hentries : ∀ e ∈ entries, ∃ v i, e = entryOf T net v i ∧ alloc.lookup i = some v)
    {acc : SubnetAlloc} (hacc : Extends alloc acc) :
    Extends alloc (entries.foldl (loadEntry T) acc) ∧
      Extends (entries.foldl (loadEntry T) acc) acc ∧
    ∀ v i, entryOf T net v i ∈ entries → alloc.lookup i = some v →
      (entries.foldl (loadEntry T) acc).lookup i = some v := by
  induction entries generalizing acc with
  | nil => exact ⟨hacc, fun _ _ h => h, fun v i hmem => by cases hmem⟩
  | cons e rest ih =>
    obtain ⟨v0, i0, rfl, hl0⟩ := hentries e mem_cons_self
    obtain ⟨hpos, hlt⟩ := hrange i0 v0 hl0
    rw [foldl_cons, loadEntry_entryOf hpos hlt]
    obtain ⟨h1, h2, h3⟩ := ih (fun e he => hentries e (mem_cons_of_mem _ he)) (hacc.insert hl0)
    refine ⟨h1, fun i v h => h2 i v (extends_insert hacc hl0 i v h), fun v i hmem hl => ?_⟩
    rcases mem_cons.mp hmem with heq | hmem
    · -- the file of `v` is the one just read, so its index is the one just entered
      obtain ⟨hpos', hlt'⟩ := hrange i v hl
      obtain ⟨rfl, rfl⟩ := entryOf_inj ⟨hpos', hlt'⟩ ⟨hpos, hlt⟩ heq
      exact h2 i v (lookup_insert acc)
    · exact h3 v i hmem hl

/-- **The map that is loaded is the map that was lost.** -/
theorem Inv.lookup_load (h : Inv T pfx net s) (i : Int) (v : String) :
    (loadExistingAllocations T s.dir ∅).lookup i = some v ↔ s.Owns v i := by
  have hperm : (readDir s.dir).Perm s.dir.entries := perm_insertionSort _ _
  have hentries : ∀ e ∈ readDir s.dir, ∃ v i, e = entryOf T net v i ∧
    s.manager.subnetAlloc.lookup i = some v :=
    fun e he => h.entry (hperm.mem_iff.mp he)
  have hempty : Extends s.manager.subnetAlloc ∅ := fun i v hl => by
    rw [lookup_empty] at hl
    cases hl
  obtain ⟨hsub, -, hall⟩ :=
    foldl_loadEntry (fun i v hl => h.range v i hl) (readDir s.dir) hentries hempty
  constructor
  · exact hsub i v
  · intro howns
    refine hall v i ?_ howns
    exact hperm.mem_iff.mpr (mem_lookup_iff.mp (h.file v i howns))

/-! ## what one call does -/

lemma Inv.of_owns {s' : State} (h : Inv T pfx net s) (hn : s'.manager.nodePrefix = pfx)
    (hd : s'.dir = s.dir) (ho : ∀ v i, s'.Owns v i ↔ s.Owns v i) : Inv T pfx net s' := by
  refine ⟨hn, fun v i hi => h.range v i ((ho v i).mp hi), ?_, ?_, ?_⟩
  · exact fun v i j hi hj => h.unique v i j ((ho v i).mp hi) ((ho v j).mp hj)
  · intro v i hi
    rw [hd]
    exact h.file v i ((ho v i).mp hi)
  · intro name file hl
    rw [hd] at hl
    obtain ⟨v, i, hname, hi⟩ := h.files name file hl
    exact ⟨v, i, hname, (ho v i).mpr hi⟩

section
variable (hp : T.toNetwork pfx = .ok net)
include hp

lemma restart_eq (dir : StatusDir) :
    restart T pfx dir = ⟨⟨pfx, loadExistingAllocations T dir ∅⟩, dir⟩ := by
  unfold restart setNodePrefix
  rw [hp]
  rfl

lemma inv_start : Inv T pfx net (restart T pfx ∅) := by
  have hnone : ∀ v i, ¬ (restart T pfx ∅).Owns v i := by
    intro v i hi
    rw [restart_eq hp] at hi
    have hempty : (∅ : SubnetAlloc).lookup i = some v := hi
    rw [lookup_empty] at hempty
    cases hempty
  refine ⟨?_, fun v i hi => absurd hi (hnone v i), fun v i j hi => absurd hi (hnone v i),
    fun v i hi => absurd hi (hnone v i), fun name file hl => ?_⟩
  · rw [restart_eq hp]
  · rw [restart_eq hp, lookup_empty] at hl
    cases hl

lemma Inv.restart_owns (h : Inv T pfx net s) (v : String) (i : Int) :
    (restart T pfx s.dir).Owns v i ↔ s.Owns v i := by
  rw [restart_eq hp]
  exact h.lookup_load i v

lemma Inv.restart (h : Inv T pfx net s) : Inv T pfx net (restart T pfx s.dir) := by
  refine h.of_owns ?_ ?_ (h.restart_owns hp)
  · rw [restart_eq hp]
  · rw [restart_eq hp]

lemma build_of_range {v : String} {i : Int} (h₀ : 0 ≤ i) : buildSubnetFromIndex T pfx v i =
    ⟨v, T.ofNetwork (net.sub64 i.toNat), T.ofAddr (net.sub64 i.toNat).first, 64, i⟩ := by
  obtain ⟨k, rfl⟩ := Int.eq_ofNat_of_zero_le h₀
  exact buildSubnetFromIndex_eq hp v k

lemma Inv.allocate (h : Inv T pfx net s) {v : String} {i : Int} (hv : ∀ j, ¬ s.Owns v j)
    (hi : 0 ≤ i ∧ i < 65536) (hfree : s.manager.subnetAlloc.lookup i = none) :
    Inv T pfx net (s.allocate T v i).2 := by
  have howns : ∀ w j, (s.allocate T v i).2.Owns w j ↔ w = v ∧ j = i ∨ s.Owns w j := by
    intro w j
    show (s.manager.subnetAlloc.insert i v).lookup j = some w ↔ _
    by_cases hj : j = i
    · subst hj
      have hnot : ¬ s.Owns w j := fun hw => by
        have hw' : s.manager.subnetAlloc.lookup j = some w := hw
        rw [hfree] at hw'
        cases hw'
      rw [lookup_insert]
      simp [hnot, eq_comm]
    · rw [lookup_insert_ne hj]
      simp [hj, State.Owns]
  have hdir : (s.allocate T v i).2.dir = s.dir.insert (statusFileName v)
      (some (infoOf T net v i).marshal) := by
    show saveStatus v ⟨v, (buildSubnetFromIndex T s.manager.nodePrefix v i).subnet,
      (buildSubnetFromIndex T s.manager.nodePrefix v i).gateway, []⟩ s.dir = _
    rw [h.nodePrefix, build_of_range hp hi.1]
    rfl
  refine ⟨h.nodePrefix, ?_, ?_, ?_, ?_⟩
  · intro w j hw
    rcases (howns w j).mp hw with ⟨rfl, rfl⟩ | hw
    · exact hi
    · exact h.range w j hw
  · intro w j k hj hk
    rcases (howns w j).mp hj with ⟨rfl, rfl⟩ | hold
    · rcases (howns w k).mp hk with ⟨-, rfl⟩ | hold'
      · rfl
      · exact absurd hold' (hv k)
    · rcases (howns w k).mp hk with ⟨rfl, -⟩ | hold'
      · exact absurd hold (hv j)
      · exact h.unique w j k hold hold'
  · intro w j hw
    rw [hdir]
    rcases (howns w j).mp hw with ⟨rfl, rfl⟩ | hw
    · exact lookup_insert _
    · have hne : statusFileName w ≠ statusFileName v := fun he => hv j (statusFileName_inj he ▸ hw)
      rw [lookup_insert_ne hne]
      exact h.file w j hw
  · intro name file hl
    rw [hdir] at hl
    by_cases hname : name = statusFileName v
    · exact ⟨v, i, hname, (howns v i).mpr (.inl ⟨rfl, rfl⟩)⟩
    · rw [lookup_insert_ne hname] at hl
      obtain ⟨w, j, hw, hj⟩ := h.files name file hl
      exact ⟨w, j, hw, (howns w j).mpr (.inr hj)⟩

end

variable {order : List (Σ _ : Int, String)}

lemma Inv.release_owns (h : Inv T pfx net s) (v w : String) (j : Int)
    (hperm : order.Perm s.manager.subnetAlloc.entries) : (releaseVMSubnet order v s).Owns w j ↔
      w ≠ v ∧ s.Owns w j := by
  unfold releaseVMSubnet
  cases hex : existing order v with
  | none =>
    have hno : ¬ s.Owns v j := existing_none hperm hex
    constructor
    · exact fun hw => ⟨fun he => hno (he ▸ hw), hw⟩
    · exact fun hw => hw.2
  | some i =>
    have hi : s.Owns v i := existing_some hperm hex
    show (s.manager.subnetAlloc.erase i).lookup j = some w ↔ _
    by_cases hj : j = i
    · subst hj
      rw [lookup_erase]
      constructor
      · intro hw
        cases hw
      · rintro ⟨hne, hw⟩
        exact absurd (mem_unique hw hi) hne
    · rw [lookup_erase_ne hj]
      constructor
      · exact fun hw => ⟨fun he => hj (h.unique v j i (he ▸ hw) hi), hw⟩
      · exact fun hw => hw.2

lemma Inv.release (h : Inv T pfx net s) (v : String)
    (hperm : order.Perm s.manager.subnetAlloc.entries) :
    Inv T pfx net (releaseVMSubnet order v s) := by
  have howns := fun w j => h.release_owns v w j hperm
  cases hex : existing order v with
  | none =>
    have hsame : releaseVMSubnet order v s = s := by
      unfold releaseVMSubnet
      rw [hex]
    rw [hsame]
    exact h
  | some i =>
    have hi : s.Owns v i := existing_some hperm hex
    have hrel : releaseVMSubnet order v s =
      ⟨{ s.manager with subnetAlloc := s.manager.subnetAlloc.erase i },
        s.dir.erase (statusFileName v)⟩ := by
      unfold releaseVMSubnet
      rw [hex]
    have hdir : (releaseVMSubnet order v s).dir = s.dir.erase (statusFileName v) :=
      congrArg State.dir hrel
    refine ⟨?_, fun w j hw => h.range w j ((howns w j).mp hw).2, ?_, ?_, ?_⟩
    · rw [hrel]
      exact h.nodePrefix
    · exact fun w j k hj hk => h.unique w j k ((howns w j).mp hj).2 ((howns w k).mp hk).2
    · intro w j hw
      obtain ⟨hne, hw⟩ := (howns w j).mp hw
      rw [hdir, lookup_erase_ne fun he => hne (statusFileName_inj he)]
      exact h.file w j hw
    · intro name file hl
      rw [hdir] at hl
      by_cases hname : name = statusFileName v
      · rw [hname, lookup_erase] at hl
        cases hl
      · rw [lookup_erase_ne hname] at hl
        obtain ⟨w, j, hw, hj⟩ := h.files name file hl
        exact ⟨w, j, hw, (howns w j).mpr ⟨fun he => hname (he ▸ hw), hj⟩⟩

def Op.Asks (v : VMID) : Op → Prop
  | .allocate w _ => w = v
  | .get w => w = v
  | _ => False

lemma allocateVMSubnet_cases (h : Inv T pfx net s) (hne : pfx ≠ "")
    (hperm : order.Perm s.manager.subnetAlloc.entries) (v : String) (subnetIndex : Int) :
    (∃ i, s.Owns v i ∧ allocateVMSubnet T order v subnetIndex s =
      (.ok (buildSubnetFromIndex T pfx v i), s)) ∨
    (∀ j, ¬ s.Owns v j) ∧ ((∃ e, chooseIndex s.manager.subnetAlloc subnetIndex = .error e ∧
      allocateVMSubnet T order v subnetIndex s = (.error e, s)) ∨
    ∃ i, 0 ≤ i ∧ i < 65536 ∧ s.manager.subnetAlloc.lookup i = none ∧
      allocateVMSubnet T order v subnetIndex s = s.allocate T v i) := by
  unfold allocateVMSubnet
  cases hex : existing order v with
  | some i =>
    refine .inl ⟨i, existing_some hperm hex, ?_⟩
    rw [h.nodePrefix]
  | none =>
    refine .inr ⟨fun j => existing_none hperm hex, ?_⟩
    dsimp only
    rw [if_neg (fun he => hne (h.nodePrefix.symm.trans he))]
    cases hc : chooseIndex s.manager.subnetAlloc subnetIndex with
    | error e => exact .inl ⟨e, rfl, rfl⟩
    | ok i =>
      obtain ⟨h0, h1, hfree⟩ := chooseIndex_ok hc
      exact .inr ⟨i, h0, h1, hfree, rfl⟩

section
variable (hp : T.toNetwork pfx = .ok net) {order : List (Σ _ : Int, String)}
  (hperm : order.Perm s.manager.subnetAlloc.entries)
include hp

lemma nodePrefix_ne : pfx ≠ "" := fun he => T.toNetwork_empty net (he ▸ hp)

include hperm

/-- **Every call keeps the invariant.** -/
theorem Inv.step (h : Inv T pfx net s) (op : Op) :
    Inv T pfx net (Agent.step T pfx order s op).2 := by
  cases op with
  | allocate v subnetIndex =>
    show Inv T pfx net (allocateVMSubnet T order v.text subnetIndex s).2
    obtain ⟨i, -, he⟩ | ⟨hv, ⟨e, -, he⟩ | ⟨i, h0, h1, hfree, he⟩⟩ :=
      allocateVMSubnet_cases h (nodePrefix_ne hp) hperm v.text subnetIndex
    · rw [he]
      exact h
    · rw [he]
      exact h
    · rw [he]
      exact h.allocate hp hv ⟨h0, h1⟩ hfree
  | release v => exact h.release v.text hperm
  | get v => exact h
  | restart => exact h.restart hp

variable {v : VMID}

/-- **A VM keeps its index until it is released.** -/
theorem Inv.owns_step (h : Inv T pfx net s) {op : Op} {i : Int} (hop : op ≠ .release v)
    (hi : s.Owns v.text i) : (Agent.step T pfx order s op).2.Owns v.text i := by
  cases op with
  | allocate w subnetIndex =>
    show (allocateVMSubnet T order w.text subnetIndex s).2.Owns v.text i
    obtain ⟨j, -, he⟩ | ⟨hw, ⟨e, -, he⟩ | ⟨j, -, -, hfree, he⟩⟩ :=
      allocateVMSubnet_cases h (nodePrefix_ne hp) hperm w.text subnetIndex
    · rw [he]
      exact hi
    · rw [he]
      exact hi
    · rw [he]
      have hij : i ≠ j := fun hij => by
        have hi' : s.manager.subnetAlloc.lookup i = some v.text := hi
        rw [hij, hfree] at hi'
        cases hi'
      show (s.manager.subnetAlloc.insert j w.text).lookup i = some v.text
      rw [lookup_insert_ne hij]
      exact hi
  | release w =>
    refine (h.release_owns w.text v.text i hperm).mpr ⟨fun he => hop ?_, hi⟩
    cases v
    cases w
    cases he
    rfl
  | get w => exact hi
  | restart => exact (h.restart_owns hp v.text i).mpr hi

lemma Inv.asked (h : Inv T pfx net s) {op : Op} {i : Int} (hop : op.Asks v) (hi : s.Owns v.text i) :
    (Agent.step T pfx order s op).1 = some (.ok (buildSubnetFromIndex T pfx v.text i)) := by
  cases op with
  | allocate w subnetIndex =>
    obtain rfl : w = v := hop
    show some (allocateVMSubnet T order w.text subnetIndex s).1 = _
    obtain ⟨j, hj, he⟩ | ⟨hno, -⟩ :=
      allocateVMSubnet_cases h (nodePrefix_ne hp) hperm w.text subnetIndex
    · rw [he, h.unique w.text i j hi hj]
    · exact absurd hi (hno i)
  | get w =>
    obtain rfl : w = v := hop
    show some (getVMSubnet T order w.text s) = _
    unfold getVMSubnet
    cases hex : existing order w.text with
    | none => exact absurd hi (existing_none hperm hex)
    | some j =>
      dsimp only
      rw [h.nodePrefix, h.unique w.text i j hi (existing_some hperm hex)]
  | release w | restart => exact hop.elim

lemma Inv.allocated (h : Inv T pfx net s) {subnetIndex : Int} {r : IPv6Subnet}
    (hr : (Agent.step T pfx order s (.allocate v subnetIndex)).1 = some (.ok r)) :
    ∃ i, (Agent.step T pfx order s (.allocate v subnetIndex)).2.Owns v.text i ∧
      r = buildSubnetFromIndex T pfx v.text i := by
  have hr' : (allocateVMSubnet T order v.text subnetIndex s).1 = .ok r := Option.some.inj hr
  show ∃ i, (allocateVMSubnet T order v.text subnetIndex s).2.Owns v.text i ∧ _
  obtain ⟨i, hi, he⟩ | ⟨hv, ⟨e, -, he⟩ | ⟨i, h0, h1, hfree, he⟩⟩ :=
    allocateVMSubnet_cases h (nodePrefix_ne hp) hperm v.text subnetIndex
  · rw [he] at hr' ⊢
    exact ⟨i, hi, (Except.ok.inj hr').symm⟩
  · rw [he] at hr'
    cases hr'
  · rw [he] at hr' ⊢
    refine ⟨i, lookup_insert _, ?_⟩
    rw [← Except.ok.inj hr', h.nodePrefix]

end

/-! ## whole runs -/

/-- the call asks for the subnet of a VM that got one and was not released since: it is the same
subnet -/
def SameSubnet (pre : List (Op × Out)) (call : Op × Out) : Prop :=
  ∀ v, call.1.Asks v → ∀ earlier subnetIndex r since, pre = earlier ++
    (.allocate v subnetIndex, some (.ok r)) :: since →
    (∀ c ∈ since, c.1 ≠ .release v) → call.2 = some (.ok r)

/-- every VM that got a subnet and was not released has the index of that subnet -/
def Kept (T : Text) (pfx : String) (calls : List (Op × Out)) (s : State) : Prop :=
  ∀ v earlier subnetIndex r since, calls = earlier ++
    (.allocate v subnetIndex, some (.ok r)) :: since →
    (∀ c ∈ since, c.1 ≠ .release v) → ∃ i, s.Owns v.text i ∧ r = buildSubnetFromIndex T pfx v.text i

section
variable (hp : T.toNetwork pfx = .ok net) {order : List (Σ _ : Int, String)}
  {calls : List (Op × Out)}
include hp

section
variable (h : Kept T pfx calls s) (hinv : Inv T pfx net s) (op : Op)
  (hperm : order.Perm s.manager.subnetAlloc.entries)
include h hinv hperm

lemma Kept.step : Kept T pfx (calls ++ [(op, (Agent.step T pfx order s op).1)])
    (Agent.step T pfx order s op).2 := by
  intro v earlier subnetIndex r since hcalls hsince
  rcases eq_nil_or_concat since with rfl | ⟨since', last, rfl⟩
  · -- the call itself
    obtain ⟨-, hlast⟩ := append_inj' hcalls rfl
    injection hlast with hlast
    obtain ⟨rfl, hout⟩ := Prod.mk.inj hlast
    exact hinv.allocated hp hperm hout
  · rw [concat_eq_append, ← cons_append, ← append_assoc] at hcalls
    obtain ⟨hbefore, hlast⟩ := append_inj' hcalls rfl
    injection hlast with hlast
    rw [concat_eq_append] at hsince
    obtain ⟨i, hi, hr⟩ := h v earlier subnetIndex r since' hbefore fun c hc =>
      hsince c (mem_append_left _ hc)
    have hop : op ≠ .release v := by
      have hmem := hsince last (mem_append_right _ (mem_singleton_self _))
      rw [← hlast] at hmem
      exact hmem
    exact ⟨i, hinv.owns_step hp hperm hop hi, hr⟩

lemma Kept.same : SameSubnet calls (op, (Agent.step T pfx order s op).1) := by
  intro v hasks earlier subnetIndex r since hcalls hsince
  obtain ⟨i, hi, rfl⟩ := h v earlier subnetIndex r since hcalls hsince
  exact hinv.asked hp hperm hasks hi

end

lemma runs_invariant (h : Runs T pfx calls s) : Inv T pfx net s ∧ Kept T pfx calls s ∧
    ∀ pre call post, calls = pre ++ call :: post → SameSubnet pre call := by
  induction h with
  | start =>
    refine ⟨inv_start hp, ?_, ?_⟩
    · intro v earlier subnetIndex r since hcalls
      cases earlier <;> cases hcalls
    · intro pre call post hcalls
      cases pre <;> cases hcalls
  | step order op _ hperm ih =>
    obtain ⟨hinv, hkept, hsame⟩ := ih
    exact ⟨hinv.step hp hperm op, hkept.step hp hinv op hperm,
      Txn.forall_split_concat.mpr ⟨hsame, hkept.same hp hinv op hperm⟩⟩

/-- **Subnets survive restarts.** The prefix of the node is a network of length 48. In every state
of every run of calls and restarts a VM has at most one index and an index at most one VM; the
subnets of the VMs are disjoint networks of length 64 within the prefix, and the index is read back
from the subnet. A VM that got a subnet gets the same one from every later call until it is
released. A call without an index of its own fails only when all 65536 are taken. -/
theorem subnets_survive (hbits : net.bits = 48) (h : Runs T pfx calls s) :
    (∀ v w i, s.Owns v i → s.Owns w i → v = w) ∧ (∀ v i j, s.Owns v i → s.Owns v j → i = j) ∧
    (∀ pre call post, calls = pre ++ call :: post → SameSubnet pre call) ∧
    (∀ v i, s.Owns v i → ∃ n, T.toNetwork (buildSubnetFromIndex T pfx v i).subnet =
      .ok n ∧ n.bits = 64 ∧ n.Within net ∧ extractSubnetIndex n = i ∧
      ∀ w j, s.Owns w j → v ≠ w → ∃ n', T.toNetwork (buildSubnetFromIndex T pfx w j).subnet =
        .ok n' ∧ n.Disjoint n') ∧
    (∀ order v subnetIndex e, order.Perm s.manager.subnetAlloc.entries → subnetIndex < 0 →
      (allocateVMSubnet T order v subnetIndex s).1 = .error e →
      ∀ i : Nat, i < 65536 → ∃ w, s.Owns w i) ∧
    (∀ v (i : Nat), i < 65536 → ∃ n, T.toNetwork (buildSubnetFromIndex T pfx v i).subnet = .ok n ∧
      extractSubnetIndex n = i) := by
  obtain ⟨hinv, -, hsame⟩ := runs_invariant hp h
  have hparse : ∀ v i, 0 ≤ i → T.toNetwork (buildSubnetFromIndex T pfx v i).subnet =
      .ok (net.sub64 i.toNat) := by
    intro v i h0
    rw [build_of_range hp h0]
    exact T.toNetwork_ofNetwork (Nat.le_add_right 64 64)
  refine ⟨?_, hinv.unique, hsame, ?_, ?_, ?_⟩
  · exact fun v w i hv hw => mem_unique hv hw
  · intro v i hv
    obtain ⟨h0, h1⟩ := hinv.range v i hv
    refine ⟨net.sub64 i.toNat, hparse v i h0, rfl, Network.sub64_within hbits, ?_, ?_⟩
    · rw [extractSubnetIndex_sub64 (by omega)]
      exact Int.toNat_of_nonneg h0
    · intro w j hw hvw
      obtain ⟨h0', h1'⟩ := hinv.range w j hw
      have hij : i ≠ j := fun he => hvw (Option.some.inj (hv.symm.trans (he ▸ hw)))
      exact ⟨net.sub64 j.toNat, hparse w j h0', Network.sub64_disjoint_of_ne (by omega)
        (by omega) (by omega)⟩
  · intro order v subnetIndex e hperm hneg herr i hi
    obtain ⟨j, -, he⟩ | ⟨-, ⟨e', hc, -⟩ | ⟨j, -, -, -, he⟩⟩ :=
      allocateVMSubnet_cases hinv (nodePrefix_ne hp) hperm v subnetIndex
    · rw [he] at herr
      cases herr
    · exact isSome_iff_exists.mp (chooseIndex_error hneg hc i hi)
    · rw [he] at herr
      cases herr
  · exact fun v i hi =>
      ⟨net.sub64 i, hparse v i (Int.natCast_nonneg i), extractSubnetIndex_sub64 hi⟩

end

end

/-! ## a VM, and a restart -/

def exampleNetwork : Network := ⟨fun k => if k = 0 then 0x20 else 0, 48⟩

def examplePrefix : String := Text.plain.ofNetwork exampleNetwork

lemma examplePrefix_parses : Text.plain.toNetwork examplePrefix = .ok exampleNetwork :=
  Text.plain.toNetwork_ofNetwork (by decide)

def exampleVM : VMID := ⟨"vm-1", by decide⟩

/-- the call in the state `s`, with the map in the order of its entries -/
def call (s : State) (op : Op) : Out × State :=
  step Text.plain examplePrefix s.manager.subnetAlloc.entries s op

def afterStart : State := restart Text.plain examplePrefix ∅
def afterAllocate : State := (call afterStart (.allocate exampleVM (-1))).2
def afterRestart : State := (call afterAllocate .restart).2

lemma allocate_first : (call afterStart (.allocate exampleVM (-1))).1 =
    some (.ok (buildSubnetFromIndex Text.plain examplePrefix "vm-1" 0)) := by rfl

/-- The VM gets the same subnet after a restart. -/
theorem subnets_survive_restart :
    (call afterRestart (.get exampleVM)).1 = (call afterStart (.allocate exampleVM (-1))).1 := by
  have h0 : Runs Text.plain examplePrefix [] afterStart := Runs.start
  have h1 := Runs.step afterStart.manager.subnetAlloc.entries (.allocate exampleVM (-1)) h0
    (List.Perm.refl _)
  have h2 := Runs.step afterAllocate.manager.subnetAlloc.entries .restart h1 (List.Perm.refl _)
  have h3 := Runs.step afterRestart.manager.subnetAlloc.entries (.get exampleVM) h2
    (List.Perm.refl _)
  have hsame := (subnets_survive examplePrefix_parses rfl h3).2.2.1 _ _ [] rfl exampleVM rfl
  rw [allocate_first]
  exact hsame [] (-1) _ [(.restart, none)] (by rw [← allocate_first]; rfl) (by simp)

end VirtueStack.Agent
