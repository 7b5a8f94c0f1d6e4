import VirtueStack.Agent.SubnetIndices

/-!
# The addresses an agent hands out (nodeagent/network/ipv6.go)

A subnet is made by writing its index over two bytes of the prefix of the node, and an address by
writing a MAC behind a subnet. An IPv4 prefix is one of sixteen bytes too, and its length counts
from the first of them.

* `Since`, `Inside` the states after a prefix was accepted, and a subnet that lies in it;
* `EUIRight` an address is made of a subnet and a MAC of six bytes, and of no others.
-/

namespace VirtueStack.Agent
open Net Function

/-! ## subnets -/

section
variable (T : Text) (pfx : String)

inductive Since : State → Prop
  | set {m m' : IPv6Manager} (dir : StatusDir) : setNodePrefix T pfx m = .ok m' → Since ⟨m', dir⟩
  | step {s : State} (order : List (Σ _ : Int, String)) (op : Op) : Since s →
      order.Perm s.manager.subnetAlloc.entries → Since (Agent.step T pfx order s op).2

/-- the texts are a subnet in the prefix, and an address in this subnet -/
def Inside (r : IPv6Subnet) : Prop :=
  ∃ net n gateway, T.toNetwork pfx = .ok net ∧ T.toNetwork r.subnet = .ok n ∧
    T.toAddr r.gateway = .ok gateway ∧ n.bits = 64 ∧ n.Within net ∧ n.HostBitsZero ∧ n.Mem gateway

def AllocatesInside : Prop :=
  ∀ s, Since T pfx s → ∀ order : List (Σ _ : Int, String),
    order.Perm s.manager.subnetAlloc.entries →
    ∀ vmID subnetIndex r s', allocateVMSubnet T order vmID subnetIndex s = (.ok r, s') →
    Inside T pfx r

/-- at most 48 bits, and nothing behind the first 64 -/
def Whole (net : Network) : Prop := net.bits ≤ 48 ∧ ∀ k : Fin 16, 8 ≤ k.val → net.addr k = 0

variable {T pfx} {net : Network} {s : State}

lemma setNodePrefix_ok (hp : T.toNetwork pfx = .ok net) (m : IPv6Manager) :
    setNodePrefix T pfx m = .ok { m with nodePrefix := pfx } := by
  unfold setNodePrefix
  rw [hp]

lemma since_nodePrefix (h : Since T pfx s) :
    s.manager.nodePrefix = pfx ∧ ∃ net, T.toNetwork pfx = .ok net := by
  induction h with
  | set dir hset =>
    unfold setNodePrefix at hset
    split at hset
    · cases hset
    · cases hset
      exact ⟨rfl, _, by assumption⟩
  | @step s order op _ _ ih =>
    obtain ⟨hs, net, hp⟩ := ih
    refine ⟨?_, net, hp⟩
    cases op with
    | allocate v i =>
      show (allocateVMSubnet T order v.text i s).2.manager.nodePrefix = pfx
      unfold allocateVMSubnet
      split
      · exact hs
      · split
        · exact hs
        · split
          · exact hs
          · exact hs
    | release v =>
      show (releaseVMSubnet order v.text s).manager.nodePrefix = pfx
      unfold releaseVMSubnet
      split
      · exact hs
      · exact hs
    | get v => exact hs
    | restart =>
      show (restart T pfx s.dir).manager.nodePrefix = pfx
      rw [restart_eq hp]

lemma build_parts (hp : T.toNetwork pfx = .ok net) (v : String) (i : Int) :
    ∃ n : Network, n.bits = 64 ∧ T.toNetwork (buildSubnetFromIndex T pfx v i).subnet = .ok n ∧
      T.toAddr (buildSubnetFromIndex T pfx v i).gateway = .ok n.first ∧
      (∀ k, k ≠ 6 → k ≠ 7 → n.addr k = net.addr k) ∧ n.addr 6 = BitVec.ofInt 8
        (i >>> (8 : Nat)) := by
  have haddr : nodeAddr T pfx = net.addr := by
    unfold nodeAddr
    rw [hp]
  refine ⟨⟨_, 64⟩, rfl, T.toNetwork_ofNetwork (Nat.le_add_right 64 64), T.toAddr_ofAddr _,
    fun k h6 h7 => ?_, rfl⟩
  show update (update (nodeAddr T pfx) 6 _) 7 _ k = _
  rw [update_of_ne h7, update_of_ne h6, haddr]

lemma ne_of_eight_le {k : Fin 16} (h : 8 ≤ k.val) : k ≠ 6 ∧ k ≠ 7 := by
  constructor
  · rintro rfl
    exact absurd h (by decide)
  · rintro rfl
    exact absurd h (by decide)

variable (hp : T.toNetwork pfx = .ok net)
include hp

lemma inside_of_whole (hnet : Whole net) (v : String) (i : Int) :
    Inside T pfx (buildSubnetFromIndex T pfx v i) := by
  obtain ⟨n, hbits, hsub, hgateway, hbytes, -⟩ := build_parts hp v i
  refine ⟨net, n, n.first, hp, hsub, hgateway, hbits, ?_, ?_, ?_⟩
  · refine Network.within_of_bytes (by have := hnet.1; omega) fun k hk => ?_
    obtain ⟨h6, h7⟩ := Network.ne_of_lt_48 hnet.1 hk
    exact hbytes k h6 h7
  · intro j hj hle
    have hlt : j / 8 < 16 := by omega
    have hk : 8 ≤ j / 8 := by omega
    have hne := ne_of_eight_le (k := ⟨j / 8, hlt⟩) hk
    have hzero : n.addr ⟨j / 8, hlt⟩ = 0 := (hbytes _ hne.1 hne.2).trans (hnet.2 _ hk)
    unfold Addr.bit
    rw [dif_pos hlt, hzero]
    simp
  · intro j hj
    have hlt : j / 8 < 16 := by omega
    refine bit_of_byte hlt (update_of_ne (fun h => ?_) _ _)
    have hk : j / 8 = 15 := congrArg Fin.val h
    omega

lemma allocates_index {i : Int} (h₀ : 0 ≤ i) (h : i < 65536) :
    ∃ s s', Since T pfx s ∧ s.manager.subnetAlloc.entries = [] ∧
      allocateVMSubnet T [] "" i s = (.ok (buildSubnetFromIndex T pfx "" i), s') := by
  have hne : pfx ≠ "" := fun he => T.toNetwork_empty net (he ▸ hp)
  let s : State := ⟨{ newIPv6Manager with nodePrefix := pfx }, ∅⟩
  refine ⟨s, (s.allocate T "" i).2, .set ∅ (setNodePrefix_ok hp newIPv6Manager), rfl, ?_⟩
  have hchoose : chooseIndex newIPv6Manager.subnetAlloc i = .ok i := by
    unfold chooseIndex
    rw [if_pos h₀, if_neg (by show ¬ ((65536 : Nat) : Int) ≤ i; omega)]
    rfl
  unfold allocateVMSubnet
  rw [if_neg hne]
  dsimp only [s]
  rw [hchoose]
  rfl

lemma whole_of_inside (h : AllocatesInside T pfx) : Whole net := by
  have hinside : ∀ i : Int, 0 ≤ i → i < 65536 → ∃ n : Network, n.Within net ∧
    n.HostBitsZero ∧ n.bits = 64 ∧
      (∀ k, k ≠ 6 → k ≠ 7 → n.addr k = net.addr k) ∧
      n.addr 6 = BitVec.ofInt 8 (i >>> (8 : Nat)) := by
    intro i h0 hi
    obtain ⟨s, s', hs, hentries, halloc⟩ := allocates_index hp h0 hi
    obtain ⟨net', n', gateway, hp', hsub', -, hbits, hwithin, hzero, -⟩ :=
      h s hs [] (by rw [hentries]) "" i _ s' halloc
    obtain ⟨n, -, hsub, -, hbytes, hsix⟩ := build_parts hp "" i
    obtain rfl : net' = net := Except.ok.inj (hp'.symm.trans hp)
    obtain rfl : n' = n := Except.ok.inj (hsub'.symm.trans hsub)
    exact ⟨n', hwithin, hzero, hbits, hbytes, hsix⟩
  obtain ⟨n, hwithin, hzero, hbits, hbytes, hsix⟩ := hinside 0 (by decide) (by decide)
  obtain ⟨n', hwithin', -, -, -, hsix'⟩ := hinside 32768 (by decide) (by decide)
  constructor
  · -- bit 48 is the first one of the index
    by_contra hlong
    have hbit := hwithin n.addr n.mem_self 48 (by omega)
    have hbit' := hwithin' n'.addr n'.mem_self 48 (by omega)
    have hsame := (bit_mul_add n.addr 6 (Nat.zero_lt_succ 7)).symm.trans
      (hbit.trans (hbit'.symm.trans (bit_mul_add n'.addr 6 (Nat.zero_lt_succ 7))))
    rw [hsix, hsix'] at hsame
    exact absurd hsame (by decide)
  · intro k hk
    rw [← hbytes k (ne_of_eight_le hk).1 (ne_of_eight_le hk).2]
    exact hzero.byte (by omega)

end

/-- **Every subnet lies in the accepted prefix exactly if this is no longer than /48 and ends in
zeros.** -/
theorem allocates_inside_iff (T : Text) (pfx : String) :
    AllocatesInside T pfx ↔ ∀ net, T.toNetwork pfx = .ok net → Whole net := by
  constructor
  · intro h net hp
    exact whole_of_inside hp h
  · intro h s hs order _ vmID subnetIndex r s' hr
    obtain ⟨hpfx, net, hp⟩ := since_nodePrefix hs
    have hall := inside_of_whole hp (h net hp) vmID
    unfold allocateVMSubnet State.allocate at hr
    rw [hpfx] at hr
    split at hr
    · cases hr
      exact hall _
    · split at hr
      · cases hr
      · split at hr
        · cases hr
        · cases hr
          exact hall _

/-- A prefix of length 56 is accepted. -/
theorem allocates_outside : (setNodePrefix Text.plain (Text.plain.ofNetwork ⟨fun _ => 0, 56⟩)
      newIPv6Manager).toOption.isSome = true ∧
      ¬ AllocatesInside Text.plain (Text.plain.ofNetwork ⟨fun _ => 0, 56⟩) := by
  have hp : Text.plain.toNetwork (Text.plain.ofNetwork ⟨fun _ => 0, 56⟩) = .ok ⟨fun _ => 0, 56⟩ :=
    Text.plain.toNetwork_ofNetwork (by decide)
  refine ⟨?_, fun h => absurd (whole_of_inside hp h).1 (by decide)⟩
  rw [setNodePrefix_ok hp]
  rfl

/-! ## addresses -/

/-- `net.ParseMAC`, which reads addresses of six, eight and twenty bytes -/
structure MACText where
  parse : String → Except String (List (BitVec 8))
  length : ∀ s mac, parse s = .ok mac → mac.length = 6 ∨ mac.length = 8 ∨ mac.length = 20

def eui64 (mac : List (BitVec 8)) : List (BitVec 8) :=
  (mac.take 3 ++ [0xFF, 0xFE] ++ (mac.drop 3).take 3).modifyHead (· ^^^ 0x02)

section
variable (T : Text) (M : MACText)

def generateEUI64Address (subnetCIDR macAddress : String) : Except GoError String :=
  match T.toNetwork subnetCIDR with
  | .error e => .error (.wrap "invalid subnet" (.new e))
  | .ok pfx =>
    match M.parse macAddress with
    | .error e => .error (.wrap "invalid MAC address" (.new e))
    | .ok mac =>
        .ok (T.ofAddr fun k => if k.val < 8 then pfx.addr k else (eui64 mac).getD (k.val - 8) 0)

/-- a /64 subnet and a MAC of six bytes -/
structure Denotes (cidr mac : String) (net : Network) (bytes : List (BitVec 8)) : Prop where
  subnet : T.toNetwork cidr = .ok net
  bits : net.bits = 64
  zero : net.HostBitsZero
  parsed : M.parse mac = .ok bytes
  six : bytes.length = 6

def interfaceID (a : Addr) : List (BitVec 8) := [a 8, a 9, a 10, a 11, a 12, a 13, a 14, a 15]

structure EUIRight (cidr mac : String) : Prop where
  address : ∀ net bytes, Denotes T M cidr mac net bytes → ∃ text a m₀ m₁ m₂ m₃ m₄ m₅,
    generateEUI64Address T M cidr mac = .ok text ∧ T.toAddr text = .ok a ∧ net.Mem a ∧
      bytes = [m₀, m₁, m₂, m₃, m₄, m₅] ∧ interfaceID a = [m₀ ^^^ 2, m₁, m₂, 0xFF, 0xFE, m₃, m₄, m₅]
  distinct : ∀ cidr' mac' net net' bytes bytes', Denotes T M cidr mac net bytes →
    Denotes T M cidr' mac' net' bytes' →
    generateEUI64Address T M cidr mac = generateEUI64Address T M cidr' mac' → net = net' ∧
    bytes = bytes'
  refused : (∀ bytes, M.parse mac = .ok bytes → bytes.length ≠ 6) →
    ∃ e, generateEUI64Address T M cidr mac = .error e

variable {T M} {cidr cidr' mac mac' : String} {net net' : Network} {bytes bytes' : List (BitVec 8)}

lemma six_bytes (h : bytes.length = 6) : ∃ m₀ m₁ m₂ m₃ m₄ m₅, bytes = [m₀, m₁, m₂, m₃, m₄, m₅] := by
  match bytes, h with
  | [m₀, m₁, m₂, m₃, m₄, m₅], _ => exact ⟨m₀, m₁, m₂, m₃, m₄, m₅, rfl⟩

lemma Denotes.address (h : Denotes T M cidr mac net bytes) : ∃ text a m₀ m₁ m₂ m₃ m₄ m₅,
    generateEUI64Address T M cidr mac = .ok text ∧ T.toAddr text = .ok a ∧
      (∀ k : Fin 16, k.val < 8 → a k = net.addr k) ∧
      bytes = [m₀, m₁, m₂, m₃, m₄, m₅] ∧
        interfaceID a = [m₀ ^^^ 2, m₁, m₂, 0xFF, 0xFE, m₃, m₄, m₅] := by
  obtain ⟨m₀, m₁, m₂, m₃, m₄, m₅, rfl⟩ := six_bytes h.six
  refine ⟨_, fun k => if k.val < 8 then net.addr k else (eui64 [m₀, m₁, m₂, m₃, m₄, m₅]).getD
    (k.val - 8) 0, m₀, m₁, m₂, m₃, m₄, m₅, ?_, T.toAddr_ofAddr _, fun k hk => if_pos hk, rfl, rfl⟩
  unfold generateEUI64Address
  rw [h.subnet]
  dsimp only
  rw [h.parsed]

lemma Denotes.distinct (h : Denotes T M cidr mac net bytes)
    (h' : Denotes T M cidr' mac' net' bytes')
    (hsame : generateEUI64Address T M cidr mac = generateEUI64Address T M cidr' mac') :
    net = net' ∧ bytes = bytes' := by
  obtain ⟨text, a, m₀, m₁, m₂, m₃, m₄, m₅, hgen, haddr, hhigh, rfl, hlow⟩ := h.address
  obtain ⟨text', a', m0', m1', m2', m3', m4', m5', hgen', haddr', hhigh', rfl, hlow'⟩ := h'.address
  cases hgen.symm.trans (hsame.trans hgen')
  cases haddr.symm.trans haddr'
  constructor
  · have haddrs : net.addr = net'.addr := by
      funext k
      by_cases hk : k.val < 8
      · rw [← hhigh k hk, hhigh' k hk]
      · rw [h.zero.byte (by rw [h.bits]; omega), h'.zero.byte (by rw [h'.bits]; omega)]
    obtain ⟨addr, bits⟩ := net
    obtain ⟨addr', bits'⟩ := net'
    exact Network.mk.injEq .. ▸ ⟨haddrs, h.bits.trans h'.bits.symm⟩
  · simpa using hlow.symm.trans hlow'

end

/-- **Addresses are made of subnets and MACs of six bytes, exactly for texts that are no longer
MAC.** -/
theorem eui_right_iff (T : Text) (M : MACText) (cidr mac : String) : EUIRight T M cidr mac ↔
    ∀ net bytes, T.toNetwork cidr = .ok net → M.parse mac = .ok bytes → bytes.length = 6 := by
  constructor
  · intro h net bytes hnet hmac
    by_contra hsix
    obtain ⟨e, he⟩ := h.refused fun b hb => by cases hmac.symm.trans hb; exact hsix
    unfold generateEUI64Address at he
    rw [hnet] at he
    dsimp only at he
    rw [hmac] at he
    cases he
  · intro h
    refine ⟨fun net bytes hd => ?_, fun _ _ _ _ _ _ hd hd' => hd.distinct hd', fun hnot => ?_⟩
    · obtain ⟨text, a, m₀, m₁, m₂, m₃, m₄, m₅, hgen, haddr, hhigh, hbytes, hlow⟩ := hd.address
      refine ⟨text, a, m₀, m₁, m₂, m₃, m₄, m₅, hgen, haddr, fun i hi => ?_, hbytes, hlow⟩
      rw [hd.bits] at hi
      exact bit_of_byte (by omega) (hhigh _ (by show i / 8 < 8; omega))
    · unfold generateEUI64Address
      cases hnet : T.toNetwork cidr with
      | error e => exact ⟨_, rfl⟩
      | ok net =>
        cases hmac : M.parse mac with
        | error e => exact ⟨_, rfl⟩
        | ok bytes => exact absurd (h net bytes hnet hmac) (hnot bytes hmac)

/-- bytes of two digits with colons -/
def macBytes (l : List Char) : List (BitVec 8) :=
  (List.range ((l.length + 1) / 3)).map fun k => Text.byteAt l (3 * k)

def MACText.plain : MACText where
  parse s :=
    if (macBytes s.toList).length ∈ [6, 8, 20] ∧
      [':'].intercalate ((macBytes s.toList).map Text.hex) = s.toList
    then .ok (macBytes s.toList)
    else .error ("address " ++ s ++ ": invalid MAC address")
  length s mac h := by
    split at h
    · rename_i hlen
      cases h
      simpa using hlen.1
    · cases h

/-- A MAC of eight bytes is cut. -/
theorem eui_of_eight : ¬ EUIRight Text.plain MACText.plain (Text.plain.ofNetwork ⟨fun _ => 0, 64⟩)
    "02:00:5e:10:00:00:00:01" := by
  intro h
  obtain ⟨e, he⟩ := h.refused fun bytes hb => by cases hb; decide
  unfold generateEUI64Address at he
  rw [Text.plain.toNetwork_ofNetwork (by decide)] at he
  cases he

end VirtueStack.Agent
