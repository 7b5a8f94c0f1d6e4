import VirtueStack.Shared.Errors
import Mathlib

/-!
# Connections of webhook deliveries (shared/util/ssrf.go, tasks/webhook_deliver.go)

* `IP` `net.IP`, four bytes or sixteen; `canonical` is what `To4` makes of it;
* `isPrivateIP` the check of one address, against ranges and single addresses;
* `newSSRFSafeDialContext` the dial function: the address and the port it opens a connection to.

How an address is split and what the resolver answers are parameters.
-/

namespace VirtueStack.Webhook
open List Bool

inductive IP where
  | v4 (a : BitVec 32)
  | v6 (a : BitVec 128)
  deriving DecidableEq

/-- an address that is mapped to IPv6 is the one of four bytes -/
def IP.canonical : IP → IP
  | .v4 a => .v4 a
  | .v6 a => if a.toNat / 2 ^ 32 = 0xffff then .v4 (a.setWidth 32) else .v6 a

/-- `net.IPNet`: an address and the number of bits that belong to the network -/
structure IPNet where
  ip : IP
  ones : Nat

/-- the addresses have one length, and agree on the bits of the network -/
def IPNet.contains (network : IPNet) (ip : IP) : Bool :=
  match network.ip, ip.canonical with
  | .v4 n, .v4 a => a.toNat / 2 ^ (32 - network.ones) = n.toNat / 2 ^ (32 - network.ones)
  | .v6 n, .v6 a => a.toNat / 2 ^ (128 - network.ones) = n.toNat / 2 ^ (128 - network.ones)
  | _, _ => false

def privateRanges : List IPNet :=
  [⟨.v4 0x00000000, 8⟩, ⟨.v4 0x0a000000, 8⟩, ⟨.v4 0xac100000, 12⟩, ⟨.v4 0xc0a80000, 16⟩,
    ⟨.v4 0x7f000000, 8⟩,
    ⟨.v4 0xa9fe0000, 16⟩, ⟨.v4 0x64400000, 10⟩, ⟨.v6 1, 128⟩, ⟨.v6 (0xfc00 <<< 112), 7⟩,
    ⟨.v6 (0xfe80 <<< 112), 10⟩]

/-- 169.254.169.254 and fd00:ec2::254 -/
def metadataIPs : List IP := [.v4 0xa9fea9fe, .v6 0xfd000ec2000000000000000000000254]

def isPrivateIP (ip : IP) : Bool :=
  privateRanges.any (fun network => network.contains ip) || metadataIPs.any fun mip =>
    ip.canonical = mip.canonical

structure Library where
  splitHostPort : String → Except GoError (String × String)
  lookupIPAddr : String → Except GoError (List IP)

def newSSRFSafeDialContext (lib : Library) (addr : String) : Except GoError (IP × String) :=
  match lib.splitHostPort addr with
  | .error e => .error (.wrap ("parsing dial address " ++ quoted addr) e)
  | .ok (host, port) =>
    match lib.lookupIPAddr host with
    | .error e => .error (.wrap ("resolving webhook hostname " ++ quoted host) e)
    | .ok ipAddrs =>
      if ipAddrs.any isPrivateIP then
        .error (.new ("webhook URL resolves to private/internal IP: " ++ addr))
      else match ipAddrs with
        | [] => .error (.new ("no addresses resolved for webhook hostname " ++ quoted host))
        | ip :: _ => .ok (ip, port)

/-! ## internal addresses -/

/-- unspecified, loopback, private, link-local, CGNAT or of the metadata of a cloud -/
def Internal (ip : IP) : Prop :=
  match ip.canonical with
  | .v4 a => a.toNat = 0 ∨ a.toNat / 2 ^ 24 = 127 ∨ a.toNat / 2 ^ 24 = 10 ∨
      a.toNat / 2 ^ 20 = 0xac1 ∨
      a.toNat / 2 ^ 16 = 0xc0a8 ∨ a.toNat / 2 ^ 16 = 0xa9fe ∨ a.toNat / 2 ^ 22 = 0x191 ∨
      a.toNat = 0xa9fea9fe
  | .v6 a => a.toNat = 0 ∨ a.toNat = 1 ∨ a.toNat / 2 ^ 121 = 0x7e ∨ a.toNat / 2 ^ 118 = 0x3fa ∨
      a.toNat = 0xfd000ec2000000000000000000000254

lemma eq_v6_of_canonical {ip : IP} {a : BitVec 128} (h : ip.canonical = .v6 a) : ip = .v6 a := by
  unfold IP.canonical at h
  split at h
  · cases h
  · split at h
    · cases h
    · exact h

/-- the check misses no internal address but one -/
lemma isPrivateIP_of_internal {ip : IP} (h : Internal ip) (hne : ip ≠ .v6 0) :
    isPrivateIP ip = true := by
  unfold Internal at h
  refine or_eq_true_iff.mpr (.inl ?_)
  cases hc : ip.canonical with
  | v4 a =>
    rw [hc] at h
    simp [privateRanges, IPNet.contains, hc]
    omega
  | v6 a =>
    have hzero : a.toNat ≠ 0 := by
      intro hzero
      rw [eq_v6_of_canonical hc, BitVec.eq_of_toNat_eq (y := 0) hzero] at hne
      exact hne rfl
    rw [hc] at h
    simp [privateRanges, IPNet.contains, hc]
    omega

lemma internal_unspecified : Internal (.v6 0) ∧ isPrivateIP (.v6 0) = false := ⟨.inl rfl, by decide⟩

/-! ## the function -/

/-- a connection goes to an address of the list that the resolver has answered, and to no internal
one -/
def DialsSafely (lib : Library) (addr : String) : Prop :=
  ∀ ip port, newSSRFSafeDialContext lib addr = .ok (ip, port) →
    (∃ host ipAddrs, lib.splitHostPort addr = .ok (host, port) ∧
      lib.lookupIPAddr host = .ok ipAddrs ∧ ip ∈ ipAddrs) ∧ ¬ Internal ip

lemma dial_eq_ok {lib : Library} {addr port : String} {ip : IP} :
    newSSRFSafeDialContext lib addr = .ok (ip, port) ↔
      ∃ host rest, lib.splitHostPort addr = .ok (host, port) ∧
      lib.lookupIPAddr host = .ok (ip :: rest) ∧ (ip :: rest).any isPrivateIP = false := by
  unfold newSSRFSafeDialContext
  constructor
  · intro h
    split at h
    · cases h
    · rename_i host port' hsplit
      split at h
      · cases h
      · rename_i ipAddrs hlookup
        split at h
        · cases h
        · rename_i hpublic
          split at h
          · cases h
          · cases h
            exact ⟨host, _, hsplit, hlookup, eq_false_iff.mpr hpublic⟩
  · rintro ⟨host, rest, hsplit, hlookup, hpublic⟩
    rw [hsplit]
    dsimp only
    rw [hlookup]
    dsimp only
    rw [hpublic]
    rfl

/-- **Webhook connections reach no internal address, but for `::`.** That one gets through exactly
if it comes first and no other address of the list is refused. -/
theorem dialsSafely_iff (lib : Library) (addr : String) :
    DialsSafely lib addr ↔ ∀ host port rest, lib.splitHostPort addr = .ok (host, port) →
      lib.lookupIPAddr host = .ok (.v6 0 :: rest) → rest.any isPrivateIP = true := by
  constructor
  · intro h host port rest hsplit hlookup
    by_contra hrest
    have hpublic : (IP.v6 0 :: rest).any isPrivateIP = false := by
      rw [any_cons, internal_unspecified.2, eq_false_iff.mpr hrest]
      rfl
    exact (h _ port (dial_eq_ok.mpr ⟨host, rest, hsplit, hlookup, hpublic⟩)).2 internal_unspecified.1
  · intro h ip port hdial
    obtain ⟨host, rest, hsplit, hlookup, hpublic⟩ := dial_eq_ok.mp hdial
    refine ⟨⟨host, _, hsplit, hlookup, mem_cons_self⟩, fun hint => ?_⟩
    obtain ⟨hip, hrest⟩ := or_eq_false_iff.mp (any_cons.symm.trans hpublic)
    by_cases hzero : ip = .v6 0
    · subst hzero
      exact false_ne_true (hrest.symm.trans (h host port rest hsplit hlookup))
    · exact false_ne_true (hip.symm.trans (isPrivateIP_of_internal hint hzero))

/-- a host name whose one address is `::` -/
def unspecifiedHost : Library := ⟨fun _ => .ok ("hook.example", "80"), fun _ => .ok [.v6 0]⟩

theorem dials_unspecified : ¬ DialsSafely unspecifiedHost "hook.example:80" :=
  fun h => (h (.v6 0) "80" (by decide)).2 internal_unspecified.1

end VirtueStack.Webhook
