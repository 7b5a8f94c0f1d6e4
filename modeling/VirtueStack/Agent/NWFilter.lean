import Mathlib

/-!
# The anti-spoofing filter (nodeagent/network/nwfilter_helpers.go)

Addresses are compared by their texts. A rule applies to an outgoing packet if all the elements in
it do.
-/

namespace VirtueStack.Agent.NWFilter
open List

inductive Network
  | arp (senderMAC senderIP : String)
  | ipv4 (src : String)
  | ipv6 (src : String)
  | other
  deriving DecidableEq

inductive Transport
  | udp (src dst : Nat)
  | icmpv6 (type : Nat)
  | other
  deriving DecidableEq

structure Packet where
  srcMAC : String
  network : Network
  transport : Transport

structure Rule where
  accept : Bool
  priority : Nat
  applies : Packet → Bool

variable (mac : String) (ipv4s ipv6s : List String) (p : Packet)

/-- of the rules that apply, one with the smallest priority accepts the packet -/
def Accepts (rules : List Rule) : Prop :=
  ∃ r ∈ rules, r.accept = true ∧ r.applies p = true ∧ ∀ r' ∈ rules, r'.applies p = true →
    r.priority ≤ r'.priority

/-- the packet comes from an address whose rule is not behind the one that drops everything -/
def Listed : Prop :=
  (∃ i src, i ≤ 900 ∧ ipv4s[i]? = some src ∧ src ≠ "" ∧ p.network = .ipv4 src) ∨
  ∃ i src, i ≤ 800 ∧ ipv6s[i]? = some src ∧ src ≠ "" ∧ p.network = .ipv6 src

variable {mac ipv4s ipv6s p}

end VirtueStack.Agent.NWFilter
