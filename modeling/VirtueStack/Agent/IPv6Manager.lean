import VirtueStack.Net.Text
import VirtueStack.Shared.Format
import VirtueStack.Shared.Json
import Mathlib.Data.List.AList
import Mathlib.Data.List.Sort
import Mathlib.Data.String.Basic

/-!
# The IPv6 manager of a node agent (nodeagent/network/ipv6.go)

The agent gives each VM a /64 subnet of the /48 prefix of its node. It keeps the indices in memory
and one file for each VM, from which it reads them when it starts.

* `IPv6Manager` the state in memory, `StatusDir` the directory of the files;
* `allocateVMSubnet`, `releaseVMSubnet`, `getVMSubnet` the calls. Each looks for the VM in the map,
  in the order in which Go happens to iterate over it, which is an argument here.

The id of a VM is a UUID: with the suffix it is the name of one file. A directory is read in the
order of the names. The files can be read, written and removed.
-/

namespace VirtueStack.Agent
open Net

def ipv6StatusSuffix : String := ".status"
def ipv6VMSubnetLen : Nat := 64
def ipv6MaxSubnets : Nat := 65536

/-- the id of a VM, which is a part of the name of a file -/
structure VMID where
  text : String
  isFileName : '/' ∉ text.toList

structure IPv6Subnet where
  vmID : String
  subnet : String
  gateway : String
  prefixLen : Nat
  index : Int
  deriving DecidableEq

structure IPv6Info where
  vmID : String
  subnet : String
  gateway : String
  addresses : List String

namespace IPv6Info

def tags : List String := ["vm_id", "subnet", "gateway", "addresses"]

def marshal (info : IPv6Info) : Json :=
  .obj [("vm_id", .str info.vmID), ("subnet", .str info.subnet), ("gateway", .str info.gateway),
    ("addresses", .arr (info.addresses.map .str))]

def unmarshal (doc : Json) : Except GoError IPv6Info := do
  let members ← doc.members
  let vmID ← stringField tags members "vm_id"
  let subnet ← stringField tags members "subnet"
  let gateway ← stringField tags members "gateway"
  let addresses ← stringsField tags members "addresses"
  return ⟨vmID, subnet, gateway, addresses⟩

end IPv6Info

/-- the document in a file, `none` for data that is not JSON -/
abbrev File : Type := Option Json

abbrev StatusDir : Type := AList fun _ : String => File

/-- index -> vmID -/
abbrev SubnetAlloc : Type := AList fun _ : Int => String

structure IPv6Manager where
  nodePrefix : String
  subnetAlloc : SubnetAlloc

def newIPv6Manager : IPv6Manager := ⟨"", ∅⟩

/-! ## the subnet of an index -/

section
variable (T : Text)

variable (nodePrefix : String)

/-- the prefix that is parsed, or the zero of its type -/
def nodeAddr : Addr :=
  match T.toNetwork nodePrefix with
  | .ok pfx => pfx.addr
  | .error _ => fun _ => 0

def buildSubnetFromIndex (vmID : String) (index : Int) : IPv6Subnet :=
  let bytes : Addr := Function.update (Function.update (nodeAddr T nodePrefix) 6
    (BitVec.ofInt 8 (index >>> (8 : Nat)))) 7 (BitVec.ofInt 8 index)
  let gatewayBytes : Addr := Function.update bytes 15 1
  { vmID := vmID
    subnet := T.ofNetwork ⟨bytes, ipv6VMSubnetLen⟩
    gateway := T.ofAddr gatewayBytes
    prefixLen := ipv6VMSubnetLen
    index := index }

/-- `int(bytes[6])<<8 | int(bytes[7])` -/
def extractSubnetIndex (subnet : Network) : Int :=
  if subnet.bits ≠ ipv6VMSubnetLen then -1
  else ((subnet.addr 6).toNat <<< 8 ||| (subnet.addr 7).toNat : Nat)

/-! ## starting -/

def readDir (dir : StatusDir) : List (Σ _ : String, File) :=
  dir.entries.insertionSort fun a b => a.1 ≤ b.1

def readSubnet (file : File) : Option Network :=
  match file with
  | none => none
  | some doc =>
    match IPv6Info.unmarshal doc with
    | .error _ => none
    | .ok info => (T.toNetwork info.subnet).toOption

def loadEntry (alloc : SubnetAlloc) (entry : Σ _ : String, File) : SubnetAlloc :=
  if ¬ hasSuffix entry.1 ipv6StatusSuffix then alloc
  else
    match readSubnet T entry.2 with
    | none => alloc
    | some subnet =>
      if 0 ≤ extractSubnetIndex subnet then
        alloc.insert (extractSubnetIndex subnet) (trimSuffix entry.1 ipv6StatusSuffix)
      else alloc

def loadExistingAllocations (dir : StatusDir) (alloc : SubnetAlloc) : SubnetAlloc :=
  (readDir dir).foldl (loadEntry T) alloc

def initializeManager (dir : StatusDir) (m : IPv6Manager) : IPv6Manager :=
  { m with subnetAlloc := loadExistingAllocations T dir m.subnetAlloc }

def setNodePrefix (m : IPv6Manager) : Except GoError IPv6Manager :=
  match T.toNetwork nodePrefix with
  | .error e => .error (.wrap ("invalid prefix " ++ nodePrefix) (.new e))
  | .ok _ => .ok { m with nodePrefix := nodePrefix }

/-! ## the calls -/

variable (order : List (Σ _ : Int, String))

/-- the first entry for the VM, in the order of the iteration -/
def existing (vmID : String) : Option Int :=
  (order.find? fun entry => entry.2 = vmID).map (·.1)

/-- the loop over the indices from `i` on -/
def nextFree (alloc : SubnetAlloc) : Nat → Nat → Option Nat
  | 0, _ => none
  | n + 1, i => if (alloc.lookup (i : Int)).isSome then nextFree alloc n (i + 1) else some i

def chooseIndex (alloc : SubnetAlloc) (subnetIndex : Int) : Except GoError Int :=
  if 0 ≤ subnetIndex then
    if ipv6MaxSubnets ≤ subnetIndex then
      .error (.new ("subnet index " ++ toString subnetIndex ++ " out of range (max " ++
        toString (ipv6MaxSubnets - 1) ++ ")"))
    else
      match alloc.lookup subnetIndex with
      | some vmID => .error (.new ("subnet index " ++ toString subnetIndex ++
          " already allocated to VM " ++ vmID))
      | none => .ok subnetIndex
  else
    match nextFree alloc ipv6MaxSubnets 0 with
    | some index => .ok index
    | none => .error (.new "no available subnets in node's /48")

def statusFileName (vmID : String) : String := vmID ++ ipv6StatusSuffix

def saveStatus (vmID : String) (info : IPv6Info) (dir : StatusDir) : StatusDir :=
  dir.insert (statusFileName vmID) (some info.marshal)

/-- the memory of the agent and its files -/
structure State where
  manager : IPv6Manager
  dir : StatusDir

def State.allocate (s : State) (vmID : String) (index : Int) : Except GoError IPv6Subnet × State :=
  let subnet := buildSubnetFromIndex T s.manager.nodePrefix vmID index
  (.ok subnet,
    { manager := { s.manager with subnetAlloc := s.manager.subnetAlloc.insert index vmID }
      dir := saveStatus vmID ⟨vmID, subnet.subnet, subnet.gateway, []⟩ s.dir })

def allocateVMSubnet (vmID : String) (subnetIndex : Int) (s : State) :
    Except GoError IPv6Subnet × State :=
  match existing order vmID with
  | some index => (.ok (buildSubnetFromIndex T s.manager.nodePrefix vmID index), s)
  | none =>
    if s.manager.nodePrefix = "" then
      (.error (.wrap "node prefix not configured" (.sentinel .notFound)), s)
    else
      match chooseIndex s.manager.subnetAlloc subnetIndex with
      | .error e => (.error e, s)
      | .ok index => s.allocate T vmID index

def releaseVMSubnet (vmID : String) (s : State) : State :=
  match existing order vmID with
  | some index =>
    { manager := { s.manager with subnetAlloc := s.manager.subnetAlloc.erase index }
      dir := s.dir.erase (statusFileName vmID) }
  | none => s

def getVMSubnet (vmID : String) (s : State) : Except GoError IPv6Subnet :=
  match existing order vmID with
  | some index => .ok (buildSubnetFromIndex T s.manager.nodePrefix vmID index)
  | none => .error (.wrap ("no subnet allocated for VM " ++ vmID) (.sentinel .notFound))

/-! ## runs -/

/-- a new manager on the files that are there, and then the prefix -/
def restart (dir : StatusDir) : State :=
  match setNodePrefix T nodePrefix (initializeManager T dir newIPv6Manager) with
  | .ok m => ⟨m, dir⟩
  | .error _ => ⟨initializeManager T dir newIPv6Manager, dir⟩

inductive Op where
  | allocate (vmID : VMID) (subnetIndex : Int)
  | release (vmID : VMID)
  | get (vmID : VMID)
  | restart

/-- the outcome, for the calls that return a subnet -/
abbrev Out : Type := Option (Except GoError IPv6Subnet)

def step (order : List (Σ _ : Int, String)) (s : State) : Op → Out × State
  | .allocate vmID subnetIndex =>
    (some (allocateVMSubnet T order vmID.text subnetIndex s).1,
      (allocateVMSubnet T order vmID.text subnetIndex s).2)
  | .release vmID => (none, releaseVMSubnet order vmID.text s)
  | .get vmID => (some (getVMSubnet T order vmID.text s), s)
  | .restart => (none, restart T nodePrefix s.dir)

/-- a run from the first start of the agent, with the calls and their outcomes -/
inductive Runs (nodePrefix : String) : List (Op × Out) → State → Prop
  | start : Runs nodePrefix [] (restart T nodePrefix ∅)
  | step {calls : List (Op × Out)} {s : State} (order : List (Σ _ : Int, String)) (op : Op) :
      Runs nodePrefix calls s → order.Perm s.manager.subnetAlloc.entries →
      Runs nodePrefix (calls ++ [(op, (Agent.step T nodePrefix order s op).1)])
        (Agent.step T nodePrefix order s op).2

end

end VirtueStack.Agent
