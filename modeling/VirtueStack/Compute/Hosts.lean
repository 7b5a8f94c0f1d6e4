import VirtueStack.Agent.Host
import VirtueStack.Compute.Models
import Mathlib.Logic.Function.Basic
import Mathlib.Tactic.SplitIfs

/-!
# The hosts: node agents, domains and disks (internal/nodeagent)

What a call to the agent of a node does to the domains of the hypervisor and to the disks.

* `Domain` a domain of libvirt. A running domain whose definition is removed stays until it
  is stopped (`transient`), and a domain does not start without its disk. `domainOf` is what it is
  of a domain on the host of an agent, and libvirt does the same to both;
* `Place` a QCOW file or an LVM volume is on one node, a Ceph image is on all of them;
* `Disk` whether a disk holds the data of its VM, or is left over from before;
* `HostOp` the operations on a host that can fail. `broken` says which ones do in a call;
* `Slot` the domain and the disk a call is about, `Slot.create` is `vm.Manager.CreateVM`;
* `Hosts.createVM`, ... the calls, each with its answer and what it writes.

`TransferDisk` sends the data to the controller, which drops it (services/node_agent_migration.go),
and `ReceiveDisk` has no caller: nothing is written on the target.
-/

namespace VirtueStack.Compute
open Function

inductive Place where
  | shared
  | node (id : String)
  deriving DecidableEq, Repr

/-- where the disk of a VM with this backend is, for a VM on this node -/
def diskPlace (storageBackend node : String) : Place :=
  if storageBackend = storageBackendCeph then .shared else .node node

inductive DomainState where
  | running
  | shutoff
  | transient
  deriving DecidableEq, Repr

structure Domain where
  state : DomainState
  place : Place
  deriving DecidableEq, Repr

inductive Disk where
  | current
  | stale
  deriving DecidableEq, Repr

inductive HostOp where
  | cloudInit
  | clone
  | define
  | start
  | shutdown
  | destroy
  | undefine
  | deleteDisk
  | snapshot
  | read
  | migrate
  | other
  deriving DecidableEq, Repr

/-- the configuration of an agent: its storage, and the paths below its storage path -/
structure HostConfig where
  storageBackend : String
  allowsPath : String → Bool

structure Hosts where
  config : String → HostConfig
  /-- by node and VM -/
  domains : String × String → Option Domain
  /-- by place and VM -/
  disks : Place × String → Option Disk
  /-- by node and VM -/
  snapshots : String × String → List String

inductive HostWrite where
  | domain (node vm : String) (domain : Option Domain)
  | disk (place : Place) (vm : String) (disk : Option Disk)
  | snapshots (node vm : String) (names : List String)
  /-- the disk was read to its end; nothing changes -/
  | sent (vm source target : String)
  deriving DecidableEq

def Hosts.apply (h : Hosts) : HostWrite → Hosts
  | .domain node vm domain => { h with domains := update h.domains (node, vm) domain }
  | .disk place vm disk => { h with disks := update h.disks (place, vm) disk }
  | .snapshots node vm names => { h with snapshots := update h.snapshots (node, vm) names }
  | .sent _ _ _ => h

/-- the answer of an agent, and what it has changed -/
abbrev HostResult : Type := Except String Unit × List HostWrite

/-! ## libvirt -/

/-- `DomainDefineXML`: a domain that runs keeps running -/
def defined (place : Place) : Option Domain → Domain
  | none => ⟨.shutoff, place⟩
  | some d =>
    match d.state with
    | .shutoff => ⟨.shutoff, place⟩
    | .running => ⟨.running, d.place⟩
    | .transient => ⟨.running, d.place⟩

/-- `UndefineFlags` -/
def Domain.undefine (d : Domain) : Option Domain :=
  match d.state with
  | .shutoff => none
  | .running => some { d with state := .transient }
  | .transient => some d

/-- what is left of a domain that ran -/
def Domain.stopped (d : Domain) : Option Domain :=
  match d.state with
  | .transient => none
  | _ => some { d with state := .shutoff }

def Domain.isRunning (d : Domain) : Bool := d.state ≠ .shutoff

section
variable {node : String} {d : Agent.Domain}

def placeOf (node : String) : Agent.Obj → Place
  | .image _ _ => .shared
  | _ => .node node

def domainOf (node : String) (d : Agent.Domain) : Domain where
  state := if d.qemu then if d.isPersistent then .running else .transient else .shutoff
  place := placeOf node d.xml.disk

/-- a process stays with its disk; the new definition is to have it in the same place -/
theorem domainOf_redefine {xml : Agent.DomainXML} {old : Option Agent.Domain}
    (h : ∀ d ∈ old, d.qemu = true → placeOf node d.xml.disk = placeOf node xml.disk) :
    domainOf node (.redefine xml old) = defined (placeOf node xml.disk)
    (old.map (domainOf node)) := by
  cases old with
  | none => rfl
  | some d =>
    have hplace := h d rfl
    cases hq : d.qemu <;> cases hp : d.isPersistent <;>
      simp_all [domainOf, Agent.Domain.redefine, defined]

theorem domainOf_started (hp : d.isPersistent = true) :
    domainOf node d.started = { domainOf node d with state := .running } := by
  simp [domainOf, Agent.Domain.started, hp]

theorem domainOf_stopped (hq : d.qemu = true) :
    d.stopped.map (domainOf node) = (domainOf node d).stopped := by
  cases hp : d.isPersistent <;>
    simp [domainOf, Agent.Domain.stopped, Agent.Domain.new, Domain.stopped, hp, hq]

theorem domainOf_undefined (hp : d.isPersistent = true) :
    d.undefined.map (domainOf node) = (domainOf node d).undefine := by
  cases hq : d.qemu <;> simp [domainOf, Agent.Domain.undefined, Domain.undefine, hp, hq]

end

structure Slot where
  domain : Option Domain
  disk : Option Disk

def Hosts.slot (h : Hosts) (node : String) (place : Place) (vm : String) : Slot :=
  ⟨h.domains (node, vm), h.disks (place, vm)⟩

def Slot.writes (node : String) (place : Place) (vm : String) (s : Slot) : List HostWrite :=
  [.domain node vm s.domain, .disk place vm s.disk]

/-- `Manager.CreateVM` defines the domain and starts it; if the start fails the definition goes -/
def Slot.create (broken : HostOp → Bool) (place : Place) (s : Slot) : Except String Unit × Slot :=
  if broken .define then (.error "defining domain", s)
  else
    let domain := defined place s.domain
    if domain.state = .running ∨ s.disk = none ∨ broken .start = true then
      (.error "starting domain",
        { s with domain := if broken .undefine then some domain else domain.undefine })
    else (.ok (), { s with domain := some { domain with state := .running } })

/-! ## domains -/

section
variable (h : Hosts) (broken : HostOp → Bool) (node vm : String)

def vmRequired : String := "vm_id is required"

def Hosts.startVM : HostResult :=
  if vm = "" then (.error vmRequired, [])
  else
    match h.domains (node, vm) with
    | none => (.error "lookup domain for start", [])
    | some d =>
      if d.isRunning then (.ok (), [])
      else if broken .start = true ∨ h.disks (d.place, vm) = none then
        (.error ("starting VM " ++ vm), [])
      else (.ok (), [.domain node vm (some { d with state := .running })])

/-- a transient domain is gone before its state can be read again -/
def Hosts.stopVM : HostResult :=
  if vm = "" then (.error vmRequired, [])
  else
    match h.domains (node, vm) with
    | none => (.error "lookup domain for stop", [])
    | some d =>
      match d.state with
      | .shutoff => (.ok (), [])
      | .running =>
        if broken .shutdown then (.error ("shutdown timeout for VM " ++ vm), [])
        else (.ok (), [.domain node vm d.stopped])
      | .transient =>
        if broken .shutdown then (.error ("shutdown timeout for VM " ++ vm), [])
        else (.error "checking shutdown state", [.domain node vm d.stopped])

def Hosts.forceStopVM : HostResult :=
  if vm = "" then (.error vmRequired, [])
  else
    match h.domains (node, vm) with
    | none => (.error "lookup domain for force stop", [])
    | some d =>
      if ¬ d.isRunning then (.ok (), [])
      else if broken .destroy then (.error ("force stopping VM " ++ vm), [])
      else (.ok (), [.domain node vm d.stopped])

/-- a domain that is not there is a success; the disk is kept -/
def Hosts.undefineVM : HostResult :=
  if vm = "" then (.error vmRequired, [])
  else
    match h.domains (node, vm) with
    | none => (.ok (), [])
    | some d =>
      match d.state with
      | .shutoff =>
        if broken .undefine then (.error ("undefining VM " ++ vm), [])
        else (.ok (), [.domain node vm none])
      | .running =>
        if broken .destroy then (.error ("destroying running VM " ++ vm), [])
        else if broken .undefine then (.error ("undefining VM " ++ vm), [.domain node vm d.stopped])
        else (.ok (), [.domain node vm none])
      | .transient =>
        if broken .destroy then (.error ("destroying running VM " ++ vm), [])
        else (.error ("undefining VM " ++ vm), [.domain node vm none])

/-! ## disks -/

def Hosts.backendOf (storageBackend : String) : String :=
  if storageBackend ≠ "" then storageBackend
  else if (h.config node).storageBackend ≠ "" then (h.config node).storageBackend
  else storageBackendCeph

structure DeleteVMRequest where
  vmID : String
  storageBackend : String
  diskPath : String

/-- `deleteVMRequestFromModel` -/
def VM.deleteVMRequest (vm : VM) : DeleteVMRequest :=
  ⟨vm.id, vm.storageBackend, vm.diskPath.getD ""⟩

section
variable (req : DeleteVMRequest)

/-- a disk that is not there is a success, and so is a backend the agent does not know -/
def Hosts.removeDisk : HostResult :=
  let backend := h.backendOf node req.storageBackend
  if backend = storageBackendQcow ∧ req.diskPath ≠ "" ∧
    (h.config node).allowsPath req.diskPath = false
  then (.error "invalid disk_path", [])
  else if backend ∈ [storageBackendCeph, storageBackendQcow, storageBackendLvm] then
    if broken .deleteDisk then (.error "deleting disk", [])
    else (.ok (), [.disk (diskPlace backend node) req.vmID none])
  else (.ok (), [])

def Hosts.deleteDisk : HostResult :=
  if req.vmID = "" then (.error vmRequired, []) else h.removeDisk broken node req

def Hosts.deleteVM : HostResult :=
  match h.undefineVM broken node req.vmID with
  | (.error e, ws) => (.error e, ws)
  | (.ok _, ws) => ((h.removeDisk broken node req).1, ws ++ (h.removeDisk broken node req).2)

end

/-! ## a new VM -/

structure CreateVMRequest where
  vmID : String
  vcpu : Int
  memoryMB : Int
  diskGB : Int
  storageBackend : String
  templateFilePath : String
  templateRBDImage : String
  templateRBDSnapshot : String

/-- the disk of the new VM; a template is not cloned over a disk that is there -/
def cloned (disk : Option Disk) : Except String (Option Disk) :=
  if broken .clone ∨ disk.isSome then .error "cloning template" else .ok (some .current)

variable (req : CreateVMRequest)

def Hosts.cloneDisk (backend : String) (disk : Option Disk) :
    Except String (Option Disk) :=
  if backend = storageBackendQcow then
    if req.templateFilePath = "" then
      .error "template_file_path is required for qcow storage backend"
    else if (h.config node).allowsPath req.templateFilePath = false then
      .error "invalid template_file_path"
    else cloned broken disk
  else if backend = storageBackendCeph then
    if req.templateRBDImage ≠ "" ∧ req.templateRBDSnapshot ≠ "" then
      cloned broken disk else .ok disk
  else if backend = storageBackendLvm then
    if req.templateFilePath = "" then
      .error "template_file_path is required for lvm storage backend"
    else cloned broken disk
  else .error ("unsupported storage backend: " ++ backend)

def validateCreate : Except String Unit :=
  if req.vmID = "" then .error vmRequired
  else if req.vcpu ≤ 0 then .error "vcpu must be positive"
  else if req.memoryMB ≤ 0 then .error "memory_mb must be positive"
  else if req.diskGB ≤ 0 then .error "disk_gb must be positive"
  else if req.storageBackend ∈ ["", storageBackendCeph, storageBackendQcow, storageBackendLvm] then
    .ok ()
  else .error ("invalid storage_backend: " ++ req.storageBackend)

/-- the domain and the disk after a call that cloned the disk; a failure deletes the disk -/
def Slot.provision (place : Place) (s : Slot) : Except String Unit × Slot :=
  match s.create broken place with
  | (.ok _, s') => (.ok (), s')
  | (.error e, s') =>
    (.error e, if broken .deleteDisk then s' else { s' with disk := none })

def Hosts.createVM : HostResult :=
  match validateCreate req with
  | .error e => (.error e, [])
  | .ok _ =>
    let backend := h.backendOf node req.storageBackend
    let place := diskPlace backend node
    let s := h.slot node place req.vmID
    if broken .cloudInit then (.error "generating cloud-init", [])
    else
      match h.cloneDisk broken node req backend s.disk with
      | .error e => (.error e, [])
      | .ok disk =>
        (({ s with disk := disk } : Slot).provision broken place).map id fun s' =>
          s'.writes node place req.vmID

/-! ## migrations -/

/-- the snapshot gets a name of its own, whatever name was asked for -/
def Hosts.createSnapshot (fresh name : String) : HostResult :=
  if vm = "" then (.error vmRequired, [])
  else if name = "" then (.error "name is required", [])
  else if broken .snapshot then (.error "creating snapshot", [])
  else (.ok (), [.snapshots node vm (h.snapshots (node, vm) ++ [fresh])])

def Hosts.deleteSnapshot (name : String) : HostResult :=
  if vm = "" ∨ name = "" then (.error "vm_id and snapshot_id are required", [])
  else if name ∈ h.snapshots (node, vm) then
    if broken .snapshot then (.error "deleting snapshot", [])
    else (.ok (), [.snapshots node vm ((h.snapshots (node, vm)).filter fun other => other ≠ name)])
  else (.error "snapshot not found", [])

/-- `vmID` is the VM whose disk the path of the source names -/
structure DiskTransferOptions where
  vmID : String
  sourceNodeID : String
  targetNodeID : String
  sourceDiskPath : String
  targetDiskPath : String
  sourceStorageBackend : String
  snapshotName : String
  deriving DecidableEq, Repr

/-- the disk is read from beginning to end, and that is all -/
def Hosts.transferDisk (opts : DiskTransferOptions) : HostResult :=
  let source := opts.sourceNodeID
  let backend := h.backendOf source opts.sourceStorageBackend
  if opts.sourceDiskPath = "" then (.error "source_disk_path is required", [])
  else if backend ≠ storageBackendLvm ∧
    (h.config source).allowsPath opts.sourceDiskPath = false then
    (.error "invalid source_disk_path", [])
  else if opts.snapshotName ≠ "" ∧ opts.snapshotName ∉ h.snapshots (source, opts.vmID) then
    (.error "exporting snapshot", [])
  else if broken .read ∨ h.disks (.node source, opts.vmID) = none then
    (.error "opening source disk", [])
  else (.ok (), [.sent opts.vmID source opts.targetNodeID])

/-- the domain is created over the disk that is there; an LVM volume gets no path -/
def Hosts.prepareMigratedVM (storageBackend diskPath : String) : HostResult :=
  let backend := h.backendOf node storageBackend
  let place := diskPlace backend node
  if vm = "" then (.error vmRequired, [])
  else if diskPath = "" then (.error "disk_path is required", [])
  else if (h.config node).allowsPath diskPath = false then (.error "invalid disk_path", [])
  else if backend = storageBackendLvm then
    (.error "missing LVMDiskPath for lvm storage backend", [])
  else ((h.slot node place vm).create broken place).map id fun s => [.domain node vm s.domain]

/-- live migration: the target opens the disk at its own place -/
def Hosts.migrateVM (target : String) : HostResult :=
  if vm = "" then (.error vmRequired, [])
  else
    match h.domains (node, vm) with
    | none => (.error "VM not found", [])
    | some d =>
      let place := if d.place = .shared then .shared else .node target
      if broken .migrate ∨ d.isRunning = false ∨ h.disks (place, vm) = none ∨
          ((h.domains (target, vm)).any Domain.isRunning = true) then
        (.error "migrating VM", [])
      else (.ok (), [.domain node vm none, .domain target vm (some ⟨.running, place⟩)])

def Hosts.unaffected : HostResult :=
  if vm = "" then (.error vmRequired, [])
  else if broken .other then (.error "operation failed", [])
  else (.ok (), [])

/-- `ReinstallVM`, with a template for the backend: the disk is deleted and cloned, the domain is
created anew -/
def Hosts.reinstallVM : HostResult :=
  if req.vmID = "" then (.error vmRequired, [])
  else if req.vcpu ≤ 0 then (.error "vcpu must be positive", [])
  else if req.memoryMB ≤ 0 then (.error "memory_mb must be positive", [])
  else
    let backend := h.backendOf node req.storageBackend
    let place := diskPlace backend node
    let stopped := (h.domains (node, req.vmID)).bind fun d =>
      if broken .destroy then some d else d.stopped
    let kept := if broken .deleteDisk then h.disks (place, req.vmID) else none
    if backend = storageBackendCeph ∧
      (req.templateRBDImage = "" ∨ req.templateRBDSnapshot = "") then
      (.error "template_rbd_image and template_rbd_snapshot are required for ceph storage backend",
        [.domain node req.vmID stopped])
    else
      match h.cloneDisk broken node req backend kept with
      | .error e => (.error e, [.domain node req.vmID stopped, .disk place req.vmID kept])
      | .ok disk =>
        let old := if broken .undefine then stopped else none
        (({ domain := old, disk := disk } : Slot).create broken place).map id fun s =>
          s.writes node place req.vmID

end

/-! ## the domain a call leaves -/

section
variable {h : Hosts} {broken : HostOp → Bool} {node vm : String} {place : Place}

def Hosts.after (h : Hosts) (ws : List HostWrite) : Hosts := ws.foldl Hosts.apply h

lemma Hosts.after_append (a b : List HostWrite) : h.after (a ++ b) = (h.after a).after b :=
  List.foldl_append

def Hosts.runs (h : Hosts) (node vm : String) : Prop :=
  ∃ d, h.domains (node, vm) = some d ∧ d.isRunning = true

lemma after_slot_writes (s : Slot) : (h.after (s.writes node place vm)).domains (node, vm) =
    s.domain := by
  show update h.domains (node, vm) s.domain (node, vm) = s.domain
  rw [update_self]

lemma Hosts.removeDisk_domains (h' : Hosts) (req : DeleteVMRequest) :
    (h'.after (h.removeDisk broken node req).2).domains = h'.domains := by
  unfold Hosts.removeDisk
  simp only
  split
  · rfl
  · split
    · split
      · rfl
      · rfl
    · rfl

lemma Hosts.undefineVM_domain (h : Hosts) (node : String) (hb : ∀ op, broken op = false)
    (hv : vm ≠ "") : (h.after (h.undefineVM broken node vm).2).domains (node, vm) = none := by
  unfold Hosts.undefineVM
  rw [if_neg hv]
  cases hd : h.domains (node, vm) with
  | none => exact hd
  | some d =>
    cases hs : d.state <;> simp only [hb, hs]
    · exact update_self _ _ _
    · exact update_self _ _ _
    · exact update_self _ _ _

lemma Hosts.deleteVM_domains (h : Hosts) (req : DeleteVMRequest) :
    (h.after (h.deleteVM broken node req).2).domains =
      (h.after (h.undefineVM broken node req.vmID).2).domains := by
  unfold Hosts.deleteVM
  cases h.undefineVM broken node req.vmID with
  | mk r ws =>
    cases r with
    | error e => rfl
    | ok u =>
      show (h.after (ws ++ (h.removeDisk broken node req).2)).domains = _
      rw [Hosts.after_append, Hosts.removeDisk_domains]

/-- **`DeleteVM` leaves no domain**, if nothing breaks on the host. -/
theorem Hosts.deleteVM_domain {req : DeleteVMRequest} (hb : ∀ op, broken op = false)
    (hv : req.vmID ≠ "") :
    (h.after (h.deleteVM broken node req).2).domains (node, req.vmID) = none := by
  rw [Hosts.deleteVM_domains]
  exact h.undefineVM_domain node hb hv

/-- a domain that runs is there after `DeleteVM` only if a step on the host failed -/
lemma Hosts.deleteVM_running {req : DeleteVMRequest} {d : Domain}
    (hd : h.domains (node, req.vmID) = some d) (hs : d.state = .running) (hv : req.vmID ≠ "") :
    ((h.after (h.deleteVM broken node req).2).domains (node, req.vmID)).isSome = true ↔
      broken .destroy = true ∨ broken .undefine = true := by
  rw [Hosts.deleteVM_domains]
  unfold Hosts.undefineVM
  rw [if_neg hv, hd]
  simp only [hs]
  split_ifs with hdestroy hundefine
  · refine iff_of_true ?_ (.inl hdestroy)
    show (h.domains (node, req.vmID)).isSome = true
    rw [hd]
    rfl
  · refine iff_of_true ?_ (.inr hundefine)
    show (update h.domains (node, req.vmID) d.stopped (node, req.vmID)).isSome = true
    rw [update_self, Domain.stopped, hs]
    rfl
  · refine iff_of_false ?_ (by rintro (h | h) <;> contradiction)
    show ¬ (update h.domains (node, req.vmID) none (node, req.vmID)).isSome = true
    rw [update_self]
    exact nofun

end

/-! ## when a domain is created -/

section
variable (h : Hosts) (broken : HostOp → Bool) (node : String) (req : CreateVMRequest)

/-- the disk a new domain would start with; a template is not cloned over a disk that is there -/
def Hosts.newDisk : Except String (Option Disk) :=
  h.cloneDisk broken node req (h.backendOf node req.storageBackend)
    (h.disks (diskPlace (h.backendOf node req.storageBackend) node, req.vmID))

/-- the request fails before a domain is defined -/
def Hosts.refuses : Prop :=
  validateCreate req ≠ .ok () ∨ broken .cloudInit = true ∨
    (∃ e, h.newDisk broken node req = .error e) ∨ broken .define = true

/-- a domain that does not run cannot be started -/
def Hosts.unstartable : Prop := broken .start = true ∨ h.newDisk broken node req = .ok none

def Hosts.starts : Prop :=
  ¬ h.refuses broken node req ∧ ¬ h.runs node req.vmID ∧ ¬ h.unstartable broken node req

/-- there is no domain after the request -/
def Hosts.vanishes : Prop :=
  (h.refuses broken node req ∧ h.domains (node, req.vmID) = none) ∨
    (¬ h.refuses broken node req ∧ ¬ h.runs node req.vmID ∧ h.unstartable broken node req ∧
      broken .undefine = false)

/-- the answer to the request, and the domain it leaves -/
structure Hosts.Creates (r : HostResult) : Prop where
  ok : r.1 = .ok () ↔ h.starts broken node req
  gone : (h.after r.2).domains (node, req.vmID) = none ↔ h.vanishes broken node req
  running : h.starts broken node req → ∃ d, (h.after r.2).domains (node, req.vmID) = some d ∧
    d.state = .running

variable {h broken node req}

lemma Hosts.creates_refused {r : HostResult} (hr : h.refuses broken node req) (he : r.1 ≠ .ok ())
    (hd : (h.after r.2).domains (node, req.vmID) = h.domains (node, req.vmID)) :
    h.Creates broken node req r where
  ok := iff_of_false he fun h => h.1 hr
  gone := by
    rw [hd]
    exact ⟨fun h => .inl ⟨hr, h⟩, fun h => h.elim And.right fun h => absurd hr h.1⟩
  running h := absurd hr h.1

/-- a domain that runs keeps running without its definition, one that does not run is gone with
it -/
lemma Hosts.defined_cases (h : Hosts) (node v : String) (place : Place) :
    (h.runs node v ∧ (defined place (h.domains (node, v))).state = .running ∧
      (defined place (h.domains (node, v))).undefine ≠ none) ∨
    (¬ h.runs node v ∧ (defined place (h.domains (node, v))).state ≠ .running ∧
      (defined place (h.domains (node, v))).undefine = none) := by
  unfold Hosts.runs
  rcases h.domains (node, v) with _ | ⟨_ | _ | _, place'⟩
  · exact .inr ⟨nofun, nofun, rfl⟩
  · exact .inl ⟨⟨_, rfl, rfl⟩, rfl, nofun⟩
  · exact .inr ⟨by rintro ⟨d, ⟨⟩, ⟨⟩⟩, nofun, rfl⟩
  · exact .inl ⟨⟨_, rfl, rfl⟩, rfl, nofun⟩

lemma Slot.provision_create (broken : HostOp → Bool) (place : Place) (s : Slot) :
    ((s.provision broken place).1 = .ok () ↔ (s.create broken place).1 = .ok ()) ∧
      (s.provision broken place).2.domain = (s.create broken place).2.domain := by
  unfold Slot.provision
  split
  · rename_i s' hs
    rw [hs]
    exact ⟨Iff.rfl, rfl⟩
  · rename_i e s' hs
    rw [hs]
    refine ⟨iff_of_false nofun nofun, ?_⟩
    split <;> rfl

/-- `Manager.CreateVM`, for a request that gets there -/
lemma Hosts.creates_slot {disk : Option Disk} (place : Place)
    (hr : h.refuses broken node req ↔ broken .define = true)
    (hs : h.unstartable broken node req ↔ broken .start = true ∨ disk = none) :
    h.Creates broken node req
      (((⟨h.domains (node, req.vmID), disk⟩ : Slot).provision broken place).map id
      fun s => s.writes node place req.vmID) := by
  obtain ⟨hok, hdomain⟩ := Slot.provision_create broken place ⟨h.domains (node, req.vmID), disk⟩
  have hafter : ∀ s : Slot, (h.after (s.writes node place req.vmID)).domains
    (node, req.vmID) = s.domain :=
    after_slot_writes
  rw [← hafter] at hdomain
  have hstate := h.defined_cases node req.vmID place
  unfold Slot.create at hok hdomain
  dsimp only at hok hdomain
  by_cases hdef : broken .define = true
  · rw [if_pos hdef] at hok hdomain
    exact creates_refused (hr.mpr hdef) (fun h => nomatch hok.mp h) hdomain
  rw [if_neg hdef] at hok hdomain
  by_cases hfails : (defined place (h.domains (node, req.vmID))).state = .running ∨ disk = none ∨
    broken .start = true
  · rw [if_pos hfails] at hok hdomain
    have hstart : h.runs node req.vmID ∨ h.unstartable broken node req := by
      rcases hfails with hrun | hdisk | hbroken
      · exact .inl (hstate.elim And.left fun h => absurd hrun h.2.1)
      · exact .inr (hs.mpr (.inr hdisk))
      · exact .inr (hs.mpr (.inl hbroken))
    have hno : ¬ h.starts broken node req := fun h => hstart.elim h.2.1 h.2.2
    refine ⟨iff_of_false (fun h => nomatch hok.mp h) hno, ?_, fun h => absurd h hno⟩
    rw [Prod.map_snd, hdomain]
    constructor
    · intro hnone
      cases hu : broken .undefine with
      | true => simp [hu] at hnone
      | false =>
        simp only [hu] at hnone
        obtain ⟨hstop, -⟩ := hstate.resolve_left fun h => h.2.2 hnone
        exact .inr ⟨fun h => hdef (hr.mp h), hstop, hstart.resolve_left hstop, hu⟩
    · rintro (⟨hr', -⟩ | ⟨-, hstop, -, hu⟩)
      · exact absurd (hr.mp hr') hdef
      · simp only [hu]
        exact (hstate.resolve_left fun h => hstop h.1).2.2
  · rw [if_neg hfails] at hok hdomain
    have hstop : ¬ h.runs node req.vmID :=
      fun h => hfails (.inl (hstate.resolve_right fun h' => h'.1 h).2.1)
    have hstarts : h.starts broken node req :=
      ⟨fun h => hdef (hr.mp h), hstop, fun h => hfails (.inr ((hs.mp h).symm))⟩
    refine ⟨iff_of_true (hok.mpr rfl) hstarts, iff_of_false ?_ ?_, fun _ => ⟨_, hdomain, rfl⟩⟩
    · rw [Prod.map_snd, hdomain]
      exact nofun
    · rintro (⟨hr', -⟩ | ⟨-, -, hu, -⟩)
      · exact hstarts.1 hr'
      · exact hstarts.2.2 hu

/-- **What `CreateVM` answers, and what becomes of the domain.** -/
theorem Hosts.createVM_creates (h : Hosts) (broken : HostOp → Bool) (node : String)
    (req : CreateVMRequest) : h.Creates broken node req (h.createVM broken node req) := by
  unfold Hosts.createVM
  cases hv : validateCreate req with
  | error e => exact creates_refused (.inl (by rw [hv]; exact nofun)) nofun rfl
  | ok u =>
    simp only
    split_ifs with hi
    · exact creates_refused (.inr (.inl hi)) nofun rfl
    · have hd : h.newDisk broken node req = h.cloneDisk broken node req
        (h.backendOf node req.storageBackend)
        (h.slot node (diskPlace (h.backendOf node req.storageBackend) node) req.vmID).disk := rfl
      rw [← hd]
      cases hdisk : h.newDisk broken node req with
      | error e => exact creates_refused (.inr (.inr (.inl ⟨e, hdisk⟩))) nofun rfl
      | ok disk =>
        refine creates_slot _ ⟨fun hr => ?_, fun hb => .inr (.inr (.inr hb))⟩ ?_
        · rcases hr with hr | hr | ⟨e, hr⟩ | hr
          · exact absurd hv hr
          · exact absurd hr hi
          · cases hdisk.symm.trans hr
          · exact hr
        · unfold Hosts.unstartable
          rw [hdisk, Except.ok.injEq]

/-- **A VM that was created has a domain.** -/
theorem Hosts.createVM_domain (hok : (h.createVM broken node req).1 = .ok ()) :
    ((h.after (h.createVM broken node req).2).domains (node, req.vmID)).isSome = true ∧
      req.vmID ≠ "" := by
  have hc := h.createVM_creates broken node req
  have hstarts := hc.ok.mp hok
  obtain ⟨d, hd, -⟩ := hc.running hstarts
  refine ⟨by rw [hd]; rfl, fun hid => hstarts.1 (.inl ?_)⟩
  unfold validateCreate
  rw [if_pos hid]
  exact nofun

end

end VirtueStack.Compute
