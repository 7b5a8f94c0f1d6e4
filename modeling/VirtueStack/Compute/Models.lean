import VirtueStack.Billing.Models
import VirtueStack.Shared.Errors

/-!
# Virtual machines, nodes and templates (models/vm.go, models/node.go, models/template.go,
models/ip.go)

The rows of the tables, without the columns no modelled function reads or writes.

The statuses and the storage backends reach a task as texts, so their texts are part of the model.
-/

namespace VirtueStack

namespace Billing.VMStatus

def text : VMStatus → String
  | .provisioning => "provisioning"
  | .running => "running"
  | .stopped => "stopped"
  | .suspended => "suspended"
  | .deleting => "deleting"
  | .migrating => "migrating"
  | .reinstalling => "reinstalling"
  | .error => "error"
  | .deleted => "deleted"

def all : List VMStatus :=
  [.provisioning, .running, .stopped, .suspended, .deleting, .migrating, .reinstalling,
    .error, .deleted]

def ofText (s : String) : Option VMStatus := all.find? fun status => status.text = s

lemma ofText_text (status : VMStatus) : ofText status.text = some status := by
  cases status <;> decide

lemma text_of_ofText {s : String} {status : VMStatus} (h : ofText s = some status) :
    status.text = s := by simpa using List.find?_some h

end Billing.VMStatus

namespace Compute
open Billing (VMStatus)

/-- a VM that is deleted is no source of a transition -/
def validVMTransitions : VMStatus → Option (List VMStatus)
  | .provisioning => some [.running, .error]
  | .running => some [.stopped, .suspended, .deleting, .migrating, .reinstalling, .error]
  | .stopped => some [.running, .deleting, .reinstalling, .migrating, .error]
  | .suspended => some [.running, .stopped, .deleting, .migrating]
  | .deleting => some [.deleted, .error]
  | .migrating => some [.running, .stopped, .suspended, .error]
  | .reinstalling => some [.running, .error]
  | .error => some [.stopped, .deleting]
  | .deleted => none

/-- `dst` is in `ValidVMTransitions[src]` -/
def Follows (src dst : VMStatus) : Prop := dst ∈ (validVMTransitions src).getD []

instance (src dst : VMStatus) : Decidable (Follows src dst) :=
  inferInstanceAs (Decidable (_ ∈ _))

/-- the source as a status, if the transition is allowed -/
def validateVMTransition (src : String) (dst : VMStatus) : Except GoError VMStatus :=
  match VMStatus.ofText src with
  | none => .error (.wrap ("unknown VM source status " ++ quoted src ++ " for transition to " ++
      quoted dst.text) (.sentinel .conflict))
  | some status =>
    match validVMTransitions status with
    | none => .error (.wrap ("unknown VM source status " ++ quoted src ++ " for transition to " ++
        quoted dst.text) (.sentinel .conflict))
    | some targets =>
      if dst ∈ targets then .ok status
      else .error (.wrap ("invalid VM transition from " ++ quoted src ++ " to " ++ quoted dst.text)
        (.sentinel .conflict))

/-- **The check accepts the transitions of the table.** -/
theorem validateVMTransition_ok {src : String} {dst status : VMStatus} :
    validateVMTransition src dst = .ok status ↔ status.text = src ∧ Follows status dst := by
  constructor
  · intro h
    unfold validateVMTransition at h
    split at h
    · cases h
    · rename_i st hst
      split at h
      · cases h
      · rename_i targets ht
        split at h
        · rename_i hmem
          cases h
          refine ⟨VMStatus.text_of_ofText hst, ?_⟩
          unfold Follows
          rw [ht]
          exact hmem
        · cases h
  · rintro ⟨rfl, hf⟩
    unfold Follows at hf
    unfold validateVMTransition
    rw [VMStatus.ofText_text]
    cases ht : validVMTransitions status with
    | none => rw [ht] at hf; cases hf
    | some targets =>
      rw [ht] at hf
      have hmem : dst ∈ targets := hf
      simp only [ht, if_pos hmem]

/-! ## rows -/

def storageBackendCeph : String := "ceph"
def storageBackendQcow : String := "qcow"
def storageBackendLvm : String := "lvm"

structure VM where
  id : String
  customerID : String
  nodeID : Option String
  planID : String
  hostname : String
  status : VMStatus
  vcpu : Int
  memoryMB : Int
  diskGB : Int
  portSpeedMbps : Int
  bandwidthLimitGB : Int
  macAddress : String
  templateID : Option String
  externalServiceID : Option Int
  storageBackend : String
  diskPath : Option String
  rbdImage : Option String
  deletedAt : Option Int
  deriving DecidableEq, Repr

def VM.isDeleted (vm : VM) : Bool := vm.deletedAt.isSome

/-- the columns of a query do not include the backend: the field of a VM that was read is nil -/
def VM.storageBackendID (_ : VM) : Option String := none

inductive NodeStatus where
  | online
  | degraded
  | offline
  | draining
  | failed
  deriving DecidableEq, Repr

def NodeStatus.text : NodeStatus → String
  | .online => "online"
  | .degraded => "degraded"
  | .offline => "offline"
  | .draining => "draining"
  | .failed => "failed"

structure Node where
  id : String
  hostname : String
  locationID : Option String
  status : NodeStatus
  totalVCPU : Int
  totalMemoryMB : Int
  allocatedVCPU : Int
  allocatedMemoryMB : Int
  storageBackend : String
  storagePath : String
  cephPool : String
  deriving DecidableEq, Repr

structure Plan where
  id : String
  vcpu : Int
  memoryMB : Int
  diskGB : Int
  portSpeedMbps : Int
  bandwidthLimitGB : Int
  isActive : Bool
  storageBackend : String
  deriving DecidableEq, Repr

structure Template where
  id : String
  rbdImage : String
  rbdSnapshot : String
  minDiskGB : Int
  isActive : Bool
  storageBackend : String
  deriving DecidableEq, Repr

inductive TemplateCacheStatus where
  | pending
  | downloading
  | ready
  | failed
  deriving DecidableEq, Repr

def TemplateCacheStatus.text : TemplateCacheStatus → String
  | .pending => "pending"
  | .downloading => "downloading"
  | .ready => "ready"
  | .failed => "failed"

structure TemplateCacheEntry where
  templateID : String
  nodeID : String
  status : TemplateCacheStatus
  localPath : Option String
  deriving DecidableEq, Repr

inductive StorageType where
  | ceph
  | qcow
  | lvm
  deriving DecidableEq, Repr

/-- a storage backend that is assigned to nodes -/
structure StorageBackend where
  id : String
  name : String
  type : StorageType
  cephPool : Option String
  cephUser : Option String
  cephMonitors : Option String
  storagePath : Option String
  lvmVolumeGroup : Option String
  lvmThinPool : Option String
  healthStatus : String
  deriving DecidableEq, Repr

/-! ## addresses -/

structure IPSet where
  id : String
  locationID : Option String
  ipVersion : Int
  deriving DecidableEq, Repr

inductive IPStatus where
  | available
  | assigned
  | reserved
  | cooldown
  deriving DecidableEq, Repr

structure IPAddress where
  id : String
  ipSetID : String
  address : String
  vmID : Option String
  customerID : Option String
  status : IPStatus
  deriving DecidableEq, Repr

structure IPv6Prefix where
  id : String
  nodeID : String
  deriving DecidableEq, Repr

structure VMIPv6Subnet where
  id : String
  vmID : String
  ipv6PrefixID : String
  subnetIndex : Int
  deriving DecidableEq, Repr

end Compute

end VirtueStack
