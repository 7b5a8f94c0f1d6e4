import VirtueStack.Compute.Repo

/-!
# The migration service (services/migration_service.go)

* `validateVMState` the VM is on a node and in a status that can be migrated;
* `resolveTargetNode` the node that was asked for, or the best candidate;
* `executeMigration` the status becomes migrating, then the task is published;
* `cancelMigration` the status goes back, whatever the task is doing.

The storage backend id of a VM is not among the columns that are read, so the candidates are
filtered by the storage backend of the node.
-/

namespace VirtueStack.Compute
open Txn Op
open Billing (VMStatus)

structure MigrateVMRequest where
  vmID : String
  targetNodeID : Option String
  live : Bool

structure MigrateVMResult where
  taskID : String
  sourceNodeID : String
  targetNodeID : String
  deriving DecidableEq, Repr

namespace MigrationService

/-! ## the VM -/

def validateVMStatusForMigration (status : VMStatus) (live : Bool) : Except GoError Unit :=
  match status with
  | .running => .ok ()
  | .stopped =>
    if live then .error (.new "cannot perform live migration on a stopped VM") else .ok ()
  | .migrating => .error (.new "VM is already migrating")
  | .provisioning => .error (.new ("cannot migrate VM in status " ++ status.text))
  | .reinstalling => .error (.new ("cannot migrate VM in status " ++ status.text))
  | .suspended =>
    if live then .error (.new "cannot perform live migration on a suspended VM") else .ok ()
  | _ => .error (.new ("VM status " ++ status.text ++ " does not support migration"))

variable (vm : VM)

def sourceOf (live : Bool) : Except GoError String :=
  if vm.isDeleted then .error (.new "VM has been deleted")
  else
    match vm.nodeID with
    | none => .error (.new "VM has no source node assigned")
    | some sourceNodeID =>
      match validateVMStatusForMigration vm.status live with
      | .ok _ => .ok sourceNodeID
      | .error e => .error e

/-- the error of a row that is not there loses its cause -/
def namingMissing (missing context : String) (e : GoError) : GoError :=
  if e.is .notFound then .new missing else .wrap context e

variable (vmID : String)

def getVM : Op VM :=
  replacing (namingMissing ("VM not found: " ++ vmID) "getting VM") (VMRepository.getByID vmID)

def validateVMState (live : Bool) : Op (VM × String) := do
  let vm ← getVM vmID
  let sourceNodeID ← lift (sourceOf vm live)
  return (vm, sourceNodeID)

/-! ## the target -/

variable (targetNodeID : String)

def checkOnline (targetNode : Node) : Except GoError Unit :=
  if targetNode.status = .online then .ok ()
  else .error (.new ("target node " ++ targetNodeID ++ " is not online (status: " ++
    targetNode.status.text ++ ")"))

def getTargetNode : Op Node :=
  replacing (namingMissing ("target node not found: " ++ targetNodeID) "getting target node")
    (NodeRepository.getByID targetNodeID)

variable (sourceNodeID : String)

def checkDistinct : Except GoError Unit :=
  if targetNodeID = sourceNodeID then .error (.new "target node cannot be the same as source node")
  else .ok ()

def validateTargetNode : Op Node := do
  lift (checkDistinct targetNodeID sourceNodeID)
  let targetNode ← getTargetNode targetNodeID
  lift (checkOnline targetNodeID targetNode)
  return targetNode

def fits (node : Node) (vm : VM) : Bool :=
  vm.vcpu ≤ node.totalVCPU - node.allocatedVCPU ∧
    vm.memoryMB ≤ node.totalMemoryMB - node.allocatedMemoryMB

/-- the id of the backend of the VM, and the ids of the Ceph backends of a node, or none if the
query fails -/
abbrev Junction : Type := String × (String → Option (List String))

/-- by the junction table if the VM names its backend, and else by the field of the node -/
def hasStorage (junction : Option Junction) (node : Node) : Bool :=
  match junction with
  | some (storageBackendID, backends) => (backends node.id).any fun ids =>
      ids.contains storageBackendID
  | none => node.storageBackend = "" ∨ node.storageBackend = storageBackendCeph

/-- a node other than the source with the storage of the VM and room for it; the disk of a VM on
QCOW or LVM is local, so such a VM has no candidates -/
def Suits (junction : Option Junction) (sourceNodeID : String) (vm : VM) (node : Node) : Prop :=
  node.id ≠ sourceNodeID ∧ getNodeStorageBackend vm = storageBackendCeph ∧
    hasStorage junction node = true ∧ fits node vm = true

instance (junction : Option Junction) (sourceNodeID : String) (vm : VM) :
    DecidablePred (Suits junction sourceNodeID vm) := fun _ => inferInstanceAs (Decidable (_ ∧ _))

def filterCandidateNodesBy (junction : Option Junction) (nodes : List Node) (sourceNodeID : String)
    (vm : VM) : List Node :=
  nodes.filter fun node => Suits junction sourceNodeID vm node

/-- a VM that was read from its row names no backend -/
def filterCandidateNodes : List Node → String → VM → List Node := filterCandidateNodesBy none

def scoreNode (node sourceNode : Node) : Int :=
  (if sourceNode.locationID.isSome ∧ sourceNode.locationID = node.locationID then 1000 else 0) +
    ((node.totalMemoryMB - node.allocatedMemoryMB) * 999).tdiv node.totalMemoryMB

/-- the first candidate with the highest score, if that is at least 0 -/
def selectBestCandidate (sourceNode : Node) : Option Node × Int → List Node → Option Node
  | (bestNode, _), [] => bestNode
  | (bestNode, bestScore), node :: rest =>
    if bestScore < scoreNode node sourceNode then
      selectBestCandidate sourceNode (some node, scoreNode node sourceNode) rest
    else selectBestCandidate sourceNode (bestNode, bestScore) rest

def noCandidate : GoError :=
  if getNodeStorageBackend vm ≠ storageBackendCeph then
    .new ("VMs with " ++ getNodeStorageBackend vm ++
      " storage backend cannot be migrated between nodes " ++
      "(disk is local to source node); only Ceph VMs support cross-node migration")
  else .new ("no suitable target nodes available with sufficient capacity (need " ++
    toString vm.vcpu ++ " vCPU, " ++ toString vm.memoryMB ++ " MB RAM)")

/-- a nil pointer, where no candidate has a score, ends the request as well -/
def bestCandidate (nodes : List Node) (sourceNode : Node) (sourceNodeID : String) (vm : VM) :
    Except GoError Node :=
  match selectBestCandidate sourceNode (none, -1) (filterCandidateNodes nodes sourceNodeID vm) with
  | some node => .ok node
  | none => .error (noCandidate vm)

def findBestTargetNode (vm : VM) : Op Node := do
  let sourceNode ← wrapping "getting source node" (NodeRepository.getByID sourceNodeID)
  let nodes ← query (.listNodes .online maxPerPage) "listing online nodes: listing nodes"
  lift (bestCandidate nodes sourceNode sourceNodeID vm)

def checkNodeCapacity (node : Node) (vm : VM) : Except GoError Unit :=
  if node.totalVCPU - node.allocatedVCPU < vm.vcpu then
    .error (.new ("insufficient vCPU on target node (available: " ++
      toString (node.totalVCPU - node.allocatedVCPU) ++ ", required: " ++ toString vm.vcpu ++ ")"))
  else if node.totalMemoryMB - node.allocatedMemoryMB < vm.memoryMB then
    .error (.new ("insufficient memory on target node (available: " ++
      toString (node.totalMemoryMB - node.allocatedMemoryMB) ++ " MB, required: " ++
      toString vm.memoryMB ++ " MB)"))
  else .ok ()

def targetNode (requested : Option String) (sourceNodeID : String) (vm : VM) : Op Node :=
  match requested with
  | some targetNodeID => validateTargetNode targetNodeID sourceNodeID
  | none => wrapping "finding target node" (findBestTargetNode sourceNodeID vm)

def resolveTargetNode (req : MigrateVMRequest) (sourceNodeID : String) (vm : VM) : Op Node := do
  let node ← targetNode req.targetNodeID sourceNodeID vm
  wrapping "target node capacity check failed" (lift (checkNodeCapacity node vm))
  return node

/-! ## the request -/

/-- the task has its row, or the status goes back -/
def migrationPublished (sourceNodeID : String) (targetNode : Node) :
    Except GoError String → Op MigrateVMResult
  | .ok taskID => .pure ⟨taskID, sourceNodeID, targetNode.id⟩
  | .error e => do
    logged (VMRepository.updateStatus vm.id vm.status.text)
    Call.fail (.wrap "publishing migration task" e)

def executeMigration (sourceNodeID : String) (sourceNode targetNode : Node) (live : Bool)
    (adminID : String) : Op MigrateVMResult := do
  wrapping "storage backend validation failed"
    (lift (validateStorageBackend (getNodeStorageBackend vm)))
  wrapping "updating VM status to migrating"
    (VMRepository.updateStatus vm.id VMStatus.migrating.text)
  Call.attempt (TaskPublisher.publishTask .vmMigrate
      (migrationTaskPayload vm sourceNodeID sourceNode targetNode live adminID))
    (migrationPublished vm sourceNodeID targetNode)

def migrateVM (req : MigrateVMRequest) (adminID : String) : Op MigrateVMResult := do
  let source ← validateVMState req.vmID req.live
  let sourceNode ← wrapping "getting source node" (NodeRepository.getByID source.2)
  let targetNode ← resolveTargetNode req source.2 source.1
  executeMigration source.1 source.2 sourceNode targetNode req.live adminID

/-! ## the way back -/

/-- the struct `CancelMigration` decodes a payload into -/
structure CancelPayload where
  vmID : String
  preMigrationState : String

def CancelPayload.decode (doc : Json) : Except GoError CancelPayload := do
  let members ← doc.members
  return {
    vmID := ← stringField ["vm_id", "pre_migration_state"] members "vm_id"
    preMigrationState :=
    ← stringField ["vm_id", "pre_migration_state"] members "pre_migration_state" }

/-- the status before the first migration of the VM in the list -/
def statusBefore (vmID : String) : List Task → String
  | [] => VMStatus.running.text
  | task :: rest =>
    match CancelPayload.decode task.payload with
    | .error _ => statusBefore vmID rest
    | .ok payload =>
      if payload.vmID ≠ vmID then statusBefore vmID rest
      else if payload.preMigrationState ≠ "" then payload.preMigrationState
      else VMStatus.running.text

def restoreStatus : Op String :=
  Call.attempt (query (.listTasks .vmMigrate) "listing tasks") fun
    | .ok tasks => .pure (statusBefore vmID tasks)
    | .error _ => .pure VMStatus.running.text

def abortMigration (vm : VM) (vmID : String) : Op Unit :=
  match vm.nodeID with
  | some nodeID => logged (NodeAgent.call nodeID (.abortMigration vmID))
  | none => .pure ()

def checkMigrating : Except GoError Unit :=
  if vm.status = .migrating then .ok ()
  else .error (.new ("VM is not in migrating status (current: " ++ vm.status.text ++ ")"))

def cancelMigration : Op Unit := do
  let vm ← getVM vmID
  lift (checkMigrating vm)
  abortMigration vm vmID
  let status ← restoreStatus vmID
  wrapping "reverting VM status" (VMRepository.updateStatus vmID status)

end MigrationService

end VirtueStack.Compute
