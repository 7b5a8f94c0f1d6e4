import VirtueStack.Compute.Migration

/-!
# Failover and evacuation (services/failover_service.go, services/node_service.go,
services/node_agent_migration.go)

* `FailoverService.approveFailover` the VMs of a node that has failed go to the nodes that survive;
* `FailoverService.migrateVM` one VM: its node, its status, and the counters of both nodes;
* `NodeAgent.evacuateNode` the running VMs of a node are started elsewhere.

Both lists of the nodes that could take a VM are asked for without a page size, which is a page of
no nodes.

The commands that fence a node are arguments, and those that remove the locks of its images are left
out, like the notifications and the records of a failover. The VMs of an evacuation are taken one
after the other.
-/

namespace VirtueStack.Compute
open Txn Op
open Billing (VMStatus)

structure MigratedVM where
  vmID : String
  hostname : String
  oldNodeID : String
  newNodeID : String
  newNodeName : String
  deriving DecidableEq, Repr

structure FailedMigration where
  vmID : String
  hostname : String
  error : String
  deriving DecidableEq, Repr

structure FailoverResult where
  nodeID : String
  nodeHostname : String
  totalVMs : Nat
  migratedVMs : List MigratedVM
  failedMigrations : List FailedMigration
  stonithExecuted : Bool
  blocklistAdded : Bool
  deriving DecidableEq, Repr

/-- the storage backends by their ids, and the nodes they are assigned to -/
structure StorageAssignments where
  /-- none where the backend is not found -/
  backendType : String → Option StorageType
  assigned : String → Node → Bool

/-- the columns of a node that nothing but a failover reads -/
structure FailoverColumns where
  consecutiveHeartbeatMisses : Int
  managementIP : String
  ipmiAddress : Option String
  ipmiUsernameEncrypted : Option String
  ipmiPasswordEncrypted : Option String

/-- what the libraries and the commands of a failover say -/
structure Commands where
  /-- the text of the address, if the text is one -/
  parseIP : String → Option String
  decrypt : String → Except GoError String
  /-- `ipmitool ... power off`, with the address, the user and the password -/
  powerOff : String → String → String → Except GoError Unit
  /-- the context is cancelled while the node powers off -/
  cancelled : Option GoError
  /-- `ceph osd blocklist add` -/
  blocklistAdd : String → Except GoError Unit

namespace FailoverService

/-! ## fencing -/

def noIPMIConfigured : GoError := .new "IPMI not configured for this node"

variable (commands : Commands)

def checkIPMIAddress : Option String → Except GoError String
  | none => .error noIPMIConfigured
  | some address =>
    if address = "" then .error noIPMIConfigured
    else if (commands.parseIP address).isNone then
      .error (.new ("invalid IPMI address format: " ++ address))
    else .ok address

def decrypting (commands : Commands) (what ciphertext : String) : Except GoError String :=
  (commands.decrypt ciphertext).mapError (.wrap ("decrypting IPMI " ++ what))

def waited : Except GoError Unit :=
  match commands.cancelled with
  | some e => .error (.wrap "context cancelled during STONITH wait" e)
  | none => .ok ()

def powerOff (commands : Commands) (address usernameEncrypted passwordEncrypted : String) :
    Except GoError Unit := do
  let username ← decrypting commands "username" usernameEncrypted
  let password ← decrypting commands "password" passwordEncrypted
  (commands.powerOff address username password).mapError (.wrap "IPMI power off failed")
  waited commands

variable (columns : FailoverColumns)

/-- whether the node is off is asked after that, and the answer is logged -/
def executeSTONITH : Except GoError Unit :=
  match columns.ipmiUsernameEncrypted, columns.ipmiPasswordEncrypted with
  | some usernameEncrypted, some passwordEncrypted => do
    let address ← checkIPMIAddress commands columns.ipmiAddress
    powerOff commands address usernameEncrypted passwordEncrypted
  | _, _ => .error noIPMIConfigured

def blocklistNodeInCeph : Except GoError Unit :=
  match commands.parseIP columns.managementIP with
  | none => .error (.new ("invalid management IP: " ++ columns.managementIP))
  | some safeIP => (commands.blocklistAdd safeIP).mapError (.wrap "ceph blocklist add failed")

/-- without an address there is no power-off, only a delay -/
def stonithExecuted : Bool :=
  columns.ipmiAddress.any (· ≠ "") && (executeSTONITH commands columns).isOk

def blocklistAdded : Bool :=
  (blocklistNodeInCeph commands columns).isOk

/-! ## the VMs -/

def failoverHeartbeatThreshold : Int := 3

variable (nodeID : String)

def checkMisses (columns : FailoverColumns) : Except GoError Unit :=
  if columns.consecutiveHeartbeatMisses < failoverHeartbeatThreshold then
    .error (.new ("node " ++ nodeID ++ " is not in failed state (consecutive_heartbeat_misses: " ++
      toString columns.consecutiveHeartbeatMisses ++ ", required: >= " ++
      toString failoverHeartbeatThreshold ++ ")"))
  else .ok ()

def markFailed (node : Node) : Op Unit :=
  if node.status = .failed then .pure ()
  else logged (NodeRepository.updateStatus nodeID .failed)

def getNode : Op Node :=
  replacing (MigrationService.namingMissing ("node not found: " ++ nodeID) "getting node")
    (NodeRepository.getByID nodeID)

def verifyFailedNode (columns : FailoverColumns) : Op Node := do
  let node ← getNode nodeID
  lift (checkMisses nodeID columns)
  markFailed nodeID node
  return node

def getVMsOnNode : Op (List VM) :=
  query (.listVMs nodeID maxPerPage) ("listing VMs on node " ++ nodeID ++ ": listing VMs")

/-- the commands are arguments, and what they say is the result -/
def executeFailoverSteps (node : Node)
    (result : FailoverResult) : Op FailoverResult := do
  -- the locks are those of the images of these VMs
  logged (getVMsOnNode node.id)
  return { result with
    stonithExecuted := stonithExecuted commands columns, blocklistAdded :=
    blocklistAdded commands columns }

def sortNodesByLocation (nodes : List Node) (preferredLocationID : String) : List Node :=
  nodes.filter (fun n => n.locationID = some preferredLocationID) ++
    nodes.filter fun n => n.locationID ≠ some preferredLocationID

def preferLocation (failedNode : Node) (surviving : List Node) : List Node :=
  match failedNode.locationID with
  | some locationID => sortNodesByLocation surviving locationID
  | none => surviving

def findSurvivingNodes (failedNode : Node) : Op (List Node) := do
  let nodes ← query (.listNodes .online 0) "listing online nodes: listing nodes"
  return preferLocation failedNode (nodes.filter fun n => n.id ≠ failedNode.id)

def score (node : Node) : Int :=
  (node.totalVCPU - node.allocatedVCPU) + (node.totalMemoryMB - node.allocatedMemoryMB).tdiv 1024

/-- the first node with the highest score, if that is at least 0 -/
def highest : Option Node × Int → List Node → Option Node
  | (bestNode, _), [] => bestNode
  | (bestNode, bestScore), node :: rest =>
    if bestScore < score node then highest (some node, score node) rest
    else highest (bestNode, bestScore) rest

variable (storage : StorageAssignments)

/-- a disk that is local to the failed node is lost with it -/
def selectCephNode (storageBackendID : String) (vm : VM) (nodes : List Node) : Option Node :=
  match storage.backendType storageBackendID with
  | some .ceph => highest (none, -1)
      (nodes.filter fun node => storage.assigned storageBackendID node ∧
        MigrationService.fits node vm)
  | _ => none

def selectBestNode (vm : VM) (nodes : List Node) : Option Node :=
  match vm.storageBackendID with
  | none => none
  | some storageBackendID => selectCephNode storage storageBackendID vm nodes

def startOnTarget (vm : VM) (targetNode : Node) : Op Unit :=
  Call.attempt (NodeAgent.call targetNode.id (.startVM vm.id)) fun
    | .ok _ => logged (VMRepository.updateStatus vm.id VMStatus.running.text)
    | .error _ => .pure ()

section
variable (vm : VM) (oldNodeID : String) (targetNode : Node)

/-- the row names the new node; no later error undoes that -/
def recover : Op MigratedVM := do
  logged (VMRepository.updateStatus vm.id VMStatus.provisioning.text)
  startOnTarget vm targetNode
  logged (NodeRepository.incrementAllocatedResources targetNode.id vm.vcpu vm.memoryMB)
  logged (NodeRepository.decrementAllocatedResources oldNodeID vm.vcpu vm.memoryMB)
  return ⟨vm.id, vm.hostname, oldNodeID, targetNode.id, targetNode.hostname⟩

def reassigned :
    Except GoError Unit → Op (Except FailedMigration MigratedVM)
  | .error e => .pure (.error ⟨vm.id, vm.hostname, "failed to update node assignment: " ++ e.text⟩)
  | .ok _ => do
    let migrated ← recover vm oldNodeID targetNode
    return .ok migrated

end

def migrateVM (vm : VM) (survivingNodes : List Node) :
    Op (Except FailedMigration MigratedVM) :=
  match vm.nodeID with
  | none => .pure (.error ⟨vm.id, vm.hostname, "VM has no node assigned (NodeID is nil)"⟩)
  | some oldNodeID =>
    match selectBestNode storage vm survivingNodes with
    | none => .pure (.error ⟨vm.id, vm.hostname, "no suitable node found for migration"⟩)
    | some targetNode => Call.attempt (VMRepository.updateNodeAssignment vm.id targetNode.id)
        (reassigned vm oldNodeID targetNode)

def record (result : FailoverResult) : Except FailedMigration MigratedVM → FailoverResult
  | .ok migrated => { result with migratedVMs := result.migratedVMs ++ [migrated] }
  | .error failed => { result with failedMigrations := result.failedMigrations ++ [failed] }

def migrateFailoverVMs (storage : StorageAssignments) (survivingNodes : List Node) :
    FailoverResult → List VM → Op FailoverResult
  | result, [] => .pure result
  | result, vm :: rest => do
    let r ← migrateVM storage vm survivingNodes
    migrateFailoverVMs storage survivingNodes (record result r) rest

def checkSurviving (nodes : List Node) : Except GoError Unit :=
  if nodes.isEmpty then .error (.new "no surviving nodes available for VM migration") else .ok ()

def failoverVMs (node : Node) (result : FailoverResult) :
    List VM → Op FailoverResult
  | [] => .pure result
  | vm :: rest => do
    let survivingNodes ← wrapping "finding surviving nodes" (findSurvivingNodes node)
    lift (checkSurviving survivingNodes)
    migrateFailoverVMs storage survivingNodes result (vm :: rest)

def approveFailover (commands : Commands) (targetNodeID : String)
    (columns : FailoverColumns) : Op FailoverResult := do
  let node ← verifyFailedNode targetNodeID columns
  let result ← executeFailoverSteps commands columns node
    ⟨targetNodeID, node.hostname, 0, [], [], false, false⟩
  let vms ← wrapping "getting VMs on failed node" (getVMsOnNode targetNodeID)
  failoverVMs storage node { result with totalVMs := vms.length } vms

end FailoverService

/-! ## evacuation -/

namespace NodeAgent

/-- the nodes in turn, until the VM starts on one -/
def evacuateVM (nodeID : String) (vm : VM) : List Node → Op Unit
  | [] => .pure ()
  | targetNode :: rest =>
    if targetNode.id ≠ nodeID ∧ MigrationService.fits targetNode vm then
      Call.attempt (NodeAgent.call targetNode.id (.startVM vm.id)) fun
        | .ok _ => logged (VMRepository.updateNodeAssignment vm.id targetNode.id)
        | .error _ => evacuateVM nodeID vm rest
    else evacuateVM nodeID vm rest

def evacuateEach (nodeID : String) (targetNodes : List Node) : List VM → Op Unit
  | [] => .pure ()
  | vm :: rest =>
    if vm.status = .running then do
      evacuateVM nodeID vm targetNodes
      evacuateEach nodeID targetNodes rest
    else evacuateEach nodeID targetNodes rest

def evacuateVMs (nodeID : String) : List VM → Op Unit
  | [] => .pure ()
  | vm :: rest => do
    let targetNodes ← query
      (.listNodes .online 0) "listing target nodes for evacuation: listing nodes"
    evacuateEach nodeID targetNodes (vm :: rest)

def evacuateNode (nodeID : String) : Op Unit := do
  let _ ← wrapping ("getting node " ++ nodeID) (NodeRepository.getByID nodeID)
  wrapping "updating node status to draining" (NodeRepository.updateStatus nodeID .draining)
  let vms ← FailoverService.getVMsOnNode nodeID
  evacuateVMs nodeID vms

end NodeAgent

/-- `breaker` is what the circuit breaker says; an error of the evacuation is logged -/
def NodeService.failoverNode (breaker : Except GoError Unit) (nodeID : String) : Op Unit := do
  let _ ← FailoverService.getNode nodeID
  wrapping "failover blocked" (lift breaker)
  wrapping "updating node status" (NodeRepository.updateStatus nodeID .failed)
  logged (NodeAgent.evacuateNode nodeID)

end VirtueStack.Compute
