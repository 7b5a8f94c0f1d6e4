import VirtueStack.Compute.Migration

/-!
# The VM service (services/vm_service.go, services/vm_power_service.go)

* `startVM`, `stopVM`, `restartVM` the agent is called first, then the status follows;
* `deleteVM` the status becomes deleting, then the task is published; if that fails the status
  goes back;
* `reinstallVM`, `resizeVMWithPlan` the checks, and a task or a call of the agent;
* `selectNodeForVM` the node with the most free memory that has room for the VM.

The encryption of the password and the hooks of the billing provider are left out. The webhooks that
can veto a new VM are an argument.
-/

namespace VirtueStack.Compute
open Txn Call Op
open Billing (VMStatus)

/-- a conflict ends the call, any other error of a transition is logged -/
def transitioned (context : String) : Except GoError Unit → Op Unit
  | .ok _ => .pure ()
  | .error e => if e.is .conflict then fail (.wrap context e) else .pure ()

def transition (vmID fromStatus : String) (toStatus : VMStatus) (context : String) : Op Unit :=
  attempt (VMRepository.transitionStatus vmID fromStatus toStatus) (transitioned context)

namespace VMService

/-! ## access -/

variable (vm : VM)

def checkOwnership (customerID : String) (isAdmin : Bool) : Except GoError Unit :=
  if ¬ isAdmin ∧ vm.customerID ≠ customerID then .error (.sentinel .forbidden)
  else if vm.isDeleted then .error (.new "VM has been deleted")
  else .ok ()

variable (vmID : String)

def getVMAndVerifyOwnership (customerID : String) (isAdmin : Bool) : Op VM := do
  let vm ← MigrationService.getVM vmID
  lift (checkOwnership vm customerID isAdmin)
  return vm

def nodeOf : Except GoError String :=
  match vm.nodeID with
  | some nodeID => .ok nodeID
  | none => .error (.new "VM has no node assigned")

/-! ## power -/

/-- the node of a VM whose status allows what `verb` says -/
def nodeFor (verb : String) (allowed : List VMStatus) (vm : VM) : Except GoError String :=
  if vm.status ∈ allowed then nodeOf vm
  else .error (.new ("cannot " ++ verb ++ " VM in status " ++ vm.status.text))

def startVM (vmID customerID : String) (isAdmin : Bool) : Op Unit := do
  let vm ← wrapping "verifying ownership for start"
    (getVMAndVerifyOwnership vmID customerID isAdmin)
  let nodeID ← lift (nodeFor "start" [.stopped, .suspended] vm)
  wrapping "starting VM on node agent" (NodeAgent.call nodeID (.startVM vm.id))
  transition vm.id vm.status.text .running
    ("transitioning VM " ++ vm.id ++ " from " ++ vm.status.text ++ " to running")

variable (nodeID : String)

def stopCall (vmID : String) (force : Bool) : Op Unit :=
  if force then wrapping "force stopping VM on node agent"
    (NodeAgent.call nodeID (.forceStopVM vmID))
  else wrapping "stopping VM on node agent" (NodeAgent.call nodeID (.stopVM vmID))

def stopVM (customerID : String) (force isAdmin : Bool) : Op Unit := do
  let vm ← wrapping "verifying ownership for stop" (getVMAndVerifyOwnership vmID customerID isAdmin)
  let nodeID ← lift (nodeFor "stop" [.running] vm)
  stopCall nodeID vm.id force
  transition vm.id VMStatus.running.text .stopped
    ("transitioning VM " ++ vm.id ++ " from running to stopped")

/-- by force, if it has to be -/
def stopForRestart (vmID : String) : Op Unit :=
  attempt (NodeAgent.call nodeID (.stopVM vmID)) fun
    | .ok _ => .pure ()
    | .error _ => wrapping "force stopping VM during restart"
        (NodeAgent.call nodeID (.forceStopVM vmID))

def restartVM (customerID : String) (isAdmin : Bool) : Op Unit := do
  let vm ← wrapping "verifying ownership for restart"
    (getVMAndVerifyOwnership vmID customerID isAdmin)
  let nodeID ← lift (nodeFor "restart" [.running] vm)
  stopForRestart nodeID vm.id
  transition vm.id VMStatus.running.text .stopped
    ("transitioning VM " ++ vm.id ++ " from running to stopped during restart")
  wrapping "starting VM during restart" (NodeAgent.call nodeID (.startVM vm.id))
  transition vm.id VMStatus.stopped.text .running
    ("transitioning VM " ++ vm.id ++ " from stopped to running after restart")

/-! ## the end of a VM -/

def checkOwner (customerID : String) (isAdmin : Bool) : Except GoError Unit :=
  if ¬ isAdmin ∧ vm.customerID ≠ customerID then .error (.sentinel .forbidden) else .ok ()

def getVMForDelete (customerID : String) (isAdmin : Bool) : Op VM := do
  let vm ← replacing (MigrationService.namingMissing ("VM not found: " ++ vmID) "getting VM")
    (VMRepository.getByIDIncludingDeleted vmID)
  lift (checkOwner vm customerID isAdmin)
  return vm

def checkDeletable (vm : VM) : Except GoError Unit :=
  if vm.isDeleted then
    .error (.wrap ("VM " ++ vmID ++ " already marked deleted; delete task state unknown")
    (.sentinel .conflict))
  else if vm.status = .deleting then
    .error (.wrap ("VM " ++ vmID ++ " deletion already in progress") (.sentinel .conflict))
  else .ok ()

def deleteTaskPayload : List (String × Json) := [("vm_id", .str vm.id)]

/-- the task has its row, or the status goes back to what it was -/
def deletePublished : Except GoError String → Op String
  | .ok taskID => .pure taskID
  | .error e => do
    logged (VMRepository.updateStatus vm.id vm.status.text)
    fail (.wrap "publishing delete task" e)

def deleteVM (customerID : String) (isAdmin : Bool) : Op String := do
  let vm ← wrapping "verifying ownership for delete" (getVMForDelete vmID customerID isAdmin)
  lift (checkDeletable vmID vm)
  wrapping ("marking VM " ++ vm.id ++ " deleting")
    (VMRepository.transitionStatus vm.id vm.status.text .deleting)
  attempt (TaskPublisher.publishTask .vmDelete (deleteTaskPayload vm)) (deletePublished vm)

/-! ## reinstall and resize -/

def checkMinDisk (template : Template) : Except GoError Unit :=
  if vm.diskGB < template.minDiskGB then
    .error (.new ("VM disk size (" ++ toString vm.diskGB ++
      " GB) is less than template minimum (" ++ toString template.minDiskGB ++ " GB)"))
  else .ok ()

/-- the new status is in the VM that is returned, and not in its row -/
def reinstallVM (templateID customerID : String) (isAdmin : Bool) : Op (VM × String) := do
  let vm ← wrapping "verifying ownership for reinstall"
    (getVMAndVerifyOwnership vmID customerID isAdmin)
  let template ← replacing (MigrationService.namingMissing ("template not found: " ++ templateID)
    "getting template") (TemplateRepository.getByID templateID)
  lift (checkMinDisk vm template)
  let nodeID ← lift (nodeOf vm)
  let taskID ← wrapping "publishing reinstall task"
    (TaskPublisher.publishTask .vmReinstall (reinstallTaskPayload vm nodeID template))
  return ({ vm with templateID := some template.id, status := .reinstalling }, taskID)

/-- the sizes of a VM that is to be resized -/
structure Sizes where
  vcpu : Int
  memoryMB : Int
  diskGB : Int
  deriving DecidableEq, Repr

/-- a size that is not given stays what it is -/
def Sizes.orCurrent (s : Sizes) (vm : VM) : Sizes where
  vcpu := if s.vcpu = 0 then vm.vcpu else s.vcpu
  memoryMB := if s.memoryMB = 0 then vm.memoryMB else s.memoryMB
  diskGB := if s.diskGB = 0 then vm.diskGB else s.diskGB

def exceeds (what unit : String) (requested limit : Int) : GoError :=
  .new ("requested " ++ what ++ " (" ++ toString requested ++ unit ++ ") exceeds plan limit (" ++
    toString limit ++ unit ++ ")")

def checkPlanLimits (plan : Plan) (s : Sizes) : Except GoError Unit :=
  if plan.vcpu < s.vcpu then .error (exceeds "vCPU" "" s.vcpu plan.vcpu)
  else if plan.memoryMB < s.memoryMB then .error (exceeds "memory" " MB" s.memoryMB plan.memoryMB)
  else if plan.diskGB < s.diskGB then .error (exceeds "disk" " GB" s.diskGB plan.diskGB)
  else .ok ()

/-- an administrator is not bound by the plan -/
def validateLimits (s : Sizes) (isAdmin : Bool) : Op Unit :=
  if isAdmin then .pure ()
  else do
    let plan ← wrapping "getting plan" (PlanRepository.getByID vm.planID)
    lift (checkPlanLimits plan s)

def checkGiven (s : Sizes) : Except GoError Unit :=
  if s.vcpu = 0 ∧ s.memoryMB = 0 ∧ s.diskGB = 0 then .error (.new "no resize parameters provided")
  else .ok ()

def checkNotShrinking (s : Sizes) : Except GoError Unit :=
  if s.diskGB < vm.diskGB then
    .error (.new ("disk shrinking is not supported (current: " ++ toString vm.diskGB ++
      " GB, requested: " ++ toString s.diskGB ++ " GB)"))
  else .ok ()

def changePlan (newPlanID : String) : Op Unit :=
  if newPlanID ≠ "" ∧ newPlanID ≠ vm.planID then
    wrapping "updating VM plan" (VMRepository.updatePlanID vm.id newPlanID)
  else .pure ()

def resizeTaskPayload (s : Sizes) : List (String × Json) :=
  [("vm_id", .str vm.id), ("node_id", .str nodeID), ("new_vcpu", .num s.vcpu),
    ("new_memory_mb", .num s.memoryMB), ("new_disk_gb", .num s.diskGB)]

/-- a larger disk takes a task; the rest is done at once -/
def applySizes (s : Sizes) : Op String :=
  if vm.diskGB < s.diskGB then
    wrapping "publishing resize task"
      (TaskPublisher.publishTask .vmResize (resizeTaskPayload vm nodeID s))
  else do
    wrapping "resizing VM on node agent"
      (NodeAgent.call nodeID (.resizeVM vm.id s.vcpu s.memoryMB s.diskGB))
    wrapping "updating VM resources" (VMRepository.updateResources vm.id s.vcpu s.memoryMB s.diskGB)
    return ""

def resizeVMWithPlan (customerID : String) (sizes : Sizes) (newPlanID : String) (isAdmin : Bool) :
    Op String := do
  let vm ← wrapping "verifying ownership for resize"
    (getVMAndVerifyOwnership vmID customerID isAdmin)
  lift (checkGiven sizes)
  validateLimits vm (sizes.orCurrent vm) isAdmin
  lift (checkNotShrinking vm (sizes.orCurrent vm))
  let nodeID ← lift (nodeOf vm)
  changePlan vm newPlanID
  applySizes vm nodeID (sizes.orCurrent vm)

/-! ## a new VM -/

variable (req : VMCreateRequest)

/-- the service of the billing module the VM is for -/
def serviceOf : Option Int := req.externalServiceID.filter fun id => 0 < id

/-- the struct has the one field of the payload of a deletion -/
def vmFromTaskPayload (payloadJSON : Json) : Op (Option VM) :=
  match VMDeletePayload.decode payloadJSON with
  | .error _ => .pure none
  | .ok payload =>
    if payload.vmID = "" then .pure none
    else attempt (VMRepository.getByID payload.vmID) fun
      | .ok vm => .pure (some vm)
      | .error _ => .pure none

def checkReplay (customerID : String) (vm : VM) : Except GoError Unit :=
  if vm.customerID ≠ customerID then
    .error (.wrap "idempotency key belongs to another customer" (.sentinel .conflict))
  else if ∃ id ∈ serviceOf req, vm.externalServiceID ≠ some id then
    .error (.wrap "idempotency key belongs to a different external service" (.sentinel .conflict))
  else .ok ()

/-- the answer to a request whose task is there already -/
def replayed (customerID taskID : String) :
    Option VM → Op (Option (Option VM × String))
  | none => .pure (if (serviceOf req).isSome then none else some (none, taskID))
  | some vm => do
    lift (checkReplay req customerID vm)
    return some (some vm, taskID)

/-- an error of the query comes without a task, which counts as a key that is not there -/
def resolveCreateIdempotency (customerID : String) :
    Op (Option (Option VM × String)) :=
  attempt (TaskRepository.getByIdempotencyKey req.idempotencyKey) fun
    | .error _ => .pure none
    | .ok task => do
      let vm ← vmFromTaskPayload task.payload
      replayed req customerID task.id vm

def checkIdempotency (customerID : String) : Op (Option (Option VM × String)) :=
  if req.idempotencyKey = "" then .pure none else resolveCreateIdempotency req customerID

def externalServiceTaken (serviceID : Int) (customerID : String) (vm : VM) : GoError :=
  if vm.customerID ≠ customerID then
    .wrap ("external service " ++ toString serviceID ++ " belongs to another customer")
      (.sentinel .conflict)
  else .wrap ("external service " ++ toString serviceID ++
    " already has a VM without a durable create task") (.sentinel .conflict)

def checkExternalService (customerID : String) : Op Unit :=
  match serviceOf req with
  | none => .pure ()
  | some serviceID => attempt (VMRepository.getByExternalServiceID serviceID) fun
    | .ok vm => fail (externalServiceTaken serviceID customerID vm)
    | .error _ => .pure ()

def resolveExternalServiceCreateConflict (serviceID : Int) (customerID : String) :
    Op (Option VM × String) := do
  let vm ← wrapping ("creating VM record conflicted; lookup external service " ++
    toString serviceID) (VMRepository.getByExternalServiceID serviceID)
  fail (externalServiceTaken serviceID customerID vm)

def checkActive (planID : String) (plan : Plan) : Except GoError Unit :=
  if plan.isActive then .ok () else .error (.new ("plan " ++ planID ++ " is not active"))

def checkPlanDisk (plan : Plan) (template : Template) : Except GoError Unit :=
  if plan.diskGB < template.minDiskGB then
    .error (.new ("plan disk size (" ++ toString plan.diskGB ++
      " GB) is less than template minimum (" ++
      toString template.minDiskGB ++ " GB)"))
  else .ok ()

def validateCreateVMRequest : Op (Plan × Template) := do
  let plan ← replacing
    (MigrationService.namingMissing ("plan not found: " ++ req.planID) "getting plan")
    (PlanRepository.getByID req.planID)
  lift (checkActive req.planID plan)
  let template ← replacing
    (MigrationService.namingMissing ("template not found: " ++ req.templateID)
    "getting template") (TemplateRepository.getByID req.templateID)
  lift (checkPlanDisk plan template)
  return (plan, template)

/-! ## the node of a new VM -/

def inLocation (node : Node) (locationID : String) : Bool :=
  locationID = "" ∨ node.locationID = some locationID

def hasRoom (node : Node) (vcpu memoryMB : Int) : Bool :=
  node.allocatedVCPU + vcpu ≤ node.totalVCPU ∧ node.allocatedMemoryMB + memoryMB ≤
    node.totalMemoryMB

/-- an error counts as no storage backend -/
def hasBackend (storageBackendType : String) : Op Bool :=
  if storageBackendType = "" then .pure true
  else attempt (StorageBackendService.getBackendsForNodeByType nodeID storageBackendType) fun
    | .ok backends => .pure (!backends.isEmpty)
    | .error _ => .pure false

/-- the first node with the most free memory -/
def better (node : Node) : Option Node → Node
  | none => node
  | some best =>
    if best.totalMemoryMB - best.allocatedMemoryMB <
      node.totalMemoryMB - node.allocatedMemoryMB then node
    else best

def selectFrom (locationID : String) (vcpu memoryMB : Int) (storageBackendType : String) :
    Option Node → List Node → Op (Option Node)
  | best, [] => .pure best
  | best, node :: rest =>
    if inLocation node locationID ∧ hasRoom node vcpu memoryMB then do
      let has ← hasBackend node.id storageBackendType
      selectFrom locationID vcpu memoryMB storageBackendType
        (if has then some (better node best) else best) rest
    else selectFrom locationID vcpu memoryMB storageBackendType best rest

def noNode (locationID storageBackendType : String) : GoError :=
  .new ("no available nodes with sufficient capacity" ++
    (if storageBackendType = "" then "" else " and storage backend " ++ storageBackendType) ++
    (if locationID = "" then "" else " in location " ++ locationID))

def selected (locationID storageBackendType : String) : Option Node → Except GoError Node
  | some node => .ok node
  | none => .error (noNode locationID storageBackendType)

def checkSomeNode (nodes : List Node) : Except GoError Unit :=
  if nodes.isEmpty then .error (.new "no available nodes") else .ok ()

def selectNodeForVM (locationID : String) (vcpu memoryMB : Int) (storageBackendType : String) :
    Op Node := do
  let nodes ← query (.nodesByStatus .online)
    ("listing nodes: listing nodes by status " ++ NodeStatus.online.text)
  lift (checkSomeNode nodes)
  let best ← selectFrom locationID vcpu memoryMB storageBackendType none nodes
  lift (selected locationID storageBackendType best)

/-! ## its row and its task -/

def checkHealth (backend : StorageBackend) : Except GoError Unit :=
  if backend.healthStatus = "critical" then
    .error (.new ("storage backend " ++ backend.name ++
      " is unhealthy (critical), cannot create VM"))
  else .ok ()

/-- without a storage backend of that type the VM takes what the node says -/
def resolveStorageBackend (node : Node) (plan : Plan) : Op (Option StorageBackend) :=
  if plan.storageBackend = "" then .pure none
  else attempt (StorageBackendService.getBackendsForNodeByType node.id plan.storageBackend) fun
    | .error _ => .pure none
    | .ok [] => .pure none
    | .ok (backend :: _) => do
      lift (checkHealth backend)
      return some backend

section
variable (deps : VMCreateDeps) (customerID macAddress : String)

/-- the id of the struct is not among the columns that are inserted -/
def buildVMRecord : VM where
  id := ""
  customerID := customerID
  nodeID := some deps.node.id
  planID := deps.plan.id
  hostname := req.hostname
  status := .provisioning
  vcpu := deps.plan.vcpu
  memoryMB := deps.plan.memoryMB
  diskGB := deps.plan.diskGB
  portSpeedMbps := deps.plan.portSpeedMbps
  bandwidthLimitGB := deps.plan.bandwidthLimitGB
  macAddress := macAddress
  templateID := some deps.template.id
  externalServiceID := req.externalServiceID
  storageBackend := deps.plan.storageBackend
  diskPath := none
  rbdImage := none
  deletedAt := none

def persistVMRecord : Op VM :=
  wrapping "creating VM record" (VMRepository.create (buildVMRecord req deps customerID macAddress))

end

/-- the task has its row, or the VM is deleted again -/
def createPublished : Except GoError String → Op (Option VM × String)
  | .ok taskID => .pure (some vm, taskID)
  | .error e => do
    logged (VMRepository.softDelete vm.id)
    fail (.wrap "publishing create task" e)

def publishVMCreateTask (vm : VM) (deps : VMCreateDeps) : Op (Option VM × String) :=
  attempt
    (TaskPublisher.publishTaskWithIdempotencyKey .vmCreate (createTaskPayload req vm deps none)
    req.idempotencyKey) (createPublished vm)

/-- a second request for the service has been faster -/
def notPersisted (customerID : String) (e : GoError) : Op (Option VM × String) :=
  match serviceOf req with
  | some serviceID =>
    if e.is .conflict then resolveExternalServiceCreateConflict serviceID customerID else fail e
  | none => fail e

def persisted (deps : VMCreateDeps) (customerID : String) :
    Except GoError VM → Op (Option VM × String)
  | .ok vm => publishVMCreateTask req vm deps
  | .error e => notPersisted req customerID e

variable (preAction : Except GoError Unit)

variable (req : VMCreateRequest) (customerID : String)

def resolveDeps : Op VMCreateDeps := do
  checkExternalService req customerID
  lift preAction
  let valid ← validateCreateVMRequest req
  let node ← selectNodeForVM (req.locationID.getD "") valid.1.vcpu valid.1.memoryMB
    valid.1.storageBackend
  let storageBackend ← resolveStorageBackend node valid.1
  return ⟨valid.1, valid.2, node, storageBackend⟩

def createNew : Op (Option VM × String) := do
  let deps ← resolveDeps preAction req customerID
  let macAddress ← query .generateMACAddress "generating MAC address"
  attempt (persistVMRecord req deps customerID macAddress) (persisted req deps customerID)

def createUnless :
    Option (Option VM × String) → Op (Option VM × String)
  | some earlier => .pure earlier
  | none => createNew preAction req customerID

/-- `preAction` is what the webhooks say -/
def createVM : Op (Option VM × String) := do
  let earlier ← checkIdempotency req customerID
  createUnless preAction req customerID earlier

end VMService

end VirtueStack.Compute
