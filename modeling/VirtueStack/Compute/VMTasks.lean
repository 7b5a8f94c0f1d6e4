import VirtueStack.Compute.CreateTask
import VirtueStack.Compute.MigrateTask
import VirtueStack.Compute.VMService
import VirtueStack.Shared.Mentions

/-!
# The tasks vm.delete, vm.reinstall and vm.resize (tasks/handlers_vm_delete.go, vm_reinstall.go,
vm_resize.go)

* `handleVMDelete` the domain, the addresses, and then the row, which becomes deleted whatever its
  status is by then;
* `handleVMReinstall` the status becomes reinstalling, and running again once the agent is done.

The configuration of the guest is left out. In this store there are no hooks, and a call of an agent
is one statement, whose error has no gRPC status; `Compute.Deletion` has the handler of vm.delete
with both.
-/

namespace VirtueStack.Compute
open Txn Call Op
open Billing (VMStatus)

/-! ## vm.delete -/

def isAlreadyAbsent (e : GoError) : Bool :=
  e.is .notFound || e.code == .notFound || decide (Mentions "not found" e.text)

namespace VMDeletion

/-- an error to stop the VM is logged -/
def stopVM (nodeID vmID : String) : Op Unit :=
  attempt (NodeAgent.call nodeID (.stopVM vmID)) fun
    | .ok _ => .pure ()
    | .error _ => logged (NodeAgent.call nodeID (.forceStopVM vmID))

def stopIfRunning (nodeID : String) (vm : VM) : Op Unit :=
  if vm.status = .running then stopVM nodeID vm.id else .pure ()

def complete (taskID : String) : Op Unit :=
  wrapping "completing vm.delete task" (TaskRepository.setCompleted taskID)

def completeIfRecordMissing (taskID vmID : String) (e : GoError) : Op Unit :=
  if isAlreadyAbsent e then complete taskID
  else fail (.wrap ("getting VM " ++ vmID ++ " for deletion") e)

end VMDeletion

/-- what the handler of vm.delete is made of: calls of the controller, the request to the agent and
the hook of the billing provider -/
structure VMDeletion (S : Store) where
  ofDb {α : Type} : Op α → Call S GoError α
  deleteVM (nodeID vmID : String) : Call S GoError Unit
  notifyBilling (vm : VM) : Call S GoError Unit

namespace VMDeletion
variable {S : Store}

/-- an error other than that the thing is absent -/
def unlessAbsent (context : String) : Except GoError Unit → Call S GoError Unit
  | .ok _ => .pure ()
  | .error e => if isAlreadyAbsent e then .pure () else fail (.wrap context e)

variable (d : VMDeletion S) (taskID : String)

def cleanupNode (vm : VM) : Call S GoError Unit :=
  match vm.nodeID with
  | none => .pure ()
  | some nodeID => do
    d.ofDb (progress taskID 15 "Stopping virtual machine...")
    d.ofDb (stopIfRunning nodeID vm)
    d.ofDb (progress taskID 40 "Deleting virtual machine from node...")
    attempt (d.deleteVM nodeID vm.id)
      (unlessAbsent ("deleting VM " ++ vm.id ++ " from node " ++ nodeID))

def releaseIPs (vmID : String) : Call S GoError Unit :=
  attempt (d.ofDb (IPAM.releaseIPsByVM vmID)) (unlessAbsent ("releasing IPs for VM " ++ vmID))

/-- a VM that was deleted when the task began keeps its row as it is -/
def removeRecord (vm : VM) : Call S GoError Unit :=
  if vm.isDeleted then .pure ()
  else do
    d.ofDb (wrapping ("soft deleting VM " ++ vm.id) (VMRepository.softDelete vm.id))
    d.notifyBilling vm

def removeVM (vm : VM) : Call S GoError Unit := do
  d.cleanupNode taskID vm
  d.ofDb (progress taskID 70 "Releasing IP addresses...")
  d.releaseIPs vm.id
  d.ofDb (progress taskID 90 "Removing VM record...")
  d.removeRecord vm
  d.ofDb (progress taskID 100 "VM deleted successfully")
  d.ofDb (complete taskID)

/-- how the task goes on with the row of the VM -/
def removeIfFound (vmID : String) : Except GoError VM → Call S GoError Unit
  | .ok vm => d.removeVM taskID vm
  | .error e => d.ofDb (completeIfRecordMissing taskID vmID e)

def execute (payload : VMDeletePayload) : Call S GoError Unit := do
  d.ofDb (progress taskID 5 "Starting VM deletion...")
  attempt (d.ofDb (VMRepository.getByIDIncludingDeleted payload.vmID))
    (d.removeIfFound taskID payload.vmID)

def handle (doc : Json) : Call S GoError Unit := do
  let payload ← d.ofDb (wrapping "parsing vm.delete payload" (lift (VMDeletePayload.decode doc)))
  d.execute taskID payload

/-- in the store of the controller -/
def plain : VMDeletion store where
  ofDb c := c
  deleteVM nodeID vmID := NodeAgent.call nodeID (.deleteVM vmID)
  notifyBilling _ := .pure ()

end VMDeletion

variable (taskID : String)

def handleVMDelete (doc : Json) : Op Unit := VMDeletion.plain.handle taskID doc

/-! ## vm.reinstall -/

structure VMReinstallInfo where
  vm : VM
  template : Template
  nodeID : String

/-- the node of the VM, named as in the payload -/
def assignedNode (vmID : String) (vm : VM) : Except GoError String :=
  match vm.nodeID with
  | some nodeID => .ok nodeID
  | none => .error (.new ("VM " ++ vmID ++ " has no node assigned"))

variable (payload : VMReinstallPayload)

def prepareVMReinstallInfo : Op VMReinstallInfo := do
  let vm ← wrapping ("getting VM " ++ payload.vmID) (VMRepository.getByID payload.vmID)
  let nodeID ← lift (assignedNode payload.vmID vm)
  let template ← wrapping ("getting template " ++ payload.templateID)
    (TemplateRepository.getByID payload.templateID)
  return ⟨vm, template, nodeID⟩

variable (info : VMReinstallInfo)

def alreadyReinstalled : Bool :=
  info.vm.status = .running ∧ info.vm.templateID = some payload.templateID

def markReinstalling : Op Unit :=
  if info.vm.status = .reinstalling then .pure ()
  else transition payload.vmID info.vm.status.text .reinstalling
    ("transitioning VM " ++ payload.vmID ++ " to reinstalling")

def buildReinstallRequest
    (templateFilePath : String) : CreateVMRequest where
  vmID := payload.vmID
  vcpu := info.vm.vcpu
  memoryMB := info.vm.memoryMB
  diskGB := info.vm.diskGB
  storageBackend := info.template.storageBackend
  templateFilePath := templateFilePath
  templateRBDImage := info.template.rbdImage
  templateRBDSnapshot := info.template.rbdSnapshot

def resolveReinstallTemplatePath : Op String :=
  wrapping ("resolving template for VM " ++ payload.vmID)
    (resolveTemplatePathForNode info.template info.nodeID)

def setReinstallResult (payload : VMReinstallPayload) : Op Unit := do
  transition payload.vmID VMStatus.reinstalling.text .running
    ("transitioning VM " ++ payload.vmID ++ " to running")
  logged (VMRepository.updateTemplateID payload.vmID payload.templateID)
  progress taskID 100 "VM reinstalled successfully"
  logged (TaskRepository.setCompleted taskID)

def reinstall (p : Platform) (taskID : String) (payload : VMReinstallPayload)
    (info : VMReinstallInfo) : Op Unit := do
  wrapping "hashing password" (lift (hashPasswordForCloudInit p payload.password))
  progress taskID 10 "Preparing VM reinstallation..."
  markReinstalling payload info
  let templateFilePath ← resolveReinstallTemplatePath payload info
  progress taskID 40 "Reinstalling VM..."
  wrapping ("reinstalling VM " ++ payload.vmID ++ " via node agent")
    (NodeAgent.call info.nodeID
      (.reinstallVM (buildReinstallRequest payload info templateFilePath)))
  setReinstallResult taskID payload

def completeReinstall : Op Unit := do
  progress taskID 100 "VM already reinstalled"
  logged (TaskRepository.setCompleted taskID)

def reinstallUnlessDone (p : Platform) (taskID : String) (payload : VMReinstallPayload)
    (info : VMReinstallInfo) : Op Unit :=
  if alreadyReinstalled payload info then completeReinstall taskID else reinstall p
    taskID payload info

def handleVMReinstall (p : Platform) (taskID : String) (doc : Json) : Op Unit := do
  let payload ← wrapping "parsing vm.reinstall payload" (lift (VMReinstallPayload.decode doc))
  progress taskID 5 "Starting VM reinstallation..."
  let info ← prepareVMReinstallInfo payload
  reinstallUnlessDone p taskID payload info

/-! ## vm.resize -/

structure VMResizePayload where
  vmID : String
  nodeID : String
  newVCPU : Int
  newMemoryMB : Int
  newDiskGB : Int
  deriving DecidableEq, Repr

def VMResizePayload.tags : List String :=
  ["vm_id", "node_id", "new_vcpu", "new_memory_mb", "new_disk_gb"]

def VMResizePayload.decode (doc : Json) : Except GoError VMResizePayload := do
  let members ← doc.members
  return {
    vmID := ← stringField tags members "vm_id"
    nodeID := ← stringField tags members "node_id"
    newVCPU := ← intField tags members "new_vcpu"
    newMemoryMB := ← intField tags members "new_memory_mb"
    newDiskGB := ← intField tags members "new_disk_gb" }

def checkResizePayload (payload : VMResizePayload) : Except GoError Unit :=
  if payload.vmID = "" ∨ payload.nodeID = "" then
    .error (.new "vm.resize payload requires vm_id and node_id")
  else .ok ()

def isTerminal (status : Tasks.TaskStatus) : Bool :=
  status = .completed ∨ status = .failed ∨ status = .cancelled

def stopVMGracefully (nodeID vmID : String) : Op Unit :=
  attempt (NodeAgent.call nodeID (.stopVM vmID)) fun
    | .ok _ => .pure ()
    | .error _ => wrapping ("force stopping VM " ++ vmID)
        (NodeAgent.call nodeID (.forceStopVM vmID))

section
variable (nodeID : String) (payload : VMResizePayload) (wasRunning : Bool)

def stopForResize : Op Unit :=
  if wasRunning then do
    wrapping ("stopping VM " ++ payload.vmID ++ " for resize")
      (stopVMGracefully nodeID payload.vmID)
    transition payload.vmID VMStatus.running.text .stopped
      ("transitioning VM " ++ payload.vmID ++ " to stopped for resize")
  else .pure ()

/-- a VM that does not start again stays stopped -/
def startAfterResize : Op Unit :=
  if wasRunning then
    attempt (NodeAgent.call nodeID (.startVM payload.vmID)) fun
      | .ok _ => transition payload.vmID VMStatus.stopped.text .running
          ("transitioning VM " ++ payload.vmID ++ " to running after resize")
      | .error _ => .pure ()
  else .pure ()

end

/-- the node is the one the VM is on, not the one of the payload -/
def resize (taskID : String) (payload : VMResizePayload) : Op Unit := do
  progress taskID 5 "Starting VM resize..."
  let vm ← wrapping ("getting VM " ++ payload.vmID) (VMRepository.getByID payload.vmID)
  let nodeID ← lift (assignedNode payload.vmID vm)
  progress taskID 15 "Stopping virtual machine..."
  stopForResize nodeID payload (decide (vm.status = .running))
  progress taskID 40 "Resizing virtual machine resources..."
  wrapping ("resizing VM " ++ payload.vmID ++ " on node agent")
    (NodeAgent.call nodeID
      (.resizeVM payload.vmID payload.newVCPU payload.newMemoryMB payload.newDiskGB))
  progress taskID 70 "Updating VM resource records..."
  wrapping ("updating VM " ++ payload.vmID ++ " resources")
    (VMRepository.updateResources payload.vmID payload.newVCPU payload.newMemoryMB
      payload.newDiskGB)
  progress taskID 85 "Starting virtual machine..."
  startAfterResize nodeID payload (decide (vm.status = .running))
  progress taskID 100 "VM resized successfully"
  logged (TaskRepository.setCompleted taskID)

def resizeUnlessTerminal (status : Tasks.TaskStatus) (payload : VMResizePayload) : Op Unit :=
  if isTerminal status then .pure () else resize taskID payload

/-- `status` is the status of the task as it was delivered -/
def handleVMResize (status : Tasks.TaskStatus) (doc : Json) : Op Unit := do
  let payload ← wrapping "parsing vm.resize payload" (lift (VMResizePayload.decode doc))
  lift (checkResizePayload payload)
  resizeUnlessTerminal taskID status payload

end VirtueStack.Compute
