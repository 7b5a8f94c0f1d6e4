import VirtueStack.Backup.Store

/-!
# Backups: the repositories and the client of the agents

* `VMRepository`, `NodeRepository`, `TaskRepository`, `BackupRepository` the methods
  (repository/*.go);
* `Client` the configurations of the agents;
* `Client.call` one call: read the node, connect, let the agent do its work, wait for the answer.
  The answer may be lost after the agent has done its work;
* `NodeAgent` the methods of the client (services/node_agent_storage.go, node_agent_vm.go). Several
  of them send a request of another name than their own.

An agent that answers, answers with success or with a status.
-/

namespace VirtueStack.Backup
open Txn Call

abbrev Op (α : Type) : Type := Call store GoError α

namespace Op
variable {α β : Type}

def query (q : Stmt) (context : String) : Op q.Ans :=
  stmt (S := store) q fun e => .wrap context e.error

variable (context : String)

/-- how a call goes on whose error gets a context -/
def withContext : Except GoError α → Op α
  | .ok a => .pure a
  | .error e => fail (.wrap context e)

def wrapping (c : Op α) : Op α := attempt c (withContext context)

def logged (c : Op α) : Op Unit := attempt c fun _ => .pure ()

def cleaned (operation : String) : Except GoError α → Op Unit
  | .ok _ => .pure ()
  | .error _ => logged (query (.cleanupFailed operation) "logging")

/-- a clean-up: its error is only logged, and that line is part of what a run shows -/
def cleanup (operation : String) (c : Op α) : Op Unit := attempt c (cleaned operation)

def lift : Except GoError α → Op α
  | .ok a => .pure a
  | .error e => fail e

/-- no row is an error -/
def foundIn : Option α → Op α
  | some a => .pure a
  | none => fail (.wrap context (.sentinel .notFound))

def found (c : Op (Option α)) : Op α := do
  let a ← c
  foundIn context a

def affected (done : Bool) : Op Unit :=
  if done then .pure () else fail (.wrap context (.sentinel .noRowsAffected))

def affecting (c : Op Bool) : Op Unit := do
  let done ← c
  affected context done

end Op

open Op

/-! ## repositories -/

def VMRepository.getByID (id : String) : Op Compute.VM :=
  found ("getting VM " ++ id) (query (.getVM id) ("getting VM " ++ id))

def VMRepository.getByIDIncludingDeleted (id : String) : Op Compute.VM :=
  found ("getting VM " ++ id ++ " including deleted")
    (query (.getVMIncludingDeleted id) ("getting VM " ++ id ++ " including deleted"))

def NodeRepository.getByID (id : String) : Op Compute.Node :=
  found ("getting node " ++ id) (query (.getNode id) ("getting node " ++ id))

/-- the callers log what goes wrong here, and go on -/
def progress (taskID : String) (n : Int) (message : String) : Op Unit :=
  logged (query (.updateProgress taskID n message) "updating task progress")

def TaskRepository.setCompleted (taskID : String) : Op Unit :=
  query (.setCompleted taskID) "setting task completed"

namespace BackupRepository

def createBackup (b : Backup) : Op Backup := query (.createBackup b) "creating backup"

def getBackupByID (id : String) : Op Backup :=
  found ("getting backup " ++ id) (query (.getBackup id) ("getting backup " ++ id))

def listBackupsByVM (vmID : String) : Op (List Backup) :=
  query (.listBackupsByVM vmID) ("listing backups for VM " ++ vmID)

def listExpiredBackups (now : Int) : Op (List Backup) :=
  query (.listExpiredBackups now) "listing expired backups"

def deleteBackup (id : String) : Op Unit :=
  affecting ("deleting backup " ++ id) (query (.deleteBackup id) ("deleting backup " ++ id))

end BackupRepository

def now : Op (Int × String) := query .now "now"

/-! ## one call of an agent -/

structure Client where
  /-- the configuration of the agent of each node -/
  agents : String → Agent.Config

section
variable {α : Type}

/-- what the client is told, unless the answer is lost -/
def answered (request : String) (r : Except GoError α) : Except GoError Unit → Op α
  | .ok _ => withContext ("calling " ++ request) r
  | .error e => fail (.wrap ("calling " ++ request) e)

/-- the work of the agent, and its answer -/
def answering (nodeID request : String) (r : Except GoError α) : Op α :=
  attempt (stmt (S := store) (.reply nodeID) fun e => .rpc .unavailable e.agentErr.text)
    (answered request r)

def send (nodeID request : String) (work : Op α) : Op α :=
  attempt work (answering nodeID request)

/-- a method of the client; the request may need the row of the node -/
def withNode (nodeID : String) (call : Compute.Node → Op α) : Op α := do
  let node ← wrapping ("getting node " ++ nodeID) (NodeRepository.getByID nodeID)
  wrapping ("connecting to node " ++ nodeID) (query (.connect nodeID) "creating connection")
  call node

/-- a request that an agent carries out on its host -/
def call (nodeID request : String) (job : Agent.Job α) : Op α :=
  withNode nodeID fun _ => send nodeID request (job.embed (onNode nodeID))

end

/-! ## the agent of a guest -/

/-- what the two handlers say when it goes wrong -/
def GuestCommand.doing : GuestCommand → String
  | .freeze => "freezing filesystems"
  | .thaw => "thawing filesystems"

def guestAnswered (c : GuestCommand) : Except String Int → Op Unit
  | .ok _ => .pure ()
  | .error text => fail (.rpc .internal (c.doing ++ ": " ++ text))

def lookupDomain (nodeID name : String) : Op Unit :=
  stmt (S := store) (.agent nodeID (.lookupDomain name)) fun e =>
    .rpc .notFound ("VM not found: " ++ e.agentErr.text)

def sendGuest (event : GuestEvent) : Op Unit := do
  let answer ← stmt (S := store) (.guest event) fun e =>
    .rpc .internal (event.command.doing ++ ": " ++ e.agentErr.text)
  guestAnswered event.command answer

def requireVMID (vmID : String) : Op Unit :=
  if vmID = "" then fail (Agent.invalidArgument Agent.vmIDRequired) else .pure ()

/-- the number of file systems is logged, and the response has no field for it -/
def guestFilesystems (nodeID vmID : String) (c : GuestCommand) : Op Unit := do
  requireVMID vmID
  lookupDomain nodeID (Agent.domainName vmID)
  sendGuest ⟨nodeID, Agent.domainName vmID, c⟩

/-! ## the methods -/

namespace NodeAgent

section
variable (cl : Client) (nodeID vmID : String)

def createSnapshot (snapshotName : String) : Op Agent.Snapshot :=
  call nodeID "CreateSnapshot" (Agent.createSnapshot (cl.agents nodeID) vmID snapshotName)

def deleteSnapshot (snapshotName : String) : Op Unit :=
  call nodeID "DeleteSnapshot" (Agent.deleteSnapshot (cl.agents nodeID) vmID snapshotName)

def deleteVMRequestFromModel (vm : Compute.VM) : Agent.DeleteVMRequest :=
  ⟨vm.id, vm.storageBackend, vm.diskPath.getD ""⟩

def deleteDisk : Op Unit :=
  withNode nodeID fun _ => do
    let vm ← wrapping ("getting VM " ++ vmID) (VMRepository.getByIDIncludingDeleted vmID)
    send nodeID "DeleteDisk"
      ((Agent.deleteDisk (cl.agents nodeID) (deleteVMRequestFromModel vm)).embed (onNode nodeID))

/-- the call as such is part of what a run shows -/
def called (event : GuestEvent) : Op Unit := logged (query (.guestCall event) "calling")

/-- the count is always zero -/
def guestFreezeFilesystems : Op Int := do
  called ⟨nodeID, Agent.domainName vmID, .freeze⟩
  withNode nodeID fun _ => send nodeID "GuestFreezeFilesystems"
    (guestFilesystems nodeID vmID .freeze)
  return 0

def guestThawFilesystems : Op Int := do
  called ⟨nodeID, Agent.domainName vmID, .thaw⟩
  withNode nodeID fun _ => send nodeID "GuestThawFilesystems" (guestFilesystems nodeID vmID .thaw)
  return 0

/-- a second snapshot -/
def protectSnapshot (snapshotName : String) : Op Unit := do
  let _ ← call nodeID "CreateSnapshot for protect"
    (Agent.createSnapshot (cl.agents nodeID) vmID snapshotName)
  return

def unprotectSnapshot (snapshotName : String) : Op Unit :=
  call nodeID "DeleteSnapshot for unprotect"
    (Agent.deleteSnapshot (cl.agents nodeID) vmID snapshotName)

/-- a third snapshot; neither the snapshot nor the pool that is asked for is part of the request -/
def cloneSnapshot : Op String :=
  withNode nodeID fun _ => do
    let t ← now
    let resp ← send nodeID "CreateSnapshot for clone"
      ((Agent.createSnapshot (cl.agents nodeID) vmID
        ("vs-" ++ vmID ++ "-clone-" ++ toString t.1)).embed (onNode nodeID))
    return resp.rbdSnapshotName

section
variable (diskPath snapshotName storageBackend : String)

def createDiskSnapshot : Op Unit :=
  call nodeID "CreateDiskSnapshot"
    (Agent.createDiskSnapshot (cl.agents nodeID) ⟨vmID, snapshotName, storageBackend, diskPath⟩)

def deleteDiskSnapshot : Op Unit :=
  call nodeID "DeleteDiskSnapshot"
    (Agent.deleteDiskSnapshot (cl.agents nodeID) ⟨vmID, snapshotName, storageBackend, diskPath⟩)

end

section
variable (diskPath snapshotName : String)

def createQCOWSnapshot : Op Unit :=
  createDiskSnapshot cl nodeID vmID diskPath snapshotName "qcow"

def deleteQCOWSnapshot : Op Unit :=
  deleteDiskSnapshot cl nodeID vmID diskPath snapshotName "qcow"

/-- a second snapshot of the same name; the path of the backup is not part of the request -/
def createQCOWBackup : Op Int := do
  createDiskSnapshot cl nodeID vmID diskPath snapshotName "qcow"
  return 0

end

def createLVMBackup (snapshotName backupFilePath : String) : Op Int :=
  call nodeID "CreateLVMBackup"
    (Agent.createLVMBackup (cl.agents nodeID) vmID snapshotName backupFilePath)

end

/-- the file is sent as the disk of a VM without an id -/
def deleteBackupFile (cl : Client) (nodeID request storageBackend backupPath : String) : Op Unit :=
  call nodeID request (Agent.deleteVM (cl.agents nodeID) ⟨"", storageBackend, backupPath⟩)

variable (cl : Client) (nodeID backupPath : String)

def deleteQCOWBackupFile : Op Unit :=
  deleteBackupFile cl nodeID "DeleteVM for backup file cleanup" "qcow" backupPath

def deleteLVMBackupFile : Op Unit :=
  deleteBackupFile cl nodeID "DeleteVM for LVM backup file cleanup" "lvm" backupPath

end NodeAgent

end VirtueStack.Backup
