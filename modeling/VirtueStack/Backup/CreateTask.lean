import VirtueStack.Backup.Client

/-!
# backup.create (tasks/backup_create.go)

The handler asks the agent of the guest to freeze its file systems, lets the handler of the storage
backend make the backup, and thaws them at the end if it knows of any that are frozen.

* `handleBackupCreate` the handler. A deferred function is what it goes on with, whatever the
  outcome.

Progress and result of the task are written to columns that nothing here reads.
-/

namespace VirtueStack.Backup
open Txn Call Op

structure Task where
  id : String
  status : Tasks.TaskStatus
  payload : Json

def Task.isTerminal (t : Task) : Bool :=
  t.status = .completed ∨ t.status = .failed ∨ t.status = .cancelled

structure BackupCreatePayload where
  vmID : String
  backupName : String
  source : String
  adminScheduleID : String
  deriving DecidableEq, Repr

def BackupCreatePayload.tags : List String :=
  ["vm_id", "backup_name", "source", "admin_schedule_id"]

def BackupCreatePayload.decode (doc : Json) : Except GoError BackupCreatePayload := do
  let members ← doc.members
  let vmID ← stringField tags members "vm_id"
  let backupName ← stringField tags members "backup_name"
  let source ← stringField tags members "source"
  let adminScheduleID ← stringField tags members "admin_schedule_id"
  return { vmID, backupName, source, adminScheduleID }

def backupPoolName : String := "vs-backups"
def defaultBackupBasePath : String := "/var/lib/virtuestack/backups"
def defaultBackupExpirationDays : Int := 30

/-- seconds -/
def day : Int := 24 * 60 * 60

def shortID (id : String) : String := String.ofList (id.toList.take 8)

def backendOrCeph (storageBackend : String) : String :=
  if storageBackend = "" then "ceph" else storageBackend

/-- the path of the row, or the one of the template -/
def diskPathOf (vm : Compute.VM) : String :=
  if vm.diskPath.getD "" = "" then "/var/lib/virtuestack/vms/" ++ vm.id ++ "-disk0.qcow2"
  else vm.diskPath.getD ""

/-- `BackupHandlerContext`, without what is only logged -/
structure HandlerContext where
  taskID : String
  vm : Compute.VM
  nodeID : String
  payload : BackupCreatePayload

/-- a row of the handlers: they leave the method as it is, and the limits of the text columns are
wide enough -/
def HandlerContext.backup (b : HandlerContext) (storageBackend : String) (expiresAt : Int) :
    Backup where
  id := ""
  vmID := b.payload.vmID
  method := .unset
  source := b.payload.source
  adminScheduleID := if b.payload.adminScheduleID = "" then none else some b.payload.adminScheduleID
  storageBackend := storageBackend
  rbdSnapshot := none
  filePath := none
  snapshotName := none
  storagePath := none
  sizeBytes := none
  status := .completed
  createdAt := 0
  expiresAt := some expiresAt

def completeBackupTask (taskID : String) : Op Unit := do
  progress taskID 100 "Backup created successfully"
  logged (TaskRepository.setCompleted taskID)

/-- a step whose failure is followed by a clean-up -/
def failedThen {α β : Type} (context : String) (cleanup : Op Unit) (k : α → Op β) :
    Except GoError α → Op β
  | .ok a => k a
  | .error e => attempt cleanup fun _ => fail (.wrap context e)

def orElse {α β : Type} (c : Op α) (context : String) (cleanup : Op Unit) (k : α → Op β) : Op β :=
  attempt c (failedThen context cleanup k)

section
variable (cl : Client) (b : HandlerContext)

def HandlerContext.filePath (stamp extension : String) : String :=
  defaultBackupBasePath ++ "/" ++ b.payload.vmID ++ "/" ++ shortID b.taskID ++ "-" ++
    stamp ++ extension

def HandlerContext.snapshotName (t : Int) : String :=
  "backup-" ++ b.payload.vmID ++ "-" ++ toString t

/-! ## QCOW2 -/

def cleanupQCOW (filePath snapshotName : String) : Op Unit := do
  cleanup "DeleteQCOWBackupFile" (NodeAgent.deleteQCOWBackupFile cl b.nodeID filePath)
  cleanup "DeleteQCOWSnapshot"
    (NodeAgent.deleteQCOWSnapshot cl b.nodeID b.payload.vmID (diskPathOf b.vm) snapshotName)

variable (snapshotName : String)

def recordQCOW (filePath : String) (sizeBytes : Int) : Op Unit := do
  progress b.taskID 70 "Creating backup record..."
  let t ← now
  orElse
    (BackupRepository.createBackup { b.backup "qcow" (t.1 + defaultBackupExpirationDays * day) with
      filePath := some filePath, snapshotName := some snapshotName, sizeBytes := some sizeBytes })
    "creating backup record" (cleanupQCOW cl b filePath snapshotName) fun _ =>
      completeBackupTask b.taskID

def copyQCOW : Op Unit := do
  progress b.taskID 50 "Creating backup file..."
  let t ← now
  orElse (NodeAgent.createQCOWBackup cl b.nodeID b.payload.vmID (diskPathOf b.vm) snapshotName)
    ("creating QCOW backup file for VM " ++ b.payload.vmID)
    (cleanup "DeleteQCOWSnapshot"
      (NodeAgent.deleteQCOWSnapshot cl b.nodeID b.payload.vmID (diskPathOf b.vm) snapshotName))
    (recordQCOW cl b snapshotName (b.filePath t.2 ".qcow2"))

def handleQCOWBackupCreate : Op Unit := do
  progress b.taskID 30 "Creating QCOW snapshot..."
  let t ← now
  wrapping ("creating QCOW snapshot for VM " ++ b.payload.vmID)
    (NodeAgent.createQCOWSnapshot cl b.nodeID b.payload.vmID (diskPathOf b.vm) (b.snapshotName t.1))
  copyQCOW cl b (b.snapshotName t.1)

/-! ## Ceph -/

/-- the clean-up is for a VM of the name of the image -/
def recordCeph (rbdSnapshotName backupImageName : String) : Op Unit := do
  progress b.taskID 70 "Creating backup record..."
  let t ← now
  orElse
    (BackupRepository.createBackup { b.backup "ceph" (t.1 + defaultBackupExpirationDays * day) with
      rbdSnapshot := some rbdSnapshotName, storagePath :=
      some (backupPoolName ++ "/" ++ backupImageName) })
    "creating backup record"
      (cleanup "DeleteDisk" (NodeAgent.deleteDisk cl b.nodeID backupImageName))
    fun _ => completeBackupTask b.taskID

/-- the name the agent reports, or the one the handler has made up -/
def backupImageName (vmID : String) (t : Int) (clonedImageName : String) : String :=
  if clonedImageName = "" then "vs-" ++ vmID ++ "-" ++ toString t ++ "-backup" else clonedImageName

def cloneCeph (rbdSnapshotName : String) : Op Unit := do
  progress b.taskID 50 "Cloning to backup storage..."
  let t ← now
  orElse (NodeAgent.cloneSnapshot cl b.nodeID b.payload.vmID)
    ("cloning snapshot to backup pool for VM " ++ b.payload.vmID)
    (cleanup "UnprotectSnapshot"
      (NodeAgent.unprotectSnapshot cl b.nodeID b.payload.vmID rbdSnapshotName))
    fun name => recordCeph cl b rbdSnapshotName (backupImageName b.payload.vmID t.1 name)

def handleCephBackupCreate : Op Unit := do
  progress b.taskID 30 "Creating disk snapshot..."
  let t ← now
  let resp ← wrapping ("creating snapshot for VM " ++ b.payload.vmID)
    (NodeAgent.createSnapshot cl b.nodeID b.payload.vmID (b.snapshotName t.1))
  progress b.taskID 40 "Protecting snapshot..."
  wrapping ("protecting snapshot for VM " ++ b.payload.vmID)
    (NodeAgent.protectSnapshot cl b.nodeID b.payload.vmID resp.rbdSnapshotName)
  cloneCeph cl b resp.rbdSnapshotName

/-! ## LVM -/

def deleteLVMSnapshot : Op Unit :=
  cleanup "DeleteDiskSnapshot"
    (NodeAgent.deleteDiskSnapshot cl b.nodeID b.payload.vmID "" snapshotName "lvm")

def cleanupLVM (filePath snapshotName : String) : Op Unit := do
  cleanup "DeleteLVMBackupFile" (NodeAgent.deleteLVMBackupFile cl b.nodeID filePath)
  deleteLVMSnapshot cl b snapshotName

def recordLVM (filePath : String) (sizeBytes : Int) : Op Unit := do
  progress b.taskID 70 "Creating backup record..."
  let t ← now
  orElse
    (BackupRepository.createBackup { b.backup "lvm" (t.1 + defaultBackupExpirationDays * day) with
      filePath := some filePath, snapshotName := some snapshotName, sizeBytes := some sizeBytes })
    "creating backup record" (cleanupLVM cl b filePath snapshotName) fun _ =>
      completeBackupTask b.taskID

def copyLVM : Op Unit := do
  progress b.taskID 50 "Creating backup file..."
  let t ← now
  orElse (NodeAgent.createLVMBackup cl b.nodeID b.payload.vmID snapshotName (b.filePath t.2 ".raw"))
    ("creating LVM backup file for VM " ++ b.payload.vmID) (deleteLVMSnapshot cl b snapshotName)
    (recordLVM cl b snapshotName (b.filePath t.2 ".raw"))

def handleLVMBackupCreate : Op Unit := do
  progress b.taskID 30 "Creating LVM thin snapshot..."
  let t ← now
  wrapping ("creating LVM snapshot for VM " ++ b.payload.vmID)
    (NodeAgent.createDiskSnapshot cl b.nodeID b.payload.vmID "" (b.snapshotName t.1) "lvm")
  copyLVM cl b (b.snapshotName t.1)

/-! ## the handler -/

def backUp : Op Unit :=
  let storageBackend := backendOrCeph b.vm.storageBackend
  if storageBackend = "qcow" then handleQCOWBackupCreate cl b
  else if storageBackend = "lvm" then handleLVMBackupCreate cl b
  else handleCephBackupCreate cl b

/-- the deferred function: a thaw, if file systems are known to be frozen -/
def thawIfFrozen : Except GoError Int → Op Unit
  | .ok frozenCount =>
    if 0 < frozenCount then logged
      (NodeAgent.guestThawFilesystems b.nodeID b.payload.vmID) else .pure ()
  | .error _ => .pure ()

def thenThaw (freeze : Except GoError Int) (r : Except GoError Unit) : Op Unit :=
  attempt (thawIfFrozen b freeze) fun _ => lift r

/-- a freeze that fails is only logged -/
def backUpFrozen (freeze : Except GoError Int) : Op Unit :=
  attempt (backUp cl b) (thenThaw b freeze)

def freezeAndBackUp : Op Unit := do
  progress b.taskID 15 "Freezing filesystems via guest agent..."
  attempt (NodeAgent.guestFreezeFilesystems b.nodeID b.payload.vmID) (backUpFrozen cl b)

end

def onAssignedNode (vmID : String) (vm : Compute.VM) (k : String → Op Unit) : Op Unit :=
  match vm.nodeID with
  | none => fail (.new ("VM " ++ vmID ++ " has no node assigned"))
  | some nodeID => k nodeID

def createBackupOf (cl : Client) (taskID : String) (payload : BackupCreatePayload) : Op Unit := do
  progress taskID 5 "Starting backup creation..."
  let vm ← wrapping ("getting VM " ++ payload.vmID) (VMRepository.getByID payload.vmID)
  onAssignedNode payload.vmID vm fun nodeID => freezeAndBackUp cl ⟨taskID, vm, nodeID, payload⟩

def Task.unlessTerminal (t : Task) (c : Op Unit) : Op Unit := if t.isTerminal then .pure () else c

def handleBackupCreate (cl : Client) (task : Task) : Op Unit := do
  let payload ← wrapping "parsing backup.create payload"
    (lift (BackupCreatePayload.decode task.payload))
  task.unlessTerminal (createBackupOf cl task.id payload)

end VirtueStack.Backup
