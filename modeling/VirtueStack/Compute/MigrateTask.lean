import VirtueStack.Compute.Repo

/-!
# The handler of `vm.migrate` (tasks/migration_execute.go)

* `prepareMigrationContext` the checks, and the status migrating where the service has not set it;
* `executeMigrationStrategy` live over shared storage, or with a copy of the disk;
* `finalizeMigration` the commit: node, status, and the disk of the source goes.

The progress a transfer reports is not modelled.
-/

namespace VirtueStack.Compute
open Txn Call Op
open Billing (VMStatus)

structure MigrationContext where
  taskID : String
  payload : VMMigratePayload
  vm : VM
  sourceNode : Node
  targetNode : Node

/-! ## checks -/

variable (payload : VMMigratePayload)

def checkSource (vm : VM) : Except GoError Unit :=
  match vm.nodeID with
  | none => .error (.new ("VM " ++ payload.vmID ++ " has no node assigned"))
  | some nodeID =>
    if nodeID = payload.sourceNodeID then .ok ()
    else .error (.new ("VM " ++ payload.vmID ++ " is on node " ++ nodeID ++ ", not source node " ++
      payload.sourceNodeID))

def checkTarget (targetNode : Node) : Except GoError Unit :=
  if targetNode.status = .online then .ok ()
  else .error (.new ("target node " ++ payload.targetNodeID ++ " is not online (status: " ++
    targetNode.status.text ++ ")"))

def validateMigrationEntities (taskID : String) (payload : VMMigratePayload) :
    Op MigrationContext := do
  let vm ← wrapping ("getting VM " ++ payload.vmID) (VMRepository.getByID payload.vmID)
  lift (checkSource payload vm)
  let sourceNode ← wrapping ("getting source node " ++ payload.sourceNodeID)
    (NodeRepository.getByID payload.sourceNodeID)
  let targetNode ← wrapping ("getting target node " ++ payload.targetNodeID)
    (NodeRepository.getByID payload.targetNodeID)
  lift (checkTarget payload targetNode)
  return ⟨taskID, payload, vm, sourceNode, targetNode⟩

/-- an error to report progress is logged -/
def progress (taskID : String) (percent : Int) (message : String) : Op Unit :=
  logged (TaskRepository.updateProgress taskID percent message)

def markMigrationComplete (taskID : String) : Op Unit := do
  progress taskID 100 "VM already on target node"
  logged (TaskRepository.setCompleted taskID)

/-- the status the VM is expected to be in -/
def VMMigratePayload.fromStatus (vm : VM) : String :=
  if payload.preMigrationState = "" then vm.status.text else payload.preMigrationState

/-- a VM that is not migrating yet -/
def markMigrating (vm : VM) : Op Unit :=
  if vm.status = .migrating then .pure ()
  else wrapping ("updating VM " ++ payload.vmID ++ " status to migrating")
    (VMRepository.transitionStatus payload.vmID (payload.fromStatus vm) .migrating)

/-- no context if the VM is on its target -/
def beginMigration (mc : MigrationContext) : Op (Option MigrationContext) :=
  if mc.vm.nodeID = some mc.payload.targetNodeID then do
    markMigrationComplete mc.taskID
    return none
  else do
    markMigrating mc.payload mc.vm
    return some mc

def prepareMigrationContext (taskID : String) (doc : Json) : Op (Option MigrationContext) := do
  let payload ← wrapping "parsing vm.migrate payload" (lift (VMMigratePayload.decode doc))
  let mc ← validateMigrationEntities taskID payload
  beginMigration mc

/-! ## steps of a migration -/

namespace MigrationContext
variable (mc : MigrationContext)

def onSource (call : AgentCall) : Op Unit := NodeAgent.call mc.payload.sourceNodeID call

def onTarget (call : AgentCall) : Op Unit := NodeAgent.call mc.payload.targetNodeID call

def progress (percent : Int) (message : String) : Op Unit :=
  Compute.progress mc.taskID percent message

/-- `shortID`, of ids of one byte a character -/
def snapshotName : String := "migrate-" ++ String.ofList (mc.payload.vmID.toList.take 8)

def transferOpts (sourceStorageBackend snapshotName : String) : DiskTransferOptions where
  vmID := mc.payload.vmID
  sourceNodeID := mc.payload.sourceNodeID
  targetNodeID := mc.payload.targetNodeID
  sourceDiskPath := mc.payload.sourceDiskPath
  targetDiskPath := mc.payload.targetDiskPath
  sourceStorageBackend := sourceStorageBackend
  snapshotName := snapshotName

/-- the context of the error is the caller's -/
def transferDisk (failure sourceStorageBackend snapshotName : String) : Op Unit :=
  wrapping failure
    (mc.onSource (.transferDisk (mc.transferOpts sourceStorageBackend snapshotName)))

def stopVMGracefully : Op Unit :=
  wrapping "stopping VM" <| attempt (mc.onSource (.stopVM mc.payload.vmID)) fun
    | .ok _ => .pure ()
    | .error _ => wrapping ("force stopping VM " ++ mc.payload.vmID)
        (mc.onSource (.forceStopVM mc.payload.vmID))

/-- the definition goes, the disk stays -/
def undefineVM : Op Unit := logged (mc.onSource (.undefineVM mc.payload.vmID))

def prepareMigratedVM : Op Unit :=
  wrapping "preparing VM on target"
    (mc.onTarget (.prepareMigratedVM mc.payload.vmID mc.payload.targetDiskPath
      mc.vm.storageBackend))

def startVM : Op Unit :=
  wrapping "starting VM on target" (mc.onTarget (.startVM mc.payload.vmID))

def postMigrateSetup : Op Unit := logged (mc.onTarget (.postMigrateSetup mc.payload.vmID))

end MigrationContext

/-! ## strategies -/

def executeLiveSharedStorageMigration (mc : MigrationContext) : Op Unit := do
  mc.progress 20 "Executing live migration..."
  wrapping "live migration failed"
    (mc.onSource (.migrateVM mc.payload.vmID mc.payload.targetNodeID))
  mc.progress 70 "Applying post-migration configuration..."
  mc.postMigrateSetup

/-- what differs between the copies of a disk in use -/
structure LiveCopy where
  snapshotMessage : String
  snapshotFailure : String
  transferMessage : String
  transferFailure : String
  sourceStorageBackend : String
  /-- reported between the stop and the end of the definition -/
  syncMessage : Option String
  preparePercent : Int
  prepareMessage : String

def LiveCopy.syncProgress (k : LiveCopy) (mc : MigrationContext) : Op Unit :=
  match k.syncMessage with
  | some message => mc.progress 85 message
  | none => .pure ()

/-- the steps between the snapshot and its deletion -/
def LiveCopy.switchover (k : LiveCopy) (mc : MigrationContext) : Op Unit := do
  mc.progress 30 k.transferMessage
  mc.transferDisk k.transferFailure k.sourceStorageBackend mc.snapshotName
  mc.progress 80 "Stopping VM for switchover..."
  mc.stopVMGracefully
  k.syncProgress mc
  mc.undefineVM
  mc.progress k.preparePercent k.prepareMessage
  mc.prepareMigratedVM
  mc.startVM
  mc.postMigrateSetup

/-- the deferred deletion, and the result of the steps before it -/
def LiveCopy.ended (mc : MigrationContext) (r : Except GoError Unit) : Op Unit := do
  logged (mc.onSource (.deleteSnapshot mc.payload.vmID mc.snapshotName))
  lift r

def LiveCopy.execute (k : LiveCopy) (mc : MigrationContext) : Op Unit := do
  mc.progress 25 k.snapshotMessage
  wrapping k.snapshotFailure (mc.onSource (.createSnapshot mc.payload.vmID mc.snapshotName))
  attempt (k.switchover mc) (LiveCopy.ended mc)

def executeLiveDiskCopyMigration : MigrationContext → Op Unit :=
  LiveCopy.execute {
    snapshotMessage := "Creating migration snapshot..."
    snapshotFailure := "creating migration snapshot"
    transferMessage := "Transferring disk to target node..."
    transferFailure := "disk transfer failed"
    sourceStorageBackend := ""
    syncMessage := some "Syncing final changes..."
    preparePercent := 88
    prepareMessage := "Starting VM on target node..." }

def executeLiveLVMMigration : MigrationContext → Op Unit :=
  LiveCopy.execute {
    snapshotMessage := "Creating LVM migration snapshot..."
    snapshotFailure := "creating LVM migration snapshot"
    transferMessage := "Transferring base disk..."
    transferFailure := "LVM disk transfer failed"
    sourceStorageBackend := "lvm"
    syncMessage := none
    preparePercent := 85
    prepareMessage := "Preparing VM on target..." }

/-- what differs between the copies of a disk that is not in use -/
structure ColdCopy where
  stopPercent : Int
  stopMessage : String
  transferMessage : String
  transferFailure : String
  sourceStorageBackend : String
  cleanupMessage : String
  prepareMessage : String

/-- the VM is stopped if its row said it was running -/
def ColdCopy.ensureStopped (k : ColdCopy) (mc : MigrationContext) : Op Unit :=
  if mc.vm.status = .running then do
    mc.progress k.stopPercent k.stopMessage
    mc.stopVMGracefully
  else .pure ()

def startAgain (mc : MigrationContext) : Op Unit :=
  if mc.payload.preMigrationState = VMStatus.running.text then mc.startVM else .pure ()

def ColdCopy.execute (k : ColdCopy) (mc : MigrationContext) : Op Unit := do
  k.ensureStopped mc
  mc.progress 30 k.transferMessage
  mc.transferDisk k.transferFailure k.sourceStorageBackend ""
  mc.progress 80 k.cleanupMessage
  mc.undefineVM
  mc.progress 85 k.prepareMessage
  mc.prepareMigratedVM
  startAgain mc

def executeColdDiskCopyMigration : MigrationContext → Op Unit :=
  ColdCopy.execute {
    stopPercent := 25
    stopMessage := "Stopping VM..."
    transferMessage := "Transferring disk to target node..."
    transferFailure := "disk transfer failed"
    sourceStorageBackend := ""
    cleanupMessage := "Cleaning up source node..."
    prepareMessage := "Preparing VM on target node..." }

def executeColdLVMMigration : MigrationContext → Op Unit :=
  ColdCopy.execute {
    stopPercent := 25
    stopMessage := "Stopping VM..."
    transferMessage := "Transferring LVM disk..."
    transferFailure := "LVM disk transfer failed"
    sourceStorageBackend := "lvm"
    cleanupMessage := "Cleaning up source..."
    prepareMessage := "Preparing VM on target..." }

section
variable (mc : MigrationContext)

def executeColdMigration : Op Unit :=
  ColdCopy.execute {
    stopPercent := 20
    stopMessage := "Stopping VM for cold migration..."
    transferMessage := "Transferring disk with format conversion..."
    transferFailure := "disk transfer with conversion failed"
    sourceStorageBackend := mc.payload.sourceStorageBackend
    cleanupMessage := "Cleaning up source node..."
    prepareMessage := "Preparing VM on target node..." } mc

/-- the copy that fits the backend of the source and the status the row had -/
def diskCopy : Op Unit :=
  if mc.payload.sourceIsLVM then
    if mc.payload.live ∧ mc.vm.status = .running then executeLiveLVMMigration mc
    else executeColdLVMMigration mc
  else if mc.payload.live ∧ mc.vm.status = .running then executeLiveDiskCopyMigration mc
  else executeColdDiskCopyMigration mc

def executeDiskCopyMigration : Op Unit := do
  mc.progress 20 "Preparing disk transfer..."
  diskCopy mc

/-- the strategies, by their texts -/
def strategyOf : Op Unit :=
  if mc.payload.migrationStrategy = migrationStrategyLiveSharedStorage then
    executeLiveSharedStorageMigration mc
  else if mc.payload.migrationStrategy = migrationStrategyDiskCopy then executeDiskCopyMigration mc
  else if mc.payload.migrationStrategy = migrationStrategyCold then executeColdMigration mc
  else fail (.new ("unknown migration strategy: " ++ mc.payload.migrationStrategy))

def executeMigrationStrategy : Op Unit := do
  mc.progress 10 "Preparing migration..."
  strategyOf mc

end

/-! ## the end of a migration -/

def handleMigrationFailure (mc : MigrationContext) : Op Unit :=
  logged (VMRepository.transitionStatus mc.payload.vmID VMStatus.migrating.text .error)

def migrationFinalStatus (preMigrationState : String) : VMStatus :=
  if preMigrationState = VMStatus.stopped.text then .stopped
  else if preMigrationState = VMStatus.suspended.text then .suspended
  else .running

section
variable (mc : MigrationContext)

def cleanupSourceDiskAfterCommit : Op Unit :=
  if mc.payload.migrationStrategy = migrationStrategyLiveSharedStorage then .pure ()
  else logged (mc.onSource (.deleteDisk mc.payload.vmID))

/-- the steps after the commit of the node and the status -/
def completeMigration : Op Unit := do
  cleanupSourceDiskAfterCommit mc
  mc.progress 100 "Migration completed successfully"
  logged (TaskRepository.setCompleted mc.taskID)

/-- the VM has its status back, or not; only a conflict ends the task -/
def statusRestored : Except GoError Unit → Op Unit
  | .ok _ => completeMigration mc
  | .error e =>
    if e.is .conflict then
      fail (.wrap ("transitioning VM " ++ mc.payload.vmID ++ " to " ++
        (migrationFinalStatus mc.payload.preMigrationState).text ++ " after migration") e)
    else completeMigration mc

def finalizeMigration : Op Unit := do
  mc.progress 90 "Updating VM assignment..."
  wrapping ("updating VM " ++ mc.payload.vmID ++ " node assignment")
    (VMRepository.updateNodeAssignment mc.payload.vmID mc.payload.targetNodeID)
  attempt (VMRepository.transitionStatus mc.payload.vmID VMStatus.migrating.text
    (migrationFinalStatus mc.payload.preMigrationState)) (statusRestored mc)

/-- the strategy has succeeded, or not -/
def strategyEnded : Except GoError Unit → Op Unit
  | .ok _ => finalizeMigration mc
  | .error e => do
    handleMigrationFailure mc
    fail e

end

/-- no context is a migration that is done -/
def migrate : Option MigrationContext → Op Unit
  | none => .pure ()
  | some mc => attempt (executeMigrationStrategy mc) (strategyEnded mc)

def handleVMMigrate (taskID : String) (doc : Json) : Op Unit := do
  let mc ← prepareMigrationContext taskID doc
  migrate mc

end VirtueStack.Compute
