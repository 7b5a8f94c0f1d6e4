import VirtueStack.Backup.Runs

/-!
# Removing backups (services/backup_service.go, services/backup_scheduler_service.go)

* `BackupService.deleteBackup` the storage first, then the row. Without a VM on a node the storage
  is left out;
* `BackupService.applyRetentionPolicy`, `BackupService.processExpiredBackups` rows alone;
* `Backup.pieces` what the fields of a row name in the storage of a node, which depends on the
  backend of the row, and `Backup.data` the bytes of each, if they are there.
-/

set_option linter.dupNamespace false

namespace VirtueStack.Backup
open Txn Call Op Agent

/-! ## the service -/

namespace BackupService

def backupFound (backupID : String) : Except GoError Backup → Op Backup
  | .ok b => .pure b
  | .error e =>
    if e.is .notFound then fail (.new ("backup not found: " ++ backupID))
    else fail (.wrap "getting backup" e)

section
variable (cl : Client) (b : Backup)

def deleteQCOWSnapshotOf (vm : Compute.VM) (nodeID : String) : Op Unit :=
  match b.snapshotName with
  | some name =>
    wrapping "deleting QCOW snapshot"
      (NodeAgent.deleteQCOWSnapshot cl nodeID vm.id (diskPathOf vm) name)
  | none => .pure ()

def deleteQCOWStored (vm : Compute.VM) (nodeID filePath : String) : Op Unit := do
  wrapping "deleting QCOW backup file" (NodeAgent.deleteQCOWBackupFile cl nodeID filePath)
  deleteQCOWSnapshotOf cl b vm nodeID

def deleteRBDStored (nodeID : String) : Op Unit :=
  match b.rbdSnapshot with
  | some name => wrapping "deleting RBD snapshot" (NodeAgent.deleteSnapshot cl nodeID b.vmID name)
  | none => .pure ()

/-- the file, for a backup of a disk in a file -/
def qcowFile : Option String := if backendOrCeph b.storageBackend = "qcow" then b.filePath else none

def deleteStoredOn (vm : Compute.VM) (nodeID : String) : Op Unit :=
  match qcowFile b with
  | some filePath => deleteQCOWStored cl b vm nodeID filePath
  | none => deleteRBDStored cl b nodeID

def deleteStoredAt (vm : Compute.VM) : Option String → Op Unit
  | some nodeID => deleteStoredOn cl b vm nodeID
  | none => .pure ()

/-- a VM that cannot be read is taken for one without storage -/
def deleteStored : Except GoError Compute.VM → Op Unit
  | .ok vm => deleteStoredAt cl b vm vm.nodeID
  | .error _ => .pure ()

end

def deleteBackup (cl : Client) (backupID : String) : Op Unit := do
  let b ← attempt (BackupRepository.getBackupByID backupID) (backupFound backupID)
  attempt (VMRepository.getByID b.vmID) (deleteStored cl b)
  wrapping "deleting backup" (BackupRepository.deleteBackup backupID)

def deleteRows : List Backup → Op Unit
  | [] => .pure ()
  | b :: rest => do
    wrapping ("deleting backup " ++ b.id) (BackupRepository.deleteBackup b.id)
    deleteRows rest

/-- the list has the newest first -/
def retain (retention : Int) (backups : List Backup) : Op Unit :=
  if (backups.length : Int) ≤ retention then .pure () else deleteRows (backups.drop retention.toNat)

def applyRetentionPolicy (vmID : String) (retention : Int) : Op Unit :=
  if retention < 0 then fail (.new "retention must be >= 0")
  else do
    let backups ← wrapping "listing backups" (BackupRepository.listBackupsByVM vmID)
    retain retention backups

/-- a row that is not deleted is only logged; the others are counted -/
def deleteExpired : List Backup → Int → Op Int
  | [], deleted => .pure deleted
  | b :: rest, deleted =>
    attempt (BackupRepository.deleteBackup b.id) fun r =>
      deleteExpired rest (if r.isOk then deleted + 1 else deleted)

def processExpiredBackups : Op Int := do
  let t ← now
  let expired ← wrapping "listing expired backups" (BackupRepository.listExpiredBackups t.1)
  deleteExpired expired 0

end BackupService

/-! ## what a row names -/

def imageAt (path : String) : Obj :=
  .image (String.ofList (path.toList.takeWhile (· ≠ '/')))
    (String.ofList ((path.toList.dropWhile (· ≠ '/')).drop 1))

/-- the object with the disk of a VM, where its snapshots are inside -/
def diskObject (vmID : String) : StorageBackend → Option Obj
  | .ceph m => some (.image m.pool (vmDiskName vmID))
  | .qcow m => some (fileAt (m.imagePath (m.diskIdentifier vmID)))
  | .lvm _ => none

/-- an object, or one of its snapshots -/
inductive Piece where
  | whole (obj : Obj)
  | snap (obj : Obj) (name : String)

namespace Piece

def obj : Piece → Obj
  | whole obj | snap obj _ => obj

/-- the bytes of a piece of an image -/
def contentIn (im : Image) : Piece → Option Content
  | whole _ => some im.content
  | snap _ name => (im.snap name).map Snap.content

def content (h : Host) (piece : Piece) : Option Content :=
  (h.objects piece.obj).bind fun im => piece.contentIn im

end Piece

/-- the disk in a file that a row belongs to -/
def Db.diskPath (db : Db) (vmID : String) : String :=
  match db.vms.find vmID with
  | some vm => diskPathOf vm
  | none => "/var/lib/virtuestack/vms/" ++ vmID ++ "-disk0.qcow2"

/-- a snapshot with a volume of its own -/
def volumeOf (name : String) : StorageBackend → Option Piece
  | .lvm m => some (.whole (.device (m.lvPath name)))
  | _ => none

namespace Backup
variable (cl : Client) (db : Db) (node : String) (b : Backup)

/-- what the fields of the row name on the host of a node -/
def pieces : List (Option Piece) :=
  if backendOrCeph b.storageBackend = "qcow" then
    [b.filePath.map fun path => .whole (fileAt path),
      b.snapshotName.map fun name => .snap (fileAt (db.diskPath b.vmID)) name]
  else if backendOrCeph b.storageBackend = "lvm" then
    [b.filePath.map fun path => .whole (fileAt path),
      b.snapshotName.bind fun name => volumeOf name (cl.agents node).storage]
  else
    [b.rbdSnapshot.bind fun name => (diskObject b.vmID (cl.agents node).storage).map fun obj =>
      .snap obj name, b.storagePath.map fun path => .whole (imageAt path)]

def data : List (Option Content) :=
  (b.pieces cl db node).map fun piece => piece.bind (Piece.content (db.hosts node))

/-- the node of the VM; a VM that is on no node may have left its backups anywhere -/
def At : Prop := ∀ n, (db.vm b.vmID).bind Compute.VM.nodeID = some n → node = n

/-- some data of the backup is in the storage -/
def Stored : Prop := ∃ node, b.At db node ∧ ∃ content, some content ∈ b.data cl db node

end Backup

/-! ## removals -/

inductive Removal where
  | deleteBackup (id : String)
  | applyRetentionPolicy (vmID : String) (retention : Int)
  | processExpiredBackups

namespace Removal

/-- the value of a removal does not matter -/
def op (cl : Client) : Removal → Op Unit
  | deleteBackup id => BackupService.deleteBackup cl id
  | applyRetentionPolicy vmID retention => BackupService.applyRetentionPolicy vmID retention
  | processExpiredBackups => do
    let _ ← BackupService.processExpiredBackups
    return

/-- the backups that a run is to remove -/
def Selects (db : Db) (tr : List (Sent store)) (b : Backup) : Removal → Prop
  | deleteBackup id => b.id = id
  | applyRetentionPolicy vmID retention => 0 ≤ retention ∧
    b ∈ (db.backupsByVM vmID).drop retention.toNat
  | processExpiredBackups =>
    ∃ s ∈ tr, ∃ now, s.stmt = .listExpiredBackups now ∧ ∃ t ∈ b.expiresAt, t ≤ now

end Removal

def Deletes (b : Backup) (s : Sent store) : Prop :=
  s.stmt = .deleteBackup b.id ∧ s.db.backups.find b.id = some b ∧ s.writes = [.deleteBackup b.id]

/-- rows are deleted when nothing of them is stored, and the other backups stay as they are -/
def Removal.RemovesSafely (cl : Client) (db : Db) (removal : Removal) : Prop :=
  ∀ tr r db', (removal.op cl).Run db tr r db' → (∀ s ∈ tr, OnlyCallsFail s.stmt s.event s.db) →
    (∀ s ∈ tr, ∀ b, Deletes b s → ¬ b.Stored cl s.db) ∧
    ∀ b ∈ db.backups.rows, ¬ removal.Selects db tr b →
      b ∈ db'.backups.rows ∧ ∀ node, b.data cl db' node = b.data cl db node

/-! ## when it is safe -/

/-- only an RBD snapshot can be protected -/
def isBusy (s : Snap) : StorageBackend → Bool
  | .ceph _ => s.isProtected
  | _ => false

/-- a snapshot of the disk of a VM that can be removed, with its object and its image -/
def removableSnap (storage : StorageBackend) (h : Host) (vmID name : String) :
    Option (Obj × Image × Snap) :=
  (diskObject vmID storage).bind fun obj => (h.objects obj).bind fun im =>
    (im.snap name).bind fun s =>
    if isBusy s storage then none else some (obj, im, s)

/-- the snapshot that the agent of the node removes if it is asked to -/
def removable (cl : Client) (db : Db) (nodeID vmID name : String) : Option (Obj × Image × Snap) :=
  if vmID = "" ∨ name = "" ∨ (db.nodes.find nodeID).isNone then none
  else removableSnap (cl.agents nodeID).storage (db.hosts nodeID) vmID name

/-- an object that a node has is on this one too -/
def SeenOn (nodeID : String) (obj : Obj) (node : String) : Prop :=
  node = nodeID ∨ isShared (.object obj none) = true

/-- the snapshot of an image is all that the backup is made of, and no other one's -/
structure Sole (cl : Client) (db : Db) (nodeID : String) (b : Backup) (obj : Obj)
    (im : Image) (s : Snap) : Prop where
  own : ∀ piece, some piece ∈ b.pieces cl db nodeID → piece.content (db.hosts nodeID) = none ∨
    piece = .snap obj s.name ∧ ∀ other ∈ im.snaps.erase s, other.name ≠ s.name
  /-- what the others have of the object, on every host that has it, is among the rest -/
  others : ∀ other ∈ db.backups.rows, other.id ≠ b.id → ∀ node, SeenOn nodeID obj node →
    ∀ piece, some piece ∈ other.pieces cl db node → piece.obj = obj →
      piece.content (db.hosts node) = piece.contentIn { im with snaps := im.snaps.erase s }

variable (cl : Client) (db : Db)

def OneSnapshot (nodeID : String) (b : Backup) : Prop :=
  match b.rbdSnapshot with
  | none => ¬ b.Stored cl db
  | some name => ∀ p ∈ removable cl db nodeID b.vmID name, Sole cl db nodeID b p.1 p.2.1 p.2.2

/-- a backup of a file stays; others have no data, or lose all of it before their row -/
def HarmlessAt (b : Backup) : Option String → Prop
  | none => ¬ b.Stored cl db
  | some nodeID => (BackupService.qcowFile b).isSome = true ∨ OneSnapshot cl db nodeID b

def HarmlessRow (b : Backup) : Prop :=
  HarmlessAt cl db b ((db.vm b.vmID).bind Compute.VM.nodeID)

def Removal.Harmless : Removal → Prop
  | .deleteBackup id => ∀ b ∈ db.backups.find id, HarmlessRow cl db b
  | .applyRetentionPolicy vmID retention =>
    0 ≤ retention → ∀ b ∈ (db.backupsByVM vmID).drop retention.toNat, ¬ b.Stored cl db
  | .processExpiredBackups => ∀ b ∈ db.backups.rows, b.expiresAt.isSome = true → ¬ b.Stored cl db

end VirtueStack.Backup
