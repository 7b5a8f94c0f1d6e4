import VirtueStack.Agent.HandlerCells

/-!
# What the requests for snapshots and backups can change

The cells that the handlers write to which `HandlerCells` leaves out.
-/

namespace VirtueStack.Agent
open Txn

/-- where the snapshot `snap` of the disk `name` is kept -/
def StorageBackend.snapObject (name snap : String) : StorageBackend → Obj
  | .ceph m => .image m.pool name
  | .qcow m => fileAt (m.imagePath name)
  | .lvm m => .device (m.lvPath snap)

variable {p : Cell → Prop}

namespace LVMManager
variable {m : LVMManager} {name snap : String} (hsnap : p (.object (.device (m.lvPath snap))))
include hsnap

lemma all_createSnapshot : (m.createSnapshot name snap).All (Only p) := by
  simp [createSnapshot, createMissing, all_imageExists, hsnap]

lemma all_deleteSnapshot :
    (m.deleteSnapshot name snap).All (Only p) := by simp [deleteSnapshot, hsnap]

end LVMManager

namespace StorageBackend
variable {b : StorageBackend} {name snap : String} (hsnap : p (.object (b.snapObject name snap)))
include hsnap

lemma all_createSnapshot : (b.createSnapshot name snap).All (Only p) := by
  cases b with
  | ceph m => exact RBDManager.all_createSnapshot hsnap snap
  | qcow m => exact QCOWManager.all_createSnapshot hsnap snap
  | lvm m => exact LVMManager.all_createSnapshot hsnap

lemma all_deleteSnapshot : (b.deleteSnapshot name snap).All (Only p) := by
  cases b with
  | ceph m => exact RBDManager.all_deleteSnapshot hsnap snap
  | qcow m => exact QCOWManager.all_deleteSnapshot hsnap snap
  | lvm m => exact LVMManager.all_deleteSnapshot hsnap

end StorageBackend

section
variable {cfg : Config} {vmID : String}

lemma all_createSnapshot (name : String)
    (hsnap : ∀ snap, p (.object (cfg.storage.snapObject (cfg.storage.diskIdentifier vmID) snap))) :
    (createSnapshot cfg vmID name).All (Only p) := by
  have hcreate : ∀ snap, _ := fun snap => StorageBackend.all_createSnapshot (hsnap snap)
  simp [createSnapshot, sizeOrZero, hcreate, StorageBackend.all_getImageSize]

lemma all_deleteSnapshot (snapshotID : String)
    (hsnap : p (.object (cfg.storage.snapObject (cfg.storage.diskIdentifier vmID) snapshotID))) :
    (deleteSnapshot cfg vmID snapshotID).All (Only p) := by
  simp [deleteSnapshot, deleteListed, StorageBackend.all_listSnapshots,
    StorageBackend.all_deleteSnapshot hsnap]

/-- the name under which a request for a disk snapshot hands the disk to the backend -/
def DiskSnapshotRequest.diskName (req : DiskSnapshotRequest) (cfg : Config) : String :=
  if cfg.backendOf req.storageBackend = storageBackendQcow then req.path cfg
    else vmDiskName req.vmID

variable {req : DiskSnapshotRequest}

section
variable (hsnap : p (.object (cfg.storage.snapObject (req.diskName cfg) req.snapshotName)))
include hsnap

lemma all_createDiskSnapshot : (createDiskSnapshot cfg req).All (Only p) := by
  have hcreate := StorageBackend.all_createSnapshot hsnap
  unfold DiskSnapshotRequest.diskName at hcreate
  by_cases hqcow : cfg.backendOf req.storageBackend = storageBackendQcow
  · rw [if_pos hqcow] at hcreate
    simp [createDiskSnapshot, hqcow, hcreate]
  · rw [if_neg hqcow] at hcreate
    simp [createDiskSnapshot, hqcow, hcreate]

lemma all_deleteDiskSnapshot : (deleteDiskSnapshot cfg req).All (Only p) := by
  have hdelete := StorageBackend.all_deleteSnapshot hsnap
  unfold DiskSnapshotRequest.diskName at hdelete
  by_cases hqcow : cfg.backendOf req.storageBackend = storageBackendQcow
  · rw [if_pos hqcow] at hdelete
    simp [deleteDiskSnapshot, hqcow, hdelete]
  · rw [if_neg hqcow] at hdelete
    simp [deleteDiskSnapshot, hqcow, hdelete]

end

/-! ## LVM backups -/

lemma all_copied {context : String} {ok : Cmd → Prop} (r : Except Err (Except String Unit)) :
    (copied context r).All ok := by
  rcases r with e | e | _ <;> trivial

lemma all_invalidRequest {ok : Cmd → Prop} (r : Except GoError Unit) :
    (invalidRequest r).All ok := by
  cases r <;> trivial

lemma all_requireImage {context notFound name : String} {m : LVMManager} :
    (requireImage context notFound m name).All (Only p) := by
  simp [requireImage, LVMManager.all_imageExists]

lemma all_createLVMBackup (snapshotName backupFilePath : String)
    (hfile : p (.object (fileAt backupFilePath)))
    (hsnap : ∀ m, cfg.storage = .lvm m → p (.object (.device (m.lvPath snapshotName)))) :
    (createLVMBackup cfg vmID snapshotName backupFilePath).All (Only p) := by
  cases hs : cfg.storage with
  | ceph m | qcow m => simp [createLVMBackup, requireLVM, hs, all_invalidRequest]
  | lvm m =>
    simp [createLVMBackup, requireLVM, hs, all_invalidRequest, all_requireImage, all_copied, hfile,
      LVMManager.all_deleteSnapshot (hsnap m hs)]

end

end VirtueStack.Agent
