import VirtueStack.Agent.SnapshotCells
import VirtueStack.Agent.Runs

/-!
# The names of a disk

The names of a disk are built by the backends, by the template managers and by the handlers, and the
backends check the names they are given.

* `NamesAgree` all of them change one object, the backend accepts the name it gives to the disk, and
  a VM that is created and deleted leaves no disk.

With files, the requests for a disk snapshot look outside the directory of the disks. With LVM, the
name of a disk is the path of its device, and the manager refuses paths.
-/

namespace VirtueStack.Agent
open Txn Manager Call Job List

/-! ## operations on the disk of a VM -/

inductive DiskOperation where
  | create
  | reinstall
  | resize
  | delete
  | deleteDisk
  | createSnapshot
  | deleteSnapshot
  | revertSnapshot
  | createDiskSnapshot
  | deleteDiskSnapshot
  | restoreLVMBackup
  deriving DecidableEq, Repr

/-- the operations that an agent has for its backend -/
def DiskOperation.offered : StorageType → DiskOperation → Bool
  | .lvm, .createDiskSnapshot => false
  | .lvm, .deleteDiskSnapshot => false
  | .lvm, _ => true
  | _, .restoreLVMBackup => false
  | _, _ => true

variable {α : Type}

/-- some run of the job, on some host, writes to the object -/
def Changes (c : Job α) (obj : Obj) : Prop :=
  ∃ h : Host, c.May (fun q e h => ∃ w ∈ (store.answer q h e).2, w.cell = .object obj) h

/-- the backend of a request is the one of the agent -/
def Config.IsOwn (cfg : Config) (storageBackend : String) : Prop :=
  storageBackend = "" ∨ storageBackend = cfg.storageType.text

def Config.IsOwnPool (cfg : Config) (pool : String) : Prop := pool = "" ∨ pool = cfg.cephPool

/-- a request that leaves the names to the agent can change the object -/
def Touches (cfg : Config) (vmID : String) (obj : Obj) : DiskOperation → Prop
  | .create => ∃ req : CreateVMRequest, req.vmID = vmID ∧ cfg.IsOwn req.storageBackend ∧
    cfg.IsOwnPool req.cephPool ∧ Changes (createVM cfg req) obj
  | .reinstall => ∃ req : CreateVMRequest, req.vmID = vmID ∧ cfg.IsOwn req.storageBackend ∧
      cfg.IsOwnPool req.cephPool ∧ Changes (reinstallVM cfg req) obj
  | .resize => ∃ req : ResizeVMRequest, req.vmID = vmID ∧ cfg.IsOwn req.storageBackend ∧
    req.diskPath = "" ∧ Changes (resizeVM cfg req) obj
  | .delete => ∃ req : DeleteVMRequest, req.vmID = vmID ∧ cfg.IsOwn req.storageBackend ∧
    req.diskPath = "" ∧ Changes (deleteVM cfg req) obj
  | .deleteDisk => ∃ req : DeleteVMRequest, req.vmID = vmID ∧ cfg.IsOwn req.storageBackend ∧
    req.diskPath = "" ∧ Changes (deleteDisk cfg req) obj
  | .createSnapshot => ∃ name, Changes (createSnapshot cfg vmID name) obj
  | .deleteSnapshot => ∃ snapshotID, Changes (deleteSnapshot cfg vmID snapshotID) obj
  | .revertSnapshot => ∃ snapshotID, Changes (revertSnapshot cfg vmID snapshotID) obj
  | .createDiskSnapshot => ∃ req : DiskSnapshotRequest, req.vmID = vmID ∧
    cfg.IsOwn req.storageBackend ∧ req.diskPath = "" ∧ Changes (createDiskSnapshot cfg req) obj
  | .deleteDiskSnapshot => ∃ req : DiskSnapshotRequest, req.vmID = vmID ∧
    cfg.IsOwn req.storageBackend ∧ req.diskPath = "" ∧ Changes (deleteDiskSnapshot cfg req) obj
  | .restoreLVMBackup => ∃ path, Changes (restoreLVMBackup cfg vmID path) obj

/-- what is not the disk: the seed ISO, and the other volumes of the group, which may be
snapshots -/
def Config.Beside (cfg : Config) (vmID : String) (obj : Obj) : Prop :=
  obj = fileAt (cfg.cloudInit.isoPath vmID) ∨
    ∃ n, n ≠ vmDiskName vmID ∧ obj = .device ("/dev/" ++ cfg.lvmVolumeGroup ++ "/" ++ n)

/-- some run of the job, on some host, is a success -/
def Succeeds (c : Job α) : Prop :=
  ∃ (h : Host) (o : Cmd → Event store) (a : α), (c.alone o h).1 = .ok a

/-- each method that takes the name of a disk takes this one -/
structure StorageBackend.Accepts (b : StorageBackend) (name : String) : Prop where
  cloneFromTemplate : ∃ pool image snap, Succeeds (b.cloneFromTemplate pool image snap name)
  resize : ∃ sizeGB, Succeeds (b.resize name sizeGB)
  delete : Succeeds (b.delete name)
  createSnapshot : ∃ snap, Succeeds (b.createSnapshot name snap)
  deleteSnapshot : ∃ snap, Succeeds (b.deleteSnapshot name snap)
  listSnapshots : Succeeds (b.listSnapshots name)
  getImageSize : Succeeds (b.getImageSize name)
  rollback : ∃ snap, Succeeds (b.rollback name snap)

/-- a VM that was created and is then deleted leaves no disk -/
def LeavesNone (cfg : Config) (vmID : String) (disk : Obj) : Prop :=
  ∀ (req : CreateVMRequest) (dreq : DeleteVMRequest), req.vmID = vmID →
    cfg.IsOwn req.storageBackend →
    cfg.IsOwnPool req.cephPool → dreq.vmID = vmID → cfg.IsOwn dreq.storageBackend →
    dreq.diskPath = "" →
    ∀ (o o' : Cmd → Event store), Works o → Works o' → ∀ (h h' : Host) (resp : CreateVMResponse),
      (createVM cfg req).alone o h = (.ok resp, h') →
      ∃ h'', (deleteVM cfg dreq).alone o' h' = (.ok (), h'') ∧ h''.objects disk = none

def NamesAgree (cfg : Config) (vmID : String) : Prop :=
  (∃ disk, (∀ op : DiskOperation, op.offered cfg.storageType = true → ∀ obj,
    (Touches cfg vmID obj op ∧ ¬ cfg.Beside vmID obj) ↔ obj = disk) ∧ LeavesNone cfg vmID disk) ∧
  cfg.storage.Accepts (cfg.storage.diskIdentifier vmID)

def IsVMID (vmID : String) : Prop :=
  vmID ≠ "" ∧ vmID.toList.all (fun c => c.isAlphanum || c = '-') = true

instance (vmID : String) : Decidable (IsVMID vmID) := inferInstanceAs (Decidable (_ ∧ _))

/-! ## requests with Ceph -/

section
variable {cfg : Config} {vmID : String}

lemma not_changes {c : Job α} {p : Cell → Prop} {obj : Obj} (hall : c.All (Only p))
    (hobj : ¬ p (.object obj)) : ¬ Changes c obj := by
  rintro ⟨h, hmay⟩
  refine not_may_of_all hall (fun q hq e h => ?_) hmay
  rintro ⟨w, hw, hcell⟩
  exact hobj (hcell ▸ hq _ (answer_cells hw))

variable {storageBackend : String} {req : CreateVMRequest}

lemma backendOf_own (h : cfg.IsOwn storageBackend) :
    cfg.backendOf storageBackend = cfg.storageType.text := by
  unfold Config.backendOf
  rcases h with h | h
  · rw [if_pos h]
  · rw [h]
    split
    · rfl
    · rfl

def Config.rbdDisk (cfg : Config) (vmID : String) : Obj := .image cfg.cephPool (vmDiskName vmID)

/-- the cells that belong to a VM with Ceph -/
def Config.RBDCell (cfg : Config) (vmID : String) (c : Cell) : Prop :=
  ∀ obj, c = .object obj → obj = cfg.rbdDisk vmID ∨ obj = fileAt (cfg.cloudInit.isoPath vmID)

lemma rbdCell_domain (name : String) : cfg.RBDCell vmID (.domain name) := fun _ h => by cases h
lemma rbdCell_log : cfg.RBDCell vmID .log := fun _ h => by cases h
lemma rbdCell_disk : cfg.RBDCell vmID (.object (cfg.rbdDisk vmID)) := by
  rintro obj ⟨⟩
  exact .inl rfl
lemma rbdCell_iso : cfg.RBDCell vmID (.object (fileAt (cfg.cloudInit.isoPath vmID))) := by
  rintro obj ⟨⟩
  exact .inr rfl

variable (hceph : cfg.storageType = .ceph)
include hceph

lemma backendOf_ceph (hown : cfg.IsOwn storageBackend) :
    cfg.backendOf storageBackend = storageBackendCeph := by
  rw [backendOf_own hown, hceph]
  rfl

lemma diskName_ceph (hown : cfg.IsOwn storageBackend) (diskPath : String) :
    cfg.diskName storageBackend vmID diskPath = vmDiskName vmID := by
  unfold Config.diskName
  rw [backendOf_ceph hceph hown, if_neg (by decide), if_pos rfl]

lemma all_deleteDiskOf_ceph {req : DeleteVMRequest} (hvm : req.vmID = vmID)
    (hown : cfg.IsOwn req.storageBackend) :
    (deleteDiskOf cfg req).All (Only (cfg.RBDCell vmID)) := by
  refine all_deleteDiskOf fun _ _ _ obj hobj => ?_
  rw [diskName_ceph hceph hown, storage_ceph hceph, hvm] at hobj
  rw [hobj]
  exact rbdCell_disk

lemma all_createDisk_ceph {dc : DomainConfig} (hvm : req.vmID = vmID)
    (hback : dc.storageBackend = storageBackendCeph) :
    (createDisk cfg req dc).All (Only (cfg.RBDCell vmID)) := by
  unfold createDisk createCeph
  rw [hback, if_neg (by decide), if_pos rfl, storage_ceph hceph, hvm]
  have hclone := fun a b c => RBDManager.all_cloneFromTemplate (p := cfg.RBDCell vmID)
    (m := ⟨cfg.cephPool⟩) rbdCell_disk a b c
  simp [StorageBackend.cloneFromTemplate, hclone]

lemma all_createVM_ceph (hvm : req.vmID = vmID) (hown : cfg.IsOwn req.storageBackend) :
    (createVM cfg req).All (Only (cfg.RBDCell vmID)) := by
  have hback : cfg.backendOf req.storageBackend = storageBackendCeph := backendOf_ceph hceph hown
  have hiso : cfg.RBDCell vmID (.object (fileAt (cfg.cloudInit.isoPath req.vmID))) := by
    rw [hvm]
    exact rbdCell_iso
  have hlog : cfg.RBDCell vmID .log := rbdCell_log
  have hprovision :
    ∀ path, (provision cfg req (req.domainConfig (cfg.backendOf req.storageBackend) path)).All
      (Only (cfg.RBDCell vmID)) := by
    refine fun path => All.bind_of (all_createDisk_ceph hceph hvm hback) fun dc hdc => ?_
    obtain ⟨hdcvm, hdcback⟩ := createDisk_returns hdc
    have hdelete : (deleteDiskOf cfg ⟨dc.vmID, dc.storageBackend, dc.diskPath⟩).All
        (Only (cfg.RBDCell vmID)) := by
      refine all_deleteDiskOf_ceph hceph (hdcvm.trans hvm) (.inr ?_)
      rw [hceph]
      exact hdcback.trans hback
    have hcreate : (Manager.createVM cfg.parsers dc).All (Only (cfg.RBDCell vmID)) :=
      all_createVM (rbdCell_domain _) hlog
    simp [cleanupFailedCreate, hcreate, hdelete, hlog]
  have hgenerate : (generateCloudInitISO cfg req.cloudInit).All _ :=
    all_generateCloudInitISO hiso hlog
  have hdelete := CloudInitGenerator.all_delete hiso
  simp [createVM, keepCloudInit, hprovision, hgenerate, hdelete, hlog]

lemma all_reinstallVM_ceph (hvm : req.vmID = vmID) (hown : cfg.IsOwn req.storageBackend) :
    (reinstallVM cfg req).All (Only (cfg.RBDCell vmID)) := by
  have hiso : cfg.RBDCell vmID (.object (fileAt (cfg.cloudInit.isoPath req.vmID))) := by
    rw [hvm]
    exact rbdCell_iso
  have hdisk : cfg.RBDCell vmID
      (.object (.image (RBDManager.mk cfg.cephPool).pool (vmDiskName req.vmID))) := by
    rw [hvm]
    exact rbdCell_disk
  have hreinstall : (reinstallDisk cfg req).All (Only (cfg.RBDCell vmID)) := by
    unfold reinstallDisk reinstallCeph
    rw [backendOf_ceph hceph hown, if_neg (by decide), if_pos rfl, storage_ceph hceph]
    simp [StorageBackend.delete, StorageBackend.cloneFromTemplate, RBDManager.all_delete hdisk,
      RBDManager.all_cloneFromTemplate hdisk]
  have hgenerate : (generateCloudInitISO cfg req.cloudInit).All _ :=
    all_generateCloudInitISO hiso rbdCell_log
  have hstop := all_forceStopVM (p := cfg.RBDCell vmID) (rbdCell_domain (domainName req.vmID))
  have hundefine := all_deleteVM (p := cfg.RBDCell vmID) (rbdCell_domain (domainName req.vmID))
  have hcreate : ∀ dc, (Manager.createVM cfg.parsers dc).All (Only (cfg.RBDCell vmID)) := fun dc =>
    all_createVM (rbdCell_domain _) rbdCell_log
  simp [reinstallVM, hgenerate, hstop, hreinstall, hundefine, hcreate]

/-- **With Ceph, a request changes the one image, its domain and its seed ISO.** -/
theorem touches_ceph {op : DiskOperation} {obj : Obj} (h : Touches cfg vmID obj op) :
    obj = cfg.rbdDisk vmID ∨ obj = fileAt (cfg.cloudInit.isoPath vmID) := by
  have hof : ∀ {α : Type} {c : Job α}, c.All (Only (cfg.RBDCell vmID)) → Changes c obj →
      obj = cfg.rbdDisk vmID ∨ obj = fileAt (cfg.cloudInit.isoPath vmID) := by
    intro α c hall hc
    by_contra hne
    exact not_changes hall (fun hcell => hne (hcell obj rfl)) hc
  have hdisk : ∀ {req : DiskSnapshotRequest}, req.vmID = vmID → cfg.IsOwn req.storageBackend →
      cfg.RBDCell vmID (.object (cfg.storage.snapObject (req.diskName cfg) req.snapshotName)) := by
    intro req hvm hown
    unfold DiskSnapshotRequest.diskName
    rw [backendOf_ceph hceph hown, if_neg (by decide), storage_ceph hceph, hvm]
    exact rbdCell_disk
  cases op with
  | create =>
    obtain ⟨req, hvm, hown, _, hc⟩ := h
    exact hof (all_createVM_ceph hceph hvm hown) hc
  | reinstall =>
    obtain ⟨req, hvm, hown, _, hc⟩ := h
    exact hof (all_reinstallVM_ceph hceph hvm hown) hc
  | resize =>
    obtain ⟨req, hvm, hown, _, hc⟩ := h
    have hresize : (resizeDisk cfg req).All (Only (cfg.RBDCell vmID)) := by
      refine all_resizeDisk fun _ _ => ?_
      rw [diskName_ceph hceph hown, storage_ceph hceph, hvm]
      exact rbdCell_disk
    refine hof ?_ hc
    have hdom : cfg.RBDCell vmID (.domain (domainName req.vmID)) := rbdCell_domain _
    simp [resizeVM, all_getStatus, all_stopVM hdom, hresize, all_resizeDomain hdom,
      all_startVM hdom]
  | delete =>
    obtain ⟨req, hvm, hown, _, hc⟩ := h
    refine hof ?_ hc
    have hundefine := all_undefineVM (p := cfg.RBDCell vmID) (rbdCell_domain (domainName req.vmID))
    simp [deleteVM, hundefine, all_deleteDiskOf_ceph hceph hvm hown]
  | deleteDisk =>
    obtain ⟨req, hvm, hown, _, hc⟩ := h
    refine hof ?_ hc
    simp [deleteDisk, all_deleteDiskOf_ceph hceph hvm hown]
  | createSnapshot =>
    obtain ⟨name, hc⟩ := h
    refine hof (c := createSnapshot cfg vmID name) ?_ hc
    exact all_createSnapshot name (by rw [storage_ceph hceph]; exact fun _ => rbdCell_disk)
  | deleteSnapshot =>
    obtain ⟨snapshotID, hc⟩ := h
    refine hof (c := deleteSnapshot cfg vmID snapshotID) ?_ hc
    exact all_deleteSnapshot snapshotID (by rw [storage_ceph hceph]; exact rbdCell_disk)
  | revertSnapshot =>
    obtain ⟨snapshotID, hc⟩ := h
    refine hof (c := revertSnapshot cfg vmID snapshotID) ?_ hc
    unfold revertSnapshot
    rw [storage_ceph hceph]
    have hstop := all_forceStopVM (p := cfg.RBDCell vmID) (rbdCell_domain (domainName vmID))
    have hrollback :=
      RBDManager.all_rollback (p := cfg.RBDCell vmID) (m := ⟨cfg.cephPool⟩) rbdCell_disk snapshotID
    simp [StorageBackend.rollback, StorageBackend.diskIdentifier, all_getStatus, hstop, hrollback]
  | createDiskSnapshot =>
    obtain ⟨req, hvm, hown, _, hc⟩ := h
    refine hof (c := createDiskSnapshot cfg req) ?_ hc
    exact all_createDiskSnapshot (hdisk hvm hown)
  | deleteDiskSnapshot =>
    obtain ⟨req, hvm, hown, _, hc⟩ := h
    refine hof (c := deleteDiskSnapshot cfg req) ?_ hc
    exact all_deleteDiskSnapshot (hdisk hvm hown)
  | restoreLVMBackup =>
    obtain ⟨path, hc⟩ := h
    refine hof (c := restoreLVMBackup cfg vmID path) ?_ hc
    unfold restoreLVMBackup requireLVM
    rw [storage_ceph hceph]
    simp [requireStopped, all_getStatus]

end

/-! ## each of them gets to it -/

section
variable {cfg : Config} {vmID : String}

variable {h : Host}

lemma may_at {c : Job α} {h' : Host} {q : Cmd} {obj : Obj} {a : q.Ans} {im : Option Image} (n : Nat)
    (hq : (c.calls quietly h)[n]? = some (q, h'))
    (hx : exec q quiet quiet h' = .ok (a, [.object obj im])) :
    c.May (fun q e h => ∃ w ∈ (store.answer q h e).2, w.cell = .object obj) h := by
  refine Prog.not_each_of_mem_calls (mem_of_getElem? hq) ⟨.object obj im, ?_, rfl⟩
  rw [show quietly q = .ok quiet from rfl, Store.answer_of_ok hx]
  exact mem_singleton.mpr rfl

def someXML : DomainXML := ⟨"", .device "", 1, 1, "", "", "", 0, ""⟩

/-- a host on which everything is there, and every object is `im` -/
def fullHost (im : Image) : Host := ⟨fun _ => some (.new someXML), fun _ => some im, []⟩

def someImage : Image := ⟨[], 0, [], none⟩
def someImageWith (snap : String) : Image := ⟨[], 0, [⟨snap, [], false⟩], none⟩

variable (hceph : cfg.storageType = .ceph) (hvm : vmID ≠ "")
include hceph hvm

lemma touches_createSnapshot : Touches cfg vmID (cfg.rbdDisk vmID) .createSnapshot := by
  refine ⟨"s", ?_⟩
  unfold createSnapshot
  rw [storage_ceph hceph, require_false (decide_eq_false hvm)]
  exact ⟨fullHost someImage, may_at 3 rfl rfl⟩

lemma touches_deleteSnapshot : Touches cfg vmID (cfg.rbdDisk vmID) .deleteSnapshot := by
  refine ⟨"s", fullHost (someImageWith "s"), ?_⟩
  unfold deleteSnapshot deleteListed
  rw [storage_ceph hceph, require_false (decide_eq_false (not_or.mpr ⟨hvm, by decide⟩))]
  refine may_bind (o := quietly) (a := ["s"]) rfl ?_
  rw [if_pos (mem_singleton.mpr rfl)]
  exact may_at 2 rfl rfl

lemma touches_revertSnapshot : Touches cfg vmID (cfg.rbdDisk vmID) .revertSnapshot := by
  refine ⟨"s", ?_⟩
  unfold revertSnapshot
  rw [storage_ceph hceph, require_false (decide_eq_false (not_or.mpr ⟨hvm, by decide⟩))]
  exact ⟨fullHost (someImageWith "s"), may_at 5 rfl rfl⟩

lemma touches_createDiskSnapshot : Touches cfg vmID (cfg.rbdDisk vmID) .createDiskSnapshot := by
  refine ⟨⟨vmID, "s", "", ""⟩, rfl, .inl rfl, rfl, ?_⟩
  unfold createDiskSnapshot
  dsimp only
  rw [require_false (decide_eq_false hvm), backendOf_ceph hceph (.inl rfl), storage_ceph hceph]
  exact ⟨fullHost someImage, may_at 2 rfl rfl⟩

lemma touches_deleteDiskSnapshot : Touches cfg vmID (cfg.rbdDisk vmID) .deleteDiskSnapshot := by
  refine ⟨⟨vmID, "s", "", ""⟩, rfl, .inl rfl, rfl, ?_⟩
  unfold deleteDiskSnapshot
  dsimp only
  rw [require_false (decide_eq_false hvm), backendOf_ceph hceph (.inl rfl), storage_ceph hceph]
  exact ⟨fullHost (someImageWith "s"), may_at 2 rfl rfl⟩

lemma touches_resize : Touches cfg vmID (cfg.rbdDisk vmID) .resize := by
  refine ⟨⟨vmID, 0, 0, 1, "", ""⟩, rfl, .inl rfl, rfl, ?_⟩
  have hvalid : validateResize ⟨vmID, 0, 0, 1, "", ""⟩ = .ok () := by
    unfold validateResize
    rw [if_neg hvm]
    rfl
  unfold resizeVM resizeDisk
  dsimp only
  rw [hvalid, backendOf_ceph hceph (.inl rfl), storage_ceph hceph]
  exact ⟨fullHost someImage, may_at 5 rfl rfl⟩

lemma touches_deleteDisk : Touches cfg vmID (cfg.rbdDisk vmID) .deleteDisk := by
  refine ⟨⟨vmID, "", ""⟩, rfl, .inl rfl, rfl, ?_⟩
  unfold deleteDisk deleteDiskOf
  rw [require_false (decide_eq_false hvm), backendOf_ceph hceph (.inl rfl), storage_ceph hceph]
  exact ⟨fullHost someImage, may_at 3 rfl rfl⟩

lemma touches_delete : Touches cfg vmID (cfg.rbdDisk vmID) .delete := by
  refine ⟨⟨vmID, "", ""⟩, rfl, .inl rfl, rfl, ?_⟩
  unfold deleteVM undefineVM deleteDiskOf
  rw [require_false (decide_eq_false hvm), require_false (decide_eq_false hvm),
    backendOf_ceph hceph (.inl rfl), storage_ceph hceph]
  exact ⟨fullHost someImage, may_at 6 rfl rfl⟩

omit hceph hvm

/-- a request with nothing but a template -/
def plainRequest (vmID : String) : CreateVMRequest :=
  ⟨vmID, 1, 1, 1, "", "t", "t", "s", "", [], "", "", "m", "", "", "", "", [], 0, "", []⟩

lemma alone_plainISO (h : Host) :
    (generateCloudInitISO cfg (plainRequest vmID).cloudInit).alone quietly h =
    (.ok (cfg.cloudInit.isoPath vmID), store.view h [.object (fileAt (cfg.cloudInit.isoPath vmID))
      (some (Host.written (fileAt (cfg.cloudInit.isoPath vmID))
        (h.objects (fileAt (cfg.cloudInit.isoPath vmID))) []))]) :=
  rfl

include hceph hvm

lemma touches_reinstall : Touches cfg vmID (cfg.rbdDisk vmID) .reinstall := by
  refine ⟨plainRequest vmID, rfl, .inl rfl, .inl rfl, fullHost someImage, ?_⟩
  have hvalid : validateReinstall (plainRequest vmID) = .ok () := by
    unfold validateReinstall
    rw [if_neg (c := (plainRequest vmID).vmID = "") hvm]
    rfl
  have hback : cfg.backendOf (plainRequest vmID).storageBackend = storageBackendCeph :=
    backendOf_ceph hceph (.inl rfl)
  unfold reinstallVM reinstallDisk reinstallCeph
  rw [hvalid, hback, storage_ceph hceph]
  refine may_bind (o := quietly) rfl ?_
  refine may_bind (alone_plainISO _) ?_
  refine may_bind (o := quietly) rfl ?_
  exact May.bind (may_at 3 rfl rfl)

omit hceph hvm in
lemma vmDiskName_ne : vmDiskName vmID ≠ "t" := by
  intro h
  have hlist : (vmDiskName vmID).toList = 'v' :: ("s-" ++ vmID ++ "-disk0").toList := by
    unfold vmDiskName
    simp only [String.toList_append]
    rfl
  rw [h] at hlist
  cases hlist

omit hceph hvm

/-- a host with the template and no disk -/
def templateHost (cfg : Config) : Host := store.view ⟨fun _ => none, fun _ => none, []⟩
  [.object (.image cfg.cephPool "t") (some (someImageWith "s"))]

lemma templateHost_template : (templateHost cfg).objects (.image cfg.cephPool "t") =
    some (someImageWith "s") :=
  Host.objects_put _ _

lemma templateHost_disk : (templateHost cfg).objects (cfg.rbdDisk vmID) = none := by
  refine view_objects fun w hw hcell => ?_
  rw [mem_singleton.mp hw] at hcell
  exact vmDiskName_ne (Obj.image.inj (Cell.object.inj hcell)).2.symm

lemma exec_cloneTemplate
    (htemplate : h.objects (.image cfg.cephPool "t") = some (someImageWith "s"))
    (hdisk : h.objects (cfg.rbdDisk vmID) = none) :
    exec (.cloneImage cfg.cephPool "t" "s" cfg.cephPool (vmDiskName vmID)) quiet quiet h =
      .ok ((), [.object (cfg.rbdDisk vmID) (some someImage)]) := by
  refine (Host.withSnap_some htemplate rfl).trans ?_
  unfold Host.clone
  rw [show h.objects (.image cfg.cephPool (vmDiskName vmID)) = none from hdisk]
  rfl

include hceph hvm

lemma touches_create : Touches cfg vmID (cfg.rbdDisk vmID) .create := by
  have hvalid : validateCreate (plainRequest vmID) = .ok () := by
    unfold validateCreate
    rw [if_neg (c := (plainRequest vmID).vmID = "") hvm]
    rfl
  have hback : cfg.backendOf (plainRequest vmID).storageBackend = storageBackendCeph :=
    backendOf_ceph hceph (.inl rfl)
  refine ⟨plainRequest vmID, rfl, .inl rfl, .inl rfl, ?_⟩
  unfold createVM provision createDisk createCeph
  rw [hvalid, hback, storage_ceph hceph]
  exact ⟨templateHost cfg,
    may_at 8 rfl (exec_cloneTemplate templateHost_template templateHost_disk)⟩

/-- **With Ceph, each operation that the agent offers gets to the one image.** -/
theorem touches_rbdDisk (op : DiskOperation) (hop : op.offered cfg.storageType = true) :
    Touches cfg vmID (cfg.rbdDisk vmID) op := by
  cases op with
  | create => exact touches_create hceph hvm
  | reinstall => exact touches_reinstall hceph hvm
  | resize => exact touches_resize hceph hvm
  | delete => exact touches_delete hceph hvm
  | deleteDisk => exact touches_deleteDisk hceph hvm
  | createSnapshot => exact touches_createSnapshot hceph hvm
  | deleteSnapshot => exact touches_deleteSnapshot hceph hvm
  | revertSnapshot => exact touches_revertSnapshot hceph hvm
  | createDiskSnapshot => exact touches_createDiskSnapshot hceph hvm
  | deleteDiskSnapshot => exact touches_deleteDiskSnapshot hceph hvm
  | restoreLVMBackup =>
    rw [hceph] at hop
    cases hop

end

/-! ## the disk is gone in the end -/

section
variable {cfg : Config} {vmID : String} {o : Cmd → Event store} {h h' : Host}

lemma alone_attempt_ok {α β : Type} {c : Job α} {f : Except GoError α → Job β} {b : β}
    (hrun : (c.attempt f).alone o h = (.ok b, h'))
    (herr : ∀ e h₁, (f (.error e)).alone o h₁ ≠ (.ok b, h')) :
    ∃ a h₁, c.alone o h = (.ok a, h₁) ∧ (f (.ok a)).alone o h₁ = (.ok b, h') := by
  cases hc : c.alone o h with
  | mk r h₁ =>
    rw [alone_attempt_of hc] at hrun
    cases r with
    | ok a => exact ⟨a, h₁, rfl, hrun⟩
    | error e => exact absurd hrun (herr e h₁)

lemma alone_bind_fail_ne {α β : Type} {c : Job α} {e : GoError} {b : β} :
    (c >>= fun _ => (Call.fail e : Job β)).alone o h ≠ (.ok b, h') := by
  intro hrun
  obtain ⟨_, _, _, hfail⟩ := alone_bind_eq_ok.mp hrun
  cases hfail

/-- **A VM that was created runs on the disk of its configuration.** -/
theorem alone_createVM_eq_ok {req : CreateVMRequest} {resp : CreateVMResponse}
    (hrun : (createVM cfg req).alone o h = (.ok resp, h')) : req.vmID ≠ "" ∧ ∃ dc h₁ h₂ path xml,
      (createDisk cfg req (req.domainConfig (cfg.backendOf req.storageBackend) path)).alone o h₁ =
        (.ok dc, h₂) ∧
      generateDomainXML cfg.parsers dc = .ok xml ∧ h'.Runs xml := by
  obtain ⟨_, _, hvalid, hrun⟩ := alone_bind_eq_ok.mp hrun
  obtain ⟨path, h₁, _, hrun⟩ := alone_bind_eq_ok.mp hrun
  obtain ⟨name, h₂, hprov, hend⟩ := alone_attempt_ok hrun fun _ _ => alone_bind_fail_ne
  cases hend
  obtain ⟨dc, h3, hdisk, hrun⟩ := alone_bind_eq_ok.mp hprov
  obtain ⟨name', h4, hcreate, hend⟩ := alone_attempt_ok hrun fun _ _ => alone_bind_fail_ne
  cases hend
  obtain ⟨xml, hgen, hruns⟩ := Manager.alone_createVM_eq_ok hcreate
  refine ⟨fun hempty => ?_, dc, h₁, h3, path, xml, hdisk, hgen, hruns⟩
  have herr := (alone_lift_ok hvalid).1
  unfold validateCreate at herr
  rw [if_pos hempty] at herr
  cases herr

lemma createDisk_ceph_pool {req : CreateVMRequest} {dc dc' : DomainConfig}
    (hpool : cfg.IsOwnPool req.cephPool) (hback : dc.storageBackend = storageBackendCeph)
    (hrun : (createDisk cfg req dc).alone o h = (.ok dc', h')) :
    dc'.vmID = dc.vmID ∧ dc'.backend = storageBackendCeph ∧ dc'.cephPool = cfg.cephPool := by
  unfold createDisk createCeph at hrun
  rw [hback, if_neg (by decide), if_pos rfl] at hrun
  obtain ⟨_, _, _, hend⟩ := alone_bind_eq_ok.mp hrun
  cases hend
  refine ⟨rfl, ?_, ?_⟩
  · unfold DomainConfig.backend
    show (if dc.storageBackend = "" then storageBackendCeph else dc.storageBackend) =
      storageBackendCeph
    rw [hback]
    rfl
  · show (if req.cephPool = "" then cfg.cephPool else req.cephPool) = cfg.cephPool
    rcases hpool with hpool | hpool
    · rw [if_pos hpool]
    · rw [hpool]
      split
      · rfl
      · rfl

variable (hceph : cfg.storageType = .ceph)
include hceph

lemma leavesNone_ceph : LeavesNone cfg vmID (cfg.rbdDisk vmID) := by
  intro req dreq hvm hown hpool hdvm hdown hpath o o' ho ho' h h' resp hrun
  have hback : cfg.backendOf req.storageBackend = storageBackendCeph := backendOf_ceph hceph hown
  obtain ⟨hne, dc, h1, h2, path, xml, hdisk, hgen, hruns⟩ := alone_createVM_eq_ok hrun
  obtain ⟨hdcvm, hdcback, hdcpool⟩ := createDisk_ceph_pool hpool hback hdisk
  obtain ⟨hname, hxml⟩ := generateDomainXML_ok hgen
  have hobj : xml.disk = cfg.rbdDisk vmID := by
    unfold diskXML at hxml
    rw [if_pos hdcback] at hxml
    split at hxml
    · cases hxml
    · rw [← Except.ok.inj hxml, hdcpool, hdcvm]
      show Obj.image cfg.cephPool (vmDiskName req.vmID) = _
      rw [hvm]
      rfl
  obtain ⟨d, hd, hstate, hqemu, hpers⟩ := hruns.domain
  have hvmID : dc.vmID = dreq.vmID := hdcvm.trans (hvm.trans hdvm.symm)
  rw [hname, hvmID] at hd
  obtain ⟨h3, hdelete, hobjects⟩ := alone_deleteVM ho' hd hstate hqemu hpers
  obtain ⟨im, him⟩ := Option.isSome_iff_exists.mp hruns.disk
  rw [hobj, ← hobjects] at him
  obtain ⟨h4, hrbd, hnone⟩ := RBDManager.alone_delete (m := ⟨cfg.cephPool⟩) ho' him
  refine ⟨h4, ?_, hnone⟩
  have hdne : dreq.vmID ≠ "" := by
    rw [hdvm, ← hvm]
    exact hne
  unfold deleteVM undefineVM
  rw [require_false (decide_eq_false hdne), require_false (decide_eq_false hdne)]
  refine (alone_bind_ok (alone_attempt_of hdelete)).trans ?_
  unfold deleteDiskOf
  rw [backendOf_ceph hceph hdown, storage_ceph hceph, hdvm]
  exact alone_attempt_of hrbd

lemma accepts_ceph : cfg.storage.Accepts (cfg.storage.diskIdentifier vmID) := by
  rw [storage_ceph hceph]
  refine ⟨⟨cfg.cephPool, "t", "s", templateHost cfg, quietly, (), ?_⟩,
    ⟨1, fullHost someImage, quietly, (), rfl⟩,
    ⟨fullHost someImage, quietly, (), rfl⟩, ⟨"s", fullHost someImage, quietly, (), rfl⟩,
    ⟨"s", fullHost (someImageWith "s"), quietly, (), rfl⟩, ⟨fullHost someImage, quietly, [], rfl⟩,
    ⟨fullHost someImage, quietly, 0, rfl⟩, ⟨"s", fullHost (someImageWith "s"), quietly, (), rfl⟩⟩
  have hrun : (RBDManager.cloneFromTemplate ⟨cfg.cephPool⟩ cfg.cephPool "t" "s"
      (vmDiskName vmID)).alone quietly (templateHost cfg) =
        (.ok (), store.view (templateHost cfg) [.object (cfg.rbdDisk vmID) (some someImage)]) := by
    refine (alone_bind_ok (RBDManager.alone_openIOContext works_quietly _ _)).trans ?_
    refine (alone_bind_ok (RBDManager.alone_openIOContext works_quietly _ _)).trans ?_
    exact alone_cmd rfl (exec_cloneTemplate templateHost_template templateHost_disk)
  exact congrArg Prod.fst hrun

end

/-! ## the other backends -/

section
variable {cfg : Config} {vmID : String} {obj : Obj}

lemma vmDiskFile_isName (hid : IsVMID vmID) : Path.IsName (vmDiskFile vmID).toList := by
  have hlist : (vmDiskFile vmID).toList = vmID.toList ++ "-disk0.qcow2".toList :=
    String.toList_append
  have hlen : 12 ≤ (vmDiskFile vmID).toList.length := by
    rw [hlist, length_append]
    exact Nat.le_add_left 12 _
  have hshort : ∀ w : List Char, w.length < 12 → (vmDiskFile vmID).toList ≠ w := by
    rintro w hw rfl
    omega
  refine ⟨fun hslash => ?_, hshort [] (by decide), hshort ['.'] (by decide),
    hshort Path.parent (by decide)⟩
  rw [hlist] at hslash
  rcases mem_append.mp hslash with hslash | hslash
  · have hchar := List.all_eq_true.mp hid.2 '/' hslash
    exact absurd hchar (by decide)
  · exact absurd hslash (by decide)

/-- a path below the base path, as the manager takes it; a relative base path counts twice -/
lemma imagePath_append {m : QCOWManager} (hbase : m.basePath ≠ "") : ∃ root, root ≠ "" ∧ ∀ t,
    clean (m.imagePath (join m.basePath t)) = clean (root ++ "/" ++ t) ∧
    clean (m.imagePath (m.basePath ++ "/" ++ t)) = clean (root ++ "/" ++ t) := by
  have habs : ∀ t, isAbs (m.basePath ++ "/" ++ t) = isAbs m.basePath := isAbs_append hbase
  have hjoin : ∀ t, isAbs (join m.basePath t) = isAbs m.basePath :=
    fun t => (isAbs_text _).trans (habs t)
  unfold QCOWManager.imagePath
  cases hb : isAbs m.basePath with
  | true =>
    refine ⟨m.basePath, hbase, fun t => ?_⟩
    rw [if_pos ((hjoin t).trans hb), if_pos ((habs t).trans hb)]
    exact ⟨clean_text _, rfl⟩
  | false =>
    have hnot : ∀ t, ¬ isAbs (m.basePath ++ "/" ++ t) = true :=
      fun t => by rw [habs, hb]; exact Bool.false_ne_true
    have hnot' : ∀ t, ¬ isAbs (join m.basePath t) = true :=
      fun t => by rw [hjoin, hb]; exact Bool.false_ne_true
    have hassoc : ∀ t, m.basePath ++ "/" ++ (m.basePath ++ "/" ++ t) = m.basePath ++ "/" ++
      m.basePath ++ "/" ++ t :=
      fun t => by simp only [String.append_assoc]
    refine ⟨m.basePath ++ "/" ++ m.basePath, ?_, fun t => ?_⟩
    · intro hempty
      have hlen := congrArg String.length hempty
      simp only [String.length_append] at hlen
      have hslash : "/".length = 1 := rfl
      have hzero : "".length = 0 := rfl
      omega
    · rw [if_neg (hnot t), if_neg (hnot' t)]
      constructor
      · refine (clean_text _).trans ?_
        unfold join
        rw [clean_append_text hbase ((habs t).trans hb), hassoc]
      · refine (clean_text _).trans ?_
        rw [hassoc]

/-- **The two paths that the agent has for a file differ in a directory.** -/
theorem diskIdentifier_ne_snapshotPath (hid : IsVMID vmID) {m : QCOWManager}
    (hbase : m.basePath ≠ "") : fileAt (m.imagePath (m.diskIdentifier vmID)) ≠
      fileAt (m.imagePath (m.basePath ++ "/" ++ vmDiskFile vmID)) := by
  obtain ⟨root, hroot, hpath⟩ := imagePath_append hbase
  have hname := vmDiskFile_isName hid
  have hvms : Path.IsName "vms".toList := by decide
  have hdir : root ++ "/" ++ "vms" ≠ "" := by
    intro hempty
    have hlen := congrArg String.length hempty
    simp only [String.length_append] at hlen
    have hthree : "vms".length = 3 := rfl
    have hzero : "".length = 0 := rfl
    omega
  have hassoc : root ++ "/" ++ ("vms/" ++ vmDiskFile vmID) = root ++ "/" ++ "vms" ++ "/" ++
      vmDiskFile vmID := by
    have hsplit : "vms/" = "vms" ++ "/" := rfl
    rw [hsplit]
    simp only [String.append_assoc]
  intro heq
  have hclean := Obj.file.inj heq
  unfold QCOWManager.diskIdentifier at hclean
  rw [(hpath _).1, (hpath _).2, hassoc, clean_append_name hdir hname, clean_append_name hroot hvms,
    clean_append_name hroot hname] at hclean
  have hlen := congrArg (fun p => p.names.length) hclean
  simp only [length_cons] at hlen
  omega

lemma touches_qcow_createSnapshot (hqcow : cfg.storageType = .qcow)
    (h : Touches cfg vmID obj .createSnapshot) :
    obj = fileAt (QCOWManager.imagePath ⟨cfg.storagePath⟩
      (QCOWManager.diskIdentifier ⟨cfg.storagePath⟩ vmID)) := by
  obtain ⟨name, hc⟩ := h
  by_contra hne
  refine not_changes (all_createSnapshot (p := fun c => c ≠ .object obj) name ?_)
    (fun h => h rfl) hc
  rw [storage_qcow hqcow]
  exact fun _ h => hne (Cell.object.inj h).symm

lemma touches_qcow_createDiskSnapshot (hqcow : cfg.storageType = .qcow)
    (h : Touches cfg vmID obj .createDiskSnapshot) : obj = fileAt
      (QCOWManager.imagePath ⟨cfg.storagePath⟩ (cfg.storagePath ++ "/" ++ vmDiskFile vmID)) := by
  obtain ⟨req, hvm, hown, hpath, hc⟩ := h
  by_contra hne
  refine not_changes (all_createDiskSnapshot (p := fun c => c ≠ .object obj) ?_) (fun h => h rfl) hc
  have hback : cfg.backendOf req.storageBackend = storageBackendQcow := by
    rw [backendOf_own hown, hqcow]
    rfl
  unfold DiskSnapshotRequest.diskName DiskSnapshotRequest.path
  rw [if_pos hback, if_pos hpath, storage_qcow hqcow, hvm]
  exact fun h => hne (Cell.object.inj h).symm

lemma not_namesAgree_qcow (hid : IsVMID vmID) (hqcow : cfg.storageType = .qcow) :
    ¬ NamesAgree cfg vmID := by
  rintro ⟨⟨disk, hsame, _⟩, _⟩
  have hsnap := (hsame .createSnapshot (by rw [hqcow]; rfl) disk).mpr rfl
  have hdisksnap := (hsame .createDiskSnapshot (by rw [hqcow]; rfl) disk).mpr rfl
  refine diskIdentifier_ne_snapshotPath hid (m := ⟨cfg.storagePath⟩) (cfg.qcow_path hqcow) ?_
  exact (touches_qcow_createSnapshot hqcow hsnap.1).symm.trans
    (touches_qcow_createDiskSnapshot hqcow hdisksnap.1)

lemma not_namesAgree_lvm (hlvm : cfg.storageType = .lvm) : ¬ NamesAgree cfg vmID := by
  rintro ⟨_, haccepts⟩
  obtain ⟨h, o, a, hrun⟩ := haccepts.getImageSize
  obtain ⟨e, he⟩ := LVMManager.diskIdentifier_refused ⟨cfg.lvmVolumeGroup, cfg.lvmThinPool⟩ vmID
  rw [storage_lvm hlvm] at hrun
  unfold StorageBackend.getImageSize StorageBackend.diskIdentifier LVMManager.getImageSize at hrun
  dsimp only at hrun
  rw [LVMManager.validating_refused he] at hrun
  cases hrun

/-- **The names of a disk agree on a node with Ceph, and on no other.** -/
theorem namesAgree_iff (hid : IsVMID vmID) : NamesAgree cfg vmID ↔ cfg.storageType = .ceph := by
  constructor
  · intro hagree
    cases htype : cfg.storageType with
    | ceph => rfl
    | qcow => exact absurd hagree (not_namesAgree_qcow hid htype)
    | lvm => exact absurd hagree (not_namesAgree_lvm htype)
  · intro hceph
    refine ⟨⟨cfg.rbdDisk vmID, fun op hop obj => ⟨fun h => ?_, ?_⟩, leavesNone_ceph hceph⟩,
      accepts_ceph hceph⟩
    · rcases touches_ceph hceph h.1 with hobj | hobj
      · exact hobj
      · exact absurd (.inl hobj) h.2
    · rintro rfl
      refine ⟨touches_rbdDisk hceph hid.1 op hop, ?_⟩
      rintro (hiso | ⟨n, _, hdev⟩)
      · cases hiso
      · cases hdev

end

/-! ## two nodes -/

def someParsers : Parsers := ⟨fun _ => true, fun _ => true, fun _ => none, fun _ => true⟩

lemma ceph_not_qcow {s : String} : StorageType.ceph = .qcow → s ≠ "" := fun h => by cases h

def cephNode : Config :=
  ⟨someParsers, .ceph, "/var/lib/virtuestack", "vs-vms", "virtuestack", "", "", "", ceph_not_qcow⟩

lemma storage_path_set : StorageType.qcow = .qcow → "/var/lib/virtuestack" ≠ "" :=
  fun _ => by decide

def qcowNode : Config :=
  ⟨someParsers, .qcow, "/var/lib/virtuestack", "", "", "", "", "", storage_path_set⟩

theorem cephNode_namesAgree : NamesAgree cephNode "7c9e6679" := (namesAgree_iff (by decide)).mpr rfl

/-- on a node with files a disk snapshot is not made of the disk that a snapshot is made of -/
theorem qcowNode_not_namesAgree : IsVMID "7c9e6679" ∧ ¬ NamesAgree qcowNode "7c9e6679" :=
  ⟨by decide, not_namesAgree_qcow (by decide) rfl⟩

end VirtueStack.Agent
