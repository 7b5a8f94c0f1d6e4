import VirtueStack.Agent.DiskNames
import VirtueStack.Agent.LiveRequests

/-!
# Runs that rewrite the disk of a live domain

For each request that endangers a live domain, a host and a run on it that writes to the disk. The
host has every object, so that no step of the request fails before; the stop of a reinstallation
fails.
-/

namespace VirtueStack.Agent
open Txn Call Job Host List

def emptyImage : Image := ⟨[], 0, [], none⟩

/-- every object is there, without data and without snapshots -/
def Plain (h : Host) : Prop := ∀ obj, ∃ im, h.objects obj = some im ∧ im.snaps = [] ∧ im.size = 0

/-- every command is carried out, and a list of volumes is `names` -/
def listing (names : List String) : Cmd → Event store := fun _ => .ok { quiet with names := names }

def failing : Cmd → Event store := fun _ => .fail ""

section
variable {vm name : String} {h : Host} {disk : Obj}

lemma may_rewrite {context : String} {q : Cmd} {x : Inp} {a : q.Ans} {obj : Obj} {im : Option Image}
    (hlive : h.liveDisk vm = some disk) (hobj : obj = disk)
    (hx : exec q x x h = .ok (a, [.object obj im])) : (cmd context q).May (Rewrites vm) h := by
  refine may_stmt (.ok x) ⟨disk, hlive, .object obj im, ?_, ?_⟩
  · rw [Store.answer_of_ok hx]
    exact mem_singleton.mpr rfl
  · rw [hobj]
    rfl

/-! ## the methods of the backends -/

lemma RBDManager.may_delete {m : RBDManager} (hplain : Plain h)
    (hlive : h.liveDisk vm = some (.image m.pool name)) : (m.delete name).May (Rewrites vm) h := by
  obtain ⟨im, him, hsnaps, _⟩ := hplain (.image m.pool name)
  have hnames : ∀ x, exec (.getSnapshotNames m.pool name) x x h = .ok ([], []) := by
    intro x
    refine (withObject_some him).trans ?_
    rw [hsnaps]
    rfl
  have hremove : ∀ x, exec (.removeImage m.pool name) x x h =
      .ok ((), [.object (.image m.pool name) none]) := by
    intro x
    refine (withObject_some him).trans ?_
    rw [if_pos hsnaps]
    rfl
  refine may_bind (RBDManager.alone_openIOContext works_quietly _ _) ?_
  refine may_bind (RBDManager.alone_openImage works_quietly him _) ?_
  refine may_bind (alone_wrapping (alone_bind_ok (alone_cmd (o := quietly) rfl (hnames _)))) ?_
  exact may_rewrite hlive rfl (hremove quiet)

variable {im : Image}

lemma may_stat {α : Type} {path : String} {k : Except Err Unit → Job α}
    {P : Cmd → Event store → Host → Prop} (him : h.objects (fileAt path) = some im)
    (hk : (k (.ok ())).May P h) : (onCmd (.stat path) k).May P h := by
  have hans : store.answer (.stat path) h (.ok quiet) = (.ok (), []) :=
    Store.answer_of_ok (withObject_some him)
  intro hall
  have hstep := (hall (.ok quiet) trivial).2
  rw [hans] at hstep
  exact hk hstep

lemma QCOWManager.may_delete {m : QCOWManager} (hplain : Plain h)
    (hlive : h.liveDisk vm = some (fileAt (m.imagePath name))) :
    (m.delete name).May (Rewrites vm) h := by
  obtain ⟨im, him, _, _⟩ := hplain (fileAt (m.imagePath name))
  refine may_stat him ?_
  exact may_rewrite (x := quiet) hlive rfl (withObject_some him)

lemma LVMManager.may_delete {m : LVMManager} {n : String} (hplain : Plain h)
    (hid : validateLVIdentifier name = .ok ())
    (hlive : h.liveDisk vm = some (.device (m.lvPath n))) :
    (m.delete name).May (Rewrites vm) h := by
  obtain ⟨im, him, _, _⟩ := hplain (.device (m.lvPath n))
  refine may_bind (o := quietly) (alone_validating hid) ?_
  refine may_attempt (o := listing [n]) (r := .ok [n]) rfl ?_
  refine May.bind (May.bind (May.attempt ?_))
  exact may_rewrite (x := quiet) hlive rfl (withObject_some him)

/-- **A method that deletes gets to every object it reaches.** -/
theorem may_delete {b : StorageBackend} (hplain : Plain h) (hadm : b.Admits name)
    (hreach : b.Reaches name disk)
    (hlive : h.liveDisk vm = some disk) : (b.delete name).May (Rewrites vm) h := by
  cases b with
  | ceph m => exact RBDManager.may_delete hplain (hreach ▸ hlive)
  | qcow m => exact QCOWManager.may_delete hplain (hreach ▸ hlive)
  | lvm m =>
    obtain ⟨n, hn⟩ := hreach
    exact LVMManager.may_delete hplain hadm (hn ▸ hlive)

lemma may_resize {b : StorageBackend} {sizeGB : Int} (hplain : Plain h) (hadm : b.Admits name)
    (hsize : 0 < sizeGB) (hlive : h.liveDisk vm = some (b.object name)) :
    (b.resize name sizeGB).May (Rewrites vm) h := by
  cases b with
  | ceph m =>
    obtain ⟨im, him, _, _⟩ := hplain (.image m.pool name)
    refine may_bind (RBDManager.alone_openIOContext works_quietly _ _) ?_
    refine may_bind (RBDManager.alone_openImage works_quietly him _) ?_
    exact may_rewrite (x := quiet) hlive rfl (withObject_some him)
  | qcow m =>
    obtain ⟨im, him, _, hzero⟩ := hplain (fileAt (m.imagePath name))
    have hgrow : ¬ sizeGB * gbToBytes < im.size := by
      unfold gbToBytes
      omega
    have hresize : ∀ x, exec (.qemuResize (m.imagePath name) sizeGB) x x h =
        Host.resize (fileAt (m.imagePath name)) sizeGB x im := by
      intro x
      refine (withObject_some him).trans ?_
      rw [if_neg hgrow]
    show (m.resize name sizeGB).May (Rewrites vm) h
    unfold QCOWManager.resize
    rw [if_neg (by omega)]
    refine may_bind (o := quietly) (alone_stat works_quietly him _) ?_
    exact May.attempt (may_rewrite hlive rfl (hresize quiet))
  | lvm m =>
    obtain ⟨im, him, _, _⟩ := hplain (.device (m.lvPath name))
    refine may_bind (o := quietly) (LVMManager.alone_validating hadm) ?_
    unfold LVMManager.resizeTo
    rw [if_neg (by omega)]
    refine May.attempt ?_
    exact may_rewrite (x := quiet) hlive rfl (withObject_some him)

lemma may_rollback {cfg : Config} {vmID snap : String} {s : Snap} (hlvm : cfg.storageType ≠ .lvm)
    (him : h.objects (cfg.storage.object (cfg.storage.diskIdentifier vmID)) = some im)
    (hs : im.snap snap = some s)
    (hlive : h.liveDisk vm = some (cfg.storage.object (cfg.storage.diskIdentifier vmID))) :
    (cfg.storage.rollback (cfg.storage.diskIdentifier vmID) snap).May (Rewrites vm) h := by
  cases htype : cfg.storageType with
  | lvm => exact absurd htype hlvm
  | ceph =>
    rw [storage_ceph htype] at him hlive ⊢
    refine may_bind (RBDManager.alone_openIOContext works_quietly _ _) ?_
    refine may_bind (RBDManager.alone_openImage (m := ⟨cfg.cephPool⟩) works_quietly him _) ?_
    exact may_rewrite (x := quiet) hlive rfl (withSnap_some him hs)
  | qcow =>
    rw [storage_qcow htype] at him hlive ⊢
    refine may_bind (o := quietly) (alone_stat works_quietly him _) ?_
    refine May.attempt ?_
    exact may_rewrite (x := quiet) hlive rfl (withSnap_some him hs)

end

/-! ## the requests -/

/-- a host on which every domain is `d` and every object is `im` -/
def aliveHost (d : Domain) (im : Image) : Host := ⟨fun _ => some d, fun _ => some im, []⟩

section
variable {cfg : Config} {d : Domain} {h : Host}

lemma aliveHost_liveDisk (hq : d.qemu = true) (im : Image) (name : String) :
    (aliveHost d im).liveDisk name = some d.xml.disk := liveDisk_of_alive rfl hq

lemma aliveHost_plain : Plain (aliveHost d emptyImage) := fun _ => ⟨emptyImage, rfl, rfl, rfl⟩

variable {vmID vm : String} {req : CreateVMRequest} {α : Type} {o : Cmd → Event store}

lemma alone_getStatus (ho : Works o) (hd : h.domains (domainName vmID) = some d) :
    (mapError "getting VM status" (Manager.getStatus vmID)).alone o h =
      (.ok (mapLibvirtState d.state), h) := by
  obtain ⟨x, hx⟩ := ho (.getInfo (domainName vmID))
  have hinfo :=
    alone_cmd (c := "getting domain info") hx (withDomain_some (f := fun _ => Host.done ()) hd)
  have hstatus : (Manager.getStatus vmID).alone o h = (.ok (mapLibvirtState d.state), h) := by
    refine (alone_bind_ok (Manager.alone_lookupDomain ho hd _)).trans ?_
    refine (alone_bind_ok (Manager.alone_getState ho hd _)).trans ?_
    exact alone_bind_ok hinfo
  exact alone_attempt_of hstatus

lemma alone_not_running (hrun : d.state ≠ .running) (stop : Job Unit) :
    (when (mapLibvirtState d.state = "running") stop).alone o h = (.ok (), h) := by
  unfold when
  rw [if_neg (by simpa using fun hs => hrun (mapLibvirtState_running.mp hs))]
  rfl

lemma may_revertSnapshot {snapshotID : String} (hq : d.qemu = true)
    (hend : Endangers cfg d (.revertSnapshot vmID snapshotID)) :
    (revertSnapshot cfg vmID snapshotID).May (Rewrites (domainName vmID))
      (aliveHost d ⟨[], 0, [⟨snapshotID, [], false⟩], none⟩) := by
  obtain ⟨hvm, hsnap, hrun, hlvm, hdisk⟩ := hend
  have hs : Image.snap ⟨[], 0, [⟨snapshotID, [], false⟩], none⟩ snapshotID =
    some ⟨snapshotID, [], false⟩ :=
    find?_cons_of_pos (decide_eq_true rfl)
  unfold revertSnapshot
  rw [require_false (decide_eq_false (not_or.mpr ⟨hvm, hsnap⟩))]
  refine may_bind (alone_getStatus works_quietly rfl) ?_
  refine may_bind (o := quietly) (alone_not_running hrun _) ?_
  refine May.attempt (may_rollback hlvm rfl hs ?_)
  rw [hdisk]
  exact aliveHost_liveDisk hq _ _

lemma may_resizeDisk {req : ResizeVMRequest} (hplain : Plain h) (hsize : 0 < req.newDiskGB)
    (hpath : cfg.PathAllowed req.storageBackend req.vmID req.diskPath)
    (hadm : cfg.storage.Admits (cfg.diskName req.storageBackend req.vmID req.diskPath))
    (hlive : h.liveDisk vm =
      some (cfg.storage.object (cfg.diskName req.storageBackend req.vmID req.diskPath))) :
    (resizeDisk cfg req).May (Rewrites vm) h := by
  rcases resizeDisk_cases cfg req with ⟨-, context, h⟩ | ⟨hnot, -⟩
  · rw [h]
    exact May.attempt (may_resize hplain hadm hsize hlive)
  · exact absurd hpath hnot

lemma may_resizeVM {req : ResizeVMRequest} (hq : d.qemu = true)
    (hend : Endangers cfg d (.resizeVM req)) :
    (resizeVM cfg req).May (Rewrites (domainName req.vmID)) (aliveHost d emptyImage) := by
  obtain ⟨hvalid, hsize, hrun, hpath, hadm, hdisk⟩ := hend
  unfold resizeVM
  rw [hvalid]
  refine may_bind (o := quietly) (a := ()) rfl ?_
  refine may_bind (alone_getStatus works_quietly rfl) ?_
  refine may_bind (o := quietly) (alone_not_running hrun _) ?_
  refine May.bind ?_
  unfold when
  rw [if_pos (decide_eq_true hsize)]
  refine may_resizeDisk aliveHost_plain hsize hpath hadm ?_
  rw [hdisk]
  exact aliveHost_liveDisk hq _ _

lemma may_deleteDiskOf {req : DeleteVMRequest} {disk : Obj} (hplain : Plain h)
    (hback : isStorageBackend (cfg.backendOf req.storageBackend) = true)
    (hpath : cfg.PathAllowed req.storageBackend req.vmID req.diskPath)
    (hadm : cfg.storage.Admits (cfg.diskName req.storageBackend req.vmID req.diskPath))
    (hreach : cfg.storage.Reaches (cfg.diskName req.storageBackend req.vmID req.diskPath) disk)
    (hlive : h.liveDisk vm = some disk) : (deleteDiskOf cfg req).May (Rewrites vm) h := by
  rcases deleteDiskOf_cases cfg req with ⟨-, -, operation, h⟩ | ⟨hnot, -⟩
  · rw [h]
    exact May.attempt (may_delete hplain hadm hreach hlive)
  · exact absurd ⟨hback, hpath⟩ hnot

/-- a persistent domain that is alive and not running is only undefined, and its process goes on -/
lemma may_deleteVM {req : DeleteVMRequest} (hq : d.qemu = true)
    (hend : Endangers cfg d (.deleteVM req)) :
    (deleteVM cfg req).May (Rewrites (domainName req.vmID)) (aliveHost d emptyImage) := by
  obtain ⟨hvm, hrun, hpers, hback, hpath, hadm, hreach⟩ := hend
  have hundefine : exec (.undefineDomain (domainName req.vmID)) quiet quiet
      (aliveHost d emptyImage) = .ok ((), [.domain (domainName req.vmID) d.undefined]) := by
    show (if d.isPersistent then putDomain (domainName req.vmID) d.undefined
      else Host.fails "cannot undefine transient domain") = _
    rw [if_pos hpers]
    rfl
  have hlive :
    (store.view (aliveHost d emptyImage) [.domain (domainName req.vmID) d.undefined]).liveDisk
      (domainName req.vmID) = some d.xml.disk := by
    unfold Domain.undefined
    rw [if_pos hq, liveDisk_put]
    exact if_pos hq
  have hdelete : (Manager.deleteVM req.vmID).alone quietly (aliveHost d emptyImage) =
      (.ok (), store.view (aliveHost d emptyImage)
        [.domain (domainName req.vmID) d.undefined]) := by
    refine (alone_bind_ok (Manager.alone_lookupDomain works_quietly rfl _)).trans ?_
    refine (alone_bind_ok (Manager.alone_getState works_quietly rfl _)).trans ?_
    rw [decide_eq_false hrun]
    exact alone_cmd rfl hundefine
  unfold deleteVM undefineVM
  rw [require_false (decide_eq_false hvm), require_false (decide_eq_false hvm)]
  refine may_bind (alone_attempt_of hdelete) ?_
  exact may_deleteDiskOf (fun _ => ⟨emptyImage, rfl, rfl, rfl⟩) hback hpath hadm hreach hlive

/-! ## reinstalling -/

section
variable (huser : validateUserData cfg.parsers req.cloudInit = .ok ())
  (hnet : validateNetworkConfig cfg.parsers req.cloudInit = .ok ())
include huser hnet

lemma alone_generateCloudInitISO : (generateCloudInitISO cfg req.cloudInit).alone quietly h =
      (.ok (cfg.cloudInit.isoPath req.vmID),
        store.view h [.object (fileAt (cfg.cloudInit.isoPath req.vmID))
        (some (Host.written (fileAt (cfg.cloudInit.isoPath req.vmID))
          (h.objects (fileAt (cfg.cloudInit.isoPath req.vmID))) []))]) := by
  unfold generateCloudInitISO CloudInitGenerator.generate CloudInitGenerator.writeUserData
    CloudInitGenerator.writeNetworkConfig
  rw [huser, hnet]
  rfl

lemma may_generateCloudInitISO
    (hlive : h.liveDisk vm = some (fileAt (cfg.cloudInit.isoPath req.vmID))) :
    (generateCloudInitISO cfg req.cloudInit).May (Rewrites vm) h := by
  unfold generateCloudInitISO CloudInitGenerator.generate CloudInitGenerator.writeUserData
    CloudInitGenerator.writeNetworkConfig
  rw [huser, hnet]
  refine May.attempt (May.attempt ?_)
  refine may_bind (o := quietly) (show _ = (Except.ok (), h) from rfl) ?_
  refine may_bind (o := quietly) (show _ = (Except.ok (), h) from rfl) ?_
  refine may_bind (o := quietly) (show _ = (Except.ok (), h) from rfl) ?_
  refine may_bind (o := quietly) (show _ = (Except.ok (), h) from rfl) ?_
  refine may_bind (o := quietly) (show _ = (Except.ok (), h) from rfl) ?_
  refine May.bind fun hall => (hall (.ok quiet) trivial).1 ⟨_, hlive, ?_⟩
  exact ⟨_, mem_singleton.mpr rfl, rfl⟩

end

/-- a disk that `os.Stat` does not find, whatever the reason, is overwritten -/
lemma QCOWTemplateManager.may_cloneForVM {m : QCOWTemplateManager} {templatePath : String}
    {sizeGB : Int} (hplain : Plain h) (hlive : h.liveDisk vm = some (fileAt (m.vmDiskPath vmID))) :
    (m.cloneForVM templatePath vmID sizeGB).May (Rewrites vm) h := by
  obtain ⟨im, him, _, _⟩ := hplain (fileAt templatePath)
  refine may_bind (o := quietly) (alone_stat works_quietly him _) ?_
  refine may_bind (o := failing) (a := ()) rfl ?_
  refine May.bind (May.attempt ?_)
  exact may_rewrite (x := quiet) hlive rfl (withObject_some him)

lemma alone_failing (p : Prog store α) (h : Host) : (p.alone failing h).2 = h := by
  induction p generalizing h with
  | ret a => rfl
  | req r k ih =>
    cases r with
    | run q | begin | commit | rollback => exact ih _ h

lemma alone_failing_eq (c : Job α) (h : Host) : c.alone failing h = ((c.alone failing h).1, h) :=
  Prod.ext rfl (alone_failing c h)

lemma alone_logged_failing (c : Job α) (h : Host) : (logged c).alone failing h = (.ok (), h) := by
  unfold logged
  rw [alone_attempt]
  exact congrArg _ (alone_failing c h)

lemma view_plain {obj : Obj} (hplain : Plain h) : Plain (store.view h [.object obj
    (some (Host.written obj (h.objects obj) []))]) := by
  intro obj'
  by_cases hobj : obj' = obj
  · subst hobj
    rw [objects_put]
    obtain ⟨im, him, hsnaps, hsize⟩ := hplain obj'
    rw [him]
    cases obj' with
    | file path | image pool name => exact ⟨_, rfl, rfl, rfl⟩
    | device path => exact ⟨_, rfl, hsnaps, hsize⟩
  · rw [view_objects fun w hw hcell => ?_]
    · exact hplain obj'
    · rw [mem_singleton.mp hw] at hcell
      exact hobj (Cell.object.inj hcell).symm

lemma may_reinstallDisk {disk : Obj} (hplain : Plain h)
    (hreach : ReinstallReaches cfg req disk) (hlive : h.liveDisk vm = some disk) :
    (reinstallDisk cfg req).May (Rewrites vm) h := by
  unfold reinstallDisk
  rcases hreach with ⟨hback, hempty, hpath, htype, hdisk⟩ | ⟨hback, himage, hsnap, hadm, hdisk⟩ |
    ⟨hback, hempty, htype, hdisk⟩
  · rw [if_pos hback]
    have htemp := templates_qcow htype
    have hstor := storage_qcow htype
    unfold reinstallQCOW requireQCOWTemplates
    rw [require_false (decide_eq_false hempty), checkPath_ok hpath, htemp]
    rw [htemp, hstor] at hdisk
    refine may_bind (o := quietly) (show _ = (Except.ok (), h) from rfl) ?_
    refine may_attempt (alone_failing_eq _ h) ?_
    unfold deleteAndCloneQCOW cloneQCOW
    rw [hstor, htemp]
    rcases hdisk with hdisk | hdisk
    · exact May.bind
        (May.attempt (QCOWManager.may_delete hplain (hlive.trans (congrArg some hdisk))))
    · refine may_bind (alone_logged_failing _ h) (May.attempt ?_)
      exact QCOWTemplateManager.may_cloneForVM hplain (hlive.trans (congrArg some hdisk))
  · rw [hback, if_neg (by decide), if_pos rfl]
    unfold reinstallCeph
    rw [require_false (decide_eq_false (not_or.mpr ⟨himage, hsnap⟩))]
    exact May.bind (May.attempt (may_delete hplain hadm hdisk hlive))
  · rw [hback, if_neg (by decide), if_neg (by decide), if_pos rfl]
    unfold reinstallLVM
    rw [require_false (decide_eq_false hempty)]
    refine may_attempt (alone_failing_eq _ h) ?_
    unfold deleteAndCloneLVM
    cases hnode : cfg.storageType with
    | lvm => exact absurd hnode htype
    | ceph =>
      rw [storage_ceph hnode, templates_ceph hnode] at hdisk
      rw [storage_ceph hnode]
      -- the template manager makes the image that was to be deleted
      have hobj : disk = .image cfg.cephPool (vmDiskName req.vmID) := by
        rcases hdisk with hdisk | hdisk
        · exact hdisk
        · exact hdisk
      exact May.bind (May.attempt (RBDManager.may_delete (m := ⟨cfg.cephPool⟩) hplain
        (hlive.trans (congrArg some hobj))))
    | qcow =>
      rw [storage_qcow hnode, templates_qcow hnode] at hdisk
      rw [storage_qcow hnode, templates_qcow hnode]
      rcases hdisk with hdisk | hdisk
      · exact May.bind (May.attempt (QCOWManager.may_delete (m := ⟨cfg.storagePath⟩) hplain
          (hlive.trans (congrArg some hdisk))))
      · refine may_bind (alone_logged_failing _ h) (May.attempt ?_)
        exact QCOWTemplateManager.may_cloneForVM hplain (hlive.trans (congrArg some hdisk))

lemma may_reinstallVM (hq : d.qemu = true) (hend : Endangers cfg d (.reinstallVM req)) :
    (reinstallVM cfg req).May (Rewrites (domainName req.vmID)) (aliveHost d emptyImage) := by
  obtain ⟨hvalid, huser, hnet, hdisk⟩ := hend
  have hlive := aliveHost_liveDisk hq emptyImage (domainName req.vmID)
  unfold reinstallVM
  rw [hvalid]
  refine may_bind (o := quietly) (show _ = (Except.ok (), aliveHost d emptyImage) from rfl) ?_
  rcases hdisk with hiso | hreach
  · rw [← hiso] at hlive
    exact May.bind (may_generateCloudInitISO huser hnet hlive)
  · refine may_bind (alone_generateCloudInitISO huser hnet) ?_
    refine may_bind (alone_logged_failing _ _) ?_
    exact May.bind (may_reinstallDisk (view_plain aliveHost_plain) hreach hlive)

/-- **A request spares the disk of a live domain exactly if it does not endanger it.** -/
theorem spares_iff (r : DiskRequest) (dom : Option Domain) :
    Spares cfg r dom ↔ ∀ d, dom = some d → d.qemu = true → ¬ Endangers cfg d r := by
  refine ⟨fun hspares d hd hq hend => ?_, spares_of_not_endangers⟩
  have hsome : ∀ (im : Image) (disk : Obj), (aliveHost d im).liveDisk
    (domainName r.vmID) = some disk →
      ((aliveHost d im).objects disk).isSome = true := fun _ _ _ => rfl
  cases r with
  | revertSnapshot vmID snapshotID => exact hspares _ hd.symm (hsome _) (may_revertSnapshot hq hend)
  | restoreLVMBackup vmID path => exact hend
  | reinstallVM req => exact hspares _ hd.symm (hsome _) (May.bind (may_reinstallVM hq hend))
  | resizeVM req => exact hspares _ hd.symm (hsome _) (may_resizeVM hq hend)
  | deleteVM req => exact hspares _ hd.symm (hsome _) (may_deleteVM hq hend)

end

lemma paused_not_shutoff {b : Bool} : DomainState.paused = .shutoff → b = false :=
  fun h => by cases h

def pausedDomain : Domain :=
  ⟨.paused, true, true, ⟨"vs-7c9e6679", .image "vs-vms" "vs-7c9e6679-disk0", 1, 1024,
    "52:54:00:00:00:01", "", "", 0, ""⟩, paused_not_shutoff⟩

/-- the image of a paused domain is rolled back under its process -/
theorem paused_not_spared :
    ¬ Spares cephNode (.revertSnapshot "7c9e6679" "before-upgrade") (some pausedDomain) := by
  intro hspares
  refine hspares _ rfl (fun _ _ => rfl) (may_revertSnapshot rfl ?_)
  exact ⟨by decide, by decide, by decide, by decide, by decide⟩

end VirtueStack.Agent
