import VirtueStack.Agent.Footprint

/-!
# What the requests of an agent can change

The cells that the managers and the handlers write to, from those of the backends: the domain of the
VM, its seed ISO, the log, and the objects that the names of its disk stand for.
-/

namespace VirtueStack.Agent
open Txn Call Job

variable {α : Type} {vmID : String} {cfg : Config}

section
variable {refused : Bool} {msg : String} {f : Unit → Job α}

lemma Job.require_false (h : refused = false) : (require refused msg >>= f) = f () := by
  rw [h]
  rfl

lemma Job.require_true (h : refused = true) :
    (require refused msg >>= f) = fail (invalidArgument msg) := by
  rw [h]
  rfl

end

variable {a : α} {c : Job α}

lemma Job.returns_attempt {f : Except GoError α → Job α} (hok : ∀ a, f (.ok a) = Call.pure a)
    (herr : ∀ e, ∃ e', f (.error e) = fail e') (h : (c.attempt f).Returns a) : c.Returns a := by
  obtain ⟨r, hr, hf⟩ := Prog.returns_bind (S := store) h
  cases r with
  | ok b =>
    rw [hok] at hf
    cases hf
    exact hr
  | error e =>
    obtain ⟨e', he'⟩ := herr e
    rw [he'] at hf
    cases hf

lemma Job.returns_wrapping {context : String} (h : (wrapping context c).Returns a) :
    c.Returns a := returns_attempt (f := withContext context) (fun _ => rfl) (fun _ => ⟨_, rfl⟩) h

lemma Job.returns_internal {context : String} (h : (internal context c).Returns a) :
    c.Returns a := returns_attempt (f := statusOf .internal context) (fun _ => rfl)
    (fun _ => ⟨_, rfl⟩) h

lemma Job.returns_lift {r : Except GoError α} (h : (lift r).Returns a) : r = .ok a := by
  cases r with
  | ok b =>
    cases h
    rfl
  | error e => cases h

section
variable {field path root : String} {f : Unit → Job α}

lemma checkPath_ok (h : validatePath path root = .ok ()) :
    (checkPath field path root >>= f) = f () := by
  unfold checkPath
  rw [h]
  rfl

lemma checkPath_error {e : GoError} (h : validatePath path root = .error e) :
    (checkPath field path root >>= f) =
      fail (invalidArgument ("invalid " ++ field ++ ": " ++ e.text)) := by
  unfold checkPath
  rw [h]
  rfl

end

lemma Job.require_cases {P : Job α → Prop} {b : Prop} [Decidable b] {msg : String}
    {f : Unit → Job α}
    (hfail : ∀ e, P (fail e)) (hok : ¬ b → P (f ())) : P (require (decide b) msg >>= f) := by
  by_cases hb : b
  · rw [require_true (decide_eq_true hb)]
    exact hfail _
  · rw [require_false (decide_eq_false hb)]
    exact hok hb

lemma checkPath_cases {P : Job α → Prop} {field path root : String} {f : Unit → Job α}
    (hfail : ∀ e, P (fail e)) (hok : validatePath path root = .ok () → P (f ())) :
    P (checkPath field path root >>= f) := by
  cases h : validatePath path root with
  | error e => exact checkPath_error h ▸ hfail _
  | ok u => exact checkPath_ok h ▸ hok h

/-- **A path is let through exactly if it is the directory or lies below it.** -/
theorem validatePath_iff (path allowedPrefix : String)
    (hclean : (clean allowedPrefix).text = allowedPrefix)
    (habs : isAbs allowedPrefix = true) (hne : allowedPrefix ≠ "/") :
    validatePath path allowedPrefix = .ok () ↔ (clean allowedPrefix).Within (clean path) := by
  by_cases hpath : path = ""
  · subst hpath
    refine ⟨fun h => (by cases h), fun h => ?_⟩
    cases h.1.trans ((clean_isAbs allowedPrefix).trans habs)
  · have hprefix : allowedPrefix ≠ "" := by
      rintro rfl
      cases habs
    rw [within_iff hclean habs hne, ← List.isPrefixOf_iff_prefix]
    unfold validatePath
    rw [if_neg hpath, if_neg hprefix]
    split
    · rename_i h
      exact ⟨fun _ => h, fun _ => rfl⟩
    · rename_i h
      exact ⟨fun h => (by cases h), fun h' => absurd h' h⟩

theorem validatePath_sibling : validatePath "/srv/vm-old/disk" "/srv/vm" = .ok () ↔
    (clean "/srv/vm").Within (clean "/srv/vm-old/disk") := validatePath_iff _ _ rfl rfl (by decide)

/-! ## the managers of a configuration -/

lemma storage_ceph (h : cfg.storageType = .ceph) : cfg.storage = .ceph ⟨cfg.cephPool⟩ := by
  unfold Config.storage
  rw [h]

lemma storage_qcow (h : cfg.storageType = .qcow) : cfg.storage = .qcow ⟨cfg.storagePath⟩ := by
  unfold Config.storage
  rw [h]

lemma storage_lvm (h : cfg.storageType = .lvm) :
    cfg.storage = .lvm ⟨cfg.lvmVolumeGroup, cfg.lvmThinPool⟩ := by
  unfold Config.storage
  rw [h]

lemma templates_ceph (h : cfg.storageType = .ceph) : cfg.templates = .ceph ⟨⟨cfg.cephPool⟩⟩ := by
  unfold Config.templates
  rw [h]

lemma templates_qcow (h : cfg.storageType = .qcow) :
    cfg.templates = .qcow ⟨cfg.storagePath ++ "/vms"⟩ := by
  unfold Config.templates
  rw [h]

lemma templates_lvm (h : cfg.storageType = .lvm) : cfg.templates = .lvm ⟨cfg.lvmVolumeGroup⟩ := by
  unfold Config.templates
  rw [h]

variable {p : Cell → Prop}

/-! ## domains -/

namespace Manager
variable {vmID : String}

section
variable {ok : Cmd → Prop} (hread : ∀ q : Cmd, q.cells = [] → ok q)
include hread

lemma sends_lookupDomain : (lookupDomain vmID).All ok := by
  refine all_onCmd.mpr ⟨hread _ rfl, fun _ => trivial, fun e => ?_⟩
  unfold domainFound
  split <;> trivial

lemma sends_getState (context : String) : (getState context vmID).All ok := All.stmt (hread _ rfl)

lemma sends_getStatus : (getStatus vmID).All ok := by
  simp [getStatus, hread (.getInfo _) rfl, sends_lookupDomain hread, sends_getState hread]

lemma sends_startVM (hcreate : ok (.createDomain (domainName vmID))) : (startVM vmID).All ok := by
  simp [startVM, startFrom, hcreate, sends_lookupDomain hread, sends_getState hread]

lemma sends_awaitShutoff (htick : ok (.tick (domainName vmID))) (polls : Nat) :
    (awaitShutoff vmID polls).All ok := by
  induction polls with
  | zero => trivial
  | succ polls ih => simp [awaitShutoff, htick, sends_getState hread, ih]

lemma sends_stopVM (htick : ok (.tick (domainName vmID))) (timeoutSec : Nat) :
    (stopVM vmID timeoutSec).All ok := by
  simp [stopVM, shutdownFrom, hread (.shutdownDomain _) rfl, sends_lookupDomain hread,
    sends_getState hread, sends_awaitShutoff hread htick]

variable (hdestroy : ok (.destroyDomain (domainName vmID)))
include hdestroy

lemma sends_forceStopVM : (forceStopVM vmID).All ok := by
  simp [forceStopVM, destroyFrom, hdestroy, sends_lookupDomain hread, sends_getState hread]

lemma sends_deleteVM (hundefine : ok (.undefineDomain (domainName vmID))) :
    (deleteVM vmID).All ok := by
  simp [deleteVM, hdestroy, hundefine, sends_lookupDomain hread, sends_getState hread]

end

lemma all_getStatus : (getStatus vmID).All (Only p) := sends_getStatus fun _ => only_read

section
variable (hdom : p (.domain (domainName vmID)))
include hdom

lemma all_startVM : (startVM vmID).All (Only p) :=
  sends_startVM (fun _ => only_read) (only_write rfl hdom)

lemma all_stopVM (timeoutSec : Nat) : (stopVM vmID timeoutSec).All (Only p) :=
  sends_stopVM (fun _ => only_read) (only_write rfl hdom) timeoutSec

lemma all_forceStopVM : (forceStopVM vmID).All (Only p) :=
  sends_forceStopVM (fun _ => only_read) (only_write rfl hdom)

lemma all_deleteVM : (deleteVM vmID).All (Only p) :=
  sends_deleteVM (fun _ => only_read) (only_write rfl hdom) (only_write rfl hdom)

end

variable {parsers : Parsers} {dc : DomainConfig}

lemma generateDomainXML_ok {xml : DomainXML} (h : generateDomainXML parsers dc = .ok xml) :
    xml.name = domainName dc.vmID ∧ diskXML parsers dc = .ok xml.disk := by
  unfold generateDomainXML at h
  cases hv : inContext "validating domain config" (validateDomainConfig dc) with
  | error e =>
    rw [hv] at h
    cases h
  | ok _ =>
    cases hd : diskXML parsers dc with
    | error e =>
      rw [hv, hd] at h
      cases h
    | ok disk =>
      rw [hv, hd] at h
      cases h
      exact ⟨rfl, rfl⟩

lemma all_createVM (hdom : p (.domain (domainName dc.vmID)))
    (hlog : p .log) : (createVM parsers dc).All (Only p) := by
  cases hx : generateDomainXML parsers dc with
  | error e =>
    unfold createVM
    rw [hx]
    trivial
  | ok xml =>
    rw [← (generateDomainXML_ok hx).1] at hdom
    simp [createVM, hx, lift, started, hdom, hlog]

end Manager

/-! ## the seed ISO -/

namespace CloudInitGenerator
variable {g : CloudInitGenerator} {vmID : String} (hiso : p (.object (fileAt (g.isoPath vmID))))
include hiso

lemma all_removeISO (context : String) : (g.removeISO context vmID).All (Only p) := by
  refine all_onCmd.mpr ⟨only_write rfl hiso, fun _ => trivial, fun e => ?_⟩
  unfold removed
  split <;> trivial

lemma all_delete : (g.delete vmID).All (Only p) := all_removeISO hiso _

lemma all_built (hlog : p .log) (r : Except Err (Except String Unit)) :
    (g.built vmID r).All (Only p) := by
  have hremove : ∀ e : GoError, All (Only p) (do
      cleanup .incompleteISO (g.removeISO "removing incomplete ISO file" vmID)
      (fail e : Job Unit)) := fun e =>
    All.bind (All.attempt (all_removeISO hiso _) fun r => by cases r <;> simp [hlog]) fun _ =>
      trivial
  unfold built
  split
  · trivial
  · exact hremove _
  · exact hremove _

omit hiso

variable {parsers : Parsers} {ci : CloudInitConfig}

lemma all_generate_valid
    (hp : validateUserData parsers ci = .ok () → validateNetworkConfig parsers ci = .ok () →
      p (.object (fileAt (g.isoPath ci.vmID))) ∧ p .log) : (g.generate parsers ci).All
        (Only p) := by
  have hbuilt : ∀ r, validateUserData parsers ci = .ok () →
    validateNetworkConfig parsers ci = .ok () →
      (g.built ci.vmID r).All (Only p) := fun r hu hn => all_built (hp hu hn).1 (hp hu hn).2 r
  simp [generate, writeMetaData, writeUserData, writeNetworkConfig]
  exact fun _ hu _ hn => ⟨(hp hu hn).1, fun _ => hbuilt _ hu hn, fun _ => hbuilt _ hu hn⟩

lemma generate_returns {path : String} (h : (g.generate parsers ci).Returns path) :
    validateUserData parsers ci = .ok () ∧ validateNetworkConfig parsers ci = .ok () := by
  obtain ⟨_, _, h⟩ := returns_bind h
  obtain ⟨_, _, h⟩ := returns_bind h
  obtain ⟨_, _, h⟩ := returns_bind h
  obtain ⟨_, huser, h⟩ := returns_bind h
  obtain ⟨_, hnet, h⟩ := returns_bind h
  obtain ⟨_, huser, _⟩ := returns_bind (returns_wrapping huser)
  obtain ⟨_, hnet, _⟩ := returns_bind (returns_wrapping hnet)
  exact ⟨returns_lift huser, returns_lift hnet⟩

end CloudInitGenerator

/-! ## templates -/

lemma TemplateManager.all_cloneForVM {m : TemplateManager}
    (hdisk : p (.object (.image m.rbdManager.pool (vmDiskName vmID)))) (hlog : p .log)
    (templateRef : String)
    (sizeGB : Int) : (m.cloneForVM templateRef vmID sizeGB).All (Only p) := by
  simp [cloneForVM, resized, RBDManager.all_cloneFromTemplate hdisk, RBDManager.all_resize hdisk,
    RBDManager.all_delete hdisk, hlog]

lemma QCOWTemplateManager.all_cloneForVM {m : QCOWTemplateManager}
    (hdisk : p (.object (fileAt (m.vmDiskPath vmID)))) (hlog : p .log) (templatePath : String)
    (sizeGB : Int) : (m.cloneForVM templatePath vmID sizeGB).All (Only p) := by
  simp [cloneForVM, templateFound, diskFree, resized, hdisk, hlog]

lemma LVMTemplateManager.all_cloneForVM {m : LVMTemplateManager}
    (hdisk : p (.object (.device (m.vmDiskPath vmID)))) (hlog : p .log) (templateRef : String)
    (sizeGB : Int) : (m.cloneForVM templateRef vmID sizeGB).All (Only p) := by
  simp [cloneForVM, getLVSize, resizeFor, resized, hdisk, hlog]

/-- the disk that a template manager makes -/
def TemplateBackend.object (vmID : String) : TemplateBackend → Obj
  | .ceph m => .image m.rbdManager.pool (vmDiskName vmID)
  | .qcow m => fileAt (m.vmDiskPath vmID)
  | .lvm m => .device (m.vmDiskPath vmID)

lemma TemplateBackend.all_cloneForVM {b : TemplateBackend} (hdisk : p (.object (b.object vmID)))
    (hlog : p .log) (templateRef : String) (sizeGB : Int) :
    (b.cloneForVM templateRef vmID sizeGB).All (Only p) := by
  cases b with
  | ceph m | qcow m | lvm m => exact m.all_cloneForVM hdisk hlog templateRef sizeGB

/-! ## the interface -/

namespace StorageBackend

/-- The objects that a method gets to which is called with `name`. Along with a volume the LVM
manager deletes others of the same group. -/
def Reaches (name : String) (obj : Obj) : StorageBackend → Prop
  | .ceph m => obj = .image m.pool name
  | .qcow m => obj = fileAt (m.imagePath name)
  | .lvm m => ∃ n, obj = .device (m.lvPath n)

def Admits (name : String) : StorageBackend → Prop
  | .lvm _ => LVMManager.validateLVIdentifier name = .ok ()
  | _ => True

variable {b : StorageBackend} {name : String}

lemma all_getImageSize : (b.getImageSize name).All (Only p) := by
  cases b with
  | ceph m | qcow m | lvm m =>
    simp [getImageSize, RBDManager.getImageSize, QCOWManager.getImageSize, LVMManager.getImageSize]

lemma all_listSnapshots : (b.listSnapshots name).All (Only p) := by
  cases b with
  | ceph m | qcow m | lvm m =>
    simp [listSnapshots, RBDManager.listSnapshots, RBDManager.all_checkSnapshots,
      QCOWManager.listSnapshots, LVMManager.listSnapshots]

lemma all_resize (hname : b.Admits name → p (.object (b.object name))) (newSizeGB : Int) :
    (b.resize name newSizeGB).All (Only p) := by
  cases b with
  | ceph m => exact RBDManager.all_resize (hname trivial) newSizeGB
  | qcow m => exact QCOWManager.all_resize (hname trivial) newSizeGB
  | lvm m =>
    cases hid : LVMManager.validateLVIdentifier name with
    | ok _ => exact LVMManager.all_resize (hname hid) newSizeGB
    | error e => simp [resize, LVMManager.resize, hid]

lemma all_delete (hname : b.Admits name → ∀ obj, b.Reaches name obj → p (.object obj)) :
    (b.delete name).All (Only p) := by
  cases b with
  | ceph m => exact RBDManager.all_delete (hname trivial _ rfl)
  | qcow m => exact QCOWManager.all_delete (hname trivial _ rfl)
  | lvm m =>
    cases hid : LVMManager.validateLVIdentifier name with
    | ok _ => exact LVMManager.all_delete fun n => hname hid _ ⟨n, rfl⟩
    | error e => simp [delete, LVMManager.delete, hid]

lemma all_cloneFromTemplate (hname : b.Admits name → p (.object (b.object name)))
    (sourcePool sourceImage sourceSnap : String) :
    (b.cloneFromTemplate sourcePool sourceImage sourceSnap name).All (Only p) := by
  cases b with
  | ceph m => exact RBDManager.all_cloneFromTemplate (hname trivial) _ _ _
  | qcow m => exact QCOWManager.all_cloneFromTemplate (hname trivial) _ _
  | lvm m =>
    cases hid : LVMManager.validateLVIdentifier name with
    | ok _ => exact LVMManager.all_cloneFromTemplate (hname hid) _
    | error e => simp [cloneFromTemplate, LVMManager.cloneFromTemplate, hid]

end StorageBackend

/-! ## handlers -/

section
variable (cfg : Config) (storageBackend vmID diskPath : String)

/-- the name under which the handlers that delete and resize a disk hand it to the backend -/
def Config.diskName : String :=
  if cfg.backendOf storageBackend = storageBackendQcow then
    if diskPath = "" then cfg.defaultDiskPath vmID else diskPath
  else if cfg.backendOf storageBackend = storageBackendCeph then vmDiskName vmID
  else cfg.storage.diskIdentifier vmID

/-- the path of a request for a file is below the storage path -/
def Config.PathAllowed : Prop :=
  cfg.backendOf storageBackend = storageBackendQcow →
    validatePath (cfg.diskName storageBackend vmID diskPath) cfg.storagePath = .ok ()

end

lemma deleteDiskOf_cases (cfg : Config) (req : DeleteVMRequest) :
    (isStorageBackend (cfg.backendOf req.storageBackend) = true ∧
      cfg.PathAllowed req.storageBackend req.vmID req.diskPath ∧ ∃ operation, deleteDiskOf cfg req =
        attempt (cfg.storage.delete (cfg.diskName req.storageBackend req.vmID req.diskPath))
        (diskDeleted operation)) ∨
    ¬ (isStorageBackend (cfg.backendOf req.storageBackend) = true ∧
      cfg.PathAllowed req.storageBackend req.vmID req.diskPath) ∧
        ∃ r, deleteDiskOf cfg req = lift r := by
  unfold Config.PathAllowed Config.diskName deleteDiskOf
  by_cases hqcow : cfg.backendOf req.storageBackend = storageBackendQcow
  · rw [hqcow, if_pos rfl, if_pos rfl]
    unfold deleteQCOWDisk
    cases hpath :
      validatePath (if req.diskPath = "" then cfg.defaultDiskPath req.vmID else req.diskPath)
      cfg.storagePath with
    | ok _ => exact .inl ⟨rfl, fun _ => rfl, _, checkPath_ok hpath⟩
    | error e => exact .inr ⟨fun h => (by cases h.2 rfl), .error _, checkPath_error hpath⟩
  rw [if_neg hqcow, if_neg hqcow]
  by_cases hceph : cfg.backendOf req.storageBackend = storageBackendCeph
  · rw [hceph]
    exact .inl ⟨rfl, fun h => absurd h (by decide), _, rfl⟩
  rw [if_neg hceph, if_neg hceph]
  by_cases hlvm : cfg.backendOf req.storageBackend = storageBackendLVM
  · rw [hlvm]
    exact .inl ⟨rfl, fun h => absurd h (by decide), _, rfl⟩
  · rw [if_neg hlvm]
    exact .inr ⟨fun h => by simp [isStorageBackend, hqcow, hceph, hlvm] at h, .ok (), rfl⟩

lemma resizeDisk_cases (cfg : Config) (req : ResizeVMRequest) :
    (cfg.PathAllowed req.storageBackend req.vmID req.diskPath ∧ ∃ context, resizeDisk cfg req =
      internal context
        (cfg.storage.resize (cfg.diskName req.storageBackend req.vmID req.diskPath)
          req.newDiskGB)) ∨
    ¬ cfg.PathAllowed req.storageBackend req.vmID req.diskPath ∧ ∃ e, resizeDisk cfg req =
      lift (.error e) := by
  unfold Config.PathAllowed Config.diskName resizeDisk
  by_cases hqcow : cfg.backendOf req.storageBackend = storageBackendQcow
  · rw [hqcow, if_pos rfl, if_pos rfl]
    unfold resizeQCOW
    cases hpath :
      validatePath (if req.diskPath = "" then cfg.defaultDiskPath req.vmID else req.diskPath)
      cfg.storagePath with
    | ok _ => exact .inl ⟨fun _ => rfl, _, checkPath_ok hpath⟩
    | error e => exact .inr ⟨fun h => (by cases h rfl), _, checkPath_error hpath⟩
  rw [if_neg hqcow, if_neg hqcow]
  by_cases hceph : cfg.backendOf req.storageBackend = storageBackendCeph
  · rw [hceph]
    exact .inl ⟨fun h => absurd h (by decide), _, rfl⟩
  · rw [if_neg hceph, if_neg hceph]
    exact .inl ⟨fun h => absurd h hqcow, _, rfl⟩

lemma all_diskDeleted {ok : Cmd → Prop} {operation : String} (r : Except GoError Unit) :
    (diskDeleted operation r).All ok := by
  cases r with
  | ok _ => trivial
  | error e => exact All.ite (fun _ => trivial) fun _ => trivial

lemma all_deleteDiskOf {req : DeleteVMRequest}
    (hdisk : isStorageBackend (cfg.backendOf req.storageBackend) = true →
      cfg.PathAllowed req.storageBackend req.vmID req.diskPath →
      cfg.storage.Admits (cfg.diskName req.storageBackend req.vmID req.diskPath) → ∀ obj,
      cfg.storage.Reaches (cfg.diskName req.storageBackend req.vmID req.diskPath) obj →
        p (.object obj)) : (deleteDiskOf cfg req).All (Only p) := by
  rcases deleteDiskOf_cases cfg req with ⟨hback, hpath, operation, h⟩ | ⟨-, r, h⟩
  · rw [h]
    exact All.attempt (StorageBackend.all_delete (hdisk hback hpath)) all_diskDeleted
  · rw [h]
    exact all_lift r

lemma all_undefineVM (hdom : p (.domain (domainName vmID))) : (undefineVM vmID).All (Only p) := by
  simp [undefineVM, domainDeleted, Manager.all_deleteVM hdom]

lemma all_resizeDisk {req : ResizeVMRequest}
    (hdisk : cfg.PathAllowed req.storageBackend req.vmID req.diskPath →
      cfg.storage.Admits (cfg.diskName req.storageBackend req.vmID req.diskPath) →
      p (.object (cfg.storage.object (cfg.diskName req.storageBackend req.vmID req.diskPath)))) :
    (resizeDisk cfg req).All (Only p) := by
  rcases resizeDisk_cases cfg req with ⟨hpath, context, h⟩ | ⟨-, e, h⟩
  · rw [h]
    exact all_internal (StorageBackend.all_resize (hdisk hpath) req.newDiskGB)
  · rw [h]
    trivial

lemma all_resizeDomain {req : ResizeVMRequest} (hdom : p (.domain (domainName req.vmID))) :
    (resizeDomain req).All (Only p) := by
  simp [resizeDomain, setVcpus, setMemory, hdom]

lemma all_generateCloudInitISO {ci : CloudInitConfig}
    (hiso : p (.object (fileAt (cfg.cloudInit.isoPath ci.vmID)))) (hlog : p .log) :
    (generateCloudInitISO cfg ci).All (Only p) :=
  by simp [generateCloudInitISO, CloudInitGenerator.all_generate_valid fun _ _ => ⟨hiso, hlog⟩]

lemma createDisk_returns {req : CreateVMRequest} {dc dc' : DomainConfig}
    (h : (createDisk cfg req dc).Returns dc') :
    dc'.vmID = dc.vmID ∧ dc'.storageBackend = dc.storageBackend := by
  unfold createDisk at h
  split at h
  · obtain ⟨_, _, h⟩ := returns_bind h
    obtain ⟨_, _, h⟩ := returns_bind h
    obtain ⟨_, _, h⟩ := returns_bind h
    cases h
    exact ⟨rfl, rfl⟩
  · split at h
    · obtain ⟨_, _, h⟩ := returns_bind h
      cases h
      exact ⟨rfl, rfl⟩
    · obtain ⟨_, _, h⟩ := returns_bind h
      obtain ⟨_, _, h⟩ := returns_bind h
      obtain ⟨_, _, h⟩ := returns_bind h
      cases h
      exact ⟨rfl, rfl⟩

end VirtueStack.Agent
