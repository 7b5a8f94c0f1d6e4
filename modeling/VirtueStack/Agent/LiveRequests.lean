import VirtueStack.Agent.LiveDomain
import VirtueStack.Agent.Runs

/-!
# Requests that rewrite a disk

Five requests roll back, overwrite, resize or delete the disk of a VM, and each of them looks at the
domain first in its own way.

Three of them stop a domain only if its state is `running`: one that is paused or crashed keeps its
process. The reinstallation goes on when the stop has failed.
-/

namespace VirtueStack.Agent
open Txn Call Job LVMManager

inductive DiskRequest where
  | revertSnapshot (vmID snapshotID : String)
  | restoreLVMBackup (vmID backupFilePath : String)
  | reinstallVM (req : CreateVMRequest)
  | resizeVM (req : ResizeVMRequest)
  | deleteVM (req : DeleteVMRequest)

namespace DiskRequest

def vmID : DiskRequest → String
  | .revertSnapshot vmID _ => vmID
  | .restoreLVMBackup vmID _ => vmID
  | .reinstallVM req => req.vmID
  | .resizeVM req => req.vmID
  | .deleteVM req => req.vmID

def job (cfg : Config) : DiskRequest → Job Unit
  | .revertSnapshot vmID snapshotID => Agent.revertSnapshot cfg vmID snapshotID
  | .restoreLVMBackup vmID backupFilePath => Agent.restoreLVMBackup cfg vmID backupFilePath
  | .reinstallVM req => Agent.reinstallVM cfg req >>= fun _ => Call.pure ()
  | .resizeVM req => Agent.resizeVM cfg req
  | .deleteVM req => Agent.deleteVM cfg req

end DiskRequest

/-- From whatever host that has the domain in this state, and has the disk of a live domain, no run
of the request writes to the disk of a live domain. -/
def Spares (cfg : Config) (r : DiskRequest) (dom : Option Domain) : Prop :=
  ∀ h : Host, h.domains (domainName r.vmID) = dom →
    (∀ disk, h.liveDisk (domainName r.vmID) = some disk → (h.objects disk).isSome = true) →
    ¬ (r.job cfg).May (Rewrites (domainName r.vmID)) h

/-- the objects that the disk steps of a reinstallation get to when they are there already -/
def ReinstallReaches (cfg : Config) (req : CreateVMRequest) (obj : Obj) : Prop :=
  (cfg.backendOf req.storageBackend = storageBackendQcow ∧ req.templateFilePath ≠ "" ∧
    validatePath req.templateFilePath cfg.storagePath = .ok () ∧ cfg.storageType = .qcow ∧
    (obj = cfg.storage.object (cfg.defaultDiskPath req.vmID) ∨
      obj = cfg.templates.object req.vmID)) ∨
  (cfg.backendOf req.storageBackend = storageBackendCeph ∧ req.templateRBDImage ≠ "" ∧
    req.templateRBDSnapshot ≠ "" ∧
    cfg.storage.Admits (vmDiskName req.vmID) ∧ cfg.storage.Reaches (vmDiskName req.vmID) obj) ∨
  (cfg.backendOf req.storageBackend = storageBackendLVM ∧ req.templateFilePath ≠ "" ∧
    cfg.storageType ≠ .lvm ∧
    (cfg.storage.Reaches (cfg.storage.diskIdentifier req.vmID) obj ∨
      obj = cfg.templates.object req.vmID))

/-- the request is not refused, it does not stop the domain for certain, and its target is the disk
of the domain -/
def Endangers (cfg : Config) (d : Domain) : DiskRequest → Prop
  | .revertSnapshot vmID snapshotID => vmID ≠ "" ∧ snapshotID ≠ "" ∧ d.state ≠ .running ∧
    cfg.storageType ≠ .lvm ∧ cfg.storage.object (cfg.storage.diskIdentifier vmID) = d.xml.disk
  | .restoreLVMBackup _ _ => False
  | .reinstallVM req => validateReinstall req = .ok () ∧
    validateUserData cfg.parsers req.cloudInit = .ok () ∧
      validateNetworkConfig cfg.parsers req.cloudInit = .ok () ∧
      (fileAt (cfg.cloudInit.isoPath req.vmID) = d.xml.disk ∨ ReinstallReaches cfg req d.xml.disk)
  | .resizeVM req => validateResize req = .ok () ∧ 0 < req.newDiskGB ∧ d.state ≠ .running ∧
      cfg.PathAllowed req.storageBackend req.vmID req.diskPath ∧
      cfg.storage.Admits (cfg.diskName req.storageBackend req.vmID req.diskPath) ∧
      cfg.storage.object (cfg.diskName req.storageBackend req.vmID req.diskPath) = d.xml.disk
  | .deleteVM req => req.vmID ≠ "" ∧ d.state ≠ .running ∧ d.isPersistent = true ∧
      isStorageBackend (cfg.backendOf req.storageBackend) = true ∧
      cfg.PathAllowed req.storageBackend req.vmID req.diskPath ∧
      cfg.storage.Admits (cfg.diskName req.storageBackend req.vmID req.diskPath) ∧
      cfg.storage.Reaches (cfg.diskName req.storageBackend req.vmID req.diskPath) d.xml.disk

section
variable {b : StorageBackend} {name : String} {p : Cell → Prop}

/-- with LVM, the disk of a VM is never rolled back -/
lemma all_rollback_disk {cfg : Config} {vmID : String} (hp : cfg.storageType ≠ .lvm →
      p (.object (cfg.storage.object (cfg.storage.diskIdentifier vmID)))) (snap : String) :
    (cfg.storage.rollback (cfg.storage.diskIdentifier vmID) snap).All (Only p) := by
  unfold Config.storage at hp ⊢
  cases htype : cfg.storageType with
  | ceph =>
    rw [htype] at hp
    exact RBDManager.all_rollback (hp (by decide)) snap
  | qcow =>
    rw [htype] at hp
    exact QCOWManager.all_rollback (hp (by decide)) snap
  | lvm =>
    obtain ⟨e, he⟩ := diskIdentifier_refused ⟨cfg.lvmVolumeGroup, cfg.lvmThinPool⟩ vmID
    show (LVMManager.rollback _ (LVMManager.diskIdentifier _ vmID) snap).All (Only p)
    unfold LVMManager.rollback
    rw [validating_refused he]
    trivial

lemma reaches_object : b.Reaches name (b.object name) := by
  cases b with
  | ceph m | qcow m => exact rfl
  | lvm m => exact ⟨name, rfl⟩

end

/-! ## the requests that stop a running domain -/

section
variable {cfg : Config} {h : Host}

lemma mapLibvirtState_running {s : DomainState} : mapLibvirtState s = "running" ↔ s = .running := by
  cases s <;> decide

/-- cells that are neither the domain nor the disk of a live one -/
def Aside (name : String) (h : Host) (c : Cell) : Prop :=
  c ≠ .domain name ∧ ∀ disk, h.liveDisk name = some disk → c ≠ .object disk

variable {name vmID : String} {p : Cell → Prop} {req : CreateVMRequest} {α : Type}

lemma guarded_aside {c : Job α} (hall : c.All (Only (Aside name h))) :
    Guarded name (fun _ h' => Unmoved name h h') c h :=
  guarded_only hall (fun hp => hp.1 rfl) fun disk hdisk hp => hp.2 disk hdisk rfl

/-- a live disk is spared, however the run ends -/
abbrev Sparing {α : Type} (name : String) (c : Job α) (h : Host) : Prop :=
  Guarded name (fun _ _ => True) c h

lemma Guarded.andThen {α β : Type} {c : Job α} {R : Except GoError α → Host → Prop} {f : α → Job β}
    (hc : Guarded name R c h) (hok : ∀ a h', R (.ok a) h' → Sparing name (f a) h') :
    Sparing name (c >>= f) h :=
  hc.bind hok fun _ _ _ => trivial

lemma sparing_aside {c : Job α} (hall : c.All (Only (Aside name h))) : Sparing name c h :=
  (guarded_aside hall).mono fun _ _ _ => trivial

lemma aside_object {obj : Obj} (hobj : h.liveDisk name ≠ some obj) :
    Aside name h (.object obj) := by
  refine ⟨fun hc => (by cases hc), ?_⟩
  rintro disk hdisk ⟨⟩
  exact hobj hdisk

lemma aside_log : Aside name h .log := ⟨fun hc => (by cases hc), fun _ _ hc => (by cases hc)⟩

/-- the state of the host where the disk step begins: the domain that was running is stopped -/
lemma guarded_stop_running {stop : Job Unit} {d : Domain}
    (hstop : Guarded name (Stopped name h) stop h) :
    Guarded name (fun r h' => r = .ok () → h'.liveDisk name = none ∨ h' = h ∧ d.state ≠ .running)
      (when (mapLibvirtState d.state = "running") stop) h := by
  unfold when
  by_cases hrun : d.state = .running
  · rw [if_pos (decide_eq_true (mapLibvirtState_running.mpr hrun))]
    exact hstop.mono fun r h' hr hok => .inl (hr.2 hok)
  · rw [if_neg (by simpa using fun hs => hrun (mapLibvirtState_running.mp hs))]
    exact fun _ => .inr ⟨rfl, hrun⟩

/-- a live domain is not endangered -/
def Harmless (cfg : Config) (h : Host) (r : DiskRequest) : Prop :=
  ∀ d, h.domains (domainName r.vmID) = some d → d.qemu = true → ¬ Endangers cfg d r

lemma harmless_disk {r : DiskRequest} (hsafe : Harmless cfg h r) {disk : Obj}
    (hdisk : h.liveDisk (domainName r.vmID) = some disk) {d : Domain}
    (hd : h.domains (domainName r.vmID) = some d) : disk = d.xml.disk ∧ ¬ Endangers cfg d r := by
  obtain ⟨d', hd', hq, rfl⟩ := liveDisk_eq_some hdisk
  rw [hd] at hd'
  cases hd'
  exact ⟨rfl, hsafe d hd hq⟩

lemma guarded_revertSnapshot {snapshotID : String}
    (hsafe : Harmless cfg h (.revertSnapshot vmID snapshotID)) :
    Sparing (domainName vmID) (revertSnapshot cfg vmID snapshotID) h := by
  refine require_cases (P := (Sparing (domainName vmID) · h)) (fun _ => trivial) fun hempty => ?_
  obtain ⟨hvm, hsnap⟩ := not_or.mp hempty
  refine (guarded_getStatus.mapError fun _ _ _ hr => ⟨hr.1, fun s hs => (by cases hs)⟩).andThen ?_
  rintro status h' ⟨rfl, hstatus⟩
  obtain ⟨d, hd, rfl⟩ := hstatus status rfl
  have hstop : Guarded _ _ (internal "stopping VM" (Manager.forceStopVM vmID)) h' :=
    guarded_forceStopVM.internal fun _ _ _ hr => hr.1.failed
  refine (guarded_stop_running hstop).andThen ?_
  intro _ h1 hlive
  refine sparing_aside
    (all_internal (all_rollback_disk (fun hlvm => aside_object fun hdisk => ?_) _))
  rcases hlive rfl with hdead | ⟨rfl, hrun⟩
  · rw [hdead] at hdisk
    cases hdisk
  · obtain ⟨hobj, hnot⟩ := harmless_disk hsafe hdisk hd
    exact hnot ⟨hvm, hsnap, hrun, hlvm, hobj⟩

def NoObject (c : Cell) : Prop := ∀ obj, c ≠ .object obj

lemma noObject_domain (name : String) : NoObject (.domain name) := fun _ hc => by cases hc
lemma noObject_log : NoObject .log := fun _ hc => by cases hc

lemma guarded_noObject {c : Job α} (hall : c.All (Only NoObject)) : Sparing name c h :=
  Each.of_all (K := fun _ => True) hall
    (fun _ hq _ _ _ _ => ⟨not_rewrites hq fun _ _ hp => hp _ rfl, trivial⟩) trivial

lemma guarded_resizeVM {req : ResizeVMRequest} (hsafe : Harmless cfg h (.resizeVM req)) :
    Sparing (domainName req.vmID) (resizeVM cfg req) h := by
  unfold resizeVM
  cases hvalid : validateResize req with
  | error e => trivial
  | ok _ =>
    refine Guarded.andThen (R := fun r h' => h' = h) rfl ?_
    rintro _ _ rfl
    refine (guarded_getStatus.mapError fun _ _ _ hr => ⟨hr.1, fun s hs => (by cases hs)⟩).andThen ?_
    rintro status h' ⟨rfl, hstatus⟩
    obtain ⟨d, hd, rfl⟩ := hstatus status rfl
    have hstop : Guarded _ _ (internal "stopping VM for resize" (Manager.stopVM req.vmID 120)) h' :=
      (guarded_stopVM 120).internal fun _ _ _ hr => hr.1.failed
    refine (guarded_stop_running hstop).andThen ?_
    intro _ h1 hlive
    refine Guarded.andThen (R := fun _ _ => True) ?_ fun _ _ _ => ?_
    · unfold when
      by_cases hsize : 0 < req.newDiskGB
      · rw [if_pos (decide_eq_true hsize)]
        refine sparing_aside (all_resizeDisk fun hpath hadm => aside_object fun hdisk => ?_)
        rcases hlive rfl with hdead | ⟨rfl, hrun⟩
        · rw [hdead] at hdisk
          cases hdisk
        · obtain ⟨hobj, hnot⟩ := harmless_disk hsafe hdisk hd
          exact hnot ⟨hvalid, hsize, hrun, hpath, hadm, hobj⟩
      · rw [if_neg (by simpa using hsize)]
        trivial
    · refine guarded_noObject ?_
      simp [all_resizeDomain (noObject_domain _), Manager.all_startVM (noObject_domain _)]

lemma guarded_deleteVM_request {req : DeleteVMRequest} (hsafe : Harmless cfg h (.deleteVM req)) :
    Sparing (domainName req.vmID) (deleteVM cfg req) h := by
  unfold deleteVM undefineVM
  by_cases hvm : req.vmID = ""
  · rw [require_true (decide_eq_true hvm)]
    trivial
  · rw [require_false (decide_eq_false hvm), require_false (decide_eq_false hvm)]
    refine Guarded.andThen (R := fun r h' => r = .ok () → h'.liveDisk (domainName req.vmID) = none ∨
      (Calmed (domainName req.vmID) h h' ∧ ∃ d, h.domains (domainName req.vmID) = some d ∧
        d.state ≠ .running ∧ d.isPersistent = true)) ?_ ?_
    · refine guarded_deleteVM.attempt fun r h' hr => ?_
      cases r with
      | ok _ =>
        intro _
        rcases hr.ok rfl with hdead | hd
        · exact .inl hdead
        · exact .inr ⟨hr.calmed, hd⟩
      | error e =>
        unfold domainDeleted
        dsimp only
        by_cases hnot : e.is .notFound = true
        · rw [if_pos hnot]
          exact fun _ => .inl (hr.notFound e rfl hnot)
        · rw [if_neg hnot]
          exact fun hs => (by cases hs)
    · intro _ h1 hlive
      refine sparing_aside (all_deleteDiskOf fun hback hpath hadm obj hreach =>
        aside_object fun hdisk => ?_)
      rcases hlive rfl with hdead | ⟨hcalm, d, hd, hrun, hpers⟩
      · rw [hdead] at hdisk
        cases hdisk
      · rcases hcalm.live with hl | hl
        · rw [hl] at hdisk
          cases hdisk
        · rw [hl] at hdisk
          obtain ⟨rfl, hnot⟩ := harmless_disk hsafe hdisk hd
          exact hnot ⟨hvm, hrun, hpers, hback, hpath, hadm, hreach⟩

/-- with LVM too the identifier of a disk is refused -/
lemma guarded_restoreLVMBackup {path : String} :
    Sparing (domainName vmID) (restoreLVMBackup cfg vmID path) h := by
  refine guarded_noObject ?_
  unfold restoreLVMBackup requireLVM Config.storage
  cases htype : cfg.storageType with
  | ceph | qcow => simp [requireStopped, Manager.all_getStatus]
  | lvm =>
    obtain ⟨e, he⟩ := diskIdentifier_refused ⟨cfg.lvmVolumeGroup, cfg.lvmThinPool⟩ vmID
    simp [requireStopped, requireImage, LVMManager.imageExists, StorageBackend.diskIdentifier, he,
      Manager.all_getStatus]

/-! ## reinstalling -/

lemma all_reinstallDisk (hlog : p .log) (hp : ∀ obj, ReinstallReaches cfg req obj → p (.object obj))
    (hlvm : ¬ (cfg.storageType = .lvm ∧ cfg.backendOf req.storageBackend = storageBackendLVM)) :
    (reinstallDisk cfg req).All (Only p) := by
  unfold reinstallDisk
  by_cases hqcow : cfg.backendOf req.storageBackend = storageBackendQcow
  · rw [if_pos hqcow]
    refine require_cases (P := All (Only p)) (fun _ => trivial) fun hempty => ?_
    refine checkPath_cases (P := All (Only p)) (fun _ => trivial) fun hpath => ?_
    have hreach : ∀ obj, cfg.storageType = .qcow →
      (obj = cfg.storage.object (cfg.defaultDiskPath req.vmID) ∨
        obj = cfg.templates.object req.vmID) → p (.object obj) := fun obj htype hobj =>
      hp obj (.inl ⟨hqcow, hempty, hpath, htype, hobj⟩)
    unfold requireQCOWTemplates
    cases htype : cfg.storageType with
    | ceph =>
      rw [templates_ceph htype]
      trivial
    | lvm =>
      rw [templates_lvm htype]
      trivial
    | qcow =>
      rw [templates_qcow htype, storage_qcow htype] at hreach
      rw [templates_qcow htype, storage_qcow htype]
      simp [deleteAndCloneQCOW, cloneQCOW, templates_qcow htype, storage_qcow htype,
        StorageBackend.getImageSize, StorageBackend.delete,
        QCOWManager.getImageSize, QCOWManager.all_delete (hreach _ htype (.inl rfl)),
        QCOWTemplateManager.all_cloneForVM (hreach _ htype (.inr rfl)) hlog]
  rw [if_neg hqcow]
  by_cases hceph : cfg.backendOf req.storageBackend = storageBackendCeph
  · rw [if_pos hceph]
    refine require_cases (P := All (Only p)) (fun _ => trivial) fun hempty => ?_
    obtain ⟨himage, hsnap⟩ := not_or.mp hempty
    have hreach : cfg.storage.Admits (vmDiskName req.vmID) →
      ∀ obj, cfg.storage.Reaches (vmDiskName req.vmID) obj → p (.object obj) :=
        fun hadm obj hobj => hp obj (.inr (.inl ⟨hceph, himage, hsnap, hadm, hobj⟩))
    simp [StorageBackend.all_delete hreach, StorageBackend.all_cloneFromTemplate fun hadm =>
      hreach hadm _ reaches_object]
  rw [if_neg hceph]
  refine All.ite (fun hback => ?_) fun _ => trivial
  have htype : cfg.storageType ≠ .lvm := fun h => hlvm ⟨h, hback⟩
  refine require_cases (P := All (Only p)) (fun _ => trivial) fun hempty => ?_
  have hreach : ∀ obj, (cfg.storage.Reaches (cfg.storage.diskIdentifier req.vmID) obj ∨
      obj = cfg.templates.object req.vmID) → p (.object obj) := fun obj hobj =>
    hp obj (.inr (.inr ⟨hback, hempty, htype, hobj⟩))
  simp [deleteAndCloneLVM, StorageBackend.all_getImageSize,
    StorageBackend.all_delete fun _ obj hobj => hreach obj (.inl hobj),
    TemplateBackend.all_cloneForVM (hreach _ (.inr rfl)) hlog]

/-- a thin snapshot is not made over a volume that is there -/
lemma guarded_cloneForVM_lvm {m : LVMTemplateManager} {templateRef : String} {sizeGB : Int}
    (hthere : ∀ disk, h.liveDisk name = some disk → (h.objects disk).isSome = true) :
    Sparing name (m.cloneForVM templateRef vmID sizeGB) h := by
  by_cases htarget : h.liveDisk name = some (.device (m.vmDiskPath vmID))
  · have hexec :
      ∀ x, ∃ err, exec (.lvcreate (m.lvPath (LVMTemplateManager.templateLVName templateRef))
        (m.vmDiskPath vmID)) x x h = .error err := by
      intro x
      simp only [exec, Host.withObject, Host.clone, if_pos (hthere _ htarget)]
      split
      · exact ⟨_, rfl⟩
      · exact ⟨_, rfl⟩
    refine (guarded_reads (all_wrapping (all_lift _))).andThen ?_
    rintro _ _ rfl
    refine (guarded_reads (all_wrapping (all_lift _))).andThen ?_
    rintro _ _ rfl
    refine Guarded.andThen (R := fun r _ => ∃ e, r = .error e) ?_ fun _ _ hr => ?_
    · refine Guarded.attempt_error (f := withContext _)
        (guarded_stmt (fun e => ?_) (fun x a ws hx => ?_)
        fun e => ⟨_, rfl⟩) (fun _ _ _ _ => ⟨_, rfl⟩) (fun _ => rfl) fun _ => ⟨_, rfl⟩
      · rintro ⟨disk, _, w, hw, _⟩
        cases e with
        | fail text => cases hw
        | ok x =>
          obtain ⟨err, hx⟩ := hexec x
          simp only [Store.answer, store, hx] at hw
          cases hw
      · obtain ⟨err, hx'⟩ := hexec x
        cases hx'.symm.trans hx
    · obtain ⟨e, he⟩ := hr
      cases he
  · exact sparing_aside (m.all_cloneForVM (aside_object htarget) aside_log _ _)

lemma guarded_reinstallDisk_lvm (htype : cfg.storageType = .lvm)
    (hback : cfg.backendOf req.storageBackend = storageBackendLVM)
    (hthere : ∀ disk, h.liveDisk name = some disk → (h.objects disk).isSome = true) :
    Sparing name (reinstallDisk cfg req) h := by
  obtain ⟨e, he⟩ := diskIdentifier_refused ⟨cfg.lvmVolumeGroup, cfg.lvmThinPool⟩ req.vmID
  have hstor := storage_lvm htype
  unfold reinstallDisk
  rw [hback, if_neg (by decide), if_neg (by decide), if_pos rfl]
  refine require_cases (P := (Sparing name · h)) (fun _ => trivial) fun _ => ?_
  rw [hstor]
  refine Guarded.attempt (R := fun _ h' => h' = h) ?_ ?_
  · show Guarded name _ (LVMManager.getImageSize _ (LVMManager.diskIdentifier _ req.vmID)) h
    unfold LVMManager.getImageSize
    rw [validating_refused he]
    exact rfl
  · intro size h' hsame
    rw [hsame]
    unfold deleteAndCloneLVM
    rw [hstor, templates_lvm htype]
    refine Guarded.andThen (R := fun _ h' => h' = h) ?_ ?_
    · show Guarded name _ (logged (LVMManager.delete _ (LVMManager.diskIdentifier _ req.vmID))) h
      unfold LVMManager.delete
      rw [validating_refused he]
      exact rfl
    · intro _ h1 hsame1
      rw [hsame1]
      exact (guarded_cloneForVM_lvm hthere).internal fun _ _ _ _ => trivial

lemma guarded_reinstallVM (hsafe : Harmless cfg h (.reinstallVM req))
    (hthere : ∀ disk, h.liveDisk (domainName req.vmID) = some disk →
      (h.objects disk).isSome = true) : Sparing (domainName req.vmID) (reinstallVM cfg req) h := by
  unfold reinstallVM
  cases hvalid : validateReinstall req with
  | error e => trivial
  | ok _ =>
    refine Guarded.andThen (R := fun r h' => h' = h) rfl ?_
    intro _ h' hsame
    rw [hsame]
    by_cases hci : validateUserData cfg.parsers req.cloudInit = .ok () ∧
        validateNetworkConfig cfg.parsers req.cloudInit = .ok ()
    swap
    · -- the checks of cloud-init come before anything is written
      refine guarded_noObject (All.bind_of ?_ fun path hpath => ?_)
      · refine all_internal
          (all_wrapping (CloudInitGenerator.all_generate_valid fun huser hnet => ?_))
        exact absurd ⟨huser, hnet⟩ hci
      · exact absurd
          (CloudInitGenerator.generate_returns (returns_wrapping (returns_internal hpath))) hci
    have hnot : ∀ disk, h.liveDisk (domainName req.vmID) = some disk →
        fileAt (cfg.cloudInit.isoPath req.vmID) ≠ disk ∧ ¬ ReinstallReaches cfg req disk := by
      intro disk hdisk
      obtain ⟨d, hd, hq, rfl⟩ := liveDisk_eq_some hdisk
      have hend := hsafe d hd hq
      exact ⟨fun hiso => hend ⟨hvalid, hci.1, hci.2, .inl hiso⟩, fun hr =>
        hend ⟨hvalid, hci.1, hci.2, .inr hr⟩⟩
    have hiso : Aside (domainName req.vmID) h
      (.object (fileAt (cfg.cloudInit.isoPath req.cloudInit.vmID))) :=
      aside_object fun hdisk => (hnot _ hdisk).1 rfl
    refine (guarded_aside (all_generateCloudInitISO hiso aside_log)).andThen ?_
    intro path h1 hun
    have hcalm : (logged (Manager.forceStopVM req.vmID)).All (Calm (domainName req.vmID)) :=
      all_logged (Manager.sends_forceStopVM calm_read (.inr (.inl rfl)))
    refine (guarded_calm hcalm).andThen ?_
    intro _ h2 hcalmed
    -- the domain has ended, or it is alive on the same disk
    have hlive : ∀ disk, h2.liveDisk (domainName req.vmID) = some disk →
        h.liveDisk (domainName req.vmID) = some disk ∧ h2.objects disk = h.objects disk := by
      intro disk hdisk
      rcases hcalmed.live with hl | hl
      · rw [hl] at hdisk
        cases hdisk
      · rw [hl, hun.live] at hdisk
        refine ⟨hdisk, ?_⟩
        rw [hcalmed.objects]
        exact hun.disk disk hdisk
    refine Guarded.andThen (R := fun _ _ => True) ?_ fun diskPath h3 _ => ?_
    · by_cases hlvm : cfg.storageType = .lvm ∧ cfg.backendOf req.storageBackend = storageBackendLVM
      · refine guarded_reinstallDisk_lvm hlvm.1 hlvm.2 fun disk hdisk => ?_
        rw [(hlive disk hdisk).2]
        exact hthere disk (hlive disk hdisk).1
      · refine sparing_aside
          (all_reinstallDisk aside_log (fun obj hobj => aside_object fun hdisk => ?_) hlvm)
        exact (hnot obj (hlive obj hdisk).1).2 hobj
    · refine guarded_noObject ?_
      simp [Manager.all_deleteVM (noObject_domain _),
        Manager.all_createVM (noObject_domain _) noObject_log]

/-- **A request that does not endanger a live domain spares its disk.** -/
theorem spares_of_not_endangers {r : DiskRequest} {dom : Option Domain}
    (hsafe : ∀ d, dom = some d → d.qemu = true → ¬ Endangers cfg d r) : Spares cfg r dom := by
  intro h hdom hthere
  have hharm : Harmless cfg h r := fun d hd hq => hsafe d (hdom.symm.trans hd) hq
  refine not_not_intro ?_
  cases r with
  | revertSnapshot vmID snapshotID => exact guarded_revertSnapshot hharm
  | restoreLVMBackup vmID path => exact guarded_restoreLVMBackup
  | reinstallVM req => exact (guarded_reinstallVM hharm hthere).andThen fun _ _ _ => trivial
  | resizeVM req => exact guarded_resizeVM hharm
  | deleteVM req => exact guarded_deleteVM_request hharm

end

end VirtueStack.Agent
