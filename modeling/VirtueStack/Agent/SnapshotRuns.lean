import VirtueStack.Agent.Runs
import VirtueStack.Agent.SnapshotCells
import VirtueStack.Txn.Run

/-!
# Snapshots: when one is made

* `each_createSnapshot`, `can_createSnapshot` without that, no run writes anything; with it, some
  run makes the snapshot and leaves it behind.

A logical volume that is there already is taken for the snapshot.
-/

namespace VirtueStack.Agent
open Txn StorageBackend Call Job Host List

/-- an object that was not there, or a snapshot of one that has more than it had -/
def LeftBehind (h h' : Host) : Prop :=
  ∃ obj im', h'.objects obj = some im' ∧ ∀ im, h.objects obj = some im →
    ¬ im'.snaps.Subperm im.snaps

def StorageBackend.Snapshots (h : Host) (name snap : String) : StorageBackend → Prop
  | .ceph m => ∃ im, h.objects (.image m.pool name) = some im ∧ im.snap snap = none
  | .qcow m => ∃ im, h.objects (fileAt (m.imagePath name)) = some im
  | .lvm m => LVMManager.validateLVIdentifier name = .ok () ∧
    LVMManager.validateLVIdentifier snap = .ok () ∧
      (∃ im, h.objects (.device (m.lvPath name)) = some im) ∧
        h.objects (.device (m.lvPath snap)) = none

lemma leftBehind_snap {h : Host} {obj : Obj} {im : Image} {s : Snap}
    (him : h.objects obj = some im) :
    LeftBehind h (store.view h [.object obj (some { im with snaps := im.snaps ++ [s] })]) := by
  refine ⟨obj, _, objects_put obj _, fun im' him' hsub => ?_⟩
  rw [him] at him'
  cases him'
  have hlen := hsub.length_le
  simp only [length_append, length_singleton] at hlen
  omega

/-! ## no run writes -/

section
variable {A : Cmd → Event store → Host → Prop} {α : Type} {h : Host}

variable {q : Cmd} {context : String} {c : Job α} {β : Type}

lemma silent_read (hq : q.cells = []) (e : Event store) (h : Host) : Silent q e h :=
  answer_read hq e h

lemma silent_of_error (hq : ∀ x, ∃ err, exec q x x h = .error err) (e : Event store) :
    Silent q e h ∧ ∃ err, (store.answer q h e).1 = .error err := by
  cases e with
  | fail text => exact ⟨rfl, _, rfl⟩
  | ok x =>
    obtain ⟨err, herr⟩ := hq x
    simp only [Silent, Store.answer, herr]
    exact ⟨trivial, err, rfl⟩

def Refused (r : Except GoError α) (_ : Host) : Prop := ∃ e, r = .error e

lemma refused_cmd (hq : ∀ x, ∃ err, exec q x x h = .error err) :
    (cmd context q).Each A Silent Refused h := by
  refine each_stmt.mpr fun e _ => ?_
  obtain ⟨hs, err, herr⟩ := silent_of_error hq e
  refine ⟨hs, ?_⟩
  rw [herr]
  exact ⟨_, rfl⟩

lemma refused_bind {f : α → Job β} (hc : c.Each A Silent Refused h) :
    (c >>= f).Each A Silent Refused h := by
  refine hc.bind (fun a h' hr => ?_) fun e h' _ => ⟨e, rfl⟩
  obtain ⟨e, he⟩ := hr
  cases he

lemma refused_attempt {f : Except GoError α → Job α} (hf : ∀ e, ∃ e', f (.error e) = fail e')
    (hc : c.Each A Silent Refused h) : (c.attempt f).Each A Silent Refused h := by
  refine Each.attempt hc fun r h' hr => ?_
  obtain ⟨e, rfl⟩ := hr
  obtain ⟨e', he⟩ := hf e
  rw [he]
  exact ⟨_, rfl⟩

lemma kept_reads (hc : c.All (Only fun _ => False)) :
    c.Each A Silent (Call.Kept h fun _ => True) h := by
  have hcells : ∀ q : Cmd, Only (fun _ => False) q → q.cells = [] :=
    fun q hq => eq_nil_iff_forall_not_mem.mpr hq
  refine (Each.of_all (K := fun h' => h' = h) hc
    (fun q hq e h' _ hh => ⟨silent_read (hcells q hq) e h', ?_⟩)
    rfl).mono fun r h' hr => ⟨hr, fun _ _ => trivial⟩
  rw [answer_read (hcells q hq)]
  exact hh

lemma reads_bind {f : α → Job β} {Q : Except GoError β → Host → Prop}
    (hc : c.All (Only fun _ => False)) (hf : ∀ a, (f a).Each A Silent Q h)
    (herr : ∀ e, Q (.error e) h) :
    (c >>= f).Each A Silent Q h := (kept_reads hc).kept_bind (fun a _ => hf a) herr

lemma Host.withObject_none {obj : Obj} {f : Image → Effect α} (hobj : h.objects obj = none) :
    h.withObject obj f = .error (missing obj) := by
  unfold withObject
  rw [hobj]

variable {name snap : String}

lemma RBDManager.refused_createSnapshot {m : RBDManager} (hno : ¬ (ceph m).Snapshots h name snap) :
    (m.createSnapshot name snap).Each A Silent Refused h := by
  refine reads_bind (by simp) (fun _ => ?_) fun e => ⟨e, rfl⟩
  cases him : h.objects (.image m.pool name) with
  | none => exact refused_bind (refused_cmd fun x => ⟨_, withObject_none him⟩)
  | some im =>
    refine reads_bind (by simp) (fun _ => refused_cmd fun x => ?_) fun e => ⟨e, rfl⟩
    have hsnap : (im.snap snap).isSome = true := by
      cases hs : im.snap snap with
      | none => exact absurd ⟨im, him, hs⟩ hno
      | some s => rfl
    refine ⟨_, (withObject_some him).trans (if_pos hsnap)⟩

lemma QCOWManager.refused_createSnapshot {m : QCOWManager}
    (hno : ¬ (qcow m).Snapshots h name snap) :
    (m.createSnapshot name snap).Each A Silent Refused h := by
  have him : h.objects (fileAt (m.imagePath name)) = none := by
    cases him : h.objects (fileAt (m.imagePath name)) with
    | none => rfl
    | some im => exact absurd ⟨im, him⟩ hno
  refine refused_bind fun e _ => ?_
  obtain ⟨hs, err, herr⟩ :=
    silent_of_error (q := .stat (m.imagePath name)) (fun x => ⟨_, withObject_none him⟩) e
  refine ⟨hs, ?_⟩
  rw [herr]
  cases err with
  | notExist | _ => exact ⟨_, rfl⟩

lemma LVMManager.silent_lvcreate {m : LVMManager}
    (hno : ∀ im, h.objects (.device (m.lvPath name)) = some im →
      h.objects (.device (m.lvPath snap)) ≠ none) :
    (lvm context (.lvcreate (m.lvPath name) (m.lvPath snap))).Each A Silent Refused h := by
  refine refused_attempt (fun _ => ⟨_, rfl⟩) (refused_cmd fun x => ?_)
  cases him : h.objects (.device (m.lvPath name)) with
  | none => exact ⟨_, withObject_none him⟩
  | some im =>
    have hsome : (h.objects (.device (m.lvPath snap))).isSome = true :=
      Option.isSome_iff_ne_none.mpr (hno im him)
    exact ⟨_, (withObject_some him).trans (if_pos hsome)⟩

/-- a volume of the name of the snapshot is a success too, if the disk has a name that a volume can
have -/
lemma LVMManager.each_createSnapshot {m : LVMManager}
    (hno : ¬ (StorageBackend.lvm m).Snapshots h name snap) :
    (m.createSnapshot name snap).Each A Silent
      (fun r h' => Refused r h' ∨ validateLVIdentifier name = .ok ()) h := by
  unfold createSnapshot
  cases hname : validateLVIdentifier name with
  | error e =>
    rw [validating_refused hname]
    exact .inl ⟨_, rfl⟩
  | ok u =>
    refine reads_bind (by simp) (fun _ => ?_) fun e => .inr rfl
    cases hsnap : validateLVIdentifier snap with
    | error e =>
      rw [validating_refused hsnap]
      exact .inl ⟨_, rfl⟩
    | ok u =>
      refine reads_bind (by simp) (fun _ => ?_) fun e => .inr rfl
      refine reads_bind (all_wrapping (all_imageExists snap)) (fun found => ?_) fun e => .inr rfl
      cases found with
      | true => exact .inr rfl
      | false =>
        refine (silent_lvcreate fun im him hnone => ?_).mono fun r h' hr => .inl hr
        exact hno ⟨hname, hsnap, ⟨im, him⟩, hnone⟩

/-- what a backend answers that cannot make the snapshot -/
def StorageBackend.Answers (b : StorageBackend) (name : String) (r : Except GoError Unit)
    (h : Host) : Prop :=
  Refused r h ∨ ∃ m, b = .lvm m ∧ LVMManager.validateLVIdentifier name = .ok ()

/-- **A backend that cannot make the snapshot writes nothing.** -/
theorem StorageBackend.each_createSnapshot {b : StorageBackend} (hno : ¬ b.Snapshots h name snap) :
    (b.createSnapshot name snap).Each A Silent (b.Answers name) h := by
  cases b with
  | ceph m => exact (RBDManager.refused_createSnapshot hno).mono fun r h' hr => .inl hr
  | qcow m => exact (QCOWManager.refused_createSnapshot hno).mono fun r h' hr => .inl hr
  | lvm m =>
    refine (LVMManager.each_createSnapshot hno).mono fun r h' hr => ?_
    exact hr.imp id fun hname => ⟨m, rfl, hname⟩

end

/-! ## some run makes it -/

/-- some run of the call ends with the value and leaves that host -/
abbrev Can {α : Type} (c : Job α) (h : Host) (r : Except GoError α) (h' : Host) : Prop :=
  Call.Can (fun _ => True) c h r h'

section
variable {h : Host} {name snap : String} {α : Type}

variable {context : String}

lemma can_cmd {q : Cmd} {a : q.Ans} {ws : List Write} (x : Inp)
    (hx : exec q x x h = .ok (a, ws)) : Can (cmd context q) h (.ok a) (store.view h ws) :=
  can_stmt_ok hx trivial

lemma can_read {q : Cmd} {a : q.Ans} (hx : exec q quiet quiet h = .ok (a, [])) :
    Can (cmd context q) h (.ok a) h := can_cmd quiet hx

section
variable {c : Job α} {a : α} {h' : Host} (hc : Can c h (.ok a) h')
include hc

lemma can_wrapping : Can (wrapping context c) h (.ok a) h' := hc.attempt (can_ret _)

lemma can_internal : Can (internal context c) h (.ok a) h' := hc.attempt (can_ret _)

end

lemma RBDManager.can_createSnapshot {m : RBDManager} (hs : (ceph m).Snapshots h name snap) :
    ∃ h', Can (m.createSnapshot name snap) h (.ok ()) h' ∧ LeftBehind h h' := by
  obtain ⟨im, him, hnone⟩ := hs
  refine ⟨_, ?_, leftBehind_snap (s := ⟨snap, im.content, false⟩) him⟩
  have hopen : Can (cmd ("opening image " ++ name ++ " for snapshot") (.openImage m.pool name))
    h (.ok ()) h :=
    can_read (withObject_some him)
  refine (can_wrapping (can_read rfl)).bind (hopen.bind ?_)
  refine can_cmd quiet ((withObject_some him).trans (if_neg ?_))
  rw [hnone]
  exact Bool.false_ne_true

lemma QCOWManager.can_verifyImage {m : QCOWManager} {im : Image}
    (him : h.objects (fileAt (m.imagePath name)) = some im) :
    Can (m.verifyImage name) h (.ok ()) h := by
  refine can_req (.ok quiet) trivial ?_
  rw [Store.answer_of_ok (withObject_some him)]
  exact can_ret _

lemma QCOWManager.can_createSnapshot {m : QCOWManager} (hs : (qcow m).Snapshots h name snap) :
    ∃ h', Can (m.createSnapshot name snap) h (.ok ()) h' ∧ LeftBehind h h' := by
  obtain ⟨im, him⟩ := hs
  refine ⟨_, ?_, leftBehind_snap (s := ⟨snap, im.content, false⟩) him⟩
  exact (can_verifyImage him).bind (can_wrapping (can_cmd quiet (withObject_some him)))

lemma LVMManager.can_validating {what id : String} (hid : validateLVIdentifier id = .ok ()) :
    Can (validating what id) h (.ok ()) h := by
  unfold validating
  rw [hid]
  exact can_ret _

lemma LVMManager.can_createSnapshot {m : LVMManager}
    (hs : (StorageBackend.lvm m).Snapshots h name snap) :
    ∃ h', Can (m.createSnapshot name snap) h (.ok ()) h' ∧ LeftBehind h h' := by
  obtain ⟨hname, hsnap, ⟨im, him⟩, hnone⟩ := hs
  refine ⟨_, ?_, _, im.copy im.content (some (m.lvPath name)), objects_put (h := h) _ _,
    fun im' him' => by cases hnone.symm.trans him'⟩
  have hmissing : Can (m.imageExists snap) h (.ok false) h := by
    refine (can_validating hsnap).bind (can_req (.ok quiet) trivial ?_)
    simp only [Store.answer, exec, withObject_none hnone]
    exact can_ret _
  refine (can_validating hname).bind ((can_validating hsnap).bind ((can_wrapping hmissing).bind ?_))
  refine can_wrapping (can_cmd quiet ((withObject_some him).trans (if_neg ?_)))
  rw [hnone]
  exact Bool.false_ne_true

/-- **A backend that can make the snapshot makes it in some run.** -/
theorem StorageBackend.can_createSnapshot {b : StorageBackend} (hs : b.Snapshots h name snap) :
    ∃ h', Can (b.createSnapshot name snap) h (.ok ()) h' ∧ LeftBehind h h' := by
  cases b with
  | ceph m => exact RBDManager.can_createSnapshot hs
  | qcow m => exact QCOWManager.can_createSnapshot hs
  | lvm m => exact LVMManager.can_createSnapshot hs

end

/-! ## the requests -/

section
variable {A : Cmd → Event store → Host → Prop} {cfg : Config} {vmID name : String} {h : Host}

def snapNameOf (uuid : String) : String := "snap-" ++ shortUUID uuid

lemma refused_of_answers {r : Except GoError Unit}
    (hr : cfg.storage.Answers (cfg.storage.diskIdentifier vmID) r h) : Refused r h := by
  rcases hr with hr | ⟨m, hm, hid⟩
  · exact hr
  · rw [hm] at hid
    obtain ⟨e, he⟩ := LVMManager.diskIdentifier_refused m vmID
    have hid : LVMManager.validateLVIdentifier (m.diskIdentifier vmID) = .ok () := hid
    rw [he] at hid
    cases hid

lemma refused_createSnapshot (hno : vmID ≠ "" → ∀ uuid,
      ¬ cfg.storage.Snapshots h (cfg.storage.diskIdentifier vmID) (snapNameOf uuid)) :
    (createSnapshot cfg vmID name).Each A Silent Refused h := by
  unfold createSnapshot
  by_cases hvm : vmID = ""
  · rw [require_true (decide_eq_true hvm)]
    exact ⟨_, rfl⟩
  · rw [require_false (decide_eq_false hvm)]
    refine reads_bind all_require (fun _ => ?_) fun e => ⟨e, rfl⟩
    refine reads_bind (by simp) (fun uuid => ?_) fun e => ⟨e, rfl⟩
    refine refused_bind (refused_attempt (fun _ => ⟨_, rfl⟩) ?_)
    exact (each_createSnapshot (hno hvm uuid)).mono fun r h' hr => refused_of_answers hr

lemma can_createSnapshot {uuid : String} (hvm : vmID ≠ "") (hname : name ≠ "")
    (hs : cfg.storage.Snapshots h (cfg.storage.diskIdentifier vmID) (snapNameOf uuid)) :
    ∃ snap h', Can (createSnapshot cfg vmID name) h (.ok snap) h' ∧ LeftBehind h h' := by
  obtain ⟨h', hcan, hleft⟩ := StorageBackend.can_createSnapshot hs
  -- the size does not matter, and the answer may have any
  have hall : (cfg.storage.getImageSize (cfg.storage.diskIdentifier vmID)).All
    (Only fun _ => True) :=
    all_getImageSize
  obtain ⟨r, hr⟩ : ∃ r, Can (cfg.storage.getImageSize (cfg.storage.diskIdentifier vmID)) h' r h' :=
    can_failing "" hall fun _ _ _ => trivial
  have hsize :
    ∃ size, Can (attempt (cfg.storage.getImageSize (cfg.storage.diskIdentifier vmID)) sizeOrZero)
      h' (.ok size) h' := by
    cases r with
    | ok size => exact ⟨size, hr.attempt (can_ret _)⟩
    | error e => exact ⟨0, hr.attempt (can_ret _)⟩
  obtain ⟨size, hsize⟩ := hsize
  refine ⟨⟨vmID, name, snapNameOf uuid, size⟩, h', ?_, hleft⟩
  unfold createSnapshot
  rw [require_false (decide_eq_false hvm), require_false (decide_eq_false hname)]
  have huuid : Can (rawCmd .newUUID) h (.ok uuid) (store.view h []) :=
    can_stmt_ok (x := { quiet with text := uuid }) rfl trivial
  exact huuid.bind ((can_internal hcan).bind (hsize.bind (can_ret _)))

variable {req : DiskSnapshotRequest}

def DiskSnapshotRequest.Accepted (req : DiskSnapshotRequest) (cfg : Config) : Prop :=
  req.vmID ≠ "" ∧ req.snapshotName ≠ "" ∧ validatePath (req.path cfg) cfg.storagePath = .ok ()

lemma each_createDiskSnapshot (hqcow : req.storageBackend = storageBackendQcow)
    (hno : req.Accepted cfg → ¬ cfg.storage.Snapshots h (req.path cfg) req.snapshotName) :
    (createDiskSnapshot cfg req).Each A Silent (cfg.storage.Answers (req.path cfg)) h := by
  have hbackend : cfg.backendOf req.storageBackend = storageBackendQcow := by
    rw [hqcow]
    exact if_neg (by decide)
  unfold createDiskSnapshot
  rw [hbackend]
  let P (c : Job Unit) : Prop := c.Each A Silent (cfg.storage.Answers (req.path cfg)) h
  refine require_cases (P := P) (fun e => .inl ⟨e, rfl⟩) fun hvm => ?_
  refine require_cases (P := P) (fun e => .inl ⟨e, rfl⟩) fun hname => ?_
  dsimp only
  rw [if_pos rfl]
  refine checkPath_cases (P := P) (fun e => .inl ⟨e, rfl⟩) fun hpath => ?_
  refine Each.attempt (each_createSnapshot (hno ⟨hvm, hname, hpath⟩)) fun r h' hr => ?_
  cases r with
  | ok a => exact hr
  | error e => exact .inl ⟨_, rfl⟩

lemma can_createDiskSnapshot (hqcow : req.storageBackend = storageBackendQcow)
    (hacc : req.Accepted cfg) (hs : cfg.storage.Snapshots h (req.path cfg) req.snapshotName) :
    ∃ h', Can (createDiskSnapshot cfg req) h (.ok ()) h' ∧ LeftBehind h h' := by
  obtain ⟨hvm, hname, hpath⟩ := hacc
  obtain ⟨h', hcan, hleft⟩ := StorageBackend.can_createSnapshot hs
  have hbackend : cfg.backendOf req.storageBackend = storageBackendQcow := by
    rw [hqcow]
    exact if_neg (by decide)
  refine ⟨h', ?_, hleft⟩
  unfold createDiskSnapshot
  rw [hbackend, require_false (decide_eq_false hvm), require_false (decide_eq_false hname)]
  dsimp only
  rw [if_pos rfl, checkPath_ok hpath]
  exact can_internal hcan

def Cmd.RemovesVolume (q : Cmd) : Prop := ∃ path, q = .lvremove path

lemma all_deleteDiskSnapshot_lvm {m : LVMManager} (hm : cfg.storage = .lvm m) :
    (deleteDiskSnapshot cfg req).All Cmd.RemovesVolume := by
  have hdel : ∀ name snap, (cfg.storage.deleteSnapshot name snap).All Cmd.RemovesVolume := by
    intro name snap
    rw [hm]
    simp [StorageBackend.deleteSnapshot, LVMManager.deleteSnapshot, Cmd.RemovesVolume]
  simp [deleteDiskSnapshot, hdel]

lemma createDiskSnapshot_lvm (hlvm : req.storageBackend = "lvm") :
    (createDiskSnapshot cfg req).Each A Silent Refused h := by
  unfold createDiskSnapshot
  refine reads_bind all_require (fun _ => ?_) fun e => ⟨e, rfl⟩
  refine reads_bind all_require (fun _ => ?_) fun e => ⟨e, rfl⟩
  have hbackend : cfg.backendOf req.storageBackend = "lvm" := by
    rw [hlvm]
    exact if_neg (by decide)
  rw [hbackend]
  exact ⟨_, rfl⟩

end

end VirtueStack.Agent
