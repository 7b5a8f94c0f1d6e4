import VirtueStack.Agent.Handlers
import VirtueStack.Txn.Walk

/-!
# What the commands of an agent can change

* `Cell` a domain, a storage object or the log;
* `Cmd.cells` the cells a command can write to, whatever it finds;
* `Only p q` the command `q` writes to cells in `p` alone.
-/

namespace VirtueStack.Agent
open Txn Call Job Store

inductive Cell where
  | domain (name : String)
  | object (obj : Obj)
  | log
  deriving DecidableEq

def Write.cell : Write → Cell
  | .domain name _ => .domain name
  | .object obj _ => .object obj
  | .warning _ => .log

def Cmd.cells : Cmd → List Cell
  | .defineXML xml => [.domain xml.name]
  | .createDomain name => [.domain name]
  | .destroyDomain name => [.domain name]
  | .undefineDomain name => [.domain name]
  | .setVcpus name _ => [.domain name]
  | .setMemory name _ => [.domain name]
  | .tick name => [.domain name]
  | .genisoimage path => [.object (fileAt path)]
  | .removeFile path => [.object (fileAt path)]
  | .qemuCreate _ path => [.object (fileAt path)]
  | .qemuResize path _ => [.object (fileAt path)]
  | .qemuSnapshotCreate path _ => [.object (fileAt path)]
  | .qemuSnapshotDelete path _ => [.object (fileAt path)]
  | .qemuSnapshotApply path _ => [.object (fileAt path)]
  | .unprotect pool name _ => [.object (.image pool name)]
  | .removeSnapshot pool name _ => [.object (.image pool name)]
  | .removeImage pool name => [.object (.image pool name)]
  | .createSnapshot pool name _ => [.object (.image pool name)]
  | .rollback pool name _ => [.object (.image pool name)]
  | .resizeImage pool name _ => [.object (.image pool name)]
  | .cloneImage _ _ _ pool name => [.object (.image pool name)]
  | .lvremove path => [.object (.device path)]
  | .lvcreate _ path => [.object (.device path)]
  | .lvresize path _ => [.object (.device path)]
  | .lvrename path target => [.object (.device path), .object (.device target)]
  | .dd _ target => [.object target]
  | .warn _ => [.log]
  | _ => []

/-! ## a command writes to its cells -/

namespace Host
variable {α : Type} {cells : List Cell} {h : Host}

/-- what is written, if anything is, is written to `cells` -/
def Effect.On (cells : List Cell) (e : Effect α) : Prop :=
  ∀ a ws, e = .ok (a, ws) → ∀ w ∈ ws, w.cell ∈ cells

@[simp] lemma on_error (e : Err) : Effect.On cells (.error e : Effect α) :=
  fun _ _ he => by cases he

@[simp] lemma on_ok (a : α) (ws : List Write) : Effect.On cells (.ok (a, ws)) ↔
    ∀ w ∈ ws, w.cell ∈ cells := by
  refine ⟨fun h => h a ws rfl, ?_⟩
  rintro h _ _ ⟨rfl, rfl⟩
  exact h

@[simp] lemma on_ite {p : Prop} [Decidable p] {a b : Effect α} :
    Effect.On cells (if p then a else b) ↔ (p → a.On cells) ∧ (¬ p → b.On cells) := by
  by_cases hp : p <;> simp [hp]

@[simp] lemma on_withDomain {name : String} {f : Domain → Effect α} :
    Effect.On cells (h.withDomain name f) ↔ ∀ d, h.domains name = some d → (f d).On cells := by
  unfold withDomain
  cases h.domains name <;> simp

variable {obj : Obj}

@[simp] lemma on_withObject {f : Image → Effect α} :
    Effect.On cells (h.withObject obj f) ↔ ∀ im, h.objects obj = some im → (f im).On cells := by
  unfold withObject
  cases h.objects obj <;> simp

@[simp] lemma on_withSnap {name : String} {f : Image → Snap → Effect α} :
    Effect.On cells (h.withSnap obj name f) ↔
      ∀ im, h.objects obj = some im → ∀ s, im.snap name = some s → (f im s).On cells := by
  refine on_withObject.trans (forall₂_congr fun im _ => ?_)
  cases im.snap name <;> simp [fails]

end Host

open Host in
lemma exec_on (q : Cmd) (x₀ x : Inp) (h : Host) : (exec q x₀ x h).On q.cells := by
  cases q <;> simp [exec, Cmd.cells, Write.cell, done, fails, putDomain, put, remove, clone,
    resize, copyTo]

variable {q : Cmd} {p : Cell → Prop}

lemma answer_cells {e : Event store} {h : Host} {w : Write} (hw : w ∈ (store.answer q h e).2) :
    w.cell ∈ q.cells := by
  cases he : store.answer q h e with
  | mk r ws =>
    rw [he] at hw
    cases r with
    | error err =>
      rw [answer_error he] at hw
      cases hw
    | ok a =>
      obtain ⟨x, _, hexec⟩ := exec_of_answer he
      exact exec_on q x x h a ws hexec w hw

lemma answer_read (hq : q.cells = []) (e : Event store) (h : Host) :
    (store.answer q h e).2 = [] := by
  refine List.eq_nil_iff_forall_not_mem.mpr fun w hw => ?_
  have hcell := answer_cells hw
  rw [hq] at hcell
  cases hcell

/-! ## what stays -/

section
variable {h : Host} {ws : List Write} {name : String}

lemma view_domains (hws : ∀ w ∈ ws, w.cell ≠ .domain name) :
    (store.view h ws).domains name = h.domains name := by
  refine view_same (S := store) (g := fun h : Host => h.domains name) (fun w hw h => ?_) h
  cases w with
  | domain name' d =>
    have hne : name ≠ name' := fun heq => hws _ hw (congrArg Cell.domain heq.symm)
    exact Function.update_of_ne hne _ _
  | object obj im => rfl
  | warning w => rfl

lemma view_objects {obj : Obj} (hws : ∀ w ∈ ws, w.cell ≠ .object obj) :
    (store.view h ws).objects obj = h.objects obj := by
  refine view_same (S := store) (g := fun h : Host => h.objects obj) (fun w hw h => ?_) h
  cases w with
  | domain name d => rfl
  | object obj' im =>
    have hne : obj ≠ obj' := fun heq => hws _ hw (congrArg Cell.object heq.symm)
    exact Function.update_of_ne hne _ _
  | warning w => rfl

variable {q : Cmd} {e : Event store}

lemma answer_domains (hq : .domain name ∉ q.cells) :
    (store.view h (store.answer q h e).2).domains name = h.domains name :=
  view_domains fun _ hw hcell => hq (hcell ▸ answer_cells hw)

lemma answer_objects {obj : Obj} (hq : .object obj ∉ q.cells) :
    (store.view h (store.answer q h e).2).objects obj = h.objects obj :=
  view_objects fun _ hw hcell => hq (hcell ▸ answer_cells hw)

end

/-! ## the calls of the agent -/

/-- the command writes to cells in `p` alone -/
def Only (p : Cell → Prop) (q : Cmd) : Prop := ∀ c ∈ q.cells, p c

lemma only_read (hq : q.cells = []) : Only p q := by
  intro c hc
  rw [hq] at hc
  cases hc

lemma only_write {c : Cell} (hq : q.cells = [c]) (hc : p c) : Only p q := by
  intro c' hc'
  rw [hq] at hc'
  rw [List.mem_singleton.mp hc']
  exact hc

@[simp] lemma only_iff : Only p q ↔ ∀ c ∈ q.cells, p c := Iff.rfl

attribute [simp] Cmd.cells cmd rawCmd Job.wrapping Job.withContext Job.logged Job.warning
  Job.cleanup Job.when statusOf internal mapped mapError require

namespace Job
variable {α : Type} {ok : Cmd → Prop} {Q : α → Prop} {E : GoError → Prop} {q : Cmd}

@[simp] lemma all_onCmd {k : Except Err q.Ans → Job α} :
    (onCmd q k).All ok ↔ ok q ∧ (∀ a, (k (.ok a)).All ok) ∧ ∀ e, (k (.error e)).All ok :=
  and_congr_right fun _ => forall_outcome

@[simp] lemma allTo_onCmd {k : Except Err q.Ans → Job α} : (onCmd q k).AllTo ok Q E ↔
      ok q ∧ (∀ a, (k (.ok a)).AllTo ok Q E) ∧ ∀ e, (k (.error e)).AllTo ok Q E :=
  and_congr_right fun _ => forall_outcome

@[simp] lemma all_lift (r : Except GoError α) : (lift r).All ok := by cases r <;> trivial

@[simp] lemma allTo_lift (r : Except GoError α) :
    (lift r).AllTo ok Q E ↔ (∀ a, r = .ok a → Q a) ∧ ∀ e, r = .error e → E e := by
  cases r <;> simp [lift]

section
variable {context : String} {c : Job α}

lemma all_cmd (hq : ok q) : (cmd context q).All ok := All.stmt hq

lemma all_wrapping (hc : c.All ok) : (wrapping context c).All ok := by simp [hc]

lemma all_logged (hc : c.All ok) : (logged c).All ok := by simp [hc]

lemma all_internal (hc : c.All ok) : (internal context c).All ok := by simp [hc]

lemma all_require {refused : Bool} {msg : String} : (require refused msg).All ok := by simp

end

end Job

@[simp] lemma all_checkPath {ok : Cmd → Prop} {field path root : String} :
    (checkPath field path root).All ok := by
  unfold checkPath
  simp

/-! ## the backends -/

/-- the object that a backend takes a name for -/
def StorageBackend.object (name : String) : StorageBackend → Obj
  | .ceph m => .image m.pool name
  | .qcow m => fileAt (m.imagePath name)
  | .lvm m => .device (m.lvPath name)

section
variable {p : Cell → Prop}

namespace RBDManager
variable {m : RBDManager} {name : String} (hname : p (.object (.image m.pool name)))

attribute [simp] openIOContext

include hname

lemma all_cloneFromTemplate (sourcePool sourceImage sourceSnap : String) :
    (m.cloneFromTemplate sourcePool sourceImage sourceSnap name).All (Only p) := by
  simp [cloneFromTemplate, hname]

lemma all_resize (newSizeGB : Int) :
    (m.resize name newSizeGB).All (Only p) := by simp [resize, hname]

lemma all_removeSnapshots (snaps : List String) : (m.removeSnapshots name snaps).All (Only p) := by
  induction snaps with
  | nil => trivial
  | cons snap rest ih => simp [removeSnapshots, hname, ih]

lemma all_delete : (m.delete name).All (Only p) := by
  simp [delete, removeAllSnapshots, hname, all_removeSnapshots hname]

lemma all_createSnapshot (snap : String) : (m.createSnapshot name snap).All (Only p) := by
  simp [createSnapshot, hname]

lemma all_deleteSnapshot (snap : String) : (m.deleteSnapshot name snap).All (Only p) := by
  simp [deleteSnapshot, hname]

lemma all_rollback (snap : String) :
    (m.rollback name snap).All (Only p) := by simp [rollback, hname]

omit hname

lemma all_checkSnapshots (snaps : List String) : (m.checkSnapshots name snaps).All (Only p) := by
  induction snaps with
  | nil => trivial
  | cons snap rest ih => simp [checkSnapshots, ih]

end RBDManager

namespace QCOWManager
variable {m : QCOWManager} {name : String} (hname : p (.object (fileAt (m.imagePath name))))

@[simp] lemma all_statted (notFound checking : String) (r : Except Err Unit) :
    (statted notFound checking r).All (Only p) := by
  unfold statted
  split <;> trivial

attribute [simp] verifyImage qemuImg

include hname

lemma all_cloneFromTemplate (sourcePool sourceImage : String) :
    (m.cloneFromTemplate sourcePool sourceImage name).All (Only p) := by
  simp [cloneFromTemplate, hname]

lemma all_resize (newSizeGB : Int) :
    (m.resize name newSizeGB).All (Only p) := by simp [resize, hname]

lemma all_delete : (m.delete name).All (Only p) := by
  refine all_onCmd.mpr ⟨only_read rfl, fun _ => by simp [deleteFound, hname], fun e => ?_⟩
  unfold deleteFound
  split <;> simp [hname]

lemma all_createSnapshot (snap : String) : (m.createSnapshot name snap).All (Only p) := by
  simp [createSnapshot, hname]

lemma all_deleteSnapshot (snap : String) : (m.deleteSnapshot name snap).All (Only p) := by
  simp [deleteSnapshot, hname]

lemma all_rollback (snap : String) :
    (m.rollback name snap).All (Only p) := by simp [rollback, hname]

end QCOWManager

namespace LVMManager
variable {m : LVMManager} {name : String} (hname : p (.object (.device (m.lvPath name))))

attribute [simp] validating lvm unlessMissing deleted imageFound

lemma all_imageExists (id : String) : (m.imageExists id).All (Only p) := by simp [imageExists]

include hname

lemma all_cloneFromTemplate (sourceImage : String) :
    (m.cloneFromTemplate sourceImage name).All (Only p) := by
  simp [cloneFromTemplate, hname]

lemma all_resize (newSizeGB : Int) :
    (m.resize name newSizeGB).All (Only p) := by simp [resize, resizeTo, hname]

omit hname

/-- what is deleted along with a volume are volumes of the same group -/
lemma all_delete (hall : ∀ n, p (.object (.device (m.lvPath n)))) :
    (m.delete name).All (Only p) := by
  have hdeps : ∀ deps, (m.removeDependents deps).All (Only p) := by
    intro deps
    induction deps with
    | nil => trivial
    | cons dep rest ih => simp [removeDependents, hall, ih]
  simp [delete, deleteWith, hall, hdeps]

lemma validating_refused {what id : String} {e : GoError} (h : validateLVIdentifier id = .error e) :
    validating what id = fail (.wrap ("validating " ++ what) e) := by
  unfold validating
  rw [h]
  rfl

/-- **The manager refuses the name it gives to the disk of a VM:** a path has slashes. -/
theorem diskIdentifier_refused (m : LVMManager) (vmID : String) :
    ∃ e, validateLVIdentifier (m.diskIdentifier vmID) = .error e := by
  have hlist : (m.diskIdentifier vmID).toList =
      '/' :: ("dev/" ++ m.vgName ++ "/" ++ vmDiskName vmID).toList := by
    unfold diskIdentifier lvPath
    simp only [String.toList_append]
    rfl
  have hne : m.diskIdentifier vmID ≠ "" := fun h => by rw [h] at hlist; cases hlist
  have hvalid : validLVMLVName (m.diskIdentifier vmID) = false := by
    unfold validLVMLVName
    rw [hlist]
    rfl
  unfold validateLVIdentifier
  rw [if_neg hne, if_pos hvalid]
  exact ⟨_, rfl⟩

end LVMManager
end

end VirtueStack.Agent
