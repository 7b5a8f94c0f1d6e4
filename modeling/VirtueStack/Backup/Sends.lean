import VirtueStack.Agent.SnapshotCells
import VirtueStack.Compute.Effects
import VirtueStack.Backup.CreateTask

/-!
# Backups: the statements of the calls

* `Op.all_*`, `all_call` a call sends statements of a kind if its parts do;
* `kept_*` calls that only read, and the values they can give;
* `NodeAgent.all_*`, `all_backUp` the methods of the client, and the handlers of backup.create.
  `Commands` says which commands of the agents are of the kind.
-/

namespace VirtueStack.Backup
open Txn NodeAgent Call Op List

def Stmt.reads : Stmt → Bool
  | .now => true
  | .cleanupFailed _ => true
  | .getVM _ => true
  | .getVMIncludingDeleted _ => true
  | .getNode _ => true
  | .updateProgress _ _ _ => true
  | .setCompleted _ => true
  | .getBackup _ => true
  | .listBackupsByVM _ => true
  | .listExpiredBackups _ => true
  | .connect _ => true
  | .agent _ q => q.cells.isEmpty
  | .reply _ => true
  | _ => false

variable {α β : Type}

variable {q : Stmt} {ws : List Write} {w : Write} {x : Inp} {db : Db}

lemma answer_reads (hq : q.reads = true) (db : Db) (e : Event store) :
    (store.answer q db e).2 = [] := by
  cases e with
  | fail text => rfl
  | ok x =>
    cases q with
    | agent node q =>
      rw [(answer_agent node q db (.ok x)).2, Agent.answer_read (isEmpty_iff.mp hq)]
      rfl
    | _ => first | rfl | cases hq

lemma view_reads (hq : q.reads = true) (db : Db) (e : Event store) :
    store.view db (store.answer q db e).2 = db := by
  rw [answer_reads hq]
  rfl

/-- what a statement can write, and when -/
def Stmt.Writes (db : Db) : Stmt → Write → Prop
  | .createBackup b, .insertBackup row => b.Checked ∧
    row = { b with id := row.id, createdAt := row.createdAt }
  | .deleteBackup id, .deleteBackup id' => id' = id
  | .agent node _, .host node' _ => node' = node
  | .guest event, .guest event' =>
    event' = event ∧ ∃ d ∈ (db.hosts event.node).domains event.domain, d.qemu = true
  | _, _ => False

lemma mem_insertBackup {b row : Backup} (h : db.insertBackup b x = .ok (row, ws)) (hw : w ∈ ws) :
    b.Checked ∧ w = .insertBackup { b with id := x.fresh, createdAt := x.now } := by
  unfold Db.insertBackup at h
  dsimp only at h
  split at h
  · rename_i hb
    split at h
    · cases h
    · cases h
      exact ⟨hb, mem_singleton.mp hw⟩
  · cases h

lemma exec_writes {x₀ : Inp} {a : q.Ans} (hx : exec q x₀ x db = .ok (a, ws)) (hw : w ∈ ws) :
    q.Writes db w := by
  cases q with
  | createBackup b =>
    obtain ⟨hb, rfl⟩ := mem_insertBackup hx hw
    exact ⟨hb, rfl⟩
  | deleteBackup id =>
    cases hx
    rw [mem_singleton.mp hw]
    rfl
  | agent node q =>
    have hx : execAgent node q x₀ x db = .ok (a, ws) := hx
    unfold execAgent at hx
    split at hx
    · cases hx
      obtain ⟨v, -, rfl⟩ := mem_map.mp hw
      rfl
    · cases hx
  | guest event =>
    have hx : db.guestCommand event x = .ok (a, ws) := hx
    unfold Db.guestCommand at hx
    split at hx
    · cases hx
    · rename_i d hd
      split at hx
      · rename_i hq
        cases hx
        split at hw
        · rw [mem_singleton.mp hw]
          exact ⟨rfl, d, hd, hq⟩
        · cases hw
      · cases hx
  | _ =>
    cases hx
    cases hw

/-- **A statement writes nothing else.** -/
theorem writes_of_mem {e : Event store} (hw : w ∈ (store.answer q db e).2) : q.Writes db w := by
  obtain ⟨x, a, ws, -, hx, hw⟩ := Store.exec_of_mem_answer hw
  exact exec_writes hx hw

variable {ok : Stmt → Prop}

-- `simp` walks a call, with a lemma for each call of an agent
attribute [local simp] Op.query Op.withContext Op.wrapping Op.logged Op.cleaned Op.cleanup Op.lift
Op.foundIn Op.found
  affected affecting failedThen orElse progress now answered answering send VMRepository.getByID
  VMRepository.getByIDIncludingDeleted NodeRepository.getByID withNode TaskRepository.setCompleted
  completeBackupTask
  BackupRepository.createBackup Option.forall

section
variable (hread : ∀ q : Stmt, q.reads = true → ok q)
include hread

lemma sends_reads : ok .now ∧ (∀ op, ok (.cleanupFailed op)) ∧ (∀ id, ok (.getVM id)) ∧
    (∀ id, ok (.getVMIncludingDeleted id)) ∧ (∀ id, ok (.getNode id)) ∧
      (∀ id n text, ok (.updateProgress id n text)) ∧
    (∀ id, ok (.setCompleted id)) ∧ (∀ node, ok (.connect node)) ∧ ∀ node, ok (.reply node) :=
  ⟨hread _ rfl, fun _ => hread _ rfl, fun _ => hread _ rfl, fun _ => hread _ rfl,
    fun _ => hread _ rfl,
    fun _ _ _ => hread _ rfl, fun _ => hread _ rfl, fun _ => hread _ rfl, fun _ => hread _ rfl⟩

lemma all_getVM (id : String) : (VMRepository.getByID id).All ok := by simp [sends_reads hread]

lemma all_progress (taskID : String) (n : Int) (message : String) :
    (progress taskID n message).All ok := by
  simp [sends_reads hread]

variable {nodeID : String} {request : String}

lemma all_send {work : Op α} (hw : work.All ok) : (send nodeID request work).All ok := by
  simp [sends_reads hread, hw]

lemma all_withNode {f : Compute.Node → Op α} (hf : ∀ node, (f node).All ok) :
    (withNode nodeID f).All ok := by
  simp [sends_reads hread, hf]

lemma all_call {p : Agent.Cell → Prop} {job : Agent.Job α}
    (hagent : ∀ q, Agent.Only p q → ok (.agent nodeID q)) (hjob : job.All (Agent.Only p)) :
    (call nodeID request job).All ok :=
  all_withNode hread fun _ => all_send hread (all_embed hagent hjob)

end

/-! ## calls that only read -/

section
variable {A I : Stmt → Event store → Db → Prop} {db : Db} {P : α → Prop}
  (hI : ∀ q e db, q.reads = true → I q e db)

variable {context : String}

lemma kept_wrapping {c : Op α} (hc : c.Each A I (Kept db P) db) :
    (wrapping context c).Each A I (Kept db P) db := by
  refine Each.attempt hc fun r db' hr => ?_
  cases r with
  | ok a => exact hr
  | error e => exact ⟨hr.1, fun a ha => (by cases ha)⟩

lemma kept_found {c : Op (Option α)} {P : Option α → Prop} (hc : c.Each A I (Kept db P) db) :
    (found context c).Each A I (Kept db fun a => P (some a)) db := by
  refine hc.kept_bind (fun a ha => ?_) fun e => ⟨rfl, fun a ha => (by cases ha)⟩
  cases a with
  | none => exact ⟨rfl, fun b hb => (by cases hb)⟩
  | some a =>
    refine ⟨rfl, fun b hb => ?_⟩
    cases hb
    exact ha

include hI

lemma kept_query {q : Stmt} {P : q.Ans → Prop} (hq : q.reads = true)
    (hP : ∀ e a, (store.answer q db e).1 = .ok a → P a) :
    (query q context).Each A I (Kept db P) db :=
  each_stmt_kept (answer_reads hq db) (fun e => hI q e db hq) hP

lemma kept_logged {c : Op α} (hc : c.All fun q : Stmt => q.reads = true) :
    (logged c).Each A I (Kept db fun _ => True) db := by
  refine Each.attempt (R := fun _ db' => db' = db) ?_ fun r db' hr => ⟨hr, fun _ _ => trivial⟩
  refine Each.of_all hc (fun q hq e db' _ hdb => ⟨hI q e db' hq, ?_⟩) rfl
  rw [hdb]
  exact view_reads hq db e

lemma kept_progress (taskID : String) (n : Int) (message : String) :
    (progress taskID n message).Each A I (Kept db fun _ => True) db :=
  kept_logged hI (All.stmt rfl)

lemma kept_getVM (id : String) :
    (VMRepository.getByID id).Each A I (Kept db fun vm => db.vm id = some vm) db := by
  refine kept_found (kept_query hI rfl fun e a ha => ?_)
  cases e with
  | fail text => cases ha
  | ok x =>
    cases ha
    rfl

lemma each_withNode {nodeID : String} {f : Compute.Node → Op α} {Q : Except GoError α → Db → Prop}
    (hf : ∀ node, db.nodes.find nodeID = some node → (f node).Each A I Q db)
    (herr : ∀ e, Q (.error e) db) : (withNode nodeID f).Each A I Q db := by
  have hnode : (NodeRepository.getByID nodeID).Each A I
      (Kept db fun node => db.nodes.find nodeID = some node) db := by
    refine kept_found (kept_query hI rfl fun e a ha => ?_)
    cases e with
    | fail text => cases ha
    | ok x =>
      cases ha
      rfl
  refine (kept_wrapping hnode).kept_bind (fun node hn => ?_) herr
  refine (kept_wrapping (kept_query (P := fun _ => True) hI rfl fun _ _ _ => trivial)).kept_bind
    (fun _ _ => hf node hn) herr

end

/-! ## the handlers of backup.create -/

/-- what a kind of statements has to contain for the handlers of a backend: what reads, a row that
has no method, and the commands of the agent -/
structure Commands (ok : Stmt → Prop) (nodeID : String) : Prop where
  read : ∀ q : Stmt, q.reads = true → ok q
  createBackup : ∀ b : Backup, b.method = .unset → ok (.createBackup b)
  agent : ∀ q, ok (.agent nodeID q)

section
variable {cl : Client} {b : HandlerContext} {job : Agent.Job α}

lemma all_embedded {nodeID request : String} (h : Commands ok nodeID)
    (hjob : job.All (Agent.Only fun _ => True)) : (call nodeID request job).All ok :=
  all_call h.read (fun q _ => h.agent q) hjob

lemma all_deleteBackupFile {nodeID : String} (hread : ∀ q : Stmt, q.reads = true → ok q)
    (request backend path : String) : (deleteBackupFile cl nodeID request backend path).All ok := by
  refine all_withNode hread fun _ => all_send hread ?_
  -- a VM without an id is refused before anything is done
  show ((Agent.deleteVM _ _).embed (onNode nodeID)).All ok
  unfold Agent.deleteVM
  rw [Agent.Job.require_true (by simp)]
  trivial

section
variable (hread : ∀ q : Stmt, q.reads = true → ok q)
  (hcreate : ∀ row : Backup, row.method = .unset → ok (.createBackup row)) {snapshotName : String}
  (hdelete :
    (NodeAgent.deleteQCOWSnapshot cl b.nodeID b.payload.vmID (diskPathOf b.vm) snapshotName).All ok)
include hread hcreate hdelete

lemma all_recordQCOW (filePath : String) (sizeBytes : Int) :
    (recordQCOW cl b snapshotName filePath sizeBytes).All ok := by
  simp [recordQCOW, cleanupQCOW, deleteQCOWBackupFile, HandlerContext.backup,
    sends_reads hread, hdelete, hcreate, all_deleteBackupFile hread]

lemma all_afterCopy {context filePath : String} (r : Except GoError Int) :
    (failedThen context (cleanup "DeleteQCOWSnapshot"
      (deleteQCOWSnapshot cl b.nodeID b.payload.vmID (diskPathOf b.vm) snapshotName))
      (recordQCOW cl b snapshotName filePath) r).All ok := by
  cases r <;> simp [sends_reads hread, hdelete, all_recordQCOW hread hcreate hdelete]

end

variable (h : Commands ok b.nodeID)
include h

lemma all_createDiskSnapshot (diskPath snapshotName backend : String) :
    (createDiskSnapshot cl b.nodeID b.payload.vmID diskPath snapshotName backend).All ok :=
  all_embedded h (Agent.all_createDiskSnapshot trivial)

lemma all_deleteDiskSnapshot (diskPath snapshotName backend : String) :
    (deleteDiskSnapshot cl b.nodeID b.payload.vmID diskPath snapshotName backend).All ok :=
  all_embedded h (Agent.all_deleteDiskSnapshot trivial)

lemma all_work (hjob : job.All (Agent.Only fun _ => True)) :
    (job.embed (onNode b.nodeID)).All ok := all_embed (fun q _ => h.agent q) hjob

lemma all_deleteDisk (vmID : String) : (deleteDisk cl b.nodeID vmID).All ok := by
  have hjob : ∀ vm, (Agent.deleteDisk (cl.agents b.nodeID) (deleteVMRequestFromModel vm)).All
      (Agent.Only fun _ => True) := fun vm =>
    All.bind Agent.Job.all_require fun _ => Agent.all_deleteDiskOf fun _ _ _ _ _ => trivial
  simp [deleteDisk, sends_reads h.read, all_work h (hjob _)]

lemma all_handleQCOWBackupCreate : (handleQCOWBackupCreate cl b).All ok := by
  have hrecord : ∀ snap path size, (recordQCOW cl b snap path size).All ok := fun snap =>
    all_recordQCOW h.read h.createBackup (all_deleteDiskSnapshot h _ _ _)
  simp [handleQCOWBackupCreate, copyQCOW, createQCOWBackup, createQCOWSnapshot,
    deleteQCOWSnapshot, sends_reads h.read, all_createDiskSnapshot h,
    all_deleteDiskSnapshot h, hrecord]

lemma all_handleCephBackupCreate : (handleCephBackupCreate cl b).All ok := by
  have hcreate : ∀ snap, ((Agent.createSnapshot (cl.agents b.nodeID) b.payload.vmID snap).embed
    (onNode b.nodeID)).All
      ok := fun snap => all_work h (Agent.all_createSnapshot snap fun _ => trivial)
  have hdelete : ∀ snap, ((Agent.deleteSnapshot (cl.agents b.nodeID) b.payload.vmID snap).embed
    (onNode b.nodeID)).All
      ok := fun snap => all_work h (Agent.all_deleteSnapshot snap trivial)
  simp [handleCephBackupCreate, cloneCeph, recordCeph, HandlerContext.backup, call, createSnapshot,
    protectSnapshot, cloneSnapshot, unprotectSnapshot, sends_reads h.read,
    h.createBackup, all_deleteDisk h, hcreate, hdelete]

lemma all_handleLVMBackupCreate : (handleLVMBackupCreate cl b).All ok := by
  have hcopy :
    ∀ snap path, ((Agent.createLVMBackup (cl.agents b.nodeID) b.payload.vmID snap path).embed
      (onNode b.nodeID)).All ok := fun snap path =>
    all_work h (Agent.all_createLVMBackup snap path trivial fun _ _ => trivial)
  simp [handleLVMBackupCreate, copyLVM, recordLVM, cleanupLVM, deleteLVMSnapshot,
    HandlerContext.backup, call,
    createLVMBackup, deleteLVMBackupFile, sends_reads h.read, h.createBackup,
    all_createDiskSnapshot h, all_deleteDiskSnapshot h, all_deleteBackupFile h.read, hcopy]

lemma all_backUp : (backUp cl b).All ok := by
  simp [backUp, all_handleQCOWBackupCreate h, all_handleLVMBackupCreate h,
    all_handleCephBackupCreate h]

end

/-! ## the agent of the guest -/

section
variable {nodeID vmID : String} (hread : ∀ q : Stmt, q.reads = true → ok q)

lemma all_guestFilesystems {c : GuestCommand}
    (hlookup : ok (.agent nodeID (.lookupDomain (Agent.domainName vmID))))
    (hguest : ok (.guest ⟨nodeID, Agent.domainName vmID, c⟩)) :
    (guestFilesystems nodeID vmID c).All ok := by
  have hanswered : ∀ a, (guestAnswered c a).All ok := fun a => by cases a <;> trivial
  simp [guestFilesystems, requireVMID, lookupDomain, sendGuest, hlookup, hguest, hanswered]

include hread

lemma all_guestFreeze (hcall : ok (.guestCall ⟨nodeID, Agent.domainName vmID, .freeze⟩))
    (hguest : ok (.guest ⟨nodeID, Agent.domainName vmID, .freeze⟩)) :
    (guestFreezeFilesystems nodeID vmID).All ok := by
  simp [guestFreezeFilesystems, called, sends_reads hread, hcall,
    all_guestFilesystems (hread _ rfl) hguest]

lemma all_thenThaw {b : HandlerContext}
    (hcall : ok (.guestCall ⟨b.nodeID, Agent.domainName b.payload.vmID, .thaw⟩))
    (hguest : ok (.guest ⟨b.nodeID, Agent.domainName b.payload.vmID, .thaw⟩))
    (freeze : Except GoError Int) (r : Except GoError Unit) : (thenThaw b freeze r).All ok := by
  cases freeze <;> cases r <;>
    simp [thenThaw, thawIfFrozen, guestThawFilesystems, called, sends_reads hread, hcall,
    all_guestFilesystems (hread _ rfl) hguest]

end

def Stmt.OfCreate : Stmt → Prop
  | .createBackup b => b.method = .unset
  | .agent _ _ => True
  | .guest _ => True
  | .guestCall _ => True
  | q => q.reads = true

lemma ofCreate_reads (q : Stmt) (hq : q.reads = true) : q.OfCreate := by
  cases q with
  | createBackup b => cases hq
  | agent node q | guest event | guestCall event => trivial
  | _ => exact hq

lemma ofCreate_commands (nodeID : String) : Commands Stmt.OfCreate nodeID where
  read := ofCreate_reads
  createBackup _ hb := hb
  agent _ := trivial

lemma all_handleBackupCreate (hread : ∀ q : Stmt, q.reads = true → ok q) {cl : Client}
    (hfreeze : ∀ b, (freezeAndBackUp cl b).All ok) (task : Task) :
    (handleBackupCreate cl task).All ok := by
  have hnode : ∀ payload vm, (onAssignedNode payload.vmID vm fun nodeID =>
      freezeAndBackUp cl ⟨task.id, vm, nodeID, payload⟩).All ok := by
    intro payload vm
    unfold onAssignedNode
    split
    · trivial
    · exact hfreeze _
  unfold handleBackupCreate
  cases BackupCreatePayload.decode task.payload with
  | error e => trivial
  | ok payload => simp [Task.unlessTerminal, createBackupOf, sends_reads hread, hnode]

/-- **The handler sends statements of these kinds alone.** -/
theorem all_ofCreate (cl : Client) (task : Task) :
    (handleBackupCreate cl task).All Stmt.OfCreate := by
  refine all_handleBackupCreate ofCreate_reads (fun b => ?_) task
  simp [freezeAndBackUp, backUpFrozen, sends_reads ofCreate_reads,
    all_guestFreeze ofCreate_reads trivial trivial,
    all_thenThaw ofCreate_reads trivial trivial, all_backUp (ofCreate_commands _)]

/-! ## a small state -/

/-- agents of one configuration everywhere -/
def clientOf (cfg : Agent.Config) : Client := ⟨fun _ => cfg⟩

/-- a running VM on the node `n`, and no backup; all hosts are `h` -/
def oneVM (storageBackend : String) (h : Agent.Host) : Db where
  vms := Table.empty.insert (Compute.vmIn "v" .running storageBackend)
  nodes := Table.empty.insert ⟨"n", "h", none, .online, 8, 8192, 0, 0, "", "", ""⟩
  backups := .empty
  hosts := fun _ => h
  guests := []

/-- a task for the VM, fresh from the queue -/
def createTask : Task := ⟨"t", .pending, .obj [("vm_id", .str "v")]⟩

end VirtueStack.Backup
