import VirtueStack.Backup.Freeze
import VirtueStack.Backup.Runs

/-!
# backup.create: what is left of an execution that fails

The first request that makes a snapshot can be carried out and its answer get lost: then the handler
returns an error and has nothing to clean up. No row is ever inserted: the handlers leave the
method of the row empty, and the table refuses that.

* `nothing_backUp`, `can_backUp` without that nothing is ever made; with it, a snapshot can be left
  behind.
-/

namespace VirtueStack.Backup
open Txn Call List Agent

/-- nothing is in the storage of a node that was not there before -/
def LeavesNothing (db db' : Db) : Prop :=
  ∀ node, ¬ Agent.LeftBehind (db.hosts node) (db'.hosts node)

/-- every row that says it is completed was there before -/
def NoNewRow (db db' : Db) : Prop :=
  ∀ b ∈ db'.backups.rows, b.status = .completed → b ∈ db.backups.rows

def Write.insertedBackup : Write → Option Backup
  | .insertBackup b => some b
  | _ => none

def inserted (tr : List (Sent store)) : List Backup :=
  tr.flatMap fun s => s.writes.filterMap Write.insertedBackup

/-- an execution of the task, from any state, up to the point where its worker stops -/
def Execution (cl : Client) (task : Task) (tr : List (Sent store)) : Prop :=
  ∃ db r db' rest, (handleBackupCreate cl task).Run db (tr ++ rest) r db'

structure Atomic (cl : Client) (task : Task) (db : Db) : Prop where
  /-- an execution with an error whose clean-ups have worked leaves nothing -/
  clean : ∀ tr e db', (handleBackupCreate cl task).Run db tr (.error e) db' → CleanedUp tr →
    LeavesNothing db db' ∧ NoNewRow db db'
  /-- all executions together insert one row at most -/
  once : ∀ trs : List (List (Sent store)), (∀ tr ∈ trs, Execution cl task tr) →
    (trs.flatMap inserted).length ≤ 1

/-- the first request for a snapshot can be carried out -/
def HandlerContext.CanSnapshot (b : HandlerContext) (cfg : Agent.Config) (h : Agent.Host) : Prop :=
  if backendOrCeph b.vm.storageBackend = "qcow" then
    ∃ t : Int, Agent.validatePath (diskPathOf b.vm) cfg.storagePath = .ok () ∧
      cfg.storage.Snapshots h (diskPathOf b.vm) (b.snapshotName t)
  else if backendOrCeph b.vm.storageBackend = "lvm" then False
  else ∃ uuid, cfg.storage.Snapshots h (cfg.storage.diskIdentifier b.payload.vmID)
    (Agent.snapNameOf uuid)

/-- the task gets to an agent that can make a snapshot for it -/
def CanSnapshot (cl : Client) (task : Task) (db : Db) : Prop :=
  ∃ payload vm nodeID node, BackupCreatePayload.decode task.payload = .ok payload ∧
    task.isTerminal = false ∧
    payload.vmID ≠ "" ∧ db.vm payload.vmID = some vm ∧ vm.nodeID = some nodeID ∧
    db.nodes.find nodeID = some node ∧
    HandlerContext.CanSnapshot ⟨task.id, vm, nodeID, payload⟩ (cl.agents nodeID) (db.hosts nodeID)

/-! ## rows -/

variable {q : Stmt} {db : Db} {cl : Client} {task : Task} {e : Event store}

lemma not_row_of_ofCreate (hq : q.OfCreate) {w : Write} (hw : w ∈ (store.answer q db e).2) :
    w.insertedBackup = none ∧ ∀ db₁ : Db, (db₁.apply w).backups = db₁.backups := by
  have hwrites := writes_of_mem hw
  cases q with
  | createBackup b =>
    cases w with
    | insertBackup row => exact absurd hq hwrites.1.1
    | _ => exact hwrites.elim
  | agent node q =>
    cases w with
    | host node' w => exact ⟨rfl, fun _ => rfl⟩
    | _ => exact hwrites.elim
  | guest event =>
    cases w with
    | guest event' => exact ⟨rfl, fun _ => rfl⟩
    | _ => exact hwrites.elim
  | guestCall event => exact hwrites.elim
  | _ =>
    rw [answer_reads hq] at hw
    cases hw

variable {tr : List (Sent store)}

/-- **No execution inserts a row.** -/
theorem inserted_eq_nil (h : Execution cl task tr) : inserted tr = [] := by
  obtain ⟨db, r, db', rest, hrun⟩ := h
  refine flatMap_eq_nil_iff.mpr fun s hs => filterMap_eq_nil_iff.mpr fun w hw => ?_
  have hs : s.stmt.OfCreate := hrun.all (all_ofCreate cl task) s (mem_append_left rest hs)
  exact (not_row_of_ofCreate hs hw).1

lemma backups_of_run {db' : Db} {r : Except GoError Unit}
    (hrun : (handleBackupCreate cl task).Run db tr r db') : db'.backups = db.backups := by
  have heach : (handleBackupCreate cl task).Each (fun _ _ _ => True) (fun _ _ _ => True)
      (fun _ (db' : Db) => db'.backups = db.backups) db := by
    refine Each.of_all (K := fun db' : Db => db'.backups = db.backups) (all_ofCreate cl task)
      (fun q hq e db₁ _ h1 => ⟨trivial, ?_⟩) rfl
    exact (Store.view_same (S := store) (g := Db.backups)
      (fun w hw => (not_row_of_ofCreate hq hw).2) db₁).trans h1
  exact (hrun.each heach).2

/-! ## storage -/

lemma leavesNothing_refl (db : Db) : LeavesNothing db db := by
  rintro node ⟨obj, im, him, hsub⟩
  exact hsub im him (Subperm.refl _)

lemma leavesNothing_of_hosts {db₁ db₂ : Db} (h : LeavesNothing db db₁)
    (hosts : db₂.hosts = db₁.hosts) : LeavesNothing db db₂ := by
  unfold LeavesNothing
  rw [hosts]
  exact h

def Stmt.KeepsHosts (q : Stmt) : Prop :=
  ∀ (e : Event store) (db : Db), (store.view db (store.answer q db e).2).hosts = db.hosts

lemma keepsHosts_reads (hq : q.reads = true) : q.KeepsHosts := by
  intro e db
  rw [view_reads hq]

lemma keepsHosts_of_not_agent (hq : ∀ node c, q ≠ .agent node c) : q.KeepsHosts := by
  intro e db
  refine Store.view_same (S := store) (g := Db.hosts) (fun w hw db₁ => ?_) db
  have hwrites := writes_of_mem hw
  cases w with
  | host node w =>
    cases q with
    | agent node' c => exact absurd rfl (hq node' c)
    | _ => exact hwrites.elim
  | _ => rfl

/-! ## without a snapshot -/

section
variable {A : Stmt → Event store → Db → Prop} {cl : Client} {b : HandlerContext} {db : Db}

/-- the outcome of a call that has made nothing -/
abbrev Nothing (db : Db) {α : Type} (_ : Except GoError α) (db' : Db) : Prop := LeavesNothing db db'

abbrev EachRun {α : Type} (c : Op α) (A : Stmt → Event store → Db → Prop)
    (Q : Except GoError α → Db → Prop) (db : Db) : Prop := c.Each A (fun _ _ _ => True) Q db

variable {db₁ : Db}

lemma nothing_of_all {α : Type} {c : Op α} {ok : Stmt → Prop} (hc : c.All ok)
    (hok : ∀ q : Stmt, ok q → ∀ e db₂, LeavesNothing db db₂ →
      LeavesNothing db (store.view db₂ (store.answer q db₂ e).2))
    (h : LeavesNothing db db₁) : EachRun c A (Nothing db) db₁ :=
  Each.of_all hc (fun q hq e db₂ _ h2 => ⟨trivial, hok q hq e db₂ h2⟩) h

lemma nothing_progress {taskID message : String} {n : Int} {c : Unit → Op Unit}
    (hc : EachRun (c ()) A (Nothing db) db) :
    EachRun (progress taskID n message >>= c) A (Nothing db) db :=
  (kept_progress (fun _ _ _ _ => trivial) taskID n message).kept_bind (fun _ _ => hc) fun _ =>
    leavesNothing_refl db

lemma nothing_now {c : Int × String → Op Unit} (hc : ∀ t, EachRun (c t) A (Nothing db) db) :
    EachRun (now >>= c) A (Nothing db) db :=
  (kept_query (P := fun _ => True) (fun _ _ _ _ => trivial) rfl fun _ _ _ => trivial).kept_bind
    (fun t _ => hc t) fun _ => leavesNothing_refl db

lemma kept_handleLVM : EachRun (handleLVMBackupCreate cl b) A (Nothing db) db := by
  refine nothing_progress ?_
  refine nothing_now fun t => ?_
  refine (kept_wrapping (kept_call fun node hnode => createDiskSnapshot_lvm rfl)).kept_bind
    (fun u hu => ?_) fun _ => leavesNothing_refl db
  obtain ⟨e, he⟩ := hu
  cases he

lemma kept_handleCeph
    (hno : b.payload.vmID ≠ "" → ∀ node, db.nodes.find b.nodeID = some node → ∀ uuid,
      ¬ (cl.agents b.nodeID).storage.Snapshots (db.hosts b.nodeID)
        ((cl.agents b.nodeID).storage.diskIdentifier b.payload.vmID) (Agent.snapNameOf uuid)) :
    EachRun (handleCephBackupCreate cl b) A (Nothing db) db := by
  refine nothing_progress ?_
  refine nothing_now fun t => ?_
  refine (kept_wrapping (kept_call fun node hnode => refused_createSnapshot fun hvm =>
    hno hvm node hnode)).kept_bind (fun u hu => ?_) fun _ => leavesNothing_refl db
  obtain ⟨e, he⟩ := hu
  cases he

lemma diskPathOf_ne (vm : Compute.VM) : diskPathOf vm ≠ "" := by
  unfold diskPathOf
  split
  · intro h
    have := congrArg String.length h
    simp at this
  · assumption

lemma path_qcow (cfg : Agent.Config) (vmID snapshotName storageBackend : String) (vm : Compute.VM) :
    Agent.DiskSnapshotRequest.path ⟨vmID, snapshotName, storageBackend, diskPathOf vm⟩ cfg =
      diskPathOf vm :=
  if_neg (diskPathOf_ne vm)

lemma objects_of_lvremove {node : String} {path : String} {db : Db} {n : String}
    {obj : Agent.Obj} {im : Agent.Image}
    (h : ((store.view db (store.answer (.agent node (.lvremove path)) db e).2).hosts n).objects
      obj = some im) : (db.hosts n).objects obj = some im := by
  cases e with
  | fail text => exact h
  | ok x =>
    cases hdev : (db.hosts node).objects (.device path) with
    | none =>
      simp only [Store.answer, exec, execAgent, Agent.exec, Agent.Host.withObject_none hdev] at h
      exact h
    | some old =>
      simp only [Store.answer, exec, execAgent, Agent.exec, Agent.Host.withObject_some hdev] at h
      have happly : (applyHost db.hosts node (.object (.device path) none) n).objects obj =
        some im := h
      unfold applyHost at happly
      split at happly
      · by_cases hobj : obj = .device path
        · rw [hobj] at happly
          have hnone : (none : Option Agent.Image) = some im :=
            (Agent.Host.objects_put (h := db.hosts n) (.device path) none).symm.trans happly
          cases hnone
        · have hsame : Function.update (db.hosts n).objects (.device path) none obj =
            some im := happly
          rw [Function.update_of_ne hobj] at hsame
          exact hsame
      · exact happly

lemma nothing_afterCopy {m : Agent.LVMManager} (hm : (cl.agents b.nodeID).storage = .lvm m)
    {context snapshotName filePath : String} (r : Except GoError Int) :
    EachRun (failedThen context (Op.cleanup "DeleteQCOWSnapshot"
        (NodeAgent.deleteQCOWSnapshot cl b.nodeID b.payload.vmID (diskPathOf b.vm) snapshotName))
      (recordQCOW cl b snapshotName filePath) r) A (Nothing db) db := by
  have hread : ∀ q : Stmt, q.reads = true → q.KeepsHosts ∨ ∃ c, c.RemovesVolume ∧
    q = .agent b.nodeID c :=
    fun q hq => .inl (keepsHosts_reads hq)
  have hdelete :
    (NodeAgent.deleteQCOWSnapshot cl b.nodeID b.payload.vmID (diskPathOf b.vm) snapshotName).All
      fun q : Stmt => q.KeepsHosts ∨ ∃ c : Agent.Cmd, c.RemovesVolume ∧ q = .agent b.nodeID c :=
    all_withNode hread fun _ => all_send hread (all_embed (fun c hc => .inr ⟨c, hc, rfl⟩)
      (all_deleteDiskSnapshot_lvm hm))
  have hcreate : ∀ row : Backup, row.method = .unset →
      (Stmt.createBackup row).KeepsHosts ∨ ∃ c : Agent.Cmd, c.RemovesVolume ∧
      Stmt.createBackup row = .agent b.nodeID c :=
    fun row _ => .inl (keepsHosts_of_not_agent fun _ _ h => (by cases h))
  refine nothing_of_all (all_afterCopy hread hcreate hdelete r) (fun q hq e db2 h2 => ?_)
    (leavesNothing_refl db)
  rcases hq with hq | ⟨c, ⟨path, rfl⟩, rfl⟩
  · exact leavesNothing_of_hosts h2 (hq e db2)
  · rintro n ⟨obj, im, him, hsub⟩
    exact h2 n ⟨obj, im, objects_of_lvremove him, hsub⟩

lemma kept_handleQCOW
    (hno : b.payload.vmID ≠ "" → ∀ node, db.nodes.find b.nodeID = some node → ∀ t : Int,
      Agent.validatePath (diskPathOf b.vm) (cl.agents b.nodeID).storagePath = .ok () →
      ¬ (cl.agents b.nodeID).storage.Snapshots (db.hosts b.nodeID) (diskPathOf b.vm)
      (b.snapshotName t)) : EachRun (handleQCOWBackupCreate cl b) A (Nothing db) db := by
  have hcall : ∀ t : Int, EachRun
      (NodeAgent.createDiskSnapshot cl b.nodeID b.payload.vmID (diskPathOf b.vm)
        (b.snapshotName t) "qcow") A
      (Kept (S := store) db fun _ : Unit => ∃ m, (cl.agents b.nodeID).storage = .lvm m) db := by
    intro t
    refine (kept_call fun node hnode => each_createDiskSnapshot rfl fun hacc => ?_).mono
      fun r db' hr =>
      ⟨hr.1, fun a ha => ?_⟩
    · obtain ⟨hvm, -, hpath⟩ := hacc
      rw [path_qcow] at hpath ⊢
      exact hno hvm node hnode t hpath
    · rcases hr.2 a ha with ⟨e, he⟩ | ⟨m, hm, -⟩
      · cases he
      · exact ⟨m, hm⟩
  refine nothing_progress ?_
  refine nothing_now fun t => ?_
  refine (kept_wrapping (hcall t.1)).kept_bind (fun _ hlvm => ?_) fun _ => leavesNothing_refl db
  obtain ⟨m, hm⟩ := hlvm
  refine nothing_progress ?_
  refine nothing_now fun t' => ?_
  refine Each.attempt (R := fun _ db' => db' = db) ?_ fun r db' hdb => ?_
  · exact (hcall t.1).kept_bind (fun _ _ => rfl) fun _ => rfl
  · rw [hdb]
    exact nothing_afterCopy hm r

lemma nothing_backUp (hno : b.payload.vmID ≠ "" → ∀ node, db.nodes.find b.nodeID = some node →
      ¬ b.CanSnapshot (cl.agents b.nodeID) (db.hosts b.nodeID)) :
        EachRun (backUp cl b) A (Nothing db) db := by
  unfold HandlerContext.CanSnapshot at hno
  unfold backUp
  dsimp only
  split
  · rename_i hqcow
    rw [if_pos hqcow] at hno
    exact kept_handleQCOW fun hvm node hnode t hpath hs => hno hvm node hnode ⟨t, hpath, hs⟩
  · rename_i hqcow
    split
    · exact kept_handleLVM
    · rename_i hlvm
      rw [if_neg hqcow, if_neg hlvm] at hno
      exact kept_handleCeph fun hvm node hnode uuid hs => hno hvm node hnode ⟨uuid, hs⟩

/-- the states that differ in what has happened in the guests -/
def ButGuests (db db' : Db) : Prop := ∃ events, db' = { db with guests := events }

lemma butGuests_view {ws : List Write} (hws : ∀ w ∈ ws, ∃ event, w = .guest event)
    (h : ButGuests db db₁) : ButGuests db (store.view db₁ ws) := by
  induction ws generalizing db₁ with
  | nil => exact h
  | cons w ws ih =>
    obtain ⟨event, rfl⟩ := hws w mem_cons_self
    obtain ⟨events, rfl⟩ := h
    exact ih (fun w' hw' => hws w' (mem_cons_of_mem _ hw')) ⟨events ++ [event], rfl⟩

lemma butGuests_guest (event : GuestEvent) (e : Event store) (h : ButGuests db db₁) :
    ButGuests db (store.view db₁ (store.answer (.guest event) db₁ e).2) := by
  refine butGuests_view (fun w hw => ?_) h
  have hwrites := writes_of_mem hw
  cases w with
  | guest event' => exact ⟨event', rfl⟩
  | _ => exact hwrites.elim

lemma butGuests_guestFreeze (nodeID vmID : String) :
    EachRun (NodeAgent.guestFreezeFilesystems nodeID vmID) A
      (fun _ db' => ButGuests db db') db := by
  have hall : (NodeAgent.guestFreezeFilesystems nodeID vmID).All
      fun q : Stmt => q.reads = true ∨ ∃ event, q = .guest event ∨ q = .guestCall event :=
    all_guestFreeze (fun q hq => .inl hq) (.inr ⟨_, .inr rfl⟩) (.inr ⟨_, .inl rfl⟩)
  refine Each.of_all hall (fun q hq e db₁ _ h1 => ⟨trivial, ?_⟩) ⟨db.guests, rfl⟩
  rcases hq with hq | ⟨event, rfl | rfl⟩
  · rw [view_reads hq]
    exact h1
  · exact butGuests_guest event e h1
  · cases e with
    | fail text => exact h1
    | ok x => exact h1

lemma nothing_handleBackupCreate {task : Task} (hno : ¬ CanSnapshot cl task db) :
    EachRun (handleBackupCreate cl task) A (Nothing db) db := by
  unfold handleBackupCreate
  cases hp : BackupCreatePayload.decode task.payload with
  | error e => exact leavesNothing_refl db
  | ok payload =>
    show EachRun (task.unlessTerminal (createBackupOf cl task.id payload)) A (Nothing db) db
    unfold Task.unlessTerminal
    by_cases ht : task.isTerminal = true
    · rw [if_pos ht]
      exact leavesNothing_refl db
    rw [if_neg ht]
    refine nothing_progress ?_
    refine (kept_wrapping (kept_getVM (fun _ _ _ _ => trivial) _)).kept_bind (fun vm hvm => ?_)
      fun _ => leavesNothing_refl db
    unfold onAssignedNode
    split
    · exact leavesNothing_refl db
    · rename_i nodeID hn
      refine nothing_progress ?_
      refine Each.attempt (butGuests_guestFreeze nodeID payload.vmID) fun freeze db₁ h1 => ?_
      obtain ⟨events, rfl⟩ := h1
      refine Each.attempt (nothing_backUp fun hvmID node hnode hs => ?_) fun r db2 h2 => ?_
      · exact hno ⟨payload, vm, nodeID, node, hp, Bool.eq_false_iff.mpr ht, hvmID, hvm,
          hn, hnode, hs⟩
      · refine nothing_of_all (all_thenThaw (fun q hq => keepsHosts_reads hq) ?_ ?_ freeze r)
          (fun _ hq e db3 h3 => leavesNothing_of_hosts h3 (hq e db3)) h2
        · exact keepsHosts_of_not_agent fun _ _ h => (by cases h)
        · exact keepsHosts_of_not_agent fun _ _ h => (by cases h)

end

/-! ## with a snapshot -/

section
variable {cl : Client} {b : HandlerContext} {db : Db} {node : Compute.Node}

lemma can_call_lost {α : Type} {nodeID request : String} {job : Agent.Job α} {a : α}
    {h' : Agent.Host} (hnode : db.nodes.find nodeID = some node)
    (hjob : Agent.Can job (db.hosts nodeID) (.ok a) h')
    (hleft : Agent.LeftBehind (db.hosts nodeID) h') :
    ∃ e db', Can (call nodeID request job) db (.error e) db' ∧ ¬ LeavesNothing db db' := by
  obtain ⟨db', hcan, hhost⟩ := can_embed hjob
  obtain ⟨e, hsend⟩ := can_send_lost nodeID request hcan
  refine ⟨e, db', can_withNode hnode hsend, fun hnothing => hnothing nodeID ?_⟩
  rw [hhost]
  exact hleft

lemma snapshotName_ne (t : Int) : b.snapshotName t ≠ "" := by
  intro h
  have := congrArg String.length h
  simp [HandlerContext.snapshotName] at this

lemma can_backUp (hnode : db.nodes.find b.nodeID = some node) (hvm : b.payload.vmID ≠ "")
    (hs : b.CanSnapshot (cl.agents b.nodeID) (db.hosts b.nodeID)) :
    ∃ e db', Can (backUp cl b) db (.error e) db' ∧ ¬ LeavesNothing db db' := by
  unfold HandlerContext.CanSnapshot at hs
  unfold backUp
  dsimp only
  split at hs
  · rename_i hqcow
    obtain ⟨t, hpath, hs⟩ := hs
    rw [if_pos hqcow]
    have hacc : Agent.DiskSnapshotRequest.Accepted ⟨b.payload.vmID, b.snapshotName t, "qcow",
      diskPathOf b.vm⟩
        (cl.agents b.nodeID) := ⟨hvm, snapshotName_ne t, by rw [path_qcow]; exact hpath⟩
    obtain ⟨h', hjob, hleft⟩ := can_createDiskSnapshot rfl hacc (by rw [path_qcow]; exact hs)
    obtain ⟨e, db', hcall, hrest⟩ := can_call_lost hnode hjob hleft
    exact ⟨_, db',
      (can_progress _ _ _).bind ((can_now t "").bind (can_wrapping_error hcall).bind_error), hrest⟩
  · rename_i hqcow
    split at hs
    · exact hs.elim
    · rename_i hlvm
      obtain ⟨uuid, hs⟩ := hs
      rw [if_neg hqcow, if_neg hlvm]
      obtain ⟨snap, h', hjob, hleft⟩ := can_createSnapshot hvm (snapshotName_ne (b := b) 0) hs
      obtain ⟨e, db', hcall, hrest⟩ := can_call_lost hnode hjob hleft
      exact ⟨_, db', (can_progress _ _ _).bind
        ((can_now 0 "").bind (can_wrapping_error hcall).bind_error), hrest⟩

lemma can_guestFreeze_failed (db : Db) (nodeID vmID : String) :
    ∃ e, Can (NodeAgent.guestFreezeFilesystems nodeID vmID) db (.error e) db := by
  obtain ⟨e, hnode⟩ := can_withNode_failed db nodeID fun _ =>
    send nodeID "GuestFreezeFilesystems" (guestFilesystems nodeID vmID .freeze)
  have hcalled : Can (NodeAgent.called ⟨nodeID, Agent.domainName vmID, .freeze⟩) db (.ok ()) db :=
    can_logged (can_read (.guestCall _) calm rfl rfl)
  exact ⟨e, hcalled.bind hnode.bind_error⟩

lemma can_handleBackupCreate {task : Task} (hcan : CanSnapshot cl task db) :
    ∃ e db', Can (handleBackupCreate cl task) db (.error e) db' ∧ ¬ LeavesNothing db db' := by
  obtain ⟨payload, vm, nodeID, node, hp, ht, hvmID, hvm, hn, hnode, hs⟩ := hcan
  obtain ⟨e, db', hback, hrest⟩ := can_backUp (b := ⟨task.id, vm, nodeID, payload⟩) hnode hvmID hs
  obtain ⟨efreeze, hfreeze⟩ := can_guestFreeze_failed db nodeID payload.vmID
  refine ⟨e, db', ?_, hrest⟩
  unfold handleBackupCreate
  rw [hp]
  show Can (task.unlessTerminal (createBackupOf cl task.id payload)) db (.error e) db'
  unfold Task.unlessTerminal
  rw [ht, if_neg Bool.false_ne_true]
  refine (can_progress _ _ _).bind ((can_wrapping (can_getVM hvm)).bind ?_)
  unfold onAssignedNode
  rw [hn]
  refine (can_progress _ _ _).bind (hfreeze.attempt (hback.attempt ?_))
  exact can_ret _

end

/-! ## the theorem -/

lemma not_atomic (hcan : CanSnapshot cl task db) : ¬ Atomic cl task db := by
  intro h
  obtain ⟨e, db', ⟨tr, hrun, htr⟩, hrest⟩ := can_handleBackupCreate hcan
  exact hrest (h.clean tr e db' hrun fun s hs => (htr s hs).1).1

/-- **backup.create is atomic exactly when its first request for a snapshot cannot be carried
out.** -/
theorem atomic_iff (cl : Client) (task : Task) (db : Db) : Atomic cl task db ↔
    ¬ CanSnapshot cl task db := by
  refine ⟨fun h hcan => not_atomic hcan h, fun hno =>
    ⟨fun tr e db' hrun _ => ⟨?_, ?_⟩, fun trs htrs => ?_⟩⟩
  · exact (hrun.each (nothing_handleBackupCreate hno)).2
  · intro b hb _
    rw [backups_of_run hrun] at hb
    exact hb
  · rw [flatMap_eq_nil_iff.mpr fun tr htr => inserted_eq_nil (htrs tr htr)]
    exact Nat.zero_le 1

/-- a VM with an RBD image -/
theorem snapshot_left_behind : ¬ Atomic (clientOf Agent.cephNode) createTask
      (oneVM "ceph" (Agent.aliveHost runningDomain Agent.emptyImage)) := by
  refine not_atomic ⟨⟨"v", "", "", ""⟩, Compute.vmIn "v" .running "ceph", "n", _, rfl, rfl,
    by decide, rfl, rfl, rfl, ?_⟩
  exact ⟨"", Agent.emptyImage, rfl, rfl⟩

end VirtueStack.Backup
