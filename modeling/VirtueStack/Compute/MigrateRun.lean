import VirtueStack.Compute.Agreement
import VirtueStack.Compute.HostWrites
import VirtueStack.Compute.Candidates
import VirtueStack.Compute.MigrateTask

/-!
# The run of a migration: the request, and the first steps of its task

* `Works`, `Sends` the statements of a strategy and of the handler, and `handle_sends`, that there
  are no others.
-/

namespace VirtueStack.Compute
open Txn Call Op List
open Billing (VMStatus)

variable {o : Oracle} {db db' : Db} {v s taskID : String} {vm : VM}

/-! ## statements of the service -/

lemma updateStatus_text (id : String) (st : VMStatus) : VMRepository.updateStatus id st.text =
      VMRepository.update id (.status st) ("updating VM " ++ id ++ " status") := by
  unfold VMRepository.updateStatus
  rw [VMStatus.ofText_text]

def Db.addTask (db : Db) (t : Task) : Db := { db with tasks := db.tasks.insert t }

lemma Db.addTask_find {t : Task} (h : db.tasks.find t.id = none) :
    (db.addTask t).tasks.find t.id = some t :=
  Table.find_insert_self h

lemma publish_eq_ok {type : TaskType} {payload : List (String × Json)} {id : String}
    (h : (TaskPublisher.publishTask type payload).alone o db = (.ok id, db')) :
    db.tasks.find id = none ∧ db' = db.addTask ⟨id, type, .pending, .obj payload, none⟩ := by
  unfold TaskPublisher.publishTask at h
  rw [alone_query] at h
  obtain ⟨h1, h2⟩ := Prod.mk.inj h
  cases ha : store.answer (.createTask type (.obj payload) none) db
    (o (.createTask type (.obj payload) none)) with
  | mk r ws =>
    rw [ha] at h1 h2
    cases r with
    | error e => cases h1
    | ok a =>
      obtain rfl : a = id := Except.ok.inj h1
      obtain ⟨x, -, hx⟩ := Store.exec_of_answer ha
      obtain ⟨hfree, rfl, -⟩ := exec_createTask hx
      exact ⟨hfree, h2.symm⟩

/-! ## the request -/

namespace MigrationService

def Migratable (st : VMStatus) : Prop := st = .running ∨ st = .stopped ∨ st = .suspended

variable {live : Bool} {sourceNode n : Node}

lemma migratable_of_valid {st : VMStatus} (h : validateVMStatusForMigration st live = .ok ()) :
    Migratable st := by
  cases st with
  | running => exact .inl rfl
  | stopped => exact .inr (.inl rfl)
  | suspended => exact .inr (.inr rfl)
  | _ => cases h

lemma sourceOf_eq_ok (h : sourceOf vm live = .ok s) :
    vm.nodeID = some s ∧ Migratable vm.status := by
  unfold sourceOf at h
  split at h
  · cases h
  · split at h
    · cases h
    · rename_i nodeID hn
      split at h
      · rename_i hv
        cases h
        exact ⟨hn, migratable_of_valid hv⟩
      · cases h

lemma validateVMState_eq_ok {r : VM × String}
    (h : (validateVMState v live).alone o db = (.ok r, db')) :
    db.vm v = some r.1 ∧ r.1.nodeID = some r.2 ∧ Migratable r.1.status ∧ db' = db := by
  unfold validateVMState at h
  obtain ⟨vm, _, h1, k1⟩ := alone_bind_eq_ok.mp h
  obtain ⟨⟨-, hvm⟩, rfl⟩ := getVM_eq_ok.mp (replacing_eq_ok.mp h1)
  obtain ⟨s, _, h2, k2⟩ := alone_bind_eq_ok.mp k1
  obtain ⟨hs, rfl⟩ := lift_eq_ok.mp h2
  cases k2
  obtain ⟨hn, hst⟩ := sourceOf_eq_ok hs
  exact ⟨hvm, hn, hst, rfl⟩

lemma bestCandidate_ne {nodes : List Node} (h : bestCandidate nodes sourceNode s vm = .ok n) :
    n.id ≠ s := by
  unfold bestCandidate at h
  split at h
  · rename_i node hsel
    cases h
    rcases selectBestCandidate_cases sourceNode (none, -1) (filterCandidateNodes nodes s vm) with
      ⟨hnone, -⟩ | ⟨best, before, after, hsome, hsplit, -⟩
    · cases hnone.symm.trans hsel
    · cases hsome.symm.trans hsel
      have hm : n ∈ filterCandidateNodes nodes s vm := by
        rw [hsplit]
        exact mem_append_right _ mem_cons_self
      have hf := (mem_filter.mp hm).2
      exact (of_decide_eq_true hf).1
  · cases h

lemma findBestTargetNode_eq_ok (h : (findBestTargetNode s vm).alone o db = (.ok n, db')) :
    n.id ≠ s ∧ db' = db := by
  unfold findBestTargetNode at h
  obtain ⟨sourceNode, _, h1, k1⟩ := alone_bind_eq_ok.mp h
  obtain ⟨-, rfl⟩ := getNode_eq_ok.mp (wrapping_eq_ok.mp h1)
  obtain ⟨nodes, _, h2, k2⟩ := alone_bind_eq_ok.mp k1
  obtain ⟨-, rfl⟩ := (query_eq_ok rfl).mp h2
  obtain ⟨hbest, rfl⟩ := lift_eq_ok.mp k2
  exact ⟨bestCandidate_ne hbest, rfl⟩

lemma validateTargetNode_eq_ok {t : String}
    (h : (validateTargetNode t s).alone o db = (.ok n, db')) : n.id ≠ s ∧ db' = db := by
  unfold validateTargetNode at h
  obtain ⟨_, _, h1, k1⟩ := alone_bind_eq_ok.mp h
  obtain ⟨hne, rfl⟩ := lift_eq_ok.mp h1
  obtain ⟨node, _, h2, k2⟩ := alone_bind_eq_ok.mp k1
  obtain ⟨⟨-, hfind⟩, rfl⟩ := getNode_eq_ok.mp (replacing_eq_ok.mp h2)
  obtain ⟨_, _, h3, k3⟩ := alone_bind_eq_ok.mp k2
  obtain ⟨-, rfl⟩ := lift_eq_ok.mp h3
  cases k3
  have hid : t = n.id := (Table.key_of_find hfind).symm
  refine ⟨fun h => ?_, rfl⟩
  unfold checkDistinct at hne
  rw [if_pos (hid.trans h)] at hne
  cases hne

lemma targetNode_eq_ok {requested : Option String}
    (h : (targetNode requested s vm).alone o db = (.ok n, db')) : n.id ≠ s ∧ db' = db := by
  cases requested with
  | some t => exact validateTargetNode_eq_ok h
  | none => exact findBestTargetNode_eq_ok (wrapping_eq_ok.mp h)

variable {req : MigrateVMRequest}

lemma resolveTargetNode_eq_ok (h : (resolveTargetNode req s vm).alone o db = (.ok n, db')) :
    n.id ≠ s ∧ db' = db := by
  unfold resolveTargetNode at h
  obtain ⟨node, _, h1, k1⟩ := alone_bind_eq_ok.mp h
  obtain ⟨hne, rfl⟩ := targetNode_eq_ok h1
  obtain ⟨_, _, h2, k2⟩ := alone_bind_eq_ok.mp k1
  obtain ⟨-, rfl⟩ := lift_eq_ok.mp (wrapping_eq_ok.mp h2)
  cases k2
  exact ⟨hne, rfl⟩

variable {result : MigrateVMResult}

lemma executeMigration_eq_ok {targetNode : Node} {adminID : String} (hvm : db.vm vm.id = some vm)
    (h : (executeMigration vm s sourceNode targetNode live adminID).alone o db =
      (.ok result, db')) :
    result.sourceNodeID = s ∧ result.targetNodeID = targetNode.id ∧
      db.tasks.find result.taskID = none ∧
      db' = (db.setVM { vm with status := .migrating }).addTask
        ⟨result.taskID, .vmMigrate, .pending,
        .obj (migrationTaskPayload vm s sourceNode targetNode live adminID), none⟩ := by
  unfold executeMigration at h
  obtain ⟨_, _, h1, k1⟩ := alone_bind_eq_ok.mp h
  obtain ⟨-, hdb⟩ := lift_eq_ok.mp (wrapping_eq_ok.mp h1)
  rw [hdb] at k1
  obtain ⟨_, db1, h2, k2⟩ := alone_bind_eq_ok.mp k1
  rw [updateStatus_text, wrapping_eq_ok] at h2
  obtain ⟨x, row, -, hrow, -, rfl⟩ := update_eq_ok.mp h2
  obtain rfl : vm = row := Option.mem_unique hvm hrow
  rw [alone_attempt] at k2
  cases hp : (TaskPublisher.publishTask .vmMigrate
      (migrationTaskPayload vm s sourceNode targetNode live adminID)).alone o
      (db.setVM ((VMUpdate.status .migrating).set x.now vm)) with
  | mk r db2 =>
    rw [hp] at k2
    cases r with
    | ok taskID =>
      cases k2
      obtain ⟨hfree, rfl⟩ := publish_eq_ok hp
      exact ⟨rfl, rfl, hfree, rfl⟩
    | error e =>
      unfold migrationPublished at k2
      rw [alone_bind_ok (alone_logged _)] at k2
      cases k2

/-- **A request that is accepted leaves the VM migrating, with a task to another node.** -/
theorem migrateVM_accepted {adminID : String}
    (h : (migrateVM req adminID).alone o db = (.ok result, db')) :
    ∃ vm sourceNode targetNode, db.vm req.vmID = some vm ∧ vm.nodeID = some result.sourceNodeID ∧
      Migratable vm.status ∧ targetNode.id = result.targetNodeID ∧
      result.targetNodeID ≠ result.sourceNodeID ∧ db.tasks.find result.taskID = none ∧
      db' = (db.setVM { vm with status := .migrating }).addTask
        ⟨result.taskID, .vmMigrate, .pending,
        .obj (migrationTaskPayload vm result.sourceNodeID sourceNode targetNode req.live adminID),
        none⟩ := by
  unfold migrateVM at h
  obtain ⟨⟨vm, source⟩, _, h1, k1⟩ := alone_bind_eq_ok.mp h
  obtain ⟨hvm, hn, hst, rfl⟩ := validateVMState_eq_ok h1
  obtain ⟨sourceNode, _, h2, k2⟩ := alone_bind_eq_ok.mp k1
  obtain ⟨-, rfl⟩ := getNode_eq_ok.mp (wrapping_eq_ok.mp h2)
  obtain ⟨targetNode, _, h3, k3⟩ := alone_bind_eq_ok.mp k2
  obtain ⟨hne, rfl⟩ := resolveTargetNode_eq_ok h3
  have hid : vm.id = req.vmID := Db.vm_id hvm
  obtain ⟨rfl, ht, hfree, hdb⟩ := executeMigration_eq_ok (hid.symm ▸ hvm) k3
  exact ⟨vm, sourceNode, targetNode, hvm, hn, hst, ht.symm, ht ▸ hne, hfree, hdb⟩

end MigrationService

/-! ## the checks of the handler -/

/-- everything the handler looks for is there -/
structure Entities (o : Oracle) (db : Db) (mc : MigrationContext) : Prop where
  vm : served o (.getVM mc.payload.vmID) = true ∧ db.vm mc.payload.vmID = some mc.vm
  source : mc.vm.nodeID = some mc.payload.sourceNodeID
  sourceNode : served o (.getNode mc.payload.sourceNodeID) = true ∧
    db.nodes.find mc.payload.sourceNodeID = some mc.sourceNode
  targetNode : served o (.getNode mc.payload.targetNodeID) = true ∧
    db.nodes.find mc.payload.targetNodeID = some mc.targetNode
  online : mc.targetNode.status = .online

variable {payload p : VMMigratePayload} {mc : MigrationContext} {doc : Json}

lemma checkSource_eq_ok : checkSource payload vm = .ok () ↔
    vm.nodeID = some payload.sourceNodeID := by
  unfold checkSource
  cases vm.nodeID with
  | none => exact ⟨fun h => (by cases h), fun h => (by cases h)⟩
  | some nodeID =>
    by_cases hn : nodeID = payload.sourceNodeID
    · simp [hn]
    · simp [hn]

lemma checkTarget_eq_ok {n : Node} : checkTarget payload n = .ok () ↔ n.status = .online := by
  unfold checkTarget
  by_cases hn : n.status = .online
  · simp [hn]
  · simp [hn]

/-- **The checks pass exactly when everything is there.** -/
theorem validate_eq_ok : (validateMigrationEntities taskID payload).alone o db = (.ok mc, db') ↔
      (mc.taskID = taskID ∧ mc.payload = payload ∧ Entities o db mc) ∧ db' = db := by
  unfold validateMigrationEntities
  constructor
  · intro h
    obtain ⟨vm, _, h1, k1⟩ := alone_bind_eq_ok.mp h
    obtain ⟨hvm, rfl⟩ := getVM_eq_ok.mp (wrapping_eq_ok.mp h1)
    obtain ⟨_, _, h2, k2⟩ := alone_bind_eq_ok.mp k1
    obtain ⟨hsource, rfl⟩ := lift_eq_ok.mp h2
    obtain ⟨sourceNode, _, h3, k3⟩ := alone_bind_eq_ok.mp k2
    obtain ⟨hs, rfl⟩ := getNode_eq_ok.mp (wrapping_eq_ok.mp h3)
    obtain ⟨targetNode, _, h4, k4⟩ := alone_bind_eq_ok.mp k3
    obtain ⟨ht, rfl⟩ := getNode_eq_ok.mp (wrapping_eq_ok.mp h4)
    obtain ⟨_, _, h5, k5⟩ := alone_bind_eq_ok.mp k4
    obtain ⟨honline, rfl⟩ := lift_eq_ok.mp h5
    cases k5
    exact ⟨⟨rfl, rfl, hvm, checkSource_eq_ok.mp hsource, hs, ht, checkTarget_eq_ok.mp honline⟩, rfl⟩
  · rintro ⟨⟨rfl, rfl, h⟩, rfl⟩
    rw [alone_bind_ok (wrapping_eq_ok.mpr (getVM_eq_ok.mpr ⟨h.vm, rfl⟩)),
      alone_bind_ok (lift_eq_ok.mpr ⟨checkSource_eq_ok.mpr h.source, rfl⟩),
      alone_bind_ok (wrapping_eq_ok.mpr (getNode_eq_ok.mpr ⟨h.sourceNode, rfl⟩)),
      alone_bind_ok (wrapping_eq_ok.mpr (getNode_eq_ok.mpr ⟨h.targetNode, rfl⟩)),
      alone_bind_ok (lift_eq_ok.mpr ⟨checkTarget_eq_ok.mpr h.online, rfl⟩)]
    rfl

lemma validate_reads (payload : VMMigratePayload) :
    (validateMigrationEntities taskID payload).All Stmt.Reads := by
  simp [validateMigrationEntities, Stmt.Reads, Stmt.table]

lemma validate_alone_error
    (h : ∀ mc : MigrationContext, mc.payload = payload → ¬ Entities o db mc) :
    ∃ e, (validateMigrationEntities taskID payload).alone o db = (.error e, db) := by
  have hdb : ((validateMigrationEntities taskID payload).alone o db).2 = db :=
    alone_of_reads (validate_reads payload)
  cases hv : (validateMigrationEntities taskID payload).alone o db with
  | mk r db1 =>
    obtain rfl : db1 = db := by rw [hv] at hdb; exact hdb
    cases r with
    | ok mc =>
      obtain ⟨⟨-, hp, he⟩, -⟩ := validate_eq_ok.mp hv
      exact absurd he (h mc hp)
    | error e => exact ⟨e, rfl⟩

variable {mc' : MigrationContext}

lemma begin_eq_some (h : (beginMigration mc).alone o db = (.ok (some mc'), db')) :
    mc' = mc ∧ mc.vm.nodeID ≠ some mc.payload.targetNodeID ∧
      (mc.vm.status = .migrating ∧ db' = db ∨ mc.vm.status ≠ .migrating ∧
        (VMRepository.transitionStatus mc.payload.vmID (mc.payload.fromStatus mc.vm)
          .migrating).alone o db = (.ok (), db')) := by
  unfold beginMigration at h
  by_cases ht : mc.vm.nodeID = some mc.payload.targetNodeID
  · rw [if_pos ht] at h
    obtain ⟨_, _, -, h1⟩ := alone_bind_eq_ok.mp h
    cases h1
  · rw [if_neg ht] at h
    obtain ⟨_, db1, hm, h1⟩ := alone_bind_eq_ok.mp h
    cases h1
    refine ⟨rfl, ht, ?_⟩
    unfold markMigrating at hm
    by_cases hs : mc.vm.status = .migrating
    · rw [if_pos hs] at hm
      cases hm
      exact .inl ⟨hs, rfl⟩
    · rw [if_neg hs] at hm
      exact .inr ⟨hs, wrapping_eq_ok.mp hm⟩

lemma begin_eq_none (h : (beginMigration mc).alone o db = (.ok none, db')) :
    mc.vm.nodeID = some mc.payload.targetNodeID := by
  unfold beginMigration at h
  by_contra ht
  rw [if_neg ht] at h
  obtain ⟨_, db1, -, h1⟩ := alone_bind_eq_ok.mp h
  cases h1

/-! ## the statements of the handler -/

/-- what a strategy can send -/
inductive VMMigratePayload.Works (p : VMMigratePayload) : Stmt → Prop
  | read {q : Stmt} (h : q.table = none) : p.Works q
  | onSource {call : AgentCall} (hs : call.startsNothing = true) (hd : call.writesNoDisk = true) :
      p.Works (.agent p.sourceNodeID call)
  | migrated : p.Works (.agent p.sourceNodeID (.migrateVM p.vmID p.targetNodeID))
  | prepared (diskPath storageBackend : String) :
      p.Works (.agent p.targetNodeID (.prepareMigratedVM p.vmID diskPath storageBackend))
  | started : p.Works (.agent p.targetNodeID (.startVM p.vmID))
  | configured : p.Works (.agent p.targetNodeID (.postMigrateSetup p.vmID))

/-- what the handler of this payload can send -/
inductive VMMigratePayload.Sends (p : VMMigratePayload) : Stmt → Prop
  | works {q : Stmt} (h : p.Works q) : p.Sends q
  | completed (taskID : String) : p.Sends (.setCompleted taskID)
  | marked {src : VMStatus} (hpre : p.preMigrationState ≠ "" → src.text = p.preMigrationState)
      (hf : Follows src .migrating) : p.Sends (.updateVM p.vmID (.transition src .migrating))
  | failed : p.Sends (.updateVM p.vmID (.transition .migrating .error))
  | assigned : p.Sends (.updateVM p.vmID (.node p.targetNodeID))
  | restored : p.Sends
      (.updateVM p.vmID (.transition .migrating (migrationFinalStatus p.preMigrationState)))
  | deleted : p.Sends (.agent p.sourceNodeID (.deleteDisk p.vmID))

section
variable {ok : Stmt → Prop}

lemma all_transition {vmID src : String} {dst : VMStatus}
    (h : ∀ st, validateVMTransition src dst = .ok st → ok (.updateVM vmID (.transition st dst))) :
    (VMRepository.transitionStatus vmID src dst).All ok := by
  unfold VMRepository.transitionStatus
  cases hv : validateVMTransition src dst with
  | error e => exact trivial
  | ok st =>
    refine All.bind (c := query _ _) (all_query.mpr (h st hv)) fun done => ?_
    cases done <;> trivial

@[simp] lemma all_agent {node : String} {call : AgentCall} :
    (NodeAgent.call node call).All ok ↔ ok (.agent node call) := by
  refine ⟨fun h => h.1, fun h => (all_query.mpr h).bind fun r => ?_⟩
  cases r <;> trivial

end

namespace MigrationContext
variable (mc : MigrationContext)

lemma progress_alone (percent : Int) (message : String) :
    (mc.progress percent message).alone o db = (.ok (), db) := Compute.progress_alone _ _ _

@[simp] lemma progress_works (percent : Int) (message : String) :
    (mc.progress percent message).All mc.payload.Works :=
  all_logged.mpr (all_affecting.mpr (all_query.mpr (.read rfl)))

@[simp] lemma onSource_works {call : AgentCall} (h : call.startsNothing = true)
    (hd : call.writesNoDisk = true) :
    (mc.onSource call).All mc.payload.Works := all_agent.mpr (.onSource h hd)

@[simp] lemma transferDisk_works (failure backend snapshot : String) :
    (mc.transferDisk failure backend snapshot).All mc.payload.Works :=
  all_wrapping.mpr (mc.onSource_works rfl rfl)

@[simp] lemma stopVMGracefully_works : mc.stopVMGracefully.All mc.payload.Works := by
  refine all_wrapping.mpr ((mc.onSource_works rfl rfl).attempt fun r => ?_)
  cases r with
  | ok u => exact trivial
  | error e => exact all_wrapping.mpr (mc.onSource_works rfl rfl)

@[simp] lemma undefineVM_works : mc.undefineVM.All mc.payload.Works :=
  all_logged.mpr (mc.onSource_works rfl rfl)

@[simp] lemma prepareMigratedVM_works : mc.prepareMigratedVM.All mc.payload.Works :=
  all_wrapping.mpr (all_agent.mpr (.prepared _ _))

@[simp] lemma startVM_works : mc.startVM.All mc.payload.Works :=
  all_wrapping.mpr (all_agent.mpr .started)

@[simp] lemma postMigrateSetup_works : mc.postMigrateSetup.All mc.payload.Works :=
  all_logged.mpr (all_agent.mpr .configured)

end MigrationContext

section
variable (mc : MigrationContext)

@[simp] lemma liveShared_works : (executeLiveSharedStorageMigration mc).All mc.payload.Works := by
  have hmigrate : (mc.onSource (.migrateVM mc.payload.vmID mc.payload.targetNodeID)).All
    mc.payload.Works :=
    all_agent.mpr .migrated
  simp [executeLiveSharedStorageMigration, hmigrate]

@[simp] lemma LiveCopy.syncProgress_works (k : LiveCopy) :
    (k.syncProgress mc).All mc.payload.Works := by
  unfold LiveCopy.syncProgress
  cases k.syncMessage with
  | none => exact trivial
  | some message => exact mc.progress_works _ _

@[simp] lemma LiveCopy.switchover_works (k : LiveCopy) :
    (k.switchover mc).All mc.payload.Works := by
  simp [LiveCopy.switchover]

@[simp] lemma LiveCopy.ended_works (r : Except GoError Unit) :
    (LiveCopy.ended mc r).All mc.payload.Works :=
  (all_logged.mpr (mc.onSource_works rfl rfl)).bind fun _ => all_lift r

@[simp] lemma LiveCopy.execute_works (k : LiveCopy) : (k.execute mc).All mc.payload.Works := by
  have hsnapshot : (mc.onSource (.createSnapshot mc.payload.vmID mc.snapshotName)).All
    mc.payload.Works :=
    mc.onSource_works rfl rfl
  simp [LiveCopy.execute, hsnapshot]

@[simp] lemma ColdCopy.ensureStopped_works (k : ColdCopy) :
    (k.ensureStopped mc).All mc.payload.Works :=
  All.ite (fun _ => (mc.progress_works _ _).bind fun _ => mc.stopVMGracefully_works) fun _ =>
    trivial

@[simp] lemma ColdCopy.execute_works (k : ColdCopy) : (k.execute mc).All mc.payload.Works := by
  simp [ColdCopy.execute, startAgain]

lemma strategy_works : (executeMigrationStrategy mc).All mc.payload.Works := by
  simp [executeMigrationStrategy, strategyOf, executeDiskCopyMigration, diskCopy,
    executeLiveLVMMigration, executeColdLVMMigration, executeLiveDiskCopyMigration,
    executeColdDiskCopyMigration, executeColdMigration]

lemma text_inj {a b : VMStatus} (h : a.text = b.text) : a = b :=
  Option.some.inj ((VMStatus.ofText_text a).symm.trans
    ((congrArg VMStatus.ofText h).trans (VMStatus.ofText_text b)))

lemma progress_sends (percent : Int) (message : String) :
    (mc.progress percent message).All mc.payload.Sends :=
  (mc.progress_works percent message).mono fun _ hq => .works hq

lemma completeMigration_sends : (completeMigration mc).All mc.payload.Sends := by
  have hdelete : (mc.onSource (.deleteDisk mc.payload.vmID)).All mc.payload.Sends :=
    all_agent.mpr .deleted
  simp [completeMigration, cleanupSourceDiskAfterCommit, progress_sends, hdelete,
    VMMigratePayload.Sends.completed]

lemma finalize_sends : (finalizeMigration mc).All mc.payload.Sends := by
  have hrestored : (VMRepository.transitionStatus mc.payload.vmID VMStatus.migrating.text
      (migrationFinalStatus mc.payload.preMigrationState)).All mc.payload.Sends := by
    refine all_transition fun st hst => ?_
    obtain rfl := text_inj (validateVMTransition_ok.mp hst).1
    exact .restored
  simp [finalizeMigration, statusRestored, progress_sends, hrestored, completeMigration_sends,
    VMMigratePayload.Sends.assigned]

lemma migrate_sends : (migrate (some mc)).All mc.payload.Sends := by
  refine All.attempt ((strategy_works mc).mono fun _ hq => .works hq) fun r => ?_
  cases r with
  | ok u => exact finalize_sends mc
  | error e =>
    refine All.bind (all_logged.mpr (all_transition fun st hst => ?_)) fun _ => trivial
    obtain rfl := text_inj (validateVMTransition_ok.mp hst).1
    exact .failed

lemma begin_sends : (beginMigration mc).All mc.payload.Sends := by
  refine All.ite (fun _ => ?_) fun _ => All.bind ?_ fun _ => trivial
  · refine All.bind ?_ fun _ => trivial
    refine (progress_sends mc _ _).bind fun _ => ?_
    exact all_logged.mpr (all_affecting.mpr (all_query.mpr (.completed _)))
  · refine All.ite (fun _ => trivial) fun _ => all_wrapping.mpr (all_transition fun st hst => ?_)
    obtain ⟨ht, hf⟩ := validateVMTransition_ok.mp hst
    refine .marked (fun hpre => ?_) hf
    rw [ht]
    exact if_neg hpre

end

lemma validate_returns (h : (validateMigrationEntities taskID payload).Returns mc) :
    mc.payload = payload := by
  obtain ⟨vm, -, h1⟩ := returns_bind h
  obtain ⟨_, -, h2⟩ := returns_bind h1
  obtain ⟨sourceNode, -, h3⟩ := returns_bind h2
  obtain ⟨targetNode, -, h4⟩ := returns_bind h3
  obtain ⟨_, -, h5⟩ := returns_bind h4
  cases h5
  rfl

lemma begin_returns (h : (beginMigration mc).Returns (some mc')) : mc' = mc := by
  unfold beginMigration at h
  split at h
  · obtain ⟨_, -, h1⟩ := returns_bind h
    cases h1
  · obtain ⟨_, -, h1⟩ := returns_bind h
    cases h1
    rfl

lemma prepare_of_decoded (h : VMMigratePayload.decode doc = .ok p) :
    prepareMigrationContext taskID doc = (do
      let mc ← validateMigrationEntities taskID p
      beginMigration mc) := by
  unfold prepareMigrationContext
  rw [h]
  rfl

/-- **The handler sends nothing else.** -/
theorem handle_sends (h : VMMigratePayload.decode doc = .ok p) :
    (handleVMMigrate taskID doc).All p.Sends := by
  refine All.bind_of ?_ fun mc hmc => ?_
  · rw [prepare_of_decoded h]
    refine All.bind_of ((validate_reads p).mono fun q hq => .works (.read hq)) fun mc hmc => ?_
    rw [← validate_returns hmc]
    exact begin_sends mc
  · cases mc with
    | none => exact trivial
    | some mc =>
      rw [prepare_of_decoded h] at hmc
      obtain ⟨mc', h1, h2⟩ := returns_bind hmc
      rw [← validate_returns h1, ← begin_returns h2]
      exact migrate_sends mc

end VirtueStack.Compute
