import VirtueStack.Compute.MigrateRetry
import VirtueStack.Txn.Does
import VirtueStack.Txn.Schedule

/-!
# A migration is cancelled while its task runs

Two sessions: `CancelMigration` of a VM and the execution of its `vm.migrate` task.

* `InTime` the schedule: the request is made while the task waits for the transfer, or after the
  task, and the task stands still meanwhile; a transfer that was under way then fails; and the
  commit of the task is not cut off between its two statements;
* `worker_each` at every other point of the task a VM that is migrating is on its source;
* `restoreStatus_ok` the status that is restored is running, whatever tasks there are:
  `TaskRepository.List` fails as soon as there is one.
-/

namespace VirtueStack.Compute
open Txn Call Op
open Billing (VMStatus)
open MigrationService

inductive Party where
  | canceller
  | worker
  deriving DecidableEq

def parties (vmID taskID : String) (doc : Json) : Party → Op Unit
  | .canceller => MigrationService.cancelMigration vmID
  | .worker => handleVMMigrate taskID doc

/-! ## the schedule -/

/-- the agent moves the VM or its disk -/
def Stmt.transfers : Stmt → Bool
  | .agent _ (.migrateVM _ _) => true
  | .agent _ (.transferDisk _) => true
  | _ => false

/-- the second statement of the commit of a migration -/
def Stmt.restores : Stmt → Bool
  | .updateVM _ (.transition .migrating dst) => dst ≠ .error
  | _ => false

/-- the first statement of `CancelMigration` -/
def Stmt.looksUp : Stmt → Bool
  | .getVM _ => true
  | _ => false

/-- the agent cannot be reached, or it fails -/
def refused : (q : Stmt) → Except PgError q.Ans → Bool
  | .agent _ _, .ok (.ok _) => false
  | _, _ => true

def carriedOut : Event store → Bool
  | .ok _ => true
  | .fail _ => false

def InTime {ρ : Type} (s : State store Party ρ) : Party → Label store → Prop
  | .canceller, _ => ∀ q ∈ Prog.next (s.prog .worker), q.transfers = true
  | .worker, .crash => ∀ q ∈ Prog.next (s.prog .worker), q.restores = false
  | .worker, .ev e => (∀ q ∈ Prog.next (s.prog .canceller), q.looksUp = true) ∧
      ∀ q ∈ Prog.next (s.prog .worker), (q.restores = true → carriedOut e = true) ∧
        (Prog.next (s.prog .canceller) = none → q.transfers = true →
          refused q (store.answer q s.mem.db e).1 = true)

instance {ρ : Type} (s : State store Party ρ) (i : Party) (a : Label store) :
    Decidable (InTime s i a) :=
  match i, a with
  | .canceller, _ =>
    inferInstanceAs (Decidable (∀ q ∈ Prog.next (s.prog .worker), q.transfers = true))
  | .worker, .crash =>
    inferInstanceAs (Decidable (∀ q ∈ Prog.next (s.prog .worker), q.restores = false))
  | .worker, .ev _ => inferInstanceAs (Decidable (_ ∧ ∀ q ∈ Prog.next (s.prog .worker), (_ → _) ∧
      (Prog.next (s.prog .canceller) = none → _ → _)))

variable {o : Oracle} {db : Db} {v taskID : String} {p : VMMigratePayload} {q : Stmt}
  {e : Event store}

/-! ## the row of the VM -/

section
variable (p : VMMigratePayload) (db : Db)

/-- the VM is back: on its source and running -/
def Restored : Prop :=
  ∃ vm, db.vm p.vmID = some vm ∧ vm.nodeID = some p.sourceNodeID ∧ vm.status = .running

def OnSource : Prop := ∀ vm, db.vm p.vmID = some vm → vm.nodeID = some p.sourceNodeID

def NotMigrating : Prop := ∀ vm, db.vm p.vmID = some vm → vm.status ≠ .migrating

/-- a VM that is migrating is on its source -/
def Cancellable : Prop :=
  ∀ vm, db.vm p.vmID = some vm → vm.status = .migrating → vm.nodeID = some p.sourceNodeID

end

lemma OnSource.cancellable (h : OnSource p db) : Cancellable p db := fun vm hvm _ => h vm hvm

lemma NotMigrating.cancellable (h : NotMigrating p db) :
    Cancellable p db := fun vm hvm hm => absurd hm (h vm hvm)

lemma vm_answer (h : q.table ≠ some .vms) :
    Db.vm (store.view db (store.answer q db e).2) v = db.vm v := by
  have hvms : (store.view db (store.answer q db e).2).vms = db.vms :=
    Db.part_answer (t := .vms) h db e
  unfold Db.vm
  rw [hvms]

/-- an update that is carried out, or nothing -/
lemma answer_update (db : Db) (v : String) (u : VMUpdate) (e : Event store) :
    (∃ x vm, db.vm v = some vm ∧ u.applies vm = true ∧
      store.answer (.updateVM v u) db e = (.ok true, [.putVM (u.set x vm)])) ∨
    (store.answer (.updateVM v u) db e).2 = [] ∧ (store.answer (.updateVM v u) db e).1 ≠ .ok true ∧
      (carriedOut e = true → ∀ vm, db.vm v = some vm → u.applies vm = false) := by
  cases e with
  | fail f => exact .inr ⟨rfl, fun h => (by cases h), fun h => (by cases h)⟩
  | ok x =>
    by_cases h : ∃ vm, db.vm v = some vm ∧ u.applies vm = true
    · obtain ⟨vm, hvm, hu⟩ := h
      exact .inl ⟨x.now, vm, hvm, hu, congrArg (fun r => (Except.ok r.1, r.2))
        (Db.updateVM_of_applies hvm hu)⟩
    · have hnot : ∀ vm, db.vm v = some vm → u.applies vm = false := fun vm hvm =>
        Bool.eq_false_iff.mpr fun hu => h ⟨vm, hvm, hu⟩
      have hanswer : store.answer (.updateVM v u) db (.ok x) = (.ok false, []) :=
        congrArg (fun r => (Except.ok r.1, r.2)) (Db.updateVM_of_not hnot)
      rw [hanswer]
      exact .inr ⟨rfl, fun h => (by cases h), fun _ => hnot⟩

/-- a status that changes leaves the node as it is -/
lemma OnSource.transition {src dst : VMStatus} (h : OnSource p db) :
    OnSource p (store.view db (store.answer (.updateVM p.vmID (.transition src dst)) db e).2) := by
  rcases answer_update db p.vmID (.transition src dst) e with ⟨x, vm, hvm, -, hu⟩ | ⟨hu, -⟩
  · rw [hu]
    intro row hrow
    have hset : (db.setVM ((VMUpdate.transition src dst).set x vm)).vm p.vmID = _ :=
      Db.setVM_vm hvm rfl (Db.vm_eq_some.mp hvm).2
    obtain rfl := Option.mem_unique hset hrow
    exact h vm hvm
  · rw [hu]
    exact h

/-- what leaves the node of the VM as it is -/
def NodeStays (p : VMMigratePayload) (q : Stmt) : Prop :=
  q.table ≠ some .vms ∨ q.restores = false ∧ ∃ src dst, q = .updateVM p.vmID (.transition src dst)

lemma OnSource.stays (hq : NodeStays p q) (h : OnSource p db) :
    OnSource p (store.view db (store.answer q db e).2) := by
  rcases hq with hq | ⟨-, src, dst, rfl⟩
  · intro vm hvm
    rw [vm_answer hq] at hvm
    exact h vm hvm
  · exact h.transition

/-! ## the task by itself -/

/-- the commit is not cut off -/
def Carried (q : Stmt) (e : Event store) (_ : Db) : Prop := q.restores = true → carriedOut e = true

/-- but for the commit, the request may come in -/
def Open (p : VMMigratePayload) (q : Stmt) (_ : Event store) (db : Db) : Prop :=
  q.restores = false → Cancellable p db

variable {α : Type} {c : Op α}

lemma each_onSource (hc : c.All (NodeStays p)) (h : OnSource p db) :
    c.Each Carried (Open p) (fun _ db => OnSource p db) db :=
  Each.of_all hc (fun _ hq _ _ _ h => ⟨fun _ => h.cancellable, h.stays hq⟩) h

lemma each_settled (hc : c.All fun q : Stmt => q.table ≠ some .vms) (h : NotMigrating p db) :
    c.Each Carried (Open p) (fun _ db => NotMigrating p db) db := by
  refine Each.of_all hc (fun q hq e db _ h => ⟨fun _ => h.cancellable, fun vm hvm => h vm ?_⟩) h
  rw [vm_answer hq] at hvm
  exact hvm

lemma works_table (h : p.Works q) : q.table ≠ some .vms := by
  cases h with
  | read h =>
    rw [h]
    exact fun h => by cases h
  | _ => exact fun h => by cases h

variable {mc : MigrationContext}

lemma completeMigration_settled :
    (completeMigration mc).All fun q : Stmt => q.table ≠ some .vms := by
  simp [completeMigration, cleanupSourceDiskAfterCommit, MigrationContext.progress,
    Compute.progress, TaskRepository.updateProgress, TaskRepository.setCompleted,
    MigrationContext.onSource, Stmt.table]

lemma restored_each (hpre : p.preMigrationState = VMStatus.running.text) :
    (VMRepository.transitionStatus p.vmID VMStatus.migrating.text
      (migrationFinalStatus p.preMigrationState)).Each
      Carried (Open p) (fun _ db => NotMigrating p db) db := by
  have hfinal : migrationFinalStatus p.preMigrationState = .running := by
    rw [hpre]
    rfl
  rw [hfinal]
  refine Each.bind (c := query (.updateVM p.vmID (.transition .migrating .running)) _)
    (R := fun _ db => NotMigrating p db) (each_stmt.mpr fun e he => ⟨fun h => (by cases h), ?_⟩)
    (fun done db h => ?_) fun _ _ h => h
  · rcases answer_update db p.vmID (.transition .migrating .running) e with ⟨x, vm, hvm, -,
      hu⟩ | ⟨hu, -, hnot⟩
    · rw [hu]
      intro row hrow
      have hset : (db.setVM ((VMUpdate.transition .migrating .running).set x vm)).vm p.vmID = _ :=
        Db.setVM_vm hvm rfl (Db.vm_eq_some.mp hvm).2
      obtain rfl := Option.mem_unique hset hrow
      exact fun h => by cases h
    · rw [hu]
      intro vm hvm hm
      have happlies := hnot (he rfl) vm hvm
      rw [transition_applies hvm, hm] at happlies
      cases happlies
  · cases done with
    | true | false => exact h

lemma finalize_each (hmc : mc.payload = p) (hpre : p.preMigrationState = VMStatus.running.text)
    (h : OnSource p db) :
    (finalizeMigration mc).Each Carried (Open p) (fun _ db => Cancellable p db) db := by
  subst hmc
  refine Each.bind (each_onSource (p := mc.payload) ?_ h) (fun _ db h => ?_) fun _ _ h =>
    h.cancellable
  · exact (mc.progress_works _ _).mono fun _ hq => .inl (works_table hq)
  refine Each.bind (R := fun r db => r ≠ .ok () → OnSource mc.payload db) ?_ (fun _ db _ => ?_)
    fun e _ h => (h fun h => by cases h).cancellable
  · refine (each_attempt _).mpr
      ((each_bind _).mpr (each_stmt.mpr fun e _ => ⟨fun _ => h.cancellable, ?_⟩))
    rcases answer_update db mc.payload.vmID (.node mc.payload.targetNodeID) e with ⟨x, vm, -, -,
      hu⟩ | ⟨hu, hno, -⟩
    · rw [hu]
      exact fun h => absurd rfl h
    · rw [hu]
      cases ha :
        (store.answer (.updateVM mc.payload.vmID (.node mc.payload.targetNodeID)) db e).1 with
      | error err => exact fun _ => h
      | ok done =>
        cases done with
        | true => exact absurd ha hno
        | false => exact fun _ => h
  · refine Each.attempt (restored_each hpre) fun r db h => ?_
    cases r with
    | ok u => exact (each_settled completeMigration_settled h).mono fun _ _ h => h.cancellable
    | error err =>
      dsimp only [statusRestored]
      split
      · exact h.cancellable
      · exact (each_settled completeMigration_settled h).mono fun _ _ h => h.cancellable

lemma transition_stays {src : String} {dst : VMStatus} (h : dst = .error ∨ dst = .migrating) :
    (VMRepository.transitionStatus p.vmID src dst).All (NodeStays p) := by
  refine all_transition fun st hst => .inr ⟨?_, st, dst, rfl⟩
  rcases h with rfl | rfl
  · cases st <;> rfl
  · have hf := (validateVMTransition_ok.mp hst).2
    cases st with
    | migrating => exact absurd hf (by decide)
    | _ => rfl

lemma failure_stays (hmc : mc.payload = p) (e : GoError) :
    (strategyEnded mc (.error e)).All (NodeStays p) := by
  subst hmc
  exact All.bind (all_logged.mpr (transition_stays (.inl rfl))) fun _ => trivial

lemma begin_stays (hmc : mc.payload = p) : (beginMigration mc).All (NodeStays p) := by
  subst hmc
  refine All.ite (fun _ => All.bind ?_ fun _ => trivial) fun _ => All.bind ?_ fun _ => trivial
  · simp [markMigrationComplete, Compute.progress, TaskRepository.updateProgress,
      TaskRepository.setCompleted, NodeStays, Stmt.table]
  · exact All.ite (fun _ => trivial) fun _ => all_wrapping.mpr (transition_stays (.inr rfl))

/-- **At every point of the task but one, a VM that is migrating is on its source.** -/
theorem worker_each {doc : Json} (hdec : VMMigratePayload.decode doc = .ok p)
    (hpre : p.preMigrationState = VMStatus.running.text) (h : OnSource p db) :
    (handleVMMigrate taskID doc).Each Carried (Open p) (fun _ db => Cancellable p db) db := by
  have hprepare : (prepareMigrationContext taskID doc).All (NodeStays p) := by
    rw [prepare_of_decoded hdec]
    refine All.bind_of ((validate_reads p).mono fun q hq => .inl ?_) fun mc hmc => ?_
    · exact fun h => by cases hq.symm.trans h
    · exact begin_stays (validate_returns hmc)
  refine Each.bind (Prog.Each.returning (each_onSource hprepare h)) (fun mc db h => ?_) fun _ _ h =>
    h.1.cancellable
  obtain ⟨h, hmc⟩ := h
  cases mc with
  | none => exact h.cancellable
  | some mc =>
    rw [prepare_of_decoded hdec] at hmc
    obtain ⟨mc', h1, h2⟩ := returns_bind (S := store) hmc
    have hp : mc.payload = p := by rw [begin_returns h2, validate_returns h1]
    refine Each.attempt (each_onSource ((strategy_works mc).mono fun q hq => .inl ?_) h)
      fun r db h => ?_
    · exact works_table hq
    cases r with
    | ok u => exact finalize_each hp hpre h
    | error e => exact (each_onSource (failure_stays hp e) h).mono fun _ _ h => h.cancellable

/-! ## the task after a transfer that has failed -/

def NoTransfer (q : Stmt) : Prop := q.transfers = false

def Aborted (q : Stmt) (a : Except PgError q.Ans) : Prop := q.transfers = true ∧ refused q a = true

/-- what the task sends after that -/
def Late (p : VMMigratePayload) (q : Stmt) : Prop :=
  q.table ≠ some .vms ∨ q = .updateVM p.vmID (.transition .migrating .error)

def Failed (r : Except GoError α) : Prop := ∃ e, r = .error e

/-- once a transfer fails, the call fails -/
def Aborts (p : VMMigratePayload) (c : Op α) : Prop :=
  Prog.Yields (S := store) Aborted (Late p) Failed c

variable {β : Type}

lemma aborts_quiet (hc : c.All NoTransfer) : Aborts p c :=
  Prog.All.yields (Prog.All.mono (fun _ hq _ ha => Bool.noConfusion (hq.symm.trans ha.1)) hc)

lemma Aborts.bind {f : α → Op β} (hc : Aborts p c) (hf : ∀ a, Aborts p (f a)) :
    Aborts p (c >>= f) := by
  refine Prog.Yields.bind hc (fun r hr => ?_) fun r _ => ?_
  · obtain ⟨e, rfl⟩ := hr
    exact ⟨e, rfl⟩
  · cases r with
    | ok a => exact hf a
    | error e => exact trivial

lemma aborts_agent (context node : String) (call : AgentCall) :
    Aborts p (wrapping context (NodeAgent.call node call)) := by
  refine ⟨fun a ha => ?_, fun a => ?_⟩
  · match a, ha.2 with
    | .error e, _ => exact ⟨_, rfl⟩
    | .ok (.error why), _ => exact ⟨_, rfl⟩
  · match a with
    | .error e => exact trivial
    | .ok (.error why) => exact trivial
    | .ok (.ok _) => exact trivial

@[simp] lemma progress_quiet (percent : Int) (message : String) :
    (mc.progress percent message).All NoTransfer :=
  all_logged.mpr (all_affecting.mpr (all_query.mpr rfl))

@[simp] lemma stop_quiet : mc.stopVMGracefully.All NoTransfer := by
  have hagent : ∀ call, Stmt.transfers (.agent mc.payload.sourceNodeID call) = false →
    (mc.onSource call).All NoTransfer :=
    fun _ h => all_agent.mpr h
  refine all_wrapping.mpr ((hagent _ rfl).attempt fun r => ?_)
  cases r with
  | ok u => exact trivial
  | error e => exact all_wrapping.mpr (hagent _ rfl)

lemma transition_quiet {src : String} {dst : VMStatus} :
    (VMRepository.transitionStatus v src dst).All NoTransfer :=
  all_transition fun _ _ => rfl

lemma LiveCopy.aborts (k : LiveCopy) : Aborts p (k.execute mc) := by
  have hswitch : Aborts p (k.switchover mc) := by
    refine (aborts_quiet (progress_quiet _ _)).bind fun _ => (aborts_agent _ _ _).bind fun _ =>
      aborts_quiet ?_
    unfold LiveCopy.syncProgress
    cases k.syncMessage <;>
      simp [MigrationContext.undefineVM, MigrationContext.prepareMigratedVM,
        MigrationContext.startVM,
        MigrationContext.postMigrateSetup, MigrationContext.onSource, MigrationContext.onTarget,
        NoTransfer, Stmt.transfers]
  refine (aborts_quiet (progress_quiet _ _)).bind fun _ => (aborts_agent _ _ _).bind fun _ => ?_
  refine Prog.Yields.bind hswitch (fun r hr => ?_) fun r _ => aborts_quiet ?_
  · obtain ⟨e, rfl⟩ := hr
    have hdelete : (logged (mc.onSource (.deleteSnapshot mc.payload.vmID mc.snapshotName))).All
      (Late p) :=
      all_logged.mpr (all_agent.mpr (.inl fun h => by cases h))
    refine Prog.Does.bind (fun _ h => h) (Prog.All.does hdelete) fun r _ => ?_
    cases r with
    | ok u => exact ⟨e, rfl⟩
    | error err => exact ⟨err, rfl⟩
  · exact All.bind (all_logged.mpr (all_agent.mpr rfl)) fun _ => all_lift r

lemma ColdCopy.aborts (k : ColdCopy) : Aborts p (k.execute mc) := by
  have hstopped : (k.ensureStopped mc).All NoTransfer :=
    All.ite (fun _ => (progress_quiet _ _).bind fun _ => stop_quiet) fun _ => trivial
  refine (aborts_quiet hstopped).bind fun _ => (aborts_quiet (progress_quiet _ _)).bind fun _ => ?_
  refine (aborts_agent _ _ _).bind fun _ => aborts_quiet ?_
  simp [startAgain, MigrationContext.undefineVM, MigrationContext.prepareMigratedVM,
    MigrationContext.startVM,
    MigrationContext.onSource, MigrationContext.onTarget, NoTransfer, Stmt.transfers]

lemma strategy_aborts (mc : MigrationContext) : Aborts p (executeMigrationStrategy mc) := by
  refine (aborts_quiet (progress_quiet _ _)).bind fun _ => ?_
  unfold strategyOf
  split
  · refine (aborts_quiet (progress_quiet _ _)).bind fun _ => (aborts_agent _ _ _).bind fun _ =>
      aborts_quiet ?_
    exact (progress_quiet _ _).bind fun _ => all_logged.mpr (all_agent.mpr rfl)
  split
  · refine (aborts_quiet (progress_quiet _ _)).bind fun _ => ?_
    unfold diskCopy
    split <;> split
    · exact LiveCopy.aborts _
    · exact ColdCopy.aborts _
    · exact LiveCopy.aborts _
    · exact ColdCopy.aborts _
  split
  · exact ColdCopy.aborts _
  · exact trivial

lemma completeMigration_quiet : (completeMigration mc).All NoTransfer := by
  simp [completeMigration, cleanupSourceDiskAfterCommit, TaskRepository.setCompleted,
    MigrationContext.onSource, NoTransfer, Stmt.transfers]

lemma ended_quiet (r : Except GoError Unit) : (strategyEnded mc r).All NoTransfer := by
  cases r with
  | error e => exact All.bind (all_logged.mpr transition_quiet) fun _ => trivial
  | ok u =>
    refine (progress_quiet _ _).bind fun _ => ?_
    refine All.bind (all_wrapping.mpr (all_affecting.mpr (all_query.mpr rfl))) fun _ => ?_
    refine transition_quiet.attempt fun r => ?_
    cases r with
    | ok u => exact completeMigration_quiet
    | error e => exact All.ite (fun _ => trivial) fun _ => completeMigration_quiet

lemma begin_quiet : (beginMigration mc).All NoTransfer := by
  refine All.ite (fun _ => All.bind ?_ fun _ => trivial) fun _ => All.bind ?_ fun _ => trivial
  · simp [markMigrationComplete, Compute.progress, TaskRepository.updateProgress,
      TaskRepository.setCompleted, NoTransfer, Stmt.transfers]
  · exact All.ite (fun _ => trivial) fun _ => all_wrapping.mpr transition_quiet

/-- **A task whose transfer fails does not touch the VM any more**, but for the status error. -/
theorem worker_yields {doc : Json} (hdec : VMMigratePayload.decode doc = .ok p) :
    Prog.Yields (S := store) Aborted (Late p) (fun _ => True) (handleVMMigrate taskID doc) := by
  have hprepare : (prepareMigrationContext taskID doc).All NoTransfer := by
    rw [prepare_of_decoded hdec]
    refine All.bind ?_ fun mc => begin_quiet
    simp [validateMigrationEntities, VMRepository.getByID, NodeRepository.getByID, NoTransfer,
      Stmt.transfers]
  have hquiet : ∀ {β : Type} {c : Op β} {Q : Except GoError β → Prop}, c.All NoTransfer →
      Prog.Yields (S := store) Aborted (Late p) Q c :=
    fun hc =>
      Prog.All.yields (Prog.All.mono (fun _ hq _ ha => Bool.noConfusion (hq.symm.trans ha.1)) hc)
  refine Prog.Yields.bind (Q := fun _ => False) (hquiet hprepare) (fun _ h => h.elim) fun r hr => ?_
  rw [prepare_of_decoded hdec] at hr
  rcases r with e | _ | mc
  · exact trivial
  · exact trivial
  · obtain ⟨mc', h1, h2⟩ := returns_bind (S := store) hr
    have hp : mc.payload = p := by rw [begin_returns h2, validate_returns h1]
    refine Prog.Yields.bind (strategy_aborts mc) (fun r hr => ?_) fun r _ => hquiet (ended_quiet r)
    obtain ⟨e, rfl⟩ := hr
    refine Prog.All.does
      (All.bind (all_logged.mpr (all_transition fun st hst => .inr ?_)) fun _ => trivial)
    rw [hp, text_inj (validateVMTransition_ok.mp hst).1]

/-! ## the request -/

/-- nothing is assumed of what the outside does -/
def Free (_ : Stmt) (_ : Event store) (_ : Db) : Prop := True

lemma restoreStatus_each :
    (restoreStatus v).Each Free Free
      (fun r db' => r = .ok VMStatus.running.text ∧ db' = db) db := by
  refine (each_attempt _).mpr (each_stmt.mpr fun e _ => ⟨trivial, ?_⟩)
  cases ha : store.answer (.listTasks .vmMigrate) db e with
  | mk r ws =>
    cases r with
    | error err =>
      obtain rfl := Store.answer_error ha
      exact ⟨rfl, rfl⟩
    | ok tasks =>
      obtain ⟨x, -, hx⟩ := Store.exec_of_answer ha
      simp only [exec] at hx
      split at hx
      · cases hx
      · cases hx
        exact ⟨rfl, rfl⟩

lemma restoreStatus_ok : ((restoreStatus v).alone o db).1 = .ok VMStatus.running.text :=
  (Prog.Each.alone (fun _ _ => trivial) restoreStatus_each).1

/-- **A request that succeeds has found the VM migrating**: it is on its source, and it is running
again. -/
lemma canceller_each (h : Cancellable p db) :
    (cancelMigration p.vmID).Each Free Free (fun r db => r = .ok () → Restored p db) db := by
  have hget : (getVM p.vmID).Each Free Free (Kept db fun vm => db.vm p.vmID = some vm) db := by
    refine (each_attempt _).mpr ((each_bind _).mpr (each_stmt.mpr fun e _ => ⟨trivial, ?_⟩))
    cases e with
    | fail f => exact ⟨rfl, fun a ha => by cases ha⟩
    | ok x =>
      show Next (S := store) Free Free _ _ (Except.ok (db.vm p.vmID)) db
      cases hvm : db.vm p.vmID with
      | none => exact ⟨rfl, fun a ha => by cases ha⟩
      | some vm => exact ⟨rfl, fun a ha => congrArg some (Except.ok.inj ha)⟩
  refine hget.kept_bind (fun vm hvm => ?_) fun e h => by cases h
  by_cases hm : vm.status = .migrating
  · have hcheck : checkMigrating vm = .ok () := if_pos hm
    rw [hcheck]
    have habort : (abortMigration vm p.vmID).All fun q : Stmt => q.table ≠ some .vms := by
      unfold abortMigration
      cases vm.nodeID with
      | none => exact trivial
      | some node => exact all_logged.mpr (all_agent.mpr fun h => by cases h)
    refine Each.bind (c := abortMigration vm p.vmID) (R := fun _ db' => db'.vm p.vmID = some vm)
      (Each.of_all habort (fun q hq e db' _ h => ⟨trivial, (vm_answer hq).trans h⟩) hvm)
        (fun _ db1 h1 => ?_)
      fun e _ _ h => by cases h
    refine Each.bind restoreStatus_each (fun st db2 h2 => ?_) fun e _ h => by cases h.1
    obtain ⟨hst, rfl⟩ := h2
    obtain rfl := Except.ok.inj hst
    rw [updateStatus_text]
    refine (each_attempt _).mpr ((each_bind _).mpr (each_stmt.mpr fun e _ => ⟨trivial, ?_⟩))
    rcases answer_update db2 p.vmID (.status .running) e with ⟨x, row, hrow, -, hu⟩ | ⟨-, hno, -⟩
    · rw [hu]
      obtain rfl := Option.mem_unique h1 hrow
      exact fun _ => ⟨_, Db.setVM_vm hrow rfl (Db.vm_eq_some.mp hrow).2, h vm hvm hm, rfl⟩
    · cases ha : (store.answer (.updateVM p.vmID (.status .running)) db2 e).1 with
      | error err => exact fun h => by cases h
      | ok done =>
        cases done with
        | true => exact absurd ha hno
        | false => exact fun h => by cases h
  · have hcheck : ∃ e, checkMigrating vm = .error e := ⟨_, if_neg hm⟩
    obtain ⟨e, he⟩ := hcheck
    rw [he]
    exact fun h => by cases h

/-- the VM is looked up once -/
lemma canceller_starts (v : String) : ∃ k, cancelMigration v = .req (.run (.getVM v)) k ∧
    ∀ a, (k a).All fun q : Stmt => q.looksUp = false := by
  refine ⟨_, rfl, fun a => ?_⟩
  match a with
  | .error e => exact trivial
  | .ok none => exact trivial
  | .ok (some vm) =>
    refine All.bind (c := lift (checkMigrating vm)) (all_lift _) fun _ => All.bind ?_ fun _ =>
      All.bind ?_ fun st => ?_
    · unfold abortMigration
      cases vm.nodeID with
      | none => exact trivial
      | some node => exact all_logged.mpr (all_agent.mpr rfl)
    · refine All.attempt (all_query.mpr rfl) fun r => ?_
      cases r <;> trivial
    · unfold VMRepository.updateStatus
      cases VMStatus.ofText st with
      | none => exact trivial
      | some st => exact all_wrapping.mpr (all_affecting.mpr (all_query.mpr rfl))

/-! ## every run -/

variable {doc : Json} {s s' : State store Party (Except GoError Unit)}

/-- how the task goes on when its transfer fails -/
def Waits (p : VMMigratePayload) (w : Op Unit) : Prop :=
  Prog.Does (S := store) (Late p) (fun _ => True) w ∨ ∃ q k, w = .req (.run q) k ∧
    q.transfers = true ∧
    ∀ a, refused q a = true → Prog.Does (S := store) (Late p) (fun _ => True) (k a)

/-- the request has not been made, or it has -/
inductive Phase (p : VMMigratePayload) (s : State store Party (Except GoError Unit)) : Prop
  | before (hc : s.prog .canceller = some (cancelMigration p.vmID))
      (hw : ∀ w, s.prog .worker = some w →
        Prog.Each (S := store) Carried (Open p) (fun _ db => Cancellable p db) w s.mem.db ∧
        Prog.Yields (S := store) Aborted (Late p) (fun _ => True) w)
      (hcrash : s.prog .worker = none → Cancellable p s.mem.db)
  | since (hc : ∀ c, s.prog .canceller = some c →
      Prog.All (S := store) (fun q : Stmt => q.looksUp = false) c ∧
        Prog.Each (S := store) Free Free (fun r db => r = .ok () → Restored p db) c s.mem.db)
      (hw : ∀ w, s.prog .worker = some w → Waits p w)

lemma transfers_not (h : q.transfers = true) : q.restores = false ∧ q.table ≠ some .vms := by
  cases q with
  | agent node call => exact ⟨rfl, fun h => by cases h⟩
  | _ => cases h

lemma Restored.late (hq : Late p q) (h : Restored p db) :
    Restored p (store.view db (store.answer q db e).2) := by
  obtain ⟨vm, hvm, hn, hst⟩ := h
  rcases hq with hq | rfl
  · exact ⟨vm, (vm_answer hq).trans hvm, hn, hst⟩
  · rcases answer_update db p.vmID (.transition .migrating .error) e with ⟨x, row, hrow,
      happlies, -⟩ | ⟨hu, -⟩
    · obtain rfl := Option.mem_unique hvm hrow
      rw [transition_applies hvm, hst] at happlies
      cases happlies
    · rw [hu]
      exact ⟨vm, hvm, hn, hst⟩

variable {a : Label store}

/-- where the request may be made, a VM that is migrating is on its source -/
lemma cancellable_of_turn (hturn : InTime s .canceller a) (hw : ∀ w, s.prog .worker = some w →
      Prog.Each (S := store) Carried (Open p) (fun _ db => Cancellable p db) w s.mem.db)
    (hcrash : s.prog .worker = none → Cancellable p s.mem.db) : Cancellable p s.mem.db := by
  cases hp : s.prog .worker with
  | none => exact hcrash hp
  | some w =>
    have heach := hw w hp
    cases w with
    | ret r => exact heach
    | req r k =>
      obtain ⟨q, rfl⟩ := heach.runs r k rfl
      have hno := (transfers_not (hturn q (by rw [hp]; rfl))).1
      exact (heach (.fail "") fun h => by cases hno.symm.trans h).1 hno

lemma Waits.of_turn {w : Op Unit} (hturn : InTime s .canceller a) (hp : s.prog .worker = some w)
    (hw : Prog.Yields (S := store) Aborted (Late p) (fun _ => True) w) : Waits p w := by
  cases w with
  | ret r => exact .inl trivial
  | req r k =>
    cases r with
    | run q =>
      have htransfers := hturn q (by rw [hp]; rfl)
      exact .inr ⟨q, k, rfl, htransfers, fun a ha => hw.1 a ⟨htransfers, ha⟩⟩
    | begin | commit | rollback => exact hw.elim

lemma Phase.step {i : Party} (h : Phase p s) (hidle : ∀ j, s.loc j = .idle) (hturn : InTime s i a)
    (hs : step s i a = some s') : (∀ j, s'.loc j = .idle) ∧ Phase p s' := by
  obtain ⟨c, hi⟩ : ∃ c, s.prog i = some c := by
    rcases step_cases hs with ⟨r, k, _, _, hi, -⟩ | ⟨r, k, hi, -⟩ <;> exact ⟨_, hi⟩
  cases h with
  | before hc hw hcrash =>
    cases i with
    | worker =>
      obtain ⟨heach, hyields⟩ := hw c hi
      obtain ⟨q, k, rfl, hidle', hother, ⟨e, rfl, hk, hdb⟩ | ⟨rfl, hk, hmem⟩⟩ :=
        heach.runs.step hi hidle hs
      · have hnext := (heach e (hturn.2 q (by rw [hi]; rfl)).1).2
        refine ⟨hidle', .before ((hother _ (by decide)).trans hc) (fun w hw' => ?_) fun hnone => ?_⟩
        · cases hk.symm.trans hw'
          exact ⟨hdb ▸ hnext, hyields.2 _⟩
        · cases hk.symm.trans hnone
      · have hno : q.restores = false := hturn q (by rw [hi]; rfl)
        refine ⟨hidle', .before ((hother _ (by decide)).trans hc) (fun w hw' => ?_) fun _ => ?_⟩
        · cases hk.symm.trans hw'
        · rw [hmem]
          exact (heach (.fail "") fun h => by cases hno.symm.trans h).1 hno
    | canceller =>
      obtain rfl := Option.some.inj (hc.symm.trans hi)
      have heach := canceller_each (cancellable_of_turn hturn (fun w hp => (hw w hp).1) hcrash)
      obtain ⟨k', hk', hall⟩ := canceller_starts p.vmID
      obtain ⟨q, k, hq, hidle', hother, hnext⟩ := (Prog.Each.runs heach).step hi hidle hs
      cases hk'.symm.trans hq
      refine ⟨hidle', .since (fun c' hc' => ?_) fun w hw' => ?_⟩
      · rcases hnext with ⟨e, rfl, hk, hdb⟩ | ⟨rfl, hk, -⟩
        · cases hk.symm.trans hc'
          rw [hk'] at heach
          exact ⟨hall _, hdb ▸ (heach e trivial).2⟩
        · cases hk.symm.trans hc'
      · have hp := (hother _ (by decide)).symm.trans hw'
        exact .of_turn hturn hp (hw w hp).2
  | since hc hw =>
    cases i with
    | canceller =>
      obtain ⟨hall, heach⟩ := hc c hi
      obtain ⟨q, k, rfl, hidle', hother, hnext⟩ := heach.runs.step hi hidle hs
      refine ⟨hidle', .since (fun c' hc' => ?_) fun w hw' =>
        hw w ((hother _ (by decide)).symm.trans hw')⟩
      rcases hnext with ⟨e, rfl, hk, hdb⟩ | ⟨rfl, hk, -⟩
      · cases hk.symm.trans hc'
        exact ⟨hall.2 _, hdb ▸ (heach e trivial).2⟩
      · cases hk.symm.trans hc'
    | worker =>
      have hruns : Prog.Runs (S := store) c := by
        rintro r k rfl
        rcases hw _ hi with hdoes | ⟨q, k', hq, -⟩
        · cases r with
          | run q => exact ⟨q, rfl⟩
          | begin | commit | rollback => exact hdoes.elim
        · cases hq
          exact ⟨q, rfl⟩
      obtain ⟨q, k, rfl, hidle', hother, ⟨e, rfl, hk, hdb⟩ | ⟨rfl, hk, hmem⟩⟩ :=
        hruns.step hi hidle hs
      · -- the request has ended: it is not before its first statement, and the task stands still
        -- while it runs
        have hended : Prog.next (s.prog .canceller) = none := by
          cases hp : s.prog .canceller with
          | none => rfl
          | some c' =>
            cases c' with
            | ret r => rfl
            | req r k =>
              obtain ⟨q', rfl⟩ := (hc _ hp).2.runs r k rfl
              cases (hc _ hp).1.1.symm.trans (hturn.1 q' (by rw [hp]; rfl))
        have hlate : Late p q ∧ Prog.Does (S := store) (Late p) (fun _ => True)
            (k (store.answer q s.mem.db e).1) := by
          rcases hw _ hi with hdoes | ⟨q', k', hq', htransfers, hrest⟩
          · obtain ⟨need, hneed⟩ := exec_run_idle (S := store) q e s.mem.db
            exact ⟨hdoes.1, (hdoes.exec hneed).2⟩
          · cases hq'
            refine ⟨.inl (transfers_not htransfers).2, hrest _ ?_⟩
            exact (hturn.2 q (by rw [hi]; rfl)).2 hended htransfers
        refine ⟨hidle', .since (fun c' hc' => ?_) fun w hw' => ?_⟩
        · have hp := (hother _ (by decide)).symm.trans hc'
          obtain ⟨hall, heach⟩ := hc c' hp
          refine ⟨hall, ?_⟩
          cases c' with
          | ret r => exact fun hr => hdb ▸ (heach hr).late hlate.1
          | req r k =>
            obtain ⟨q, rfl⟩ := heach.runs r k rfl
            rw [hp] at hended
            cases hended
        · cases hk.symm.trans hw'
          exact .inl hlate.2
      · refine ⟨hidle', .since (fun c' hc' => ?_) fun w hw' => ?_⟩
        · rw [hmem]
          exact hc c' ((hother _ (by decide)).symm.trans hc')
        · cases hk.symm.trans hw'

/-- **A migration that was cancelled stays cancelled**: the VM is on its source in the status it
had, from the end of the request on, in every run on this schedule; so the request has not succeeded
where the VM is on another node. What is restored does not depend on the tasks that are there. -/
theorem cancel_exclusive (hdec : VMMigratePayload.decode doc = .ok p)
    (hpre : p.preMigrationState = VMStatus.running.text)
    (h₀ : ∀ vm, db.vm p.vmID = some vm → vm.nodeID = some p.sourceNodeID)
    (h : ReachesOn InTime (State.init db (parties p.vmID taskID doc)) s) :
    (s.prog .canceller = some (.ret (.ok ())) → ∃ vm, Db.vm s.mem.db p.vmID = some vm ∧
      vm.nodeID = some p.sourceNodeID ∧ vm.status.text = p.preMigrationState) ∧
    (∀ vm, Db.vm s.mem.db p.vmID = some vm → vm.nodeID ≠ some p.sourceNodeID →
      s.prog .canceller ≠ some (.ret (.ok ()))) ∧
    ∀ o db, ((MigrationService.restoreStatus p.vmID).alone o db).1 = .ok p.preMigrationState := by
  have hphase : (∀ j, s.loc j = .idle) ∧ Phase p s := by
    refine h.keeps (I := fun s => (∀ j, s.loc j = .idle) ∧ Phase p s)
      (fun s s' i a hs hturn hstep => hs.2.step hs.1 hturn hstep)
        ⟨fun _ => rfl, .before rfl (fun w hw => ?_) ?_⟩
    · cases hw
      exact ⟨worker_each hdec hpre h₀, worker_yields hdec⟩
    · exact fun h => by cases h
  have hrestored : s.prog .canceller = some (.ret (.ok ())) → Restored p s.mem.db := by
    intro hs
    cases hphase.2 with
    | before hc =>
      obtain ⟨k, hk, -⟩ := canceller_starts p.vmID
      cases (hk ▸ hc).symm.trans hs
    | since hc => exact (hc _ hs).2 rfl
  refine ⟨fun hs => ?_, fun vm hvm hne hs => ?_, fun o db => ?_⟩
  · obtain ⟨vm, hvm, hn, hst⟩ := hrestored hs
    refine ⟨vm, hvm, hn, ?_⟩
    rw [hst, hpre]
  · obtain ⟨row, hrow, hn, -⟩ := hrestored hs
    obtain rfl : vm = row := Option.mem_unique hvm hrow
    exact hne hn
  · rw [hpre]
    exact restoreStatus_ok

def moves (i : Party) (n : Nat) (x : Inp) : List (Party × Label store) :=
  List.replicate n (i, .ev (.ok x))

/-- the task waits for the agent; the request comes in and is carried out; then the transfer
fails -/
def cancelledInTime : List (Party × Label store) :=
  moves .worker 5 calm ++ moves .canceller 4 calm ++ moves .worker 2 unlucky

theorem cancel_exclusive_in_time :
    ∃ s, run (State.init requestedLive.2 (parties "v" "f" liveDoc)) cancelledInTime =
      some s ∧ s.prog .canceller = some (.ret (.ok ())) ∧
        (∃ e, s.prog .worker = some (.ret (.error e))) ∧
    ∃ vm, Db.vm s.mem.db "v" = some vm ∧ vm.nodeID = some "n" ∧
      vm.status.text = VMStatus.running.text := by
  have h : (run (State.init requestedLive.2 (parties "v" "f" liveDoc)) cancelledInTime).isSome =
    true := by rfl
  have hdec : VMMigratePayload.decode liveDoc = .ok _ :=
    decode_buildMigrationPayload cephVM "n" _ _ _ _ _ _ true "admin" .running
  have hsource : ∀ vm, Db.vm requestedLive.2 "v" = some vm → vm.nodeID = some "n" := by
    intro vm hvm
    cases hvm
    rfl
  refine ⟨_, run_get h, rfl, ⟨_, rfl⟩, ?_⟩
  exact (cancel_exclusive hdec rfl hsource (reachesOn_scheduled (run_get h) (by rfl))).1 rfl

/-- the same, but the migration succeeds -/
def cancelledTooLate : List (Party × Label store) :=
  moves .worker 3 calm ++ moves .canceller 4 calm ++ moves .worker 8 calm

/-- a stopped VM on shared storage, and the state `MigrateVM` of it leaves -/
def stoppedRequested : Except GoError MigrateVMResult × Db :=
  (MigrationService.migrateVM ⟨"v", some "t", false⟩ "admin").alone (fun _ => .ok calm)
    (twoNodes (vmIn "v" .stopped storageBackendCeph) .shared)

/-- **The request succeeds and the VM moves all the same**; and where the VM was stopped, the
request leaves it in status running. -/
theorem cancelled_and_moved :
    (∃ s, Reaches always (State.init requestedLive.2 (parties "v" "f" liveDoc)) s ∧
      s.prog .canceller = some (.ret (.ok ())) ∧ (Db.vm s.mem.db "v").bind (·.nodeID) = some "t") ∧
    stoppedRequested.1 = .ok ⟨"f", "n", "t"⟩ ∧
    ∃ db, (MigrationService.cancelMigration "v").alone (fun _ => .ok calm) stoppedRequested.2 =
      (.ok (), db) ∧ db.hasStatus "v" .running := by
  have h : (run (State.init requestedLive.2 (parties "v" "f" liveDoc)) cancelledTooLate).isSome =
    true := by rfl
  exact ⟨⟨_, reaches_run (run_get h), rfl, rfl⟩, rfl, _, rfl, _, rfl, rfl⟩

end VirtueStack.Compute
