import VirtueStack.Compute.CreateRun
import VirtueStack.Compute.Failover
import VirtueStack.Compute.MigrateRun
import VirtueStack.Compute.VMTasks

/-!
# The operations on VMs, and what they send

* `Operation` a request to one of the services, or the execution of a task;
* `Stmt.Lawful` a statement that changes the status of a VM by a transition of the table, if it
  changes it, that inserts and deletes no VM, publishes no deletion and leaves the counters of the
  nodes alone;
* `evacuateNode_lawful` a failover gets no node to go on with, so it moves nothing.

A worker gets what the row of its task has.
-/

namespace VirtueStack.Compute
open Txn Call Op List IPAM
open Billing (VMStatus)
open MigrationService FailoverService

/-! ## operations -/

/-- the value of a call does not matter -/
def Op.void {α : Type} (c : Op α) : Op Unit := do
  let _ ← c
  return ()

inductive Operation where
  | createVM (preAction : Except GoError Unit) (req : VMCreateRequest) (customerID : String)
  | startVM (vmID customerID : String) (isAdmin : Bool)
  | stopVM (vmID customerID : String) (force isAdmin : Bool)
  | restartVM (vmID customerID : String) (isAdmin : Bool)
  | reinstallVM (vmID templateID customerID : String) (isAdmin : Bool)
  | resizeVM (vmID customerID : String) (sizes : VMService.Sizes) (newPlanID : String)
      (isAdmin : Bool)
  | deleteVM (vmID customerID : String) (isAdmin : Bool)
  | migrateVM (req : MigrateVMRequest) (adminID : String)
  | cancelMigration (vmID : String)
  | approveFailover (storage : StorageAssignments) (commands : Commands) (nodeID : String)
      (columns : FailoverColumns)
  | failoverNode (breaker : Except GoError Unit) (nodeID : String)
  | evacuateNode (nodeID : String)
  | work (platform : Platform) (taskID : String)

def handleTask (p : Platform) (task : Task) : Op Unit :=
  match task.type with
  | .vmCreate => handleVMCreate p task.id task.payload
  | .vmDelete => handleVMDelete task.id task.payload
  | .vmReinstall => handleVMReinstall p task.id task.payload
  | .vmMigrate => handleVMMigrate task.id task.payload
  | .vmResize => handleVMResize task.id task.status task.payload

def work (p : Platform) (taskID : String) : Op Unit := do
  let task ← TaskRepository.getByID taskID
  handleTask p task

def Operation.run : Operation → Op Unit
  | .createVM preAction req customerID => void (VMService.createVM preAction req customerID)
  | .startVM vmID customerID isAdmin => VMService.startVM vmID customerID isAdmin
  | .stopVM vmID customerID force isAdmin => VMService.stopVM vmID customerID force isAdmin
  | .restartVM vmID customerID isAdmin => VMService.restartVM vmID customerID isAdmin
  | .reinstallVM vmID templateID customerID isAdmin =>
    void (VMService.reinstallVM vmID templateID customerID isAdmin)
  | .resizeVM vmID customerID sizes newPlanID isAdmin =>
    void (VMService.resizeVMWithPlan vmID customerID sizes newPlanID isAdmin)
  | .deleteVM vmID customerID isAdmin => void (VMService.deleteVM vmID customerID isAdmin)
  | .migrateVM req adminID => void (MigrationService.migrateVM req adminID)
  | .cancelMigration vmID => MigrationService.cancelMigration vmID
  | .approveFailover storage commands nodeID columns =>
    void (FailoverService.approveFailover storage commands nodeID columns)
  | .failoverNode breaker nodeID => NodeService.failoverNode breaker nodeID
  | .evacuateNode nodeID => NodeAgent.evacuateNode nodeID
  | .work p taskID => Compute.work p taskID

/-! ## statements -/

def Stmt.Lawful : Stmt → Prop
  | .createVM _ => False
  | .updateVM _ (.status _) => False
  | .updateVM _ (.transition src dst) => Follows src dst ∧ src ≠ .deleting
  | .updateVM _ .softDelete => False
  | .createTask type _ _ => type ≠ .vmDelete
  | .incrementAllocated _ _ _ => False
  | .decrementAllocated _ _ _ => False
  | _ => True

lemma Stmt.lawful_of_read {q : Stmt} (h : q.table = none) : q.Lawful := by
  cases q with
  | createVM vm | updateVM id u | createTask type payload key | incrementAllocated id vcpu memoryMB
  | decrementAllocated id vcpu memoryMB => cases h
  | _ => trivial

lemma lawful_transition {src v : String} {st dst : VMStatus} (hdst : dst ≠ .deleted)
    (herr : dst ≠ .error)
    (h : validateVMTransition src dst = .ok st) :
    (Stmt.updateVM v (.transition st dst)).Lawful := by
  obtain ⟨-, hf⟩ := validateVMTransition_ok.mp h
  refine ⟨hf, fun hst => ?_⟩
  subst hst
  rcases mem_cons.mp hf with rfl | hf
  · exact hdst rfl
  · exact herr (mem_singleton.mp hf)

namespace Op
variable {α : Type} {ok : Stmt → Prop} {Q : α → Prop}

variable {c : Op α} {context : String}

lemma does_query {q : Stmt} (h : ok q) : (query q context).Does ok (store.Answers q) := Does.stmt h

lemma does_found {Q : Option α → Prop} {c : Op (Option α)} (h : c.Does ok Q) :
    (found context c).Does ok fun a => Q (some a) := by
  refine h.bind fun r hr => ?_
  cases r with
  | some a => exact Does.pure hr
  | none => exact Does.fail _

lemma does_wrapping (h : c.Does ok Q) : (wrapping context c).Does ok Q :=
  h.attempt (fun _ ha => Does.pure ha) fun _ => Does.fail _

lemma does_replacing {f : GoError → GoError} (h : c.Does ok Q) : (replacing f c).Does ok Q :=
  h.attempt (fun _ ha => Does.pure ha) fun _ => Does.fail _

lemma does_logged (h : c.Does ok Q) : (logged c).Does ok fun _ => True :=
  h.attempt (fun _ _ => Does.pure trivial) fun _ => Does.pure trivial

lemma does_lift (r : Except GoError α) : (lift r).Does ok fun a => r = .ok a := by
  cases r with
  | ok a => exact Does.pure rfl
  | error e => exact Does.fail e

end Op

/-! ## requests -/

section
variable {v : String} {src context : String} {dst : VMStatus}

lemma all_transitioned {ok : Stmt → Prop}
    (h : ∀ st, validateVMTransition src dst = .ok st → ok (.updateVM v (.transition st dst))) :
    (transition v src dst context).All ok := by
  refine (all_transition h).attempt fun r => ?_
  cases r with
  | ok u => trivial
  | error e => exact All.ite (fun _ => trivial) fun _ => trivial

lemma transition_lawful (hdst : dst ≠ .deleted) (herr : dst ≠ .error) :
    (transition v src dst context).All Stmt.Lawful :=
  all_transitioned fun _ hst => lawful_transition hdst herr hst

end

attribute [local simp] Stmt.Lawful transition_lawful progress

section
variable {v taskID customerID : String} {isAdmin : Bool}

lemma getVM_reads : (getVM v).All Stmt.Reads := by
  simp [getVM, Stmt.Reads, Stmt.table]

namespace VMService

lemma ownership_reads : (getVMAndVerifyOwnership v customerID isAdmin).All Stmt.Reads :=
  getVM_reads.bind fun _ => (all_lift _).bind fun _ => trivial

@[simp] lemma ownership_lawful : (getVMAndVerifyOwnership v customerID isAdmin).All Stmt.Lawful :=
  ownership_reads.mono fun _ hq => Stmt.lawful_of_read hq

@[simp] lemma startVM_lawful : (startVM v customerID isAdmin).All Stmt.Lawful := by
  simp [startVM]

variable {nodeID : String} {vm : VM} {sizes : Sizes}

@[simp] lemma stopCall_lawful {force : Bool} : (stopCall nodeID v force).All Stmt.Lawful := by
  simp [stopCall]

@[simp] lemma stopVM_lawful {force : Bool} :
    (stopVM v customerID force isAdmin).All Stmt.Lawful := by
  simp [stopVM]

@[simp] lemma stopForRestart_lawful : (stopForRestart nodeID v).All Stmt.Lawful := by
  simp [stopForRestart]

lemma restartVM_lawful : (restartVM v customerID isAdmin).All Stmt.Lawful := by
  simp [restartVM]

lemma reinstallVM_lawful {templateID : String} :
    (reinstallVM v templateID customerID isAdmin).All Stmt.Lawful := by
  simp [reinstallVM]

@[simp] lemma validateLimits_lawful : (validateLimits vm sizes isAdmin).All Stmt.Lawful := by
  simp [validateLimits]

@[simp] lemma changePlan_lawful {newPlanID : String} :
    (changePlan vm newPlanID).All Stmt.Lawful := by
  simp [changePlan]

@[simp] lemma applySizes_lawful : (applySizes vm nodeID sizes).All Stmt.Lawful := by
  simp [applySizes]

lemma resizeVM_lawful {newPlanID : String} :
    (resizeVMWithPlan v customerID sizes newPlanID isAdmin).All Stmt.Lawful := by
  simp [resizeVMWithPlan]

end VMService

end

/-! ## tasks -/

section
variable {v taskID : String} {locationID customerID : String}

@[simp] lemma IPAM.tryIPSets_lawful (lastErr : GoError) (ipSets : List IPSet) :
    (IPAM.tryIPSets locationID v customerID lastErr ipSets).All Stmt.Lawful := by
  induction ipSets generalizing lastErr with
  | nil => trivial
  | cons ipSet rest ih =>
    simp only [IPAM.tryIPSets, all_attempt, allTo_query]
    refine ⟨trivial, fun ip => ?_, fun e => ih _⟩
    cases ip with
    | some ip => trivial
    | none => exact ih _

@[simp] lemma IPAM.allocateIPv4_lawful :
    (IPAM.allocateIPv4 locationID v customerID).All Stmt.Lawful := by
  simp [IPAM.allocateIPv4]

variable {nodeID : String} {doc : Json} {p : Platform} {payload : VMResizePayload}

@[simp] lemma IPAM.allocateIPv6_lawful : (IPAM.allocateIPv6 v nodeID).All Stmt.Lawful := by
  refine All.bind (c := query _ _) (all_query.mpr trivial) fun p => ?_
  cases p with
  | none => trivial
  | some p =>
    refine All.bind (c := query _ _) (all_query.mpr trivial) fun r => ?_
    cases r <;> trivial

@[simp] lemma IPAM.releaseEach_lawful (errs : List GoError) (ips : List IPAddress) :
    (IPAM.releaseEach errs ips).All Stmt.Lawful := by
  induction ips generalizing errs with
  | nil => trivial
  | cons ip rest ih => simp [IPAM.releaseEach, IPAM.releaseIPv4, ih]

@[simp] lemma IPAM.releaseIPsByVM_lawful : (IPAM.releaseIPsByVM v).All Stmt.Lawful := by
  simp [IPAM.releaseIPsByVM]

/-! ### vm.create -/

variable {steps : List (Op Unit)}

lemma rollback_lawful (h : ∀ c ∈ steps, c.All Stmt.Lawful) : (rollback steps).All Stmt.Lawful := by
  induction steps with
  | nil => trivial
  | cons step steps ih =>
    refine (all_logged.mpr (h step mem_cons_self)).bind fun _ => ?_
    exact ih fun c hc => h c (mem_cons_of_mem step hc)

lemma rollbackWithErrorStatus_lawful {c : CreateContext} {cause : GoError}
    (h : ∀ c ∈ steps, c.All Stmt.Lawful) :
    (rollbackWithErrorStatus c steps cause).All Stmt.Lawful := by
  refine (rollback_lawful fun c hc => h c (mem_reverse.mp hc)).bind fun _ => ?_
  refine (all_logged.mpr (all_transition fun st hst => ?_)).bind fun _ => trivial
  obtain ⟨ht, hf⟩ := validateVMTransition_ok.mp hst
  obtain rfl := text_inj ht
  exact ⟨hf, by decide⟩

lemma steps_lawful (c : CreateContext) :
    ∀ step ∈ [c.releaseIPs, c.deleteVM], step.All Stmt.Lawful := by
  intro step hstep
  rcases mem_cons.mp hstep with rfl | hstep
  · exact releaseIPsByVM_lawful
  · rw [mem_singleton.mp hstep]
    exact all_agent.mpr trivial

@[simp] lemma completeVMCreate_lawful : (completeVMCreate taskID).All Stmt.Lawful := by
  simp [completeVMCreate]

@[simp] lemma vmStarted_lawful (c : CreateContext) (r : Except GoError Unit) :
    (vmStarted taskID c r).All Stmt.Lawful := by
  have hrollback : ∀ cause, (rollbackWithErrorStatus c [c.releaseIPs, c.deleteVM] cause).All
    Stmt.Lawful :=
    fun _ => rollbackWithErrorStatus_lawful (steps_lawful c)
  cases r with
  | error e => exact hrollback _
  | ok u => simp [vmStarted, recordTemplate, macAddressRecorded, hrollback]

@[simp] lemma vmMaterialized_lawful (c : CreateContext) (r : Except GoError Unit) :
    (vmMaterialized taskID c r).All Stmt.Lawful := by
  cases r with
  | error e =>
    refine rollbackWithErrorStatus_lawful fun step hstep => ?_
    rw [mem_singleton.mp hstep]
    exact releaseIPsByVM_lawful
  | ok u =>
    refine All.attempt (all_transition fun st hst => ?_) fun r => vmStarted_lawful c r
    exact lawful_transition (by decide) (by decide) hst

lemma handleVMCreate_lawful : (handleVMCreate p taskID doc).All Stmt.Lawful := by
  have hprepare : (prepareVMCreate p taskID doc).All Stmt.Lawful :=
    prepare_reads.mono fun _ hq => Stmt.lawful_of_read hq
  simp [handleVMCreate, provisionVM, CreateContext.createVM, hprepare]

/-! ### vm.reinstall, vm.resize and vm.migrate -/

@[simp] lemma setReinstallResult_lawful {payload : VMReinstallPayload} :
    (setReinstallResult taskID payload).All Stmt.Lawful := by
  simp [setReinstallResult]

@[simp] lemma resolveTemplatePath_lawful {template : Template} :
    (resolveTemplatePathForNode template nodeID).All Stmt.Lawful := by
  simp [resolveTemplatePathForNode]

@[simp] lemma reinstall_lawful {payload : VMReinstallPayload} {info : VMReinstallInfo} :
    (reinstall p taskID payload info).All Stmt.Lawful := by
  simp [reinstall, markReinstalling, resolveReinstallTemplatePath]

lemma handleVMReinstall_lawful : (handleVMReinstall p taskID doc).All Stmt.Lawful := by
  simp [handleVMReinstall, prepareVMReinstallInfo, reinstallUnlessDone, completeReinstall]

@[simp] lemma stopForResize_lawful {wasRunning : Bool} :
    (stopForResize nodeID payload wasRunning).All Stmt.Lawful := by
  simp [stopForResize, stopVMGracefully]

@[simp] lemma startAfterResize_lawful {wasRunning : Bool} :
    (startAfterResize nodeID payload wasRunning).All Stmt.Lawful := by
  simp [startAfterResize]

@[simp] lemma resize_lawful : (resize taskID payload).All Stmt.Lawful := by
  simp [resize]

lemma handleVMResize_lawful {status : Tasks.TaskStatus} :
    (handleVMResize taskID status doc).All Stmt.Lawful := by
  simp [handleVMResize, resizeUnlessTerminal]

lemma follows_finalStatus (state : String) : Follows .migrating (migrationFinalStatus state) := by
  unfold migrationFinalStatus
  split
  · decide
  · split <;> decide

lemma VMMigratePayload.Sends.lawful {p : VMMigratePayload} {q : Stmt} (h : p.Sends q) :
    q.Lawful := by
  cases h with
  | works h =>
    cases h with
    | read h => exact Stmt.lawful_of_read h
    | _ => trivial
  | marked hpre hf =>
    refine ⟨hf, fun hsrc => ?_⟩
    rw [hsrc] at hf
    exact absurd hf (by decide)
  | failed => exact ⟨by decide, by decide⟩
  | restored => exact ⟨follows_finalStatus _, by decide⟩
  | _ => trivial

lemma handleVMMigrate_lawful : (handleVMMigrate taskID doc).All Stmt.Lawful := by
  cases hdec : VMMigratePayload.decode doc with
  | ok p => exact (handle_sends hdec).mono fun _ hq => VMMigratePayload.Sends.lawful hq
  | error e =>
    unfold handleVMMigrate prepareMigrationContext
    rw [hdec]
    trivial

end

/-! ## answers -/

section
variable {v : String} {vm : VM}

lemma answers_listNodes {status : NodeStatus} {nodes : List Node}
    (h : store.Answers (.listNodes status 0) nodes) : nodes = [] := by
  obtain ⟨x, db, ws, hx⟩ := h
  have hx' : exec (.listNodes status 0) x x db = .ok (nodes, ws) := hx
  cases hx'
  exact firstPage_zero _

lemma answers_listTasks {type : TaskType} {tasks : List Task}
    (h : store.Answers (.listTasks type) tasks) : tasks = [] := by
  obtain ⟨x, db, ws, hx⟩ := h
  have hx' : exec (.listTasks type) x x db = .ok (tasks, ws) := hx
  simp only [exec] at hx'
  split at hx'
  · cases hx'
  · cases hx'
    rfl

lemma answers_getVMIncludingDeleted (h : store.Answers (.getVMIncludingDeleted v) (some vm)) :
    vm.id = v := by
  obtain ⟨x, db, ws, hx⟩ := h
  have hx' : exec (.getVMIncludingDeleted v) x x db = .ok (some vm, ws) := hx
  simp only [exec] at hx'
  have hfind : db.vms.find v = some vm := congrArg Prod.fst (Except.ok.inj hx')
  exact Table.key_of_find hfind

end

/-! ## failover and evacuation -/

section
variable {nodeID : String}

@[simp] lemma getNode_lawful : (getNode nodeID).All Stmt.Lawful := by
  simp [getNode]

variable {columns : FailoverColumns}

lemma verifyFailedNode_lawful : (verifyFailedNode nodeID columns).All Stmt.Lawful := by
  simp [verifyFailedNode, markFailed]

lemma preferLocation_nil (failedNode : Node) : preferLocation failedNode [] = [] := by
  unfold preferLocation
  split <;> rfl

/-- there is never a node that survives -/
lemma findSurvivingNodes_does {ok : Stmt → Prop} (node : Node) (h : ok (.listNodes .online 0)) :
    (findSurvivingNodes node).Does ok fun nodes => nodes = [] := by
  refine (does_query h).bind fun nodes hnodes => Does.pure ?_
  rw [answers_listNodes hnodes]
  exact preferLocation_nil node

lemma failover_lawful {storage : StorageAssignments} {commands : Commands} :
    (approveFailover storage commands nodeID columns).Does Stmt.Lawful fun _ => True := by
  refine verifyFailedNode_lawful.does.bind fun node _ => ?_
  refine Does.bind (c := executeFailoverSteps _ _ _ _) (Q := fun _ => True) ?_ fun result _ => ?_
  · refine (does_logged (does_query trivial)).bind fun _ _ => Does.pure trivial
  refine (does_wrapping (does_query trivial)).bind fun vms _ => ?_
  cases vms with
  | nil => exact Does.pure trivial
  | cons vm rest =>
    refine (does_wrapping (findSurvivingNodes_does node trivial)).bind fun nodes hnodes => ?_
    rw [hnodes]
    exact Does.fail _

lemma evacuateNode_lawful : (NodeAgent.evacuateNode nodeID).Does Stmt.Lawful fun _ => True := by
  refine (does_wrapping (does_found (does_query trivial))).bind fun _ _ => ?_
  refine (all_wrapping.mpr (all_affecting.mpr (all_query.mpr trivial))).does.bind fun _ _ => ?_
  refine (does_query trivial).bind fun vms _ => ?_
  cases vms with
  | nil => exact Does.pure trivial
  | cons vm rest =>
    refine (does_query trivial).bind fun nodes hnodes => ?_
    rw [answers_listNodes hnodes]
    -- without a node to go to, every VM is passed over
    generalize vm :: rest = vms
    induction vms with
    | nil => exact Does.pure trivial
    | cons vm rest ih =>
      refine Does.ite (fun _ => ?_) fun _ => ih
      exact Does.bind (Q := fun _ => True) (Does.pure trivial) fun _ _ => ih

lemma failoverNode_lawful {breaker : Except GoError Unit} :
    (NodeService.failoverNode breaker nodeID).Does Stmt.Lawful fun _ => True := by
  refine getNode_lawful.does.bind fun _ _ => (does_wrapping (does_lift _)).bind fun _ _ => ?_
  refine (all_wrapping.mpr (all_affecting.mpr (all_query.mpr trivial))).does.bind fun _ _ => ?_
  exact does_logged evacuateNode_lawful

end

/-! ## the other statements -/

/-- what a migration and its cancellation can send -/
inductive Stmt.Migrates : Stmt → Prop
  | lawful {q : Stmt} (h : q.Lawful) : Migrates q
  | marked (v : String) : Migrates (.updateVM v (.status .migrating))
  | restored (v : String) {st : VMStatus} (h : MigrationService.Migratable st) :
      Migrates (.updateVM v (.status st))

/-- what the deletion that a task asks for can send -/
def Stmt.Deletes (doc : Json) (q : Stmt) : Prop :=
  q.Lawful ∨ ∃ p, VMDeletePayload.decode doc = .ok p ∧ q = .updateVM p.vmID .softDelete

section
variable {v : String} {ok : Stmt → Prop}

lemma updateStatus_does {st : VMStatus} (h : ok (.updateVM v (.status st))) :
    (VMRepository.updateStatus v st.text).Does ok fun _ => True := by
  rw [updateStatus_text]
  exact (all_affecting.mpr (all_query.mpr h)).does

lemma validateVMState_does {live : Bool} (h : ok (.getVM v)) :
    (validateVMState v live).Does ok fun r => MigrationService.Migratable r.1.status := by
  refine (does_replacing (does_found (does_query h))).bind fun vm _ => ?_
  refine (does_lift _).bind fun s hs => Does.pure ?_
  exact (sourceOf_eq_ok hs).2

variable {req : MigrateVMRequest}

lemma resolveTargetNode_reads {sourceNodeID : String} {vm : VM} :
    (resolveTargetNode req sourceNodeID vm).All Stmt.Reads := by
  refine All.bind (c := targetNode _ _ _) ?_ fun node => by simp
  unfold targetNode
  cases req.targetNodeID with
  | some targetNodeID =>
    simp [validateTargetNode, getTargetNode, Stmt.Reads, Stmt.table]
  | none => simp [findBestTargetNode, Stmt.Reads, Stmt.table]

lemma migrateVM_sends {adminID : String} :
    (migrateVM req adminID).Does Stmt.Migrates fun _ => True := by
  refine (validateVMState_does (.lawful trivial)).bind fun source hsource => ?_
  refine (does_wrapping (does_found (does_query (.lawful trivial)))).bind fun sourceNode _ => ?_
  refine Does.bind (Does.weaken resolveTargetNode_reads.does fun q hq =>
    .lawful (Stmt.lawful_of_read hq)) fun target _ => ?_
  refine (does_wrapping (does_lift _)).bind fun _ _ => ?_
  refine (does_wrapping (updateStatus_does (.marked _))).bind fun _ _ => ?_
  refine (does_query (.lawful fun h => by cases h)).attempt
    (fun _ _ => Does.pure trivial) fun e => ?_
  exact (does_logged (updateStatus_does (.restored _ hsource))).bind fun _ _ => Does.fail _

lemma cancelMigration_sends : (cancelMigration v).Does Stmt.Migrates fun _ => True := by
  refine (does_replacing (does_found (does_query (.lawful trivial)))).bind fun vm _ => ?_
  refine (does_lift _).bind fun _ _ => ?_
  refine Does.bind (c := abortMigration vm v) (Q := fun _ => True) ?_ fun _ _ => ?_
  · unfold abortMigration
    cases vm.nodeID with
    | none => exact Does.pure trivial
    | some node => exact (all_logged.mpr (all_agent.mpr (.lawful trivial))).does
  -- the list of tasks comes back empty or not at all, so the status is always running
  refine Does.bind (c := restoreStatus v) (Q := fun st => st = VMStatus.running.text) ?_
    fun st hst => ?_
  · refine (does_query (.lawful trivial)).attempt (fun tasks htasks => Does.pure ?_) fun _ =>
      Does.pure rfl
    rw [answers_listTasks htasks]
    rfl
  · rw [hst]
    exact does_wrapping (updateStatus_does (.restored _ (.inl rfl)))

@[simp] lemma unlessAbsent_lawful {context : String} (r : Except GoError Unit) :
    (VMDeletion.unlessAbsent context r : Op Unit).All Stmt.Lawful := by
  cases r <;> simp [VMDeletion.unlessAbsent]

lemma cleanupNode_lawful {taskID : String} {vm : VM} :
    (VMDeletion.plain.cleanupNode taskID vm).All Stmt.Lawful := by
  unfold VMDeletion.cleanupNode
  cases vm.nodeID with
  | none => trivial
  | some nodeID => simp [VMDeletion.plain, VMDeletion.stopIfRunning, VMDeletion.stopVM]

lemma handleVMDelete_sends {taskID : String} {doc : Json} :
    (handleVMDelete taskID doc).Does (Stmt.Deletes doc) fun _ => True := by
  have hlawful : ∀ {α : Type} {c : Op α}, c.All Stmt.Lawful →
    c.Does (Stmt.Deletes doc) fun _ => True :=
    fun hc => hc.does.weaken fun _ hq => .inl hq
  have hprogress : ∀ {percent : Int} {message : String}, (progress taskID percent message).All
    Stmt.Lawful := by simp
  have hcomplete : (VMDeletion.complete taskID).Does (Stmt.Deletes doc) fun _ => True :=
    hlawful (by simp [VMDeletion.complete])
  refine (does_wrapping (does_lift _)).bind fun payload hdec => ?_
  refine (hlawful hprogress).bind fun _ _ => ?_
  refine (does_found (does_query (.inl trivial))).attempt (fun vm hvm => ?_) fun e => ?_
  · refine (hlawful cleanupNode_lawful).bind fun _ _ => (hlawful hprogress).bind fun _ _ => ?_
    refine (hlawful (releaseIPsByVM_lawful.attempt unlessAbsent_lawful)).bind fun _ _ => ?_
    refine (hlawful hprogress).bind fun _ _ => ?_
    refine Does.bind (c := VMDeletion.plain.removeRecord vm) (Q := fun _ => True) ?_ fun _ _ => ?_
    · refine Does.ite (fun _ => Does.pure trivial) fun _ => ?_
      refine Does.bind (all_wrapping.mpr (all_affecting.mpr (all_query.mpr ?_))).does fun _ _ =>
        Does.pure trivial
      rw [answers_getVMIncludingDeleted hvm]
      exact .inr ⟨payload, hdec, rfl⟩
    · exact (hlawful hprogress).bind fun _ _ => hcomplete
  · exact Does.ite (fun _ => hcomplete) fun _ => Does.fail _

end

end VirtueStack.Compute
