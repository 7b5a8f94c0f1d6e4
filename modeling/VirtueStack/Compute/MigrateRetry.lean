import VirtueStack.Compute.LiveDisk

/-!
# A migration task that is delivered again

The check that the VM is on its source comes before the check that it is already on its target, and
the status that a failed execution leaves is none that a migration starts from.
-/

namespace VirtueStack.Compute
open Txn Option
open Billing (VMStatus)

variable {o : Oracle} {db db' : Db} {taskID : String} {doc : Json} {p : VMMigratePayload} {vm : VM}

lemma handle_of_prepare_error {e : GoError}
    (h : (prepareMigrationContext taskID doc).alone o db = (.error e, db')) :
    (handleVMMigrate taskID doc).alone o db = (.error e, db') := Call.alone_bind_error h

section
variable (taskID : String) (o : Oracle) (hdec : VMMigratePayload.decode doc = .ok p)
  (hne : p.targetNodeID ≠ p.sourceNodeID) (hvm : db.vm p.vmID = some vm)
include hdec hne hvm

/-- **A VM that is on its target is not on its source.** -/
theorem handle_on_target (hnode : vm.nodeID = some p.targetNodeID) :
    ∃ e, (handleVMMigrate taskID doc).alone o db = (.error e, db) := by
  have hno : ∀ mc : MigrationContext, mc.payload = p → ¬ Entities o db mc := by
    rintro mc rfl he
    obtain rfl : mc.vm = vm := mem_unique he.vm.2 hvm
    exact hne (mem_unique hnode he.source)
  obtain ⟨e, he⟩ := validate_alone_error hno
  refine ⟨e, handle_of_prepare_error ?_⟩
  rw [prepare_of_decoded hdec]
  exact Call.alone_bind_error he

/-- **A VM in status error does not become migrating.** -/
theorem handle_after_failure (hstatus : vm.status = .error) :
    ∃ e db', (handleVMMigrate taskID doc).alone o db = (.error e, db') := by
  cases hp : (prepareMigrationContext taskID doc).alone o db with
  | mk r db1 =>
    cases r with
    | error e => exact ⟨e, db1, handle_of_prepare_error hp⟩
    | ok prepared =>
      exfalso
      rw [prepare_of_decoded hdec] at hp
      obtain ⟨mc, db2, hv, hb⟩ := Call.alone_bind_eq_ok.mp hp
      obtain ⟨⟨-, rfl, he⟩, rfl⟩ := validate_eq_ok.mp hv
      obtain rfl : mc.vm = vm := mem_unique he.vm.2 hvm
      cases prepared with
      | none => exact hne (Option.some.inj ((begin_eq_none hb).symm.trans he.source))
      | some mc' =>
        obtain ⟨-, -, ⟨hm, -⟩ | ⟨-, htr⟩⟩ := begin_eq_some hb
        · rw [hstatus] at hm
          cases hm
        · obtain ⟨vm, hvm', -, hf, -⟩ := transition_eq_ok htr
          obtain rfl : mc.vm = vm := mem_unique hvm hvm'
          rw [hstatus] at hf
          exact absurd hf (by decide)

end

section
variable {req : MigrateVMRequest} {adminID : String} {result : MigrateVMResult} {task : Task}

/-- **No execution of a migration task succeeds once the VM is on its target, and none succeeds once
a failure has left the VM in status error**, whatever the calls do: the state an execution finds is
any state, those an earlier execution of the task has left among them. -/
theorem redelivery_fails
    (haccepted : (MigrationService.migrateVM req adminID).alone o db = (.ok result, db'))
    (htask : db'.tasks.find result.taskID = some task) :
    (∀ o₂ db₂ vm, Db.vm db₂ req.vmID = some vm → vm.nodeID = some result.targetNodeID →
      ∃ e, ((handleVMMigrate task.id task.payload).alone o₂ db₂).1 = .error e) ∧
    (∀ o₂ db₂ vm, Db.vm db₂ req.vmID = some vm → vm.status = .error →
      ∃ e, ((handleVMMigrate task.id task.payload).alone o₂ db₂).1 = .error e) := by
  obtain ⟨row, sourceNode, targetNode, hrow, -, -, ht, hne, hfree, rfl⟩ :=
    MigrationService.migrateVM_accepted haccepted
  have hid : row.id = req.vmID := Db.vm_id hrow
  obtain rfl := Option.some.inj (htask.symm.trans (Db.addTask_find hfree))
  have hdec := decode_buildMigrationPayload row result.sourceNodeID sourceNode targetNode
    (getNodeStorageBackend row) (determineMigrationStrategy (getNodeStorageBackend row))
    (getVMDiskPath row sourceNode) (getVMDiskPathForTarget row targetNode) req.live
    adminID row.status
  rw [← ht] at hne
  rw [← hid, ← ht]
  constructor
  · intro o₂ db₂ vm hvm hnode
    obtain ⟨e, he⟩ := handle_on_target result.taskID o₂ hdec hne hvm hnode
    exact ⟨e, congrArg Prod.fst he⟩
  · intro o₂ db₂ vm hvm hstatus
    obtain ⟨e, db3, he⟩ := handle_after_failure result.taskID o₂ hdec hne hvm hstatus
    exact ⟨e, congrArg Prod.fst he⟩

end

/-! ## a migration that succeeds, and one that fails -/

/-- a running VM on shared storage -/
def cephVM : VM := vmIn "v" .running storageBackendCeph

def requestedLive : Except GoError MigrateVMResult × Db :=
  (MigrationService.migrateVM ⟨"v", some "t", true⟩ "admin").alone (fun _ => .ok calm)
    (twoNodes cephVM .shared)

/-- the payload of the task of `cephVM` -/
def liveDoc : Json :=
  .obj (migrationTaskPayload cephVM "n" ⟨"n", "h", none, .online, 8, 8192, 0, 0, "", "", ""⟩
    ⟨"t", "i", none, .online, 8, 8192, 0, 0, "", "", ""⟩ true "admin")

/-- the first delivery, with `x` for every statement -/
def delivered (x : Inp) : Except GoError Unit × Db :=
  (handleVMMigrate "f" liveDoc).alone (fun _ => .ok x) requestedLive.2

/-- the second delivery, in which nothing breaks -/
def redelivered (x : Inp) : Except GoError Unit × Db :=
  (handleVMMigrate "f" liveDoc).alone (fun _ => .ok calm) (delivered x).2

/-- the hypervisor does not migrate -/
def unlucky : Inp := { calm with broken := fun op => op = .migrate }

theorem redelivery_fails_calm : requestedLive.1 = .ok ⟨"f", "n", "t"⟩ ∧
    (∃ e, (redelivered calm).1 = .error e) ∧ ∃ e, (redelivered unlucky).1 = .error e := by
  have haccepted : (MigrationService.migrateVM ⟨"v", some "t", true⟩ "admin").alone
    (fun _ => .ok calm) (twoNodes cephVM .shared) = (.ok ⟨"f", "n", "t"⟩, requestedLive.2) := rfl
  have htask : requestedLive.2.tasks.find "f" =
    some ⟨"f", .vmMigrate, .pending, liveDoc, none⟩ := rfl
  have hfails := redelivery_fails haccepted htask
  exact ⟨rfl, hfails.1 _ (delivered calm).2 _ rfl rfl, hfails.2 _ (delivered unlucky).2 _ rfl rfl⟩

/-- **The first delivery moves the VM to `t` and the second fails; or the first leaves the VM in
status error, and the second fails, though every call succeeds.** -/
theorem redelivery_counterexample :
    ((delivered calm).1 = .ok () ∧ ((delivered calm).2.vm "v").bind (·.nodeID) = some "t" ∧
      (redelivered calm).1 = .error (.new "VM v is on node t, not source node n")) ∧
    ((∃ e, (delivered unlucky).1 = .error e) ∧ (delivered unlucky).2.hasStatus "v" .error ∧
      ∃ e, (redelivered unlucky).1 = .error e) := by
  refine ⟨⟨rfl, rfl, rfl⟩, ⟨_, rfl⟩, ⟨_, rfl, rfl⟩, ⟨_, rfl⟩⟩

end VirtueStack.Compute
