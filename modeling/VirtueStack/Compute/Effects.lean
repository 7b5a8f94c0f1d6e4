import VirtueStack.Compute.Repo
import VirtueStack.Txn.Walk

/-!
# What the methods do when nothing else runs
-/

namespace VirtueStack.Compute
open Txn Call Op Table Store List Option Db
open Billing (VMStatus)
open VMRepository

/-- what the outside does with each statement of a run -/
abbrev Oracle : Type := Stmt → Event store

def served (o : Oracle) (q : Stmt) : Bool :=
  match o q with
  | .ok _ => true
  | .fail _ => false

/-! ## tables -/

inductive TableName where
  | vms
  | nodes
  | tasks
  | ips
  | subnets
  | hosts
  deriving DecidableEq

@[reducible] def TableName.Rows : TableName → Type
  | .vms => Table VM.keys
  | .nodes => Table Node.keys
  | .tasks => Table Task.keys
  | .ips => Table IPAddress.keys
  | .subnets => List VMIPv6Subnet
  | .hosts => Hosts

def Db.part (db : Db) : (t : TableName) → t.Rows
  | .vms => db.vms
  | .nodes => db.nodes
  | .tasks => db.tasks
  | .ips => db.ips
  | .subnets => db.subnets
  | .hosts => db.hosts

def Write.table : Write → TableName
  | .insertVM _ => .vms
  | .putVM _ => .vms
  | .putNode _ => .nodes
  | .insertTask _ => .tasks
  | .putTask _ => .tasks
  | .putIP _ => .ips
  | .insertSubnet _ => .subnets
  | .deleteSubnets _ => .subnets
  | .host _ => .hosts

def Stmt.table : Stmt → Option TableName
  | .createVM _ => some .vms
  | .updateVM _ _ => some .vms
  | .updateNodeStatus _ _ => some .nodes
  | .incrementAllocated _ _ _ => some .nodes
  | .decrementAllocated _ _ _ => some .nodes
  | .createTask _ _ _ => some .tasks
  | .setCompleted _ => some .tasks
  | .allocateIPv4 _ _ _ => some .ips
  | .releaseIPv4 _ => some .ips
  | .createIPv6Subnet _ _ => some .subnets
  | .deleteIPv6Subnets _ => some .subnets
  | .agent _ _ => some .hosts
  | _ => none

def Stmt.Reads (q : Stmt) : Prop := q.table = none

variable {w : Write} {t : TableName} {db : Db} {q : Stmt}

lemma Db.part_apply (h : w.table ≠ t) : (db.apply w).part t = db.part t := by
  cases w <;> cases t <;> first | rfl | exact absurd rfl h

variable {id : String}

lemma updateVM_table {u : VMUpdate} {now : Int} (h : w ∈ (db.updateVM id u now).2) :
    w.table = .vms := by
  unfold Db.updateVM at h
  split at h
  · rw [mem_singleton.mp h]
    rfl
  · cases h

lemma exec_table {x₀ x : Inp} {a : q.Ans} {ws : List Write}
    (h : exec q x₀ x db = .ok (a, ws)) (hw : w ∈ ws) : q.table = some w.table := by
  cases q with
  | createVM vm | createTask type payload key =>
    simp only [exec] at h
    split at h
    · cases h
    · split at h
      · cases h
      · cases h
        rw [mem_singleton.mp hw]
        rfl
  | updateVM id u =>
    have hws : (db.updateVM id u x.now).2 = ws := congrArg Prod.snd (Except.ok.inj h)
    rw [updateVM_table (hws.symm ▸ hw)]
    rfl
  | updateNodeStatus id status | incrementAllocated id vcpu memoryMB
  | decrementAllocated id vcpu memoryMB =>
    cases h
    obtain ⟨n, -, rfl⟩ := map_eq_some_iff.mp (mem_toList.mp hw)
    rfl
  | listTasks type =>
    simp only [exec] at h
    split at h
    · cases h
    · cases h
      cases hw
  | setCompleted id =>
    cases h
    obtain ⟨t, -, rfl⟩ := map_eq_some_iff.mp (mem_toList.mp hw)
    rfl
  | allocateIPv4 ipSetID vmID customerID =>
    cases h
    obtain ⟨ip, -, rfl⟩ := map_eq_some_iff.mp (mem_toList.mp hw)
    rfl
  | releaseIPv4 id =>
    simp only [exec] at h
    split at h
    · cases h
      rw [mem_singleton.mp hw]
      rfl
    · cases h
      cases hw
  | createIPv6Subnet vmID prefixID =>
    simp only [exec] at h
    split at h
    · split at h
      · cases h
        cases hw
      · cases h
        rw [mem_singleton.mp hw]
        rfl
    · cases h
      cases hw
  | deleteIPv6Subnets vmID =>
    cases h
    rw [mem_singleton.mp hw]
    rfl
  | agent node call =>
    cases h
    obtain ⟨w', -, rfl⟩ := mem_map.mp hw
    rfl
  | _ =>
    cases h
    cases hw

section
variable {x : Inp} {ws : List Write}

lemma exec_createVM {vm a : VM} (h : exec (.createVM vm) x x db = .ok (a, ws)) :
    db.vms.find a.id = none ∧ ws = [.insertVM a] ∧
      a = { vm with id := x.fresh, rbdImage := none, deletedAt := none } := by
  simp only [exec] at h
  split at h
  · cases h
  · rename_i hfree
    split at h
    · cases h
    · cases h
      exact ⟨by simpa using hfree, rfl, rfl⟩

lemma exec_createTask {type : TaskType} {payload : Json} {key : Option String} {a : String}
    (h : exec (.createTask type payload key) x x db = .ok (a, ws)) :
    db.tasks.find a = none ∧ ws = [.insertTask ⟨a, type, .pending, payload, key⟩] ∧
      (key.isSome = true → ∀ t ∈ db.tasks.rows, t.idempotencyKey ≠ key) := by
  simp only [exec] at h
  split at h
  · cases h
  · rename_i hfree
    split at h
    · cases h
    · rename_i hkey
      cases h
      refine ⟨by simpa using hfree, rfl, fun hsome t ht hk => hkey ?_⟩
      exact ⟨hsome, any_eq_true.mpr ⟨t, ht, decide_eq_true hk⟩⟩

end

lemma Db.part_view {ws : List Write} (h : ∀ w ∈ ws, w.table ≠ t) :
    Db.part (store.view db ws) t = db.part t :=
  view_same (S := store) (g := fun db : Db => db.part t) (fun w hw _ => part_apply (h w hw)) db

lemma answer_table {e : Event store} (hw : w ∈ (store.answer q db e).2) :
    q.table = some w.table := by
  obtain ⟨x, a, ws, -, hx, hw⟩ := exec_of_mem_answer hw
  exact exec_table hx hw

lemma Db.part_answer (h : q.table ≠ some t) (db : Db) (e : Event store) :
    Db.part (store.view db (store.answer q db e).2) t = db.part t := by
  refine part_view fun w hw ht => h ?_
  rw [answer_table hw, ht]

/-- **A call leaves a table alone that none of its statements writes.** -/
theorem Db.part_alone {α : Type} {c : Op α} {o : Oracle}
    (h : c.All fun q : Stmt => q.table ≠ some t) : Db.part (c.alone o db).2 t = db.part t :=
  h.alone_frame (g := fun db : Db => db.part t) fun _ hq db e => part_answer hq db e

lemma answer_of_read (h : q.table = none) (db : Db) (e : Event store) :
    (store.answer q db e).2 = [] := by
  refine eq_nil_iff_forall_not_mem.mpr fun w hw => ?_
  cases h.symm.trans (answer_table hw)

lemma alone_of_reads {α : Type} {c : Op α} {o : Oracle} (h : c.All Stmt.Reads) :
    (c.alone o db).2 = db :=
  h.alone_frame (g := fun db : Db => db) fun _ hq db e => by rw [answer_of_read hq db e]; rfl

/-! ## combinators -/

namespace Op
variable {α β : Type} {o : Oracle} {db db' : Db} {ok : Stmt → Prop}

lemma alone_query (q : Stmt) (context : String) : (query q context).alone o db =
    ((store.answer q db (o q)).1.mapError fun e => .wrap context (.pg e),
      store.view db (store.answer q db (o q)).2) :=
  alone_stmt (S := store) q _

lemma alone_logged (c : Op α) : (logged c).alone o db = (.ok (), (c.alone o db).2) :=
  alone_attempt c _

lemma alone_lift (r : Except GoError α) : (lift r).alone o db = (r, db) := by
  cases r <;> rfl

variable {c : Op α} {context : String} {a : α} {q : Stmt}

lemma alone_wrapping {r : Except GoError α} (h : c.alone o db = (r, db')) :
    (wrapping context c).alone o db = (r.mapError (.wrap context), db') := by
  unfold wrapping
  rw [alone_attempt_of h]
  cases r <;> rfl

lemma calls_wrapping (context : String) (c : Op α) :
    (wrapping context c).calls o db = c.calls o db := by
  refine (calls_attempt c _).trans ?_
  cases (c.alone o db).1 with
  | ok a | error e => exact append_nil _

variable {f : GoError → GoError}

lemma replacing_eq_ok :
    (replacing f c).alone o db = (.ok a, db') ↔ c.alone o db = (.ok a, db') := by
  unfold replacing
  cases hc : c.alone o db with
  | mk r db1 =>
    rw [alone_attempt_of hc]
    cases r with
    | ok b => exact Iff.rfl
    | error e =>
      constructor
      · intro h
        cases h
      · intro h
        cases h

lemma wrapping_eq_ok : (wrapping context c).alone o db = (.ok a, db') ↔
    c.alone o db = (.ok a, db') :=
  replacing_eq_ok

lemma found_eq_ok {c : Op (Option α)} :
    (found context c).alone o db = (.ok a, db') ↔ c.alone o db = (.ok (some a), db') := by
  unfold found
  rw [alone_bind_eq_ok]
  constructor
  · rintro ⟨r, db1, hc, hr⟩
    cases r with
    | none => cases hr
    | some b =>
      cases hr
      exact hc
  · intro h
    exact ⟨some a, db', h, rfl⟩

/-! ### the statements of a call, and those with what follows it -/

variable {Q : α → Prop} {E : GoError → Prop} {U : Unit → Prop}

@[simp] lemma allTo_query (q : Stmt) (R : q.Ans → Prop) :
    Call.AllTo (α := no_index q.Ans) (query q context) ok R E ↔
      ok q ∧ (∀ a, R a) ∧ ∀ e, E (.wrap context (.pg e)) := allTo_stmt (S := store) q _ R

@[simp] lemma allTo_logged : (logged c).AllTo ok U E ↔ c.AllTo ok (fun _ => U ()) fun _ => U () :=
  allTo_attempt c _

@[simp] lemma allTo_wrapping : (wrapping context c).AllTo ok Q E ↔
    c.AllTo ok Q fun e => E (.wrap context e) :=
  allTo_attempt c _

@[simp] lemma allTo_replacing :
    (replacing f c).AllTo ok Q E ↔ c.AllTo ok Q fun e => E (f e) := allTo_attempt c _

@[simp] lemma allTo_found {c : Op (Option α)} : (found context c).AllTo ok Q E ↔
    c.AllTo ok (fun r => r.elim (E (.wrap context (.sentinel .notFound))) Q) E := by
  refine (allTo_bind c _).trans (iff_of_eq (congrArg (c.AllTo ok · E) (funext fun r => ?_)))
  cases r <;> rfl

@[simp] lemma allTo_affecting {c : Op Bool} : (affecting context c).AllTo ok U E ↔
    c.AllTo ok (fun b => if b then U () else E (.wrap context (.sentinel .noRowsAffected))) E := by
  refine (allTo_bind c _).trans (iff_of_eq (congrArg (c.AllTo ok · E) (funext fun r => ?_)))
  cases r <;> rfl

@[simp] lemma all_query : Call.All (α := no_index q.Ans) ok (query q context) ↔ ok q :=
  all_stmt (S := store) q _

lemma all_read (h : q.table = none) : (query q context).All Stmt.Reads := all_query.mpr h

@[simp] lemma all_logged : (logged c).All ok ↔ c.All ok := by
  simp only [← allTo_true, allTo_logged]

@[simp] lemma all_lift (r : Except GoError α) : (lift r).All ok := by
  cases r <;> trivial

@[simp] lemma all_wrapping : (wrapping context c).All ok ↔ c.All ok := by
  simp only [← allTo_true, allTo_wrapping]

@[simp] lemma all_replacing : (replacing f c).All ok ↔ c.All ok := by
  simp only [← allTo_true, allTo_replacing]

@[simp] lemma all_found {c : Op (Option α)} : (found context c).All ok ↔ c.All ok := by
  simp [← allTo_true]

@[simp] lemma all_affecting {c : Op Bool} : (affecting context c).All ok ↔ c.All ok := by
  simp [← allTo_true]

lemma query_eq_ok (hq : q.table = none) {a : q.Ans} : (query q context).alone o db = (.ok a, db') ↔
      (∃ x, o q = .ok x ∧ exec q x x db = .ok (a, [])) ∧ db' = db := by
  rw [alone_query]
  constructor
  · intro h
    obtain ⟨h1, h2⟩ := Prod.mk.inj h
    cases ha : store.answer q db (o q) with
    | mk r ws =>
      rw [ha] at h1 h2
      cases r with
      | error e => cases h1
      | ok b =>
        obtain rfl : b = a := Except.ok.inj h1
        obtain ⟨x, hx, hex⟩ := exec_of_answer ha
        have hws := answer_of_read hq db (o q)
        rw [ha] at hws
        obtain rfl : ws = [] := hws
        exact ⟨⟨x, hx, hex⟩, h2.symm⟩
  · rintro ⟨⟨x, hx, hex⟩, rfl⟩
    rw [hx, answer_of_ok hex]
    rfl

end Op

-- the methods of the repositories are one statement each
attribute [simp] VMRepository.getByID VMRepository.getByExternalServiceID VMRepository.update
  VMRepository.updateNodeAssignment VMRepository.updateResources VMRepository.updatePlanID
  VMRepository.updateTemplateID VMRepository.updateMACAddress NodeRepository.getByID
    NodeRepository.updateStatus
  PlanRepository.getByID TemplateRepository.getByID TemplateCacheRepository.get
    TaskRepository.getByIdempotencyKey
  TaskRepository.updateProgress TaskRepository.setCompleted TaskPublisher.publishTask
  StorageBackendService.getBackendsForNodeByType

/-! ## updates of a VM -/

section
variable {o : Oracle} {db : Db} {v : String} {vm : VM} {u : VMUpdate} {x : Inp}

lemma Db.vm_eq_some : db.vm v = some vm ↔ db.vms.find v = some vm ∧ vm.deletedAt = none := by
  unfold Db.vm
  rw [filter_eq_some_iff, isNone_iff_eq_none]

lemma Db.vm_id (h : db.vm v = some vm) : vm.id = v :=
  key_of_find (vm_eq_some.mp h).1

lemma Db.updateVM_of_applies {now : Int} (h : db.vm v = some vm) (hu : u.applies vm = true) :
    db.updateVM v u now = (true, [.putVM (u.set now vm)]) := by
  unfold Db.updateVM
  rw [(vm_eq_some.mp h).1, filter_some, if_pos hu]

lemma Db.updateVM_of_not {now : Int} (h : ∀ vm, db.vm v = some vm → u.applies vm = false) :
    db.updateVM v u now = (false, []) := by
  unfold Db.updateVM
  cases hf : (db.vms.find v).filter u.applies with
  | none => rfl
  | some vm =>
    obtain ⟨hv, hu⟩ := filter_eq_some_iff.mp hf
    have hd : vm.deletedAt = none := by
      have hn := (Bool.and_eq_true_iff.mp hu).1
      exact isNone_iff_eq_none.mp hn
    rw [h vm (vm_eq_some.mpr ⟨hv, hd⟩)] at hu
    cases hu

/-- **An update changes one row, which is not deleted, or nothing.** -/
theorem Db.updateVM_cases (db : Db) (v : String) (u : VMUpdate) (now : Int) :
    db.updateVM v u now = (false, []) ∨ ∃ vm, db.vm v = some vm ∧ u.applies vm = true ∧
      db.updateVM v u now = (true, [.putVM (u.set now vm)]) := by
  by_cases h : ∃ vm, db.vm v = some vm ∧ u.applies vm = true
  · obtain ⟨vm, hvm, hu⟩ := h
    exact .inr ⟨vm, hvm, hu, updateVM_of_applies hvm hu⟩
  · refine .inl (updateVM_of_not fun vm hvm => ?_)
    by_contra hu
    exact h ⟨vm, hvm, by simpa using hu⟩

lemma VMUpdate.set_id (u : VMUpdate) (now : Int) (vm : VM) : (u.set now vm).id = vm.id := by
  cases u <;> rfl

def Db.setVM (db : Db) (vm : VM) : Db := { db with vms := db.vms.put vm }

lemma Db.setVM_vm {vm' : VM} (h : db.vm v = some vm) (hid : vm'.id = vm.id)
    (hd : vm'.deletedAt = none) : (db.setVM vm').vm v = some vm' := by
  have hk : vm.keys = vm'.keys := congrArg (fun id => [id]) hid.symm
  exact vm_eq_some.mpr ⟨find_put_self (vm_eq_some.mp h).1 hk, hd⟩

lemma Db.setVM_vm_ne {vm' : VM} (hid : vm'.id ≠ v) : (db.setVM vm').vm v = db.vm v := by
  have hk : v ∉ vm'.keys := fun h => hid (mem_singleton.mp h).symm
  unfold Db.vm
  rw [show (db.setVM vm').vms.find v = db.vms.find v from find_put_of_notMem hk]

variable {context : String} {q : Stmt} {db' : Db} {dst : VMStatus}

lemma query_updateVM_applies (h : db.vm v = some vm) (hu : u.applies vm = true)
    (ho : o (.updateVM v u) = .ok x) : (query (.updateVM v u) context).alone o db =
      (.ok true, db.setVM (u.set x.now vm)) := by
  have hex : exec (.updateVM v u) x x db = .ok (true, [.putVM (u.set x.now vm)]) :=
    congrArg Except.ok (updateVM_of_applies h hu)
  rw [alone_query, ho, answer_of_ok (S := store) hex]
  rfl

lemma query_updateVM_not (h : ∀ vm, db.vm v = some vm → u.applies vm = false)
    (ho : o (.updateVM v u) = .ok x) :
    (query (.updateVM v u) context).alone o db = (.ok false, db) := by
  have hex : exec (.updateVM v u) x x db = .ok (false, []) :=
    congrArg Except.ok (updateVM_of_not h)
  rw [alone_query, ho, answer_of_ok (S := store) hex]
  rfl

lemma query_not_served (h : served o q = false) (db : Db) (context : String) :
    ∃ e, (query q context).alone o db = (.error e, db) := by
  rw [alone_query]
  unfold served at h
  cases ho : o q with
  | ok x =>
    rw [ho] at h
    cases h
  | fail e => exact ⟨_, rfl⟩

lemma served_iff : served o q = true ↔ ∃ x, o q = .ok x := by
  unfold served
  cases o q with
  | ok x => exact ⟨fun _ => ⟨x, rfl⟩, fun _ => rfl⟩
  | fail e => exact ⟨fun h => (by cases h), fun ⟨x, h⟩ => (by cases h)⟩

lemma read_eq_ok {a₀ a : q.Ans} (hex : ∀ x, exec q x x db = .ok (a₀, [])) (hq : q.table = none) :
    (query q context).alone o db = (.ok a, db') ↔ (served o q = true ∧ a₀ = a) ∧ db' = db := by
  rw [query_eq_ok hq, served_iff]
  refine and_congr_left' ⟨?_, ?_⟩
  · rintro ⟨x, hx, h⟩
    rw [hex x] at h
    cases h
    exact ⟨⟨x, hx⟩, rfl⟩
  · rintro ⟨⟨x, hx⟩, rfl⟩
    exact ⟨x, hx, hex x⟩

lemma update_alone_ok (h : db.vm v = some vm) (hu : u.applies vm = true)
    (ho : o (.updateVM v u) = .ok x) :
    (update v u context).alone o db = (.ok (), db.setVM (u.set x.now vm)) :=
  alone_bind_ok (query_updateVM_applies h hu ho)

lemma updateVM_alone_error {f : Bool → Op Unit} (hf : ∃ e, (f false).alone o db = (.error e, db))
    (h : served o (.updateVM v u) = false ∨ ∀ vm, db.vm v = some vm → u.applies vm = false) :
    ∃ e, (query (.updateVM v u) context >>= f).alone o db = (.error e, db) := by
  rcases Bool.eq_false_or_eq_true (served o (.updateVM v u)) with hs | hs
  · obtain ⟨x, hx⟩ := served_iff.mp hs
    have hn := h.resolve_left (by rw [hs]; decide)
    rw [alone_bind_ok (query_updateVM_not hn hx)]
    exact hf
  · obtain ⟨e, he⟩ := query_not_served hs db context
    exact ⟨e, alone_bind_error he⟩

lemma update_eq_ok : (update v u context).alone o db = (.ok (), db') ↔
      ∃ x vm, o (.updateVM v u) = .ok x ∧ db.vm v = some vm ∧ u.applies vm = true ∧
        db' = db.setVM (u.set x.now vm) := by
  constructor
  · intro h
    by_cases hbad : served o (.updateVM v u) = false ∨ ∀ vm, db.vm v = some vm →
      u.applies vm = false
    · obtain ⟨e, he⟩ : ∃ e, (update v u context).alone o db = (.error e, db) :=
        updateVM_alone_error ⟨_, rfl⟩ hbad
      rw [he] at h
      cases h
    · obtain ⟨hs, hvm⟩ := not_or.mp hbad
      obtain ⟨x, hx⟩ := served_iff.mp (Bool.not_eq_false _ ▸ hs)
      push Not at hvm
      obtain ⟨vm, hvm, hu⟩ := hvm
      have hu' : u.applies vm = true := by simpa using hu
      rw [update_alone_ok hvm hu' hx] at h
      cases h
      exact ⟨x, vm, hx, hvm, hu', rfl⟩
  · rintro ⟨x, vm, hx, hvm, hu, rfl⟩
    exact update_alone_ok hvm hu hx

lemma transition_applies {src : VMStatus} (h : db.vm v = some vm) :
    (VMUpdate.transition src dst).applies vm = decide (vm.status = src) := by
  unfold VMUpdate.applies
  rw [(vm_eq_some.mp h).2]
  rfl

lemma transition_alone_ok {src : VMStatus} (hf : Follows src dst) (h : db.vm v = some vm)
    (hs : vm.status = src) (ho : o (.updateVM v (.transition src dst)) = .ok x) :
    (transitionStatus v src.text dst).alone o db =
      (.ok (), db.setVM { vm with status := dst }) := by
  have hv : validateVMTransition src.text dst = .ok src := validateVMTransition_ok.mpr ⟨rfl, hf⟩
  have hu : (VMUpdate.transition src dst).applies vm = true := by
    rw [transition_applies h, hs]
    exact decide_eq_true rfl
  unfold transitionStatus
  rw [hv]
  exact alone_bind_ok (query_updateVM_applies h hu ho)

lemma transition_alone_error {src : String} (h : ∀ st, validateVMTransition src dst = .ok st →
      served o (.updateVM v (.transition st dst)) = false ∨ ∀ vm, db.vm v = some vm →
        vm.status ≠ st) : ∃ e, (transitionStatus v src dst).alone o db = (.error e, db) := by
  unfold transitionStatus
  cases hv : validateVMTransition src dst with
  | error e => exact ⟨e, rfl⟩
  | ok st =>
    refine updateVM_alone_error ⟨_, rfl⟩ ((h st hv).imp_right fun hn vm hvm => ?_)
    rw [transition_applies hvm]
    exact decide_eq_false (hn vm hvm)

lemma transition_eq_ok {src : String}
    (h : (transitionStatus v src dst).alone o db = (.ok (), db')) :
    ∃ vm, db.vm v = some vm ∧ vm.status.text = src ∧ Follows vm.status dst ∧
      db' = db.setVM { vm with status := dst } := by
  by_cases hbad : ∀ st, validateVMTransition src dst = .ok st →
      served o (.updateVM v (.transition st dst)) = false ∨ ∀ vm, db.vm v = some vm → vm.status ≠ st
  · obtain ⟨e, he⟩ := transition_alone_error hbad
    rw [he] at h
    cases h
  · push Not at hbad
    obtain ⟨st, hst, hserved, vm, hvm, rfl⟩ := hbad
    obtain ⟨rfl, hf⟩ := validateVMTransition_ok.mp hst
    obtain ⟨x, hx⟩ := served_iff.mp (by simpa using hserved)
    rw [transition_alone_ok hf hvm rfl hx] at h
    cases h
    exact ⟨vm, hvm, rfl, hf, rfl⟩

end

/-! ## reads -/

section
variable {o : Oracle} {db db' : Db} {v : String}

lemma lift_eq_ok {α : Type} {r : Except GoError α} {a : α} :
    (lift r).alone o db = (.ok a, db') ↔ r = .ok a ∧ db' = db := by
  rw [alone_lift, Prod.mk.injEq]
  exact and_congr_right' eq_comm

lemma progress_alone (taskID : String) (n : Int) (msg : String) :
    (logged (TaskRepository.updateProgress taskID n msg)).alone o db = (.ok (), db) := by
  rw [alone_logged]
  exact congrArg _ (alone_of_reads (all_affecting.mpr (all_read rfl)))

lemma getNode_eq_ok {node : Node} : (NodeRepository.getByID id).alone o db = (.ok node, db') ↔
      (served o (.getNode id) = true ∧ db.nodes.find id = some node) ∧ db' = db :=
  found_eq_ok.trans (read_eq_ok (fun _ => rfl) rfl)

lemma getVM_eq_ok {vm : VM} : (getByID id).alone o db = (.ok vm, db') ↔
      (served o (.getVM id) = true ∧ db.vm id = some vm) ∧ db' = db :=
  found_eq_ok.trans (read_eq_ok (fun _ => rfl) rfl)

def Db.hasStatus (db : Db) (v : String) (status : VMStatus) : Prop :=
  ∃ vm, db.vm v = some vm ∧ vm.status = status

lemma Db.hasStatus_unique {s t : VMStatus} (hs : db.hasStatus v s) (ht : db.hasStatus v t) :
    s = t := by
  obtain ⟨vm, hvm, rfl⟩ := hs
  obtain ⟨vm', hvm', rfl⟩ := ht
  rw [mem_unique hvm hvm']

end

/-! ## calls of the agents -/

section
variable (o : Oracle) (db : Db) (node : String) (call : AgentCall)

def agentAnswer : Except String Unit :=
  match o (.agent node call) with
  | .ok x => if x.lost then .error "transport is closing" else (db.rpc x node call).1
  | .fail e => .error e

def agentHosts : Hosts :=
  match o (.agent node call) with
  | .ok x => db.hosts.after (db.rpc x node call).2
  | .fail _ => db.hosts

def Db.setHosts (h : Hosts) : Db := { db with hosts := h }

variable {db} in
lemma withNode_of_find {nodeID : String} {n : Node} {r : HostResult}
    (h : db.nodes.find nodeID = some n) : db.withNode nodeID r = r := by
  unfold Db.withNode
  rw [h]

variable {db} in
lemma withVM_of_find {vmID : String} {vm : VM} {f : VM → HostResult}
    (h : db.vms.find vmID = some vm) : db.withVM vmID f = f vm := by
  unfold Db.withVM
  rw [h]

variable {db} in
lemma withNode_ok {nodeID : String} {r : HostResult} (h : (db.withNode nodeID r).1 = .ok ()) :
    db.withNode nodeID r = r := by
  unfold Db.withNode at h ⊢
  cases hn : db.nodes.find nodeID with
  | some n => rfl
  | none =>
    rw [hn] at h
    cases h

lemma view_host (ws : List HostWrite) :
    store.view db (ws.map .host) = db.setHosts (db.hosts.after ws) := by
  induction ws generalizing db with
  | nil => rfl
  | cons w ws ih => exact ih (db.apply (.host w))

variable {o db node call}

lemma query_agent (o : Oracle) (db : Db) (node : String) (call : AgentCall) (context : String) :
    ∃ r, (query (.agent node call) context).alone o db =
      (r, db.setHosts (agentHosts o db node call)) ∧
      (agentAnswer o db node call = .ok () → r = .ok (.ok ())) ∧
      (∀ t, agentAnswer o db node call = .error t → (∃ t', r = .ok (.error t')) ∨
        ∃ e, r = .error e) := by
  rw [alone_query]
  unfold agentAnswer agentHosts
  cases ho : o (.agent node call) with
  | ok x =>
    have hex : exec (.agent node call) x x db = .ok
      (if x.lost then .error "transport is closing" else (db.rpc x node call).1,
        (db.rpc x node call).2.map .host) := rfl
    rw [answer_of_ok (S := store) hex]
    refine ⟨_, congrArg _ (view_host db _), fun h => congrArg Except.ok h, fun t h =>
      .inl ⟨t, congrArg Except.ok h⟩⟩
  | fail e => exact ⟨_, rfl, fun h => (by cases h), fun t h => .inr ⟨_, rfl⟩⟩

lemma agent_alone_ok (h : agentAnswer o db node call = .ok ()) :
    (NodeAgent.call node call).alone o db = (.ok (), db.setHosts (agentHosts o db node call)) := by
  obtain ⟨r, hr, hok, -⟩ := query_agent o db node call ("calling node " ++ node)
  rw [hok h] at hr
  exact alone_bind_ok hr

lemma agent_alone_error {t : String} (h : agentAnswer o db node call = .error t) :
    ∃ e, (NodeAgent.call node call).alone o db =
      (.error e, db.setHosts (agentHosts o db node call)) := by
  obtain ⟨r, hr, -, herr⟩ := query_agent o db node call ("calling node " ++ node)
  rcases herr t h with ⟨t', rfl⟩ | ⟨e, rfl⟩
  · exact ⟨.new t', alone_bind_ok hr⟩
  · exact ⟨e, alone_bind_error hr⟩

lemma agent_eq_ok {db' : Db} : (NodeAgent.call node call).alone o db = (.ok (), db') ↔
    agentAnswer o db node call = .ok () ∧ db' = db.setHosts (agentHosts o db node call) := by
  cases h : agentAnswer o db node call with
  | ok u =>
    rw [agent_alone_ok h, Prod.mk.injEq]
    exact ⟨fun h => ⟨rfl, h.2.symm⟩, fun h => ⟨rfl, h.2.symm⟩⟩
  | error e =>
    obtain ⟨err, he⟩ := agent_alone_error h
    rw [he]
    exact ⟨fun h => (by cases h), fun h => (by cases h.1)⟩

lemma agentAnswer_ok (h : agentAnswer o db node call = .ok ()) : ∃ x : Inp,
    o (.agent node call) = .ok x ∧ (db.rpc x node call).1 = .ok () ∧
      agentHosts o db node call = db.hosts.after (db.rpc x node call).2 := by
  unfold agentAnswer at h
  unfold agentHosts
  cases ho : o (.agent node call) with
  | fail e =>
    rw [ho] at h
    cases h
  | ok x =>
    rw [ho] at h
    refine ⟨x, rfl, ?_, rfl⟩
    by_cases hl : x.lost = true
    · simp only [if_pos hl] at h
      cases h
    · simpa only [if_neg hl] using h

lemma calls_agent (o : Oracle) (db : Db) (node : String) (call : AgentCall) :
    (NodeAgent.call node call).calls o db = [(.agent node call, db)] := by
  have hq : (query (.agent node call) ("calling node " ++ node)).calls o db =
    [(.agent node call, db)] :=
    calls_stmt (S := store) _ _
  cases hr : (query (.agent node call) ("calling node " ++ node)).alone o db with
  | mk r db' =>
    cases r with
    | ok a =>
      refine (calls_bind_ok hr).trans ?_
      rw [hq]
      cases a <;> rfl
    | error e => exact (calls_bind_error hr).trans hq

lemma agent_alone_db :
    ((NodeAgent.call node call).alone o db).2 = db.setHosts (agentHosts o db node call) := by
  cases h : agentAnswer o db node call with
  | ok a => rw [agent_alone_ok h]
  | error t =>
    obtain ⟨e, he⟩ := agent_alone_error h
    rw [he]

end

/-! ## a small database -/

def calm : Inp := ⟨0, "f", fun _ => false, false⟩

/-- a VM of that name and status on the node `n` -/
def vmIn (id : String) (status : VMStatus) (storageBackend : String) : VM :=
  ⟨id, "c", some "n", "p", "h", status, 1, 1024, 10, 100, 0, "52:54:00:00:00:01", none, none,
    storageBackend, none, none, none⟩

def emptyHosts : Hosts := ⟨fun _ => ⟨"", fun _ => true⟩, fun _ => none, fun _ => none, fun _ => []⟩

/-- the VM `vm`, the node `n` and a template `t` of a pool -/
def oneVM (vm : VM) : Db where
  vms := empty.insert vm
  nodes := empty.insert ⟨"n", "h", none, .online, 8, 8192, 0, 0, "", "", ""⟩
  tasks := .empty
  plans := []
  templates := [⟨"t", "image", "snapshot", 10, true, storageBackendCeph⟩]
  templateCache := []
  backends := fun _ => []
  ipSets := []
  ips := .empty
  prefixes := []
  subnets := []
  hosts := emptyHosts

/-- a plan of eight CPUs and 8192 MB on Ceph -/
def cephPlan : Plan := ⟨"p", 8, 8192, 10, 100, 0, true, storageBackendCeph⟩

def cephBackend : StorageBackend :=
  ⟨"b", "pool", .ceph, some "vms", none, none, none, none, none, "healthy"⟩

/-- the node `n` with room for one VM of the plan -/
def noVM : Db :=
  { oneVM (vmIn "v" .running storageBackendCeph) with
    vms := .empty
    plans := [cephPlan]
    backends := fun _ => [cephBackend] }

lemma oneVM_vm (status : VMStatus) (b : String) :
    (oneVM (vmIn "v" status b)).vm "v" = some (vmIn "v" status b) := by rfl

end VirtueStack.Compute
