import VirtueStack.Compute.Operations
import VirtueStack.Txn.Log

/-!
# Any number of operations at once
-/

namespace VirtueStack.Compute
open Txn Call Op Table List
open Billing (VMStatus)
open VMService

/-! ## one statement -/

section
variable {q : Stmt} {x : Inp} {db : Db} {a : q.Ans} {ws : List Write}

lemma exec_updateVM {v : String} {u : VMUpdate} {a : Bool}
    (h : exec (.updateVM v u) x x db = .ok (a, ws)) : a = false ∧ ws = [] ∨
      ∃ vm, db.vm v = some vm ∧ u.applies vm = true ∧ a = true ∧
        ws = [.putVM (u.set x.now vm)] := by
  have hu : db.updateVM v u x.now = (a, ws) := Except.ok.inj h
  rcases Db.updateVM_cases db v u x.now with hu' | ⟨vm, hvm, happ, hu'⟩
  · rw [hu'] at hu
    cases hu
    exact .inl ⟨rfl, rfl⟩
  · rw [hu'] at hu
    cases hu
    exact .inr ⟨vm, hvm, happ, rfl, rfl⟩

variable (hx : exec q x x db = .ok (a, ws))
include hx

lemma exec_row {v : String} {row : VM}
    (h : db.vms.find v = some row) : (store.view db ws).vms.find v = some row ∨
      ∃ u, q = .updateVM v u ∧ row.deletedAt = none ∧ u.applies row = true ∧
        ws = [.putVM (u.set x.now row)] ∧ (store.view db ws).vms.find v =
          some (u.set x.now row) := by
  by_cases ht : q.table = some .vms
  · cases q with
    | createVM vm =>
      obtain ⟨hfree, rfl, -⟩ := exec_createVM hx
      refine .inl ((find_insert_of_notMem fun hv => ?_).trans h)
      rw [mem_singleton.mp hv, hfree] at h
      cases h
    | updateVM w u =>
      rcases exec_updateVM hx with ⟨-, rfl⟩ | ⟨vm, hvm, happ, -, rfl⟩
      · exact .inl h
      · have hid : vm.id = w := Db.vm_id hvm
        by_cases hw : w = v
        · subst hw
          obtain ⟨hfind, hd⟩ := Db.vm_eq_some.mp hvm
          obtain rfl : vm = row := Option.mem_unique hfind h
          refine .inr ⟨u, rfl, hd, happ, rfl, find_put_self h ?_⟩
          exact congrArg (fun id => [id]) (VMUpdate.set_id u x.now vm).symm
        · refine .inl ((find_put_of_notMem fun hv => hw ?_).trans h)
          rw [mem_singleton.mp hv, VMUpdate.set_id, hid]
    | _ => cases ht
  · have hpart : Db.part (store.view db ws) .vms = db.part .vms :=
      Db.part_view fun w hw hwt => ht (by rw [exec_table hx hw, hwt])
    have hvms : (store.view db ws).vms = db.vms := hpart
    exact .inl (by rw [hvms]; exact h)

lemma exec_tasks_of_table (h : q.table ≠ some .tasks) : (store.view db ws).tasks = db.tasks := by
  have hpart : Db.part (store.view db ws) .tasks = db.part .tasks :=
    Db.part_view fun w hw hwt => h (by rw [exec_table hx hw, hwt])
  exact hpart

lemma exec_task {t : Task} (h : t ∈ (store.view db ws).tasks.rows) :
    (∃ t' ∈ db.tasks.rows, t = { t' with status := t.status }) ∨
      q = .createTask t.type t.payload t.idempotencyKey ∧ ws = [.insertTask t] := by
  by_cases ht : q.table = some .tasks
  · cases q with
    | createTask type payload key =>
      obtain ⟨hfree, rfl, -⟩ := exec_createTask hx
      have hrows : (db.tasks.insert ⟨a, type, .pending, payload, key⟩).rows = _ :=
        rows_insert_of_find hfree
      have hmem : t ∈ (db.tasks.insert ⟨a, type, .pending, payload, key⟩).rows := h
      rw [hrows] at hmem
      rcases mem_append.mp hmem with hmem | hmem
      · exact .inl ⟨t, hmem, rfl⟩
      · rw [mem_singleton.mp hmem]
        exact .inr ⟨rfl, rfl⟩
    | setCompleted id =>
      cases hf : db.tasks.find id with
      | none =>
        simp only [exec, hf] at hx
        cases hx
        exact .inl ⟨t, h, rfl⟩
      | some old =>
        simp only [exec, hf] at hx
        cases hx
        have hmem : t ∈ (db.tasks.put { old with status := .completed }).rows := h
        rcases mem_rows_put hmem with rfl | hmem
        · exact .inl ⟨old, (find_some hf).1, rfl⟩
        · exact .inl ⟨t, hmem, rfl⟩
    | _ => cases ht
  · rw [exec_tasks_of_table hx ht] at h
    exact .inl ⟨t, h, rfl⟩

lemma exec_find_task {id : String} {t : Task} (h : db.tasks.find id = some t) :
    ∃ st, (store.view db ws).tasks.find id = some { t with status := st } := by
  by_cases hq : q.table = some .tasks
  · cases q with
    | createTask ty doc key =>
      obtain ⟨hfree, rfl, -⟩ := exec_createTask hx
      refine ⟨t.status, (find_insert_of_notMem fun hid => ?_).trans h⟩
      rw [mem_singleton.mp hid, hfree] at h
      cases h
    | setCompleted other =>
      cases hf : db.tasks.find other with
      | none =>
        simp only [exec, hf] at hx
        cases hx
        exact ⟨t.status, h⟩
      | some old =>
        simp only [exec, hf] at hx
        cases hx
        have hold : other = old.id := (key_of_find hf).symm
        by_cases hid : id = other
        · subst hid
          obtain rfl : old = t := Option.mem_unique hf h
          exact ⟨.completed, find_put_self h rfl⟩
        · refine ⟨t.status, (find_put_of_notMem fun hmem => hid ?_).trans h⟩
          rw [mem_singleton.mp hmem, hold]
    | _ => cases hq
  · rw [exec_tasks_of_table hx hq]
    exact ⟨t.status, h⟩

lemma exec_nil (h : q.table = none) : ws = [] := by
  cases ws with
  | nil => rfl
  | cons w ws =>
    have hw : q.table = some w.table := exec_table hx mem_cons_self
    rw [h] at hw
    cases hw

end

/-! ## the end of a VM -/

def Deleted (db : Db) (v : String) : Prop := ∃ row, db.vms.find v = some row ∧ row.deletedAt ≠ none

section
variable {db : Db} {v : String} {vm : VM}

lemma not_deleted_of_vm (h : db.vm v = some vm) : ¬ Deleted db v := by
  rintro ⟨row, hrow, hd⟩
  obtain ⟨hfind, hnone⟩ := Db.vm_eq_some.mp h
  obtain rfl : vm = row := Option.mem_unique hfind hrow
  exact hd hnone

lemma deleted_exec {q : Stmt} {x : Inp} {a : q.Ans} {ws : List Write}
    (hx : exec q x x db = .ok (a, ws)) (h : Deleted db v) : Deleted (store.view db ws) v := by
  obtain ⟨row, hrow, hd⟩ := h
  rcases exec_row hx hrow with hsame | ⟨u, -, hnone, -⟩
  · exact ⟨row, hsame, hd⟩
  · exact absurd hnone hd

lemma softDelete_deleted {now : Int} (h : db.vms.find v = some (VMUpdate.softDelete.set now vm)) :
    Deleted db v := ⟨_, h, fun hd => by cases hd⟩

end

/-! ## operations and their moves -/

def Operation.isCreate : Operation → Bool
  | .createVM _ _ _ => true
  | _ => false

def Operation.isDelete : Operation → Bool
  | .deleteVM _ _ _ => true
  | _ => false

def Operation.isMigration : Operation → Bool
  | .migrateVM _ _ => true
  | .cancelMigration _ => true
  | _ => false

/-- the columns of a node that are about capacity -/
def Node.capacity (n : Node) : String × Int × Int × Int × Int :=
  (n.id, n.allocatedVCPU, n.allocatedMemoryMB, n.totalVCPU, n.totalMemoryMB)

def Db.counters (db : Db) : List (String × Int × Int × Int × Int) := db.nodes.rows.map Node.capacity

/-- by its counters, the node of the VM has room for it -/
def Db.HasRoomFor (db : Db) (vm : VM) : Prop :=
  ∃ node : Node, vm.nodeID = some node.id ∧ node.capacity ∈ db.counters ∧
    VMService.hasRoom node vm.vcpu vm.memoryMB = true

section
variable {ι : Type}

/-- the last thing that session `i` has done is to mark the VM, which was in status `st` -/
def MarkedBy (db₀ : Db) (m : Mem store ι) (i : ι) (v : String) (st : VMStatus) : Prop :=
  ∃ pre vm, m.Last i pre [.putVM { vm with status := .deleting }] ∧
    Db.vm (store.replay db₀ pre) v = some vm ∧ vm.status = st ∧ Follows st .deleting

/-- what the operation `op` of session `i` may send in the state `m` -/
inductive Move (db₀ : Db) (op : Operation) (i : ι) (m : Mem store ι) : Stmt → Prop
  | lawful {q : Stmt} (hop : op.isDelete = false) (h : q.Lawful) : Move db₀ op i m q
  | inserted (hop : op.isCreate = true) {vm : VM} (h : db₀.HasRoomFor vm) :
      Move db₀ op i m (.createVM vm)
  | cleaned (hop : op.isCreate = true) {pre : List (ι × List Write)} {row : VM}
      (h : m.Last i pre [.insertVM row]) : Move db₀ op i m (.updateVM row.id .softDelete)
  | marked (hop : op.isDelete = true) (v : String) {src : VMStatus} (h : Follows src .deleting) :
      Move db₀ op i m (.updateVM v (.transition src .deleting))
  | published (hop : op.isDelete = true) {v : String} {st : VMStatus}
      (h : MarkedBy db₀ m i v st) {doc : Json} (hdoc : VMDeletePayload.decode doc = .ok ⟨v⟩) :
      Move db₀ op i m (.createTask .vmDelete doc none)
  | restored (hop : op.isDelete = true) {v : String} {st : VMStatus} (h : MarkedBy db₀ m i v st) :
      Move db₀ op i m (.updateVM v (.status st))
  | finished (hop : op.isDelete = false) {task : Task} {p : VMDeletePayload}
      (h : task ∈ (Db.tasks m.db).rows) (ht : task.type = .vmDelete)
      (hp : VMDeletePayload.decode task.payload = .ok p) :
      Move db₀ op i m (.updateVM p.vmID .softDelete)
  | migrating (hop : op.isMigration = true) {q : Stmt} (h : q.Migrates) : Move db₀ op i m q

/-- **The protocol.** A session makes public what its operation may send; `allow` is what the runs
have in common. -/
def operating (db₀ : Db) (ops : ι → Operation)
    (allow : ι → Req store → Loc store → Mem store ι → Prop) : Protocol store ι where
  init := fun m => m = ⟨db₀, []⟩
  may := fun i _ ws m => ∃ (q : Stmt) (x : Inp) (a : q.Ans), Move db₀ (ops i) i m q ∧
    allow i (.run q) .idle m ∧ exec q x x m.db = .ok (a, ws)
  allow := allow

variable {db₀ : Db} {ops : ι → Operation} {allow : ι → Req store → Loc store → Mem store ι → Prop}
  {m : Mem store ι} {i : ι} {α : Type} {op : Operation}

lemma isDelete_of_isCreate (h : op.isCreate = true) : op.isDelete = false := by
  cases op <;> first | rfl | cases h

lemma reach_replay (h : (operating db₀ ops allow).Reach m) : m.db = store.replay db₀ m.wal :=
  h.replay fun _ hm => hm

/-! ## the counters -/

lemma Move.keeps_counters {q : Stmt} (h : Move db₀ op i m q) :
    (∀ id vcpu memoryMB, q ≠ .incrementAllocated id vcpu memoryMB) ∧
      ∀ id vcpu memoryMB, q ≠ .decrementAllocated id vcpu memoryMB := by
  cases h with
  | lawful hop h => exact ⟨fun _ _ _ hq => (hq ▸ h).elim, fun _ _ _ hq => (hq ▸ h).elim⟩
  | migrating hop h =>
    cases h with
    | lawful h => exact ⟨fun _ _ _ hq => (hq ▸ h).elim, fun _ _ _ hq => (hq ▸ h).elim⟩
    | _ => exact ⟨fun _ _ _ hq => (by cases hq), fun _ _ _ hq => (by cases hq)⟩
  | _ => exact ⟨fun _ _ _ hq => (by cases hq), fun _ _ _ hq => (by cases hq)⟩

lemma counters_exec {db : Db} {q : Stmt} {x : Inp} {a : q.Ans} {ws : List Write}
    (hq : Move db₀ op i m q) (hx : exec q x x db = .ok (a, ws)) :
    Db.counters (store.view db ws) = db.counters := by
  by_cases ht : q.table = some .nodes
  · obtain ⟨hinc, hdec⟩ := hq.keeps_counters
    cases q with
    | updateNodeStatus id status =>
      cases hf : db.nodes.find id with
      | none =>
        simp only [exec, hf] at hx
        cases hx
        rfl
      | some node =>
        simp only [exec, hf] at hx
        cases hx
        refine map_rows_put fun other hother hk => ?_
        have hmem : node ∈ db.nodes.rows := (find_some hf).1
        have hid : other.id = node.id := singleton_inj.mp hk
        obtain rfl : other = node := eq_of_key (k := node.id) hother hmem
          (mem_singleton.mpr hid.symm) (mem_singleton_self node.id)
        rfl
    | incrementAllocated id vcpu memoryMB => exact absurd rfl (hinc id vcpu memoryMB)
    | decrementAllocated id vcpu memoryMB => exact absurd rfl (hdec id vcpu memoryMB)
    | _ => cases ht
  · have hpart : Db.part (store.view db ws) .nodes = db.part .nodes :=
      Db.part_view fun w hw hwt => ht (by rw [exec_table hx hw, hwt])
    have hnodes : (store.view db ws).nodes = db.nodes := hpart
    unfold Db.counters
    rw [hnodes]

/-- **The counters are what they were at the start**, in every state of every run. -/
theorem counters_run (h : (operating db₀ ops allow).Reach m) : Db.counters m.db = db₀.counters := by
  refine h.invariant (I := fun m => Db.counters m.db = db₀.counters) ?_ ?_
  · rintro _ rfl
    rfl
  · rintro m i H ws - hm - - ⟨q, x, a, hq, -, hx⟩
    rw [Mem.publish_db, counters_exec hq hx]
    exact hm

/-! ## calls that keep to it -/

variable {c : Op α} {P : Protocol store ι} {v customerID : String} {Q : α → Prop}

lemma keeps_of_does {ok : Stmt → Prop} (hc : c.Does ok Q)
    (h : ∀ q, ok q → ∀ m, Move db₀ (ops i) i m q) : Keeps (operating db₀ ops allow) i c m := by
  refine Idle.mono (Does.idle (K := fun _ => True) (fun _ _ _ _ _ _ _ => trivial) hc
    (fun q hq m x a ws _ _ ha hx _ => ?_) trivial) fun _ _ _ _ => trivial
  exact ⟨q, x, a, h q hq m, ha, hx⟩

lemma keeps_lawful (hop : (ops i).isDelete = false) (hc : c.Does Stmt.Lawful Q) :
    Keeps (operating db₀ ops allow) i c m := keeps_of_does hc fun _ hq _ => .lawful hop hq

lemma keeps_reads (hc : c.All Stmt.Reads) : Keeps (operating db₀ ops allow) i c m :=
  hc.keeps fun _ hq _ _ _ _ _ _ hx hne => absurd (exec_nil hx hq) hne

lemma idle_of_reads (hc : c.Does Stmt.Reads Q) :
    Idle (operating db₀ ops allow) i c (fun r _ => ∀ a, r = .ok a → Q a) m := by
  refine Idle.mono (Does.idle (K := fun _ => True) (fun _ _ _ _ _ _ _ => trivial) hc
    (fun q hq m x a ws _ _ _ hx hne => absurd (exec_nil hx hq) hne) trivial) fun _ _ _ h => h.1

lemma idle_wrapping {K : α → Mem store ι → Prop} {context : String}
    (h : Idle P i c (fun r m => ∀ a, r = .ok a → K a m) m) :
    Idle P i (wrapping context c) (fun r m => ∀ a, r = .ok a → K a m) m := by
  refine Idle.attempt h fun r m _ hr => ?_
  cases r with
  | ok a => exact Idle.pure hr
  | error e => exact Idle.fail fun _ _ _ _ h => by cases h

/-! ## a deletion -/

lemma idle_mark {st : VMStatus} (hop : (ops i).isDelete = true) :
    Idle (operating db₀ ops allow) i (VMRepository.transitionStatus v st.text .deleting)
      (fun r m => ∀ u, r = .ok u → MarkedBy db₀ m i v st) m := by
  have herr : ∀ (e : GoError) (m : Mem store ι), Settled (operating db₀ ops allow) i
      (fun m => ∀ u, (Except.error e : Except GoError Unit) = .ok u → MarkedBy db₀ m i v st) m :=
    fun e m _ _ _ _ h => by cases h
  unfold VMRepository.transitionStatus
  cases hv : validateVMTransition st.text .deleting with
  | error e => exact Idle.fail (herr _ _)
  | ok src =>
    obtain ⟨ht, hf⟩ := validateVMTransition_ok.mp hv
    obtain rfl : src = st := text_inj ht
    refine Idle.stmt (fun _ _ _ _ => Idle.fail (herr _ _)) fun m' x a ws _ hR ha hx => ?_
    refine ⟨fun _ => ⟨_, x, a, .marked hop v hf, ha, hx⟩, ?_⟩
    rcases exec_updateVM hx with ⟨rfl, rfl⟩ | ⟨vm, hvm, happ, rfl, rfl⟩
    · exact Idle.fail (herr _ _)
    · have hst : vm.status = src := by
        rw [transition_applies hvm] at happ
        exact of_decide_eq_true happ
      have hmarked :
        MarkedBy db₀ (m'.publish i [.putVM ((VMUpdate.transition src .deleting).set x.now vm)])
          i v src := by
        refine ⟨m'.wal, vm, Mem.last_publish (by simp), ?_, hst, hf⟩
        rw [← reach_replay hR]
        exact hvm
      obtain ⟨pre, vm, hlast, hvm⟩ := hmarked
      exact Idle.pure ((settled_last hlast).mono fun _ _ hl _ _ => ⟨pre, vm, hl, hvm⟩)

lemma decode_deleteTaskPayload (vm : VM) : VMDeletePayload.decode (.obj (deleteTaskPayload vm)) =
    .ok ⟨vm.id⟩ := by rfl

variable {e : GoError}

lemma deletePublished_keeps (hop : (ops i).isDelete = true) {vm : VM}
    (h : Settled (operating db₀ ops allow) i (fun m => MarkedBy db₀ m i vm.id vm.status) m) :
    Keeps (operating db₀ ops allow) i (deletePublished vm (.error e)) m := by
  refine Keeps.bind (Keeps.attempt ?_ fun _ _ => Keeps.ret _) fun _ _ => Keeps.ret _
  rw [updateStatus_text]
  refine Idle.stmt (fun _ _ _ _ => Keeps.ret _) fun m' x a ws hr hR ha hx => ?_
  refine ⟨fun _ => ⟨_, x, a, .restored hop (h m' hr hR), ha, hx⟩, ?_⟩
  cases a <;> exact Keeps.ret _

lemma deleteVM_keeps (hop : (ops i).isDelete = true) {isAdmin : Bool} :
    Keeps (operating db₀ ops allow) i (deleteVM v customerID isAdmin) m := by
  have hread : (wrapping "verifying ownership for delete" (getVMForDelete v customerID isAdmin)).All
      Stmt.Reads := by
    refine all_wrapping.mpr ((all_replacing.mpr (all_found.mpr (all_read rfl))).bind fun vm => ?_)
    exact (all_lift _).bind fun _ => trivial
  refine Keeps.bind (keeps_reads hread) fun vm m1 =>
    Keeps.bind (keeps_reads (all_lift _)) fun _ m2 => ?_
  refine Idle.bind (idle_wrapping (idle_mark hop)) (fun _ m3 _ h3 => ?_) fun _ _ _ _ _ _ _ =>
    trivial
  have hm : Settled (operating db₀ ops allow) i (fun m => MarkedBy db₀ m i vm.id vm.status) m3 :=
    h3.mono fun _ _ h => h () rfl
  refine Idle.stmt (fun e m4 hr _ => deletePublished_keeps hop (hm.stable hr))
    fun m4 x a ws hr hR ha hx => ?_
  exact ⟨fun _ => ⟨_, x, a, .published hop (hm m4 hr hR) (decode_deleteTaskPayload vm), ha, hx⟩,
    Keeps.ret _⟩

/-! ## a creation -/

namespace VMService
variable {req : VMCreateRequest} {customerID : String}

lemma vmFromTaskPayload_reads {doc : Json} : (vmFromTaskPayload doc).All Stmt.Reads := by
  unfold vmFromTaskPayload
  cases VMDeletePayload.decode doc with
  | error e => trivial
  | ok payload =>
    refine All.ite (fun _ => trivial) fun _ => (all_found.mpr (all_read rfl)).attempt fun r => ?_
    cases r <;> trivial

lemma checkIdempotency_reads : (checkIdempotency req customerID).All Stmt.Reads := by
  refine All.ite (fun _ => trivial) fun _ => (all_found.mpr (all_read rfl)).attempt fun r => ?_
  cases r with
  | error e => trivial
  | ok task =>
    refine vmFromTaskPayload_reads.bind fun vm => ?_
    cases vm with
    | none => trivial
    | some vm => exact (all_lift _).bind fun _ => trivial

lemma checkExternalService_reads : (checkExternalService req customerID).All Stmt.Reads := by
  unfold checkExternalService
  cases serviceOf req with
  | none => trivial
  | some serviceID => simp [Stmt.Reads, Stmt.table]

section
variable {locationID storageBackendType : String} {vcpu memoryMB : Int} (best : Option Node)
  (nodes : List Node)

lemma selectFrom_reads :
    (selectFrom locationID vcpu memoryMB storageBackendType best nodes).All Stmt.Reads := by
  induction nodes generalizing best with
  | nil => trivial
  | cons node rest ih => simp [selectFrom, hasBackend, ih, Stmt.Reads, Stmt.table]

/-- the node that is chosen has room -/
lemma selectFrom_does :
    (selectFrom locationID vcpu memoryMB storageBackendType best nodes).Does Stmt.Reads
      fun r => ∀ n ∈ r, best = some n ∨ n ∈ nodes ∧ hasRoom n vcpu memoryMB = true := by
  induction nodes generalizing best with
  | nil => exact Does.pure fun n hn => .inl hn
  | cons node rest ih =>
    refine Does.ite (fun hroom => ?_) fun _ => Prog.Does.mono (fun _ h => h)
      (fun r hr a ha n hn => ?_) (ih best)
    · have hreads : (hasBackend node.id storageBackendType).All Stmt.Reads := by
        simp [hasBackend, Stmt.Reads, Stmt.table]
      refine hreads.does.bind fun has _ => Prog.Does.mono (fun _ h => h)
        (fun r hr a ha n hn => ?_) (ih _)
      rcases hr a ha n hn with hbest | ⟨hmem, hn⟩
      · have hcases : n = node ∨ best = some n := by
          cases has with
          | false => exact .inr hbest
          | true =>
            obtain rfl : better node best = n := Option.some.inj hbest
            cases best with
            | none => exact .inl rfl
            | some b =>
              show (if _ then node else b) = node ∨ some b = some (if _ then node else b)
              split
              · exact .inl rfl
              · exact .inr rfl
        rcases hcases with rfl | hbest
        · exact .inr ⟨mem_cons_self, hroom.2⟩
        · exact .inl hbest
      · exact .inr ⟨mem_cons_of_mem _ hmem, hn⟩
    · exact (hr a ha n hn).imp_right fun h => ⟨mem_cons_of_mem _ h.1, h.2⟩

end

lemma resolveStorageBackend_reads {node : Node} {plan : Plan} :
    (resolveStorageBackend node plan).All Stmt.Reads := by
  refine All.ite (fun _ => trivial) fun _ => (all_read rfl).attempt fun r => ?_
  cases r with
  | error e => trivial
  | ok backends =>
    cases backends with
    | nil => trivial
    | cons backend rest => exact (all_lift _).bind fun _ => trivial

lemma resolveDeps_reads {preAction : Except GoError Unit} :
    (resolveDeps preAction req customerID).All Stmt.Reads := by
  simp [resolveDeps, validateCreateVMRequest, selectNodeForVM, Stmt.Reads, Stmt.table,
    checkExternalService_reads, selectFrom_reads, resolveStorageBackend_reads]

lemma notPersisted_reads : (notPersisted req customerID e).All Stmt.Reads := by
  unfold notPersisted
  cases serviceOf req with
  | none => trivial
  | some serviceID => simp [resolveExternalServiceCreateConflict, Stmt.Reads, Stmt.table]

end VMService

/-- the row of the VM is the last thing that session `i` has inserted -/
def InsertedBy (m : Mem store ι) (i : ι) (v : String) : Prop :=
  ∃ pre row, m.Last i pre [.insertVM row] ∧ row.id = v

lemma settled_inserted (h : InsertedBy m i v) : Settled P i (fun m => InsertedBy m i v) m := by
  obtain ⟨pre, row, hlast, hid⟩ := h
  exact (settled_last hlast).mono fun _ _ hl => ⟨pre, row, hl, hid⟩

/-- a node that is listed has the counters it had at the start -/
lemma idle_selectNode {locationID storageBackendType : String} {vcpu memoryMB : Int} :
    Idle (operating db₀ ops allow) i (selectNodeForVM locationID vcpu memoryMB storageBackendType)
      (fun r _ => ∀ n, r = .ok n → n.capacity ∈ db₀.counters ∧
        hasRoom n vcpu memoryMB = true) m := by
  refine Idle.stmt (fun _ _ _ _ => Idle.fail fun _ _ _ _ h => by cases h)
    fun m' x nodes ws _ hR _ hx => ?_
  cases hx
  have hnodes : ∀ n ∈ Db.nodesByStatus m'.db .online, n.capacity ∈ db₀.counters := by
    intro n hn
    rw [← counters_run hR]
    exact mem_map_of_mem (mem_of_mem_filter ((mem_insertionSort _).mp hn))
  have hselect : (do lift (checkSomeNode (Db.nodesByStatus m'.db .online))
                     let best ← selectFrom locationID vcpu memoryMB storageBackendType none
                       (Db.nodesByStatus m'.db .online)
                     lift (selected locationID storageBackendType best) : Op Node).Does Stmt.Reads
      fun n => n.capacity ∈ db₀.counters ∧ hasRoom n vcpu memoryMB = true := by
    refine (all_lift _).does.bind fun _ _ => (selectFrom_does none _).bind fun best hbest => ?_
    cases best with
    | none => exact Does.fail _
    | some n =>
      rcases hbest n rfl with hnone | ⟨hn, hroom⟩
      · cases hnone
      · exact Does.pure ⟨hnodes n hn, hroom⟩
  exact silent (idle_of_reads hselect)

variable {req : VMCreateRequest} {preAction : Except GoError Unit}

lemma idle_resolveDeps : Idle (operating db₀ ops allow) i (resolveDeps preAction req customerID)
      (fun r _ => ∀ deps, r = .ok deps → ∀ macAddress,
        db₀.HasRoomFor (buildVMRecord req deps customerID macAddress)) m := by
  have herr : ∀ {e : GoError} {m : Mem store ι}, Settled (operating db₀ ops allow) i
      (fun _ => ∀ deps, (Except.error e : Except GoError VMCreateDeps) = .ok deps → ∀ macAddress,
        db₀.HasRoomFor (buildVMRecord req deps customerID macAddress)) m := fun _ _ _ _ h =>
        by cases h
  have hvalidate : (validateCreateVMRequest req).All Stmt.Reads := by
    simp [validateCreateVMRequest, Stmt.Reads, Stmt.table]
  refine Idle.bind (keeps_reads checkExternalService_reads) (fun _ _ _ _ => ?_) fun _ _ _ _ => herr
  refine Idle.bind (keeps_reads (all_lift _)) (fun _ _ _ _ => ?_) fun _ _ _ _ => herr
  refine Idle.bind (keeps_reads hvalidate) (fun valid _ _ _ => ?_) fun _ _ _ _ => herr
  refine Idle.bind idle_selectNode (fun node m1 hR hnode => ?_) fun _ _ _ _ => herr
  obtain ⟨hcapacity, hroom⟩ := hnode m1 (.refl m1) hR node rfl
  refine Idle.bind (keeps_reads resolveStorageBackend_reads)
    (fun _ _ _ _ => Idle.pure fun _ _ _ deps hd _ => ?_) fun _ _ _ _ => herr
  cases hd
  exact ⟨node, rfl, hcapacity, hroom⟩

section
variable (hop : (ops i).isCreate = true)
include hop

lemma idle_persist {deps : VMCreateDeps}
    {macAddress : String} (hroom : db₀.HasRoomFor (buildVMRecord req deps customerID macAddress)) :
    Idle (operating db₀ ops allow) i (persistVMRecord req deps customerID macAddress)
      (fun r m => ∀ vm, r = .ok vm → InsertedBy m i vm.id) m := by
  refine idle_wrapping ?_
  rw [← attempt_ret (VMRepository.create _)]
  refine Idle.stmt (fun _ _ _ _ => Idle.ret fun _ _ _ _ h => by cases h)
    fun m' x a ws _ _ ha hx => ?_
  refine ⟨fun _ => ⟨_, x, a, .inserted hop hroom, ha, hx⟩, ?_⟩
  obtain ⟨-, rfl, -⟩ := exec_createVM hx
  have hins : InsertedBy (m'.publish i [.insertVM a]) i a.id :=
    ⟨m'.wal, a, Mem.last_publish (by simp), rfl⟩
  refine Idle.ret ((settled_inserted hins).mono fun _ _ h vm hvm => ?_)
  cases hvm
  exact h

lemma createPublished_keeps {vm : VM}
    (h : Settled (operating db₀ ops allow) i (fun m => InsertedBy m i vm.id) m) :
    Keeps (operating db₀ ops allow) i (createPublished vm (.error e)) m := by
  refine Keeps.bind (Keeps.attempt ?_ fun _ _ => Keeps.ret _) fun _ _ => Keeps.ret _
  refine Idle.stmt (fun _ _ _ _ => Keeps.ret _) fun m' x a ws hr hR ha hx => ?_
  obtain ⟨pre, row, hlast, hid⟩ := h m' hr hR
  refine ⟨fun _ => ⟨.updateVM vm.id .softDelete, x, a, ?_, ha, hx⟩, ?_⟩
  · rw [← hid]
    exact .cleaned hop hlast
  · cases a <;> exact Keeps.ret _

lemma createVM_keeps : Keeps (operating db₀ ops allow) i (createVM preAction req customerID) m := by
  refine Keeps.bind (keeps_reads checkIdempotency_reads) fun earlier m1 => ?_
  cases earlier with
  | some earlier => exact Keeps.ret _
  | none =>
    refine Idle.bind idle_resolveDeps (fun deps m2 hR hdeps => ?_) fun _ _ _ _ _ _ _ => trivial
    have hroom := hdeps m2 (.refl m2) hR deps rfl
    refine Keeps.bind (keeps_reads (all_read rfl)) fun macAddress m3 => ?_
    refine Idle.attempt (idle_persist hop (hroom macAddress)) fun r m4 _ h4 => ?_
    cases r with
    | error e => exact keeps_reads notPersisted_reads
    | ok vm =>
      have hins : Settled (operating db₀ ops allow) i (fun m => InsertedBy m i vm.id) m4 :=
        h4.mono fun _ _ h => h vm rfl
      refine Idle.stmt (fun e m5 hr _ => createPublished_keeps hop (hins.stable hr))
        fun m5 x a ws _ _ ha hx => ?_
      refine ⟨fun _ => ⟨_, x, a, .lawful (isDelete_of_isCreate hop) ?_, ha, hx⟩, Keeps.ret _⟩
      exact fun h => by cases h

end

/-! ## a worker -/

/-- the row of a task stays, with its type and its payload -/
def HasTask (db : Db) (id : String) (type : TaskType) (payload : Json) : Prop :=
  ∃ t, db.tasks.find id = some t ∧ t.type = type ∧ t.payload = payload

lemma reads_getTask {id : String} :
    Reads P i (TaskRepository.getByID id) (fun t m => (Db.tasks m.db).find id = some t) := by
  intro α f R m he hb
  unfold TaskRepository.getByID found
  show Idle P i (attempt (Call.bind (query _ _) _) f) R m
  rw [bind_eq_attempt, attempt_attempt]
  refine Idle.read (fun _ _ _ _ _ hx => ⟨?_, rfl⟩) (fun e m' hr hR => he _ m' hr hR)
    fun m' x a hr hR _ hx => ?_
  · cases hx
    rfl
  · have hx' : (Db.tasks m'.db).find id = a := congrArg Prod.fst (Except.ok.inj hx)
    cases a with
    | none => exact he _ m' hr hR
    | some t => exact hb t m' hr hR hx'

section
variable (hop : (ops i).isDelete = false)
include hop

lemma handleVMDelete_keeps {task : Task}
    (h : (Db.tasks m.db).find task.id = some task) (ht : task.type = .vmDelete) :
    Keeps (operating db₀ ops allow) i (handleVMDelete task.id task.payload) m := by
  have hK : ∀ (m : Mem store ι) j H ws, (operating db₀ ops allow).Reach m →
      (operating db₀ ops allow).may j H ws m → HasTask m.db task.id .vmDelete task.payload →
      HasTask (m.publish j ws).db task.id .vmDelete task.payload := by
    rintro m j H ws - ⟨q, x, a, -, -, hx⟩ ⟨t, ht, htype, hpayload⟩
    rw [Mem.publish_db]
    obtain ⟨st, hst⟩ := exec_find_task hx ht
    exact ⟨_, hst, htype, hpayload⟩
  refine Idle.mono (Does.idle hK handleVMDelete_sends (fun q hq m x a ws _ hm ha hx _ => ?_)
    ⟨task, h, ht, rfl⟩) fun _ _ _ _ => trivial
  refine ⟨q, x, a, ?_, ha, hx⟩
  rcases hq with hq | ⟨p, hp, rfl⟩
  · exact .lawful hop hq
  · obtain ⟨t, hfind, htype, hpayload⟩ := hm
    rw [← hpayload] at hp
    exact .finished hop (find_some hfind).1 htype hp

lemma handleTask_keeps (p : Platform) {task : Task} (h : (Db.tasks m.db).find task.id = some task) :
    Keeps (operating db₀ ops allow) i (handleTask p task) m := by
  unfold handleTask
  cases ht : task.type with
  | vmCreate => exact keeps_lawful hop handleVMCreate_lawful.does
  | vmDelete => exact handleVMDelete_keeps hop h ht
  | vmReinstall => exact keeps_lawful hop handleVMReinstall_lawful.does
  | vmMigrate => exact keeps_lawful hop handleVMMigrate_lawful.does
  | vmResize => exact keeps_lawful hop handleVMResize_lawful.does

lemma work_keeps (p : Platform) (taskID : String) :
    Keeps (operating db₀ ops allow) i (work p taskID) m := by
  refine Keeps.reads reads_getTask fun task m' htask => handleTask_keeps hop p ?_
  have hid : taskID = task.id := (key_of_find htask).symm
  rw [← hid]
  exact htask

end

lemma keeps_void (h : Keeps P i c m) : Keeps P i (void c) m :=
  Keeps.bind h fun _ _ => Keeps.ret _

/-- **Every operation keeps to the protocol.** -/
theorem run_keeps (h : ops i = op) : Keeps (operating db₀ ops allow) i op.run m := by
  have hlawful : ∀ {α : Type} {c : Op α} {Q : α → Prop}, op.isDelete = false →
    c.Does Stmt.Lawful Q →
      Keeps (operating db₀ ops allow) i c m := fun hop hc => keeps_lawful (by rw [h]; exact hop) hc
  have hmigrates : ∀ {α : Type} {c : Op α} {Q : α → Prop}, op.isMigration = true →
    c.Does Stmt.Migrates Q → Keeps (operating db₀ ops allow) i c m :=
    fun hop hc => keeps_of_does hc fun _ hq _ => .migrating (by rw [h]; exact hop) hq
  cases op with
  | createVM preAction req customerID => exact keeps_void (createVM_keeps (by rw [h]; rfl))
  | startVM v customerID isAdmin => exact hlawful rfl startVM_lawful.does
  | stopVM v customerID force isAdmin => exact hlawful rfl stopVM_lawful.does
  | restartVM v customerID isAdmin => exact hlawful rfl restartVM_lawful.does
  | reinstallVM v templateID customerID isAdmin =>
    exact keeps_void (hlawful rfl reinstallVM_lawful.does)
  | resizeVM v customerID sizes newPlanID isAdmin =>
    exact keeps_void (hlawful rfl resizeVM_lawful.does)
  | deleteVM v customerID isAdmin => exact keeps_void (deleteVM_keeps (by rw [h]; rfl))
  | migrateVM req adminID => exact keeps_void (hmigrates rfl migrateVM_sends)
  | cancelMigration v => exact hmigrates rfl cancelMigration_sends
  | approveFailover storage commands nodeID columns =>
    exact keeps_void (hlawful rfl failover_lawful)
  | failoverNode breaker nodeID => exact hlawful rfl failoverNode_lawful
  | evacuateNode nodeID => exact hlawful rfl evacuateNode_lawful
  | work p taskID => exact work_keeps (by rw [h]; rfl) p taskID

variable [DecidableEq ι] {s s' : State store ι (Except GoError Unit)}

lemma move_of_step {l : Label store} (h : Reaches allow (State.init db₀ fun i => (ops i).run) s)
    (ha : Allowed allow s i) (hs : step s i l = some s') : (operating db₀ ops allow).Reach s.mem ∧
      (s'.mem = s.mem ∨
      ∃ ws q x a, ws ≠ [] ∧ Move db₀ (ops i) i s.mem q ∧ allow i (.run q) .idle s.mem ∧
        exec q x x s.mem.db = .ok (a, ws) ∧ s'.mem = s.mem.publish i ws) := by
  have hgood :=
    Protocol.sound (good_init (P := operating db₀ ops allow) rfl fun _ => run_keeps rfl) h
  refine ⟨hgood.reach, ?_⟩
  rcases hgood.public ha hs with hmem | ⟨H, ws, hne, -, ⟨q, x, a, hq, hallow, hx⟩, hmem⟩
  · exact .inl hmem
  · exact .inr ⟨ws, q, x, a, hne, hq, hallow, hx, hmem⟩

end

end VirtueStack.Compute
