import Mathlib
import VirtueStack.Compute.Moves
import VirtueStack.Txn.Faults

/-!
# Requests for a new VM under one idempotency key

Any number of calls of `CreateVM` carry the key `k`, from any customers, and anything else goes on
beside them. The look-up of the key, the row of the VM and the row of the task are three statements,
each a transaction of its own.

* `Client` a call of `CreateVM`, or a program that publishes no task under the key;
* `filing` the protocol: a task under the key is for a VM that its own call has inserted.
-/

namespace VirtueStack.Compute
open Txn VMService Call Op Table Mem List

/-! ## the calls -/

inductive Client where
  | create (preAction : Except GoError Unit) (req : VMCreateRequest) (customerID : String)
  | other (c : Op Unit)

/-- what a client gets from the controller: a call of `CreateVM` its VM and its task -/
def Client.run : Client → Op (Option (Option VM × String))
  | .create preAction req customerID => do
    let answer ← VMService.createVM preAction req customerID
    return some answer
  | .other c => do
    c
    return none

def Client.isCreate : Client → Bool
  | .create _ _ _ => true
  | .other _ => false

/-- the statement publishes a task under the key -/
def Stmt.files (k : String) : Stmt → Bool
  | .createTask _ _ key => key = some k
  | _ => false

/-- what may happen to a statement of a call, given what it finds -/
def Stmt.spared (req : VMCreateRequest) (customerID : String) (db : Db) : Stmt → Event store → Bool
  -- the key is looked up
  | .getTaskByIdempotencyKey _, .fail _ => false
  -- the VM of the task that was found: the call is the owner's, or a service makes up for the VM,
  -- or it is there
  | .getVM v, .ok _ => (VMService.serviceOf req).isSome ||
      (db.vms.find v).any (fun row => row.customerID = customerID) || (db.vm v).isSome
  | .getVM v, .fail _ => (VMService.serviceOf req).isSome ||
      (db.vms.find v).any (fun row => row.customerID = customerID)
  -- the id of a row is a UUID
  | .createVM _, .ok x => x.fresh ≠ ""
  -- the clean-up
  | .updateVM _ .softDelete, .fail _ => false
  | _, _ => true

def Client.spared (db : Db) : Client → Req store → Event store → Bool
  | .create _ req customerID, .run q, e => q.spared req customerID db e
  | _, _, _ => true

section
variable {ι : Type}

/-- the calls carry the key, and nobody else publishes a task under it -/
structure Carries (k : String) (clients : ι → Client) : Prop where
  create : ∀ i preAction req customerID, clients i = .create preAction req customerID →
    req.idempotencyKey = k
  other : ∀ i c, clients i = .other c → c.All fun q : Stmt => q.files k = false

/-- the condition on the steps of a run -/
def Undisturbed (clients : ι → Client) (i : ι) (r : Req store) (a : Label store) (m : Mem store ι) :
    Prop :=
  match a with
  | .ev e => (clients i).spared m.db r e = true
  | .crash => (clients i).isCreate = true → m.Silent i

instance [DecidableEq ι] (clients : ι → Client) (i : ι) (r : Req store) (a : Label store)
    (m : Mem store ι) : Decidable (Undisturbed clients i r a m) :=
  match a with
  | .ev e => inferInstanceAs (Decidable ((clients i).spared m.db r e = true))
  | .crash => inferInstanceAs (Decidable ((clients i).isCreate = true → ∀ b ∈ m.wal, b.1 ≠ i))

/-! ## what the calls leave -/

/-- the payload of a task names the VM, as `vmFromTaskPayload` reads it -/
def Names (doc : Json) (v : String) : Prop := VMDeletePayload.decode doc = .ok ⟨v⟩

def Created (m : Mem store ι) (i : ι) (v : String) : Prop :=
  ∃ row, (i, [Write.insertVM row]) ∈ m.wal ∧ row.id = v

abbrev Clients (ι : Type) : Type := State store ι (Except GoError (Option (Option VM × String)))

/-- the client has its answer, or has crashed -/
def Ended (s : Clients ι) (i : ι) : Prop := s.prog i = none ∨ ∃ r, s.prog i = some (.ret r)

def Sending (s : Clients ι) (i : ι) (q : Stmt) : Prop := ∃ f, s.prog i = some (.req (.run q) f)

/-- the state of a run whose steps are all `ok` -/
structure Idempotent [DecidableEq ι] (ok : ι → Req store → Label store → Mem store ι → Prop)
    (k : String) (clients : ι → Client) (s : Clients ι) : Prop where
  /-- at most one VM that is not deleted results from the calls -/
  one : ∀ i j v w, (clients i).isCreate = true → (clients j).isCreate = true →
    Ended s i → Ended s j →
    Created s.mem i v → Created s.mem j w → (Db.vm s.mem.db v).isSome = true →
    (Db.vm s.mem.db w).isSome = true → v = w
  /-- a call that succeeds returns the task under the key, which names that VM -/
  answer : ∀ i vm? taskID, (clients i).isCreate = true →
    s.prog i = some (.ret (.ok (some (vm?, taskID)))) → ∃ t v j,
      (Db.tasks s.mem.db).find taskID = some t ∧ t.idempotencyKey = some k ∧ Names t.payload v ∧
      (∀ vm : VM, vm? = some vm → vm.id = v) ∧ (clients j).isCreate = true ∧ Created s.mem j v ∧
      ∀ j' w, (clients j').isCreate = true → Ended s j' → Created s.mem j' w →
        (Db.vm s.mem.db w).isSome = true → w = v
  /-- a call of another customer than the one whose call has created the VM ends with an error -/
  owner : ∀ i j preAction preAction' req req' customerID customerID' t v,
    clients i = .create preAction req customerID → clients j = .create preAction' req' customerID' →
    customerID ≠ customerID' → t ∈ (Db.tasks s.mem.db).rows → t.idempotencyKey = some k →
    Names t.payload v → Created s.mem j v → ∀ r, s.prog i = some (.ret r) → ∃ e, r = .error e
  /-- a call whose look-up of the key fails ends with an error -/
  lookup : ∀ i e s', (clients i).isCreate = true → Sending s i (.getTaskByIdempotencyKey k) →
    ok i (.run (.getTaskByIdempotencyKey k)) (.ev (.fail e)) s.mem →
    step s i (.ev (.fail e)) = some s' → ∃ err, s'.prog i = some (.ret (.error err))

/-! ## the protocol -/

/-- what client `i` may send, with the answer it gets -/
inductive Sends (k : String) (clients : ι → Client) (i : ι) (m : Mem store ι) :
    (q : Stmt) → q.Ans → Prop
  | quiet {q : Stmt} {a : q.Ans} (h : q.files k = false) (h' : ∀ vm, q ≠ .createVM vm) :
      Sends k clients i m q a
  | inserted {vm a : VM}
      (h : ∀ preAction req customerID, clients i = .create preAction req customerID →
        vm.customerID = customerID ∧ a.id ≠ "") : Sends k clients i m (.createVM vm) a
  | filed {v : String} {doc : Json} {a : String} (hi : (clients i).isCreate = true)
      (hv : Created m i v) (hdoc : Names doc v) :
      Sends k clients i m (.createTask .vmCreate doc (some k)) a

def filing (db₀ : Db) (k : String) (clients : ι → Client) : Protocol store ι where
  init := fun m => m = ⟨db₀, []⟩
  may := fun i _ ws m => ∃ (q : Stmt) (x : Inp) (a : q.Ans), Sends k clients i m q a ∧
    exec q x x m.db = .ok (a, ws)
  allow := always

/-- what holds whatever the clients have sent so far -/
structure Filed (k : String) (clients : ι → Client) (m : Mem store ι) : Prop where
  named : ∀ t ∈ (Db.tasks m.db).rows, t.idempotencyKey = some k →
    ∃ j v, (clients j).isCreate = true ∧ Created m j v ∧ Names t.payload v
  unique : ∀ t ∈ (Db.tasks m.db).rows, ∀ t' ∈ (Db.tasks m.db).rows, t.idempotencyKey = some k →
    t'.idempotencyKey = some k → t.id = t'.id
  owned : ∀ j preAction req customerID v, clients j = .create preAction req customerID →
    Created m j v → v ≠ "" ∧ ∃ row, (Db.vms m.db).find v = some row ∧ row.customerID = customerID

variable {db₀ : Db} {k : String} {clients : ι → Client} {m : Mem store ι} {i j : ι}
  {v : String} {q : Stmt} {x : Inp} {a : q.Ans} {ws : List Write}

lemma VMUpdate.set_customerID (u : VMUpdate) (now : Int) (vm : VM) :
    (u.set now vm).customerID = vm.customerID := by
  cases u <;> rfl

variable {db : Db} {customerID : String}

lemma owner_exec {row : VM} (hx : exec q x x db = .ok (a, ws)) (h : db.vms.find v = some row) :
    ∃ row', (store.view db ws).vms.find v = some row' ∧ row'.customerID = row.customerID := by
  rcases exec_row hx h with hsame | ⟨u, -, -, -, -, hset⟩
  · exact ⟨row, hsame, rfl⟩
  · exact ⟨_, hset, VMUpdate.set_customerID u x.now row⟩

lemma Created.publish (h : Created m j v) : Created (m.publish i ws) j v := by
  obtain ⟨row, hrow, hid⟩ := h
  exact ⟨row, (m.wal_prefix_publish i ws).subset hrow, hid⟩

lemma created_publish (h : Created (m.publish i ws) j v) :
    Created m j v ∨ j = i ∧ ∃ row, ws = [.insertVM row] ∧ row.id = v := by
  cases ws with
  | nil => exact .inl h
  | cons w ws =>
    obtain ⟨row, hrow, hid⟩ := h
    rcases mem_append.mp hrow with hrow | hrow
    · exact .inl ⟨row, hrow, hid⟩
    · cases mem_singleton.mp hrow
      exact .inr ⟨rfl, row, rfl, hid⟩

lemma exec_insertVM {row : VM} (hx : exec q x x db = .ok (a, [.insertVM row])) :
    ∃ vm, q = .createVM vm := by
  have ht : q.table = some .vms := exec_table hx (w := .insertVM row) (mem_singleton_self _)
  cases q with
  | createVM vm => exact ⟨vm, rfl⟩
  | updateVM w u =>
    rcases exec_updateVM hx with ⟨-, hnil⟩ | ⟨vm, -, -, -, hput⟩
    · cases hnil
    · cases hput
  | _ => cases ht

lemma find_createVM {vm a : VM} (hx : exec (.createVM vm) x x db = .ok (a, ws)) :
    (store.view db ws).vms.find a.id = some a := by
  obtain ⟨hfree, rfl, -⟩ := exec_createVM hx
  exact find_insert_self hfree

lemma find_createTask {type : TaskType} {payload : Json} {key : Option String} {a : String}
    (hx : exec (.createTask type payload key) x x db = .ok (a, ws)) :
    (store.view db ws).tasks.find a = some ⟨a, type, .pending, payload, key⟩ := by
  obtain ⟨hfree, rfl, -⟩ := exec_createTask hx
  exact find_insert_self hfree

variable {req : VMCreateRequest}

lemma VMService.notPersisted_fails {e : GoError} :
    (notPersisted req customerID e).Does Stmt.Reads fun _ => False := by
  unfold notPersisted
  cases serviceOf req with
  | none => exact Does.fail _
  | some serviceID =>
    refine Does.ite (fun _ => ?_) fun _ => Does.fail _
    exact (all_wrapping.mpr (all_found.mpr (all_read rfl))).does.bind fun vm _ => Does.fail _

/-! ## the invariant -/

lemma new_task (hq : Sends k clients i m q a) {t : Task}
    (hnew : q = .createTask t.type t.payload t.idempotencyKey)
    (hk : t.idempotencyKey = some k) : ∃ j v, (clients j).isCreate = true ∧ Created m j v ∧
      Names t.payload v := by
  rw [hk] at hnew
  subst hnew
  generalize t.type = type at *
  generalize t.payload = payload at *
  cases hq with
  | quiet hfiles => exact absurd hfiles (by simp [Stmt.files])
  | filed hi hv hdoc => exact ⟨i, _, hi, hv, hdoc⟩

section
variable (h : Filed k clients m) (hq : Sends k clients i m q a) (hx : exec q x x m.db = .ok (a, ws))
include h hq hx

lemma Filed.named_publish {t : Task} (ht : t ∈ (store.view m.db ws).tasks.rows)
    (hk : t.idempotencyKey = some k) :
    ∃ j v, (clients j).isCreate = true ∧ Created (m.publish i ws) j v ∧ Names t.payload v := by
  have hold : ∃ j v, (clients j).isCreate = true ∧ Created m j v ∧ Names t.payload v := by
    rcases exec_task hx ht with ⟨t', ht', hsame⟩ | ⟨hnew, -⟩
    · rw [hsame] at hk ⊢
      exact h.named t' ht' hk
    · exact new_task hq hnew hk
  obtain ⟨j, v, hj, hv, hdoc⟩ := hold
  exact ⟨j, v, hj, hv.publish, hdoc⟩

omit hq in
lemma Filed.unique_publish {t t' : Task} (ht : t ∈ (store.view m.db ws).tasks.rows)
    (ht' : t' ∈ (store.view m.db ws).tasks.rows) (hk : t.idempotencyKey = some k)
    (hk' : t'.idempotencyKey = some k) : t.id = t'.id := by
  have hfresh : ∀ t1 t2 : Task, q = .createTask t1.type t1.payload t1.idempotencyKey →
      t1.idempotencyKey = some k → t2 ∈ (Db.tasks m.db).rows → t2.idempotencyKey ≠ some k := by
    rintro t1 t2 rfl h1 h2
    rw [h1] at hx
    exact (exec_createTask hx).2.2 rfl t2 h2
  rcases exec_task hx ht with ⟨old, hold, hsame⟩ | ⟨hnew, hws⟩
  · rcases exec_task hx ht' with ⟨old', hold', hsame'⟩ | ⟨hnew', -⟩
    · rw [hsame] at hk ⊢
      rw [hsame'] at hk' ⊢
      exact h.unique old hold old' hold' hk hk'
    · rw [hsame] at hk
      exact absurd hk (hfresh t' old hnew' hk' hold)
  · rcases exec_task hx ht' with ⟨old', hold', hsame'⟩ | ⟨-, hws'⟩
    · rw [hsame'] at hk'
      exact absurd hk' (hfresh t old' hnew hk hold')
    · cases hws.symm.trans hws'
      rfl

lemma Filed.owned_publish {preAction : Except GoError Unit} {customerID : String}
    (hj : clients j = .create preAction req customerID) (hv : Created (m.publish i ws) j v) :
    v ≠ "" ∧ ∃ row, (store.view m.db ws).vms.find v = some row ∧ row.customerID = customerID := by
  rcases created_publish hv with hold | ⟨rfl, row, rfl, rfl⟩
  · obtain ⟨hv, row, hrow, hc⟩ := h.owned j preAction req customerID v hj hold
    obtain ⟨row', hrow', hc'⟩ := owner_exec hx hrow
    exact ⟨hv, row', hrow', hc'.trans hc⟩
  · obtain ⟨vm, rfl⟩ := exec_insertVM hx
    cases hq with
    | quiet _ hno => exact absurd rfl (hno vm)
    | inserted hnew =>
      obtain ⟨hc, hid⟩ := hnew preAction req customerID hj
      obtain ⟨-, hws, ha⟩ := exec_createVM hx
      cases hws
      exact ⟨hid, row, find_createVM hx, by rw [ha]; exact hc⟩

lemma Filed.publish : Filed k clients (m.publish i ws) where
  named := by
    rw [publish_db]
    exact fun t ht hk => Filed.named_publish h hq hx ht hk
  unique := by
    rw [publish_db]
    exact fun t ht t' ht' hk hk' => Filed.unique_publish h hx ht ht' hk hk'
  owned := by
    rw [publish_db]
    exact fun j preAction req customerID v hj hv => Filed.owned_publish h hq hx hj hv

end

/-- **The invariant holds in every state.** -/
theorem filed_of_reach (h₀ : ∀ t ∈ db₀.tasks.rows, t.idempotencyKey ≠ some k)
    (h : (filing db₀ k clients).Reach m) : Filed k clients m := by
  refine h.invariant (I := Filed k clients) ?_ ?_
  · rintro _ rfl
    refine ⟨fun t ht hk => absurd hk (h₀ t ht), fun t ht _ _ hk => absurd hk (h₀ t ht), ?_⟩
    rintro j preAction req customerID v - ⟨row, hrow, -⟩
    cases hrow
  · rintro m i H ws - hm - - ⟨q, x, a, hq, hx⟩
    exact Filed.publish hm hq hx

lemma exists_create (h : (clients i).isCreate = true) :
    ∃ preAction req customerID, clients i = .create preAction req customerID := by
  cases hc : clients i with
  | create preAction req customerID => exact ⟨_, _, _, rfl⟩
  | other c =>
    rw [hc] at h
    cases h

lemma Filed.row (h : Filed k clients m) (hj : (clients j).isCreate = true) (hv : Created m j v) :
    v ≠ "" ∧ ∃ row, (Db.vms m.db).find v = some row := by
  obtain ⟨preAction, req, customerID, hc⟩ := exists_create hj
  obtain ⟨hne, row, hrow, -⟩ := h.owned j preAction req customerID v hc hv
  exact ⟨hne, row, hrow⟩

/-! ## what a call knows at its end -/

/-- the task has the key and names the VM -/
def Under (k : String) (db : Db) (taskID v : String) : Prop :=
  ∃ t, db.tasks.find taskID = some t ∧ t.idempotencyKey = some k ∧ Names t.payload v

/-- the answer has the task under the key, the VM it names, and that VM is the customer's -/
def Answered (k : String) (db : Db) (customerID : String) (answer : Option VM × String) : Prop :=
  ∃ v row, Under k db answer.2 v ∧ db.vms.find v = some row ∧ row.customerID = customerID ∧
    ∀ vm : VM, answer.1 = some vm → vm.id = v

/-- a VM of the client is deleted, or it has the task under the key -/
def Tasked (k : String) (m : Mem store ι) (i : ι) : Prop :=
  ∀ v, Created m i v → Deleted m.db v ∨ ∃ taskID, Under k m.db taskID v

/-- the client has inserted the VM, and no other one -/
def Sole (m : Mem store ι) (i : ι) (v : String) : Prop := Created m i v ∧ ∀ w, Created m i w → w = v

lemma under_exec {taskID : String} (hx : exec q x x db = .ok (a, ws))
    (h : Under k db taskID v) : Under k (store.view db ws) taskID v := by
  obtain ⟨t, ht, hk, hdoc⟩ := h
  obtain ⟨st, hst⟩ := exec_find_task hx ht
  exact ⟨_, hst, hk, hdoc⟩

variable {answer : Option VM × String}

lemma answered_exec (hx : exec q x x db = .ok (a, ws)) (h : Answered k db customerID answer) :
    Answered k (store.view db ws) customerID answer := by
  obtain ⟨v, row, hu, hrow, hc, hvm⟩ := h
  obtain ⟨row', hrow', hc'⟩ := owner_exec hx hrow
  exact ⟨v, row', under_exec hx hu, hrow', hc'.trans hc, hvm⟩

lemma not_created_of_silent (h : m.Silent i) : ¬ Created m i v := by
  rintro ⟨row, hrow, -⟩
  exact h _ hrow rfl

lemma tasked_of_silent (h : m.Silent i) : Tasked k m i :=
  fun _ hv => absurd hv (not_created_of_silent h)

lemma created_of_publish (hj : j ≠ i) (h : Created (m.publish j ws) i v) : Created m i v :=
  (created_publish h).resolve_right fun hnew => hj hnew.1.symm

section
variable {P : Protocol store ι} (hP : ∀ m j H ws, P.may j H ws m →
  ∃ (q : Stmt) (x : Inp) (a : q.Ans), exec q x x m.db = .ok (a, ws))
include hP

lemma settled_exec {K : Db → Prop}
    (hK : ∀ (q : Stmt) (x : Inp) (a : q.Ans) (ws : List Write) (db : Db),
    exec q x x db = .ok (a, ws) → K db → K (store.view db ws)) (h : K m.db) :
    Settled P i (fun m => K m.db) m := fun m' hr _ => by
  refine hr.stable (I := fun m => K m.db) (fun m j H ws _ _ _ hmay _ hm => ?_) h
  obtain ⟨q, x, a, hx⟩ := hP m j H ws hmay
  rw [publish_db]
  exact hK q x a ws m.db hx hm

lemma settled_tasked (h : Tasked k m i) : Settled P i (fun m => Tasked k m i) m := fun m' hr _ => by
  refine hr.stable (I := fun m => Tasked k m i) (fun m j H ws hj _ _ hmay _ hm => ?_) h
  obtain ⟨q, x, a, hx⟩ := hP m j H ws hmay
  intro v hv
  rw [publish_db]
  rcases hm v (created_of_publish hj hv) with hd | ⟨taskID, ht⟩
  · exact .inl (deleted_exec hx hd)
  · exact .inr ⟨taskID, under_exec hx ht⟩

end

lemma settled_sole {P : Protocol store ι} (h : Sole m i v) : Settled P i (fun m => Sole m i v) m :=
  fun _ hr _ => hr.stable (I := fun m => Sole m i v)
    (fun _ _ _ _ hj _ _ _ _ hm => ⟨hm.1.publish, fun w hw => hm.2 w (created_of_publish hj hw)⟩) h

lemma filing_may (m : Mem store ι) (j : ι) (H : Set store.Lock) (ws : List Write)
    (h : (filing db₀ k clients).may j H ws m) :
    ∃ (q : Stmt) (x : Inp) (a : q.Ans), exec q x x m.db = .ok (a, ws) := by
  obtain ⟨q, x, a, -, hx⟩ := h
  exact ⟨q, x, a, hx⟩

/-- the call of client `i` keeps to the protocol, and ends with `R` -/
abbrev Goes (db₀ : Db) (k : String) (clients : ι → Client) (i : ι) {α : Type} (c : Op α)
    (R : Except GoError α → Mem store ι → Prop) (m : Mem store ι) : Prop :=
  IdleIf (filing db₀ k clients) (Undisturbed clients) i c R m

lemma filing_allow (i : ι) (r : Req store) (l : Loc store) (m : Mem store ι) :
    (filing db₀ k clients).allow i r l m := trivial

/-! ## the look-up of the key -/

lemma VMService.replayed_some (req : VMCreateRequest) (customerID taskID : String) (vm : VM) :
    replayed req customerID taskID (some vm) =
      Prog.ret ((checkReplay req customerID vm).map fun _ => some (some vm, taskID)) := by
  unfold replayed
  dsimp only
  cases checkReplay req customerID vm <;> rfl

variable {vm : VM}

lemma VMService.checkReplay_ok {u : Unit}
    (h : checkReplay req customerID vm = .ok u) : vm.customerID = customerID := by
  by_contra hne
  unfold checkReplay at h
  rw [if_pos hne] at h
  cases h

/-- the VM of a payload is read by one statement, and an error counts as no VM -/
lemma VMService.bind_vmFromTaskPayload {α : Type} {doc : Json} (hdoc : Names doc v) (hv : v ≠ "")
    (f : Option VM → Op α) : Call.bind (vmFromTaskPayload doc) f =
      attempt (query (.getVM v) ("getting VM " ++ v)) fun r => f r.toOption.join := by
  have hvm : vmFromTaskPayload doc =
      attempt (query (.getVM v) ("getting VM " ++ v)) fun r => Call.pure r.toOption.join := by
    have hdec : VMDeletePayload.decode doc = .ok ⟨v⟩ := hdoc
    unfold vmFromTaskPayload VMRepository.getByID found
    rw [hdec]
    dsimp only
    rw [if_neg hv]
    show attempt (Call.bind (query _ _) _) _ = _
    rw [bind_eq_attempt, attempt_attempt]
    refine congrArg (attempt (S := store) (query (.getVM v) ("getting VM " ++ v)))
      (funext fun r => ?_)
    cases r with
    | error e => rfl
    | ok vm => cases vm <;> rfl
  rw [hvm, bind_eq_attempt, attempt_attempt]
  rfl

/-- what the look-up leaves: nothing is written, and an answer is that of the task -/
def LookedUp (k : String) (i : ι) (customerID : String)
    (r : Except GoError (Option (Option VM × String))) (m : Mem store ι) : Prop :=
  m.Silent i ∧ ∀ answer, r = .ok (some answer) → Answered k m.db customerID answer

lemma settled_answered (h : Answered k m.db customerID answer) :
    Settled (filing db₀ k clients) i (fun m => Answered k m.db customerID answer) m :=
  settled_exec filing_may (fun _ _ _ _ _ hx h => answered_exec hx h) h

section
variable {preAction : Except GoError Unit} {req : VMCreateRequest} {customerID taskID : String}

lemma lookedUp_ret {r : Except GoError (Option (Option VM × String))} (hm : m.Silent i)
    (h : ∀ answer, r = .ok (some answer) → Answered k m.db customerID answer) :
    Goes db₀ k clients i (Prog.ret r) (LookedUp k i customerID) m :=
  IdleIf.ret fun m' hr hR =>
    ⟨settled_silent hm m' hr hR, fun answer ha => settled_answered (h answer ha) m' hr hR⟩

lemma replayed_none (hm : m.Silent i) (hu : Under k m.db taskID v) {row : VM}
    (hrow : (Db.vms m.db).find v = some row)
    (hspared : ((serviceOf req).isSome || ((Db.vms m.db).find v).any fun row => row.customerID =
      customerID) = true) :
    Goes db₀ k clients i (replayed req customerID taskID none) (LookedUp k i customerID) m := by
  refine lookedUp_ret hm fun answer ha => ?_
  cases hs : (serviceOf req).isSome with
  | true =>
    rw [hs] at ha
    cases ha
  | false =>
    rw [hs, hrow] at hspared
    rw [hs] at ha
    cases ha
    exact ⟨v, row, hu, hrow, of_decide_eq_true hspared, fun vm hvm => by cases hvm⟩

lemma replayed_some (hm : m.Silent i) (hu : Under k m.db taskID v) (hvm : Db.vm m.db v = some vm) :
    Goes db₀ k clients i (replayed req customerID taskID (some vm))
    (LookedUp k i customerID) m := by
  rw [VMService.replayed_some]
  refine lookedUp_ret hm fun answer ha => ?_
  cases hc : checkReplay req customerID vm with
  | error e =>
    rw [hc] at ha
    cases ha
  | ok u =>
    rw [hc] at ha
    cases ha
    refine ⟨v, vm, hu, (Db.vm_eq_some.mp hvm).1, checkReplay_ok hc, fun vm' hvm' => ?_⟩
    cases hvm'
    exact Db.vm_id hvm

variable (hi : clients i = .create preAction req customerID)
  (h₀ : ∀ t ∈ db₀.tasks.rows, t.idempotencyKey ≠ some k)
include hi h₀

lemma replay_idle {task : Task} (hm : m.Silent i) (hR : (filing db₀ k clients).Reach m)
    (ht : task ∈ (Db.tasks m.db).rows) (hk : task.idempotencyKey = some k) : Goes db₀ k clients i
      (Call.bind (vmFromTaskPayload task.payload) (replayed req customerID task.id))
      (LookedUp k i customerID) m := by
  obtain ⟨j, v, hj, hv, hdoc⟩ := (filed_of_reach h₀ hR).named task ht hk
  obtain ⟨hne, row, hrow⟩ := Filed.row (filed_of_reach h₀ hR) hj hv
  -- the task and the row of the VM stay until the VM is read
  have hstay : Settled (filing db₀ k clients) i
      (fun m => Under k m.db task.id v ∧ ∃ row, (Db.vms m.db).find v = some row) m := by
    refine settled_exec (K := fun db => Under k db task.id v ∧ ∃ row, db.vms.find v =
      some row) filing_may ?_ ⟨⟨task, find_of_mem ht, hk, hdoc⟩, row, hrow⟩
    rintro q x a ws db hx ⟨hu, row, hrow⟩
    obtain ⟨row', hrow', -⟩ := owner_exec hx hrow
    exact ⟨under_exec hx hu, row', hrow'⟩
  rw [bind_vmFromTaskPayload hdoc hne]
  refine IdleIf.stmt (fun e m' hr hR' hok => ?_) (fun m' x e _ _ hx => by cases hx)
    fun m' x a ws hr hR' hok hx => ?_
  · obtain ⟨hu, row', hrow'⟩ := hstay m' hr hR'
    unfold Undisturbed at hok
    rw [hi] at hok
    exact replayed_none (hr.silent hm) hu hrow' hok
  · obtain ⟨hu, row', hrow'⟩ := hstay m' hr hR'
    unfold Undisturbed at hok
    rw [hi] at hok
    cases hx
    refine silent ?_
    cases hvm : Db.vm m'.db v with
    | some vm => exact replayed_some (hr.silent hm) hu hvm
    | none =>
      have hspared : (_ || _ || (Db.vm m'.db v).isSome) = true := hok
      rw [hvm, Option.isSome_none, Bool.or_false] at hspared
      exact replayed_none (hr.silent hm) hu hrow' hspared

lemma lookup_idle (hk : req.idempotencyKey = k) (hk₀ : k ≠ "") (hm : m.Silent i) :
    Goes db₀ k clients i (checkIdempotency req customerID) (LookedUp k i customerID) m := by
  unfold checkIdempotency
  rw [hk, if_neg hk₀]
  unfold resolveCreateIdempotency TaskRepository.getByIdempotencyKey found
  show IdleIf _ _ i (attempt (Call.bind (query _ _) _) _) _ m
  rw [bind_eq_attempt, attempt_attempt, hk]
  refine IdleIf.stmt (fun e m' hr hR' hok => ?_) (fun m' x e _ _ hx => by cases hx)
    fun m' x a ws hr hR' hok hx => ?_
  · unfold Undisturbed at hok
    rw [hi] at hok
    cases hok
  · cases hx
    refine silent ?_
    cases ht : (Db.tasks m'.db).rows.find? fun t => t.idempotencyKey = some k with
    | none => exact lookedUp_ret (hr.silent hm) fun answer ha => by cases ha
    | some task =>
      have hkey := find?_some ht
      exact replay_idle hi h₀ (hr.silent hm) hR' (mem_of_find?_eq_some ht) (of_decide_eq_true hkey)

end

/-! ## the row of the VM and the row of the task -/

def Outcome (k : String) (i : ι) (customerID : String) (r : Except GoError (Option VM × String))
    (m : Mem store ι) : Prop :=
  Tasked k m i ∧ ∀ answer, r = .ok answer → Answered k m.db customerID answer

section
variable {preAction : Except GoError Unit} {req : VMCreateRequest} {customerID : String}

lemma outcome_ret {r : Except GoError (Option VM × String)} (hm : Tasked k m i)
    (h : ∀ answer, r = .ok answer → Answered k m.db customerID answer) :
    Goes db₀ k clients i (Prog.ret r) (Outcome k i customerID) m :=
  IdleIf.ret fun m' hr hR =>
    ⟨settled_tasked filing_may hm m' hr hR, fun answer ha =>
      settled_answered (h answer ha) m' hr hR⟩

lemma sole_publish {row : VM} (hm : m.Silent i) : Sole (m.publish i [.insertVM row]) i row.id := by
  refine ⟨⟨row, ?_, rfl⟩, fun w hw => ?_⟩
  · rw [publish_wal (by simp)]
    exact mem_append_right _ (mem_singleton_self _)
  · rcases created_publish hw with hold | ⟨-, row', hrow, hid⟩
    · exact absurd hold (not_created_of_silent hm)
    · cases hrow
      exact hid.symm

lemma created_of_exec (hx : exec q x x m.db = .ok (a, ws)) (hq : ∀ vm, q ≠ .createVM vm)
    (h : Created (m.publish j ws) i v) : Created m i v := by
  rcases created_publish h with hold | ⟨-, row, rfl, -⟩
  · exact hold
  · obtain ⟨vm, hvm⟩ := exec_insertVM hx
    exact absurd hvm (hq vm)

lemma softDelete_exec {db : Db} {row : VM} {done : Bool} (hrow : db.vms.find v = some row)
    (hx : exec (.updateVM v .softDelete) x x db = .ok (done, ws)) :
    Deleted (store.view db ws) v := by
  by_cases hd : row.deletedAt = none
  · have hvm : db.vm v = some row := Db.vm_eq_some.mpr ⟨hrow, hd⟩
    have happ : VMUpdate.softDelete.applies row = true := by
      unfold VMUpdate.applies
      rw [hd]
      rfl
    have hupd : exec (.updateVM v .softDelete) x x db = _ :=
      congrArg Except.ok (Db.updateVM_of_applies hvm happ)
    cases hx.symm.trans hupd
    exact softDelete_deleted (find_put_self hrow rfl)
  · exact deleted_exec hx ⟨row, hrow, hd⟩

variable (hi : clients i = .create preAction req customerID)
  (h₀ : ∀ t ∈ db₀.tasks.rows, t.idempotencyKey ≠ some k)
include hi h₀

lemma cleanUp_idle {e : GoError}
    (hs : Settled (filing db₀ k clients) i (fun m => Sole m i vm.id) m) :
    Goes db₀ k clients i (createPublished vm (.error e)) (Outcome k i customerID) m := by
  have hcreate : (clients i).isCreate = true := by rw [hi]; rfl
  unfold createPublished logged VMRepository.softDelete VMRepository.update affecting
  show IdleIf _ _ i (Call.bind (attempt (Call.bind (query _ _) _) _) _) _ m
  rw [bind_eq_attempt, bind_eq_attempt, attempt_attempt, attempt_attempt]
  refine IdleIf.stmt (fun e m' hr hR' hok => ?_) (fun m' x e _ _ hx => by cases hx)
    fun m' x a ws hr hR' hok hx => ?_
  · unfold Undisturbed at hok
    rw [hi] at hok
    cases hok
  · obtain ⟨hcr, hsole⟩ := hs m' hr hR'
    have hquiet : ∀ vm', Stmt.updateVM vm.id .softDelete ≠ .createVM vm' := fun vm' h => by cases h
    refine ⟨fun _ => ⟨.updateVM vm.id .softDelete, x, a, .quiet rfl hquiet, hx⟩, ?_⟩
    obtain ⟨-, row, hrow⟩ := Filed.row (filed_of_reach h₀ hR') hcreate hcr
    have hdel : Deleted (m'.publish i ws).db vm.id := by
      rw [publish_db]
      exact softDelete_exec hrow hx
    have hacc : Tasked k (m'.publish i ws) i := by
      intro w hw
      rw [hsole w (created_of_exec hx hquiet hw)]
      exact .inl hdel
    cases a <;> exact outcome_ret hacc fun answer ha => by cases ha

variable (hk : req.idempotencyKey = k) (hk₀ : k ≠ "")
include hk hk₀

lemma publish_idle {deps : VMCreateDeps}
    (hs : Settled (filing db₀ k clients) i (fun m => Sole m i vm.id) m) :
    Goes db₀ k clients i (publishVMCreateTask req vm deps) (Outcome k i customerID) m := by
  have hcreate : (clients i).isCreate = true := by rw [hi]; rfl
  unfold publishVMCreateTask TaskPublisher.publishTaskWithIdempotencyKey
  rw [hk, if_neg hk₀]
  refine IdleIf.stmt (fun e m' hr _ _ => cleanUp_idle hi h₀ (hs.stable hr))
    (fun m' x e hr _ _ => cleanUp_idle hi h₀ (hs.stable hr)) fun m' x a ws hr hR' _ hx => ?_
  have hx' :
    exec (.createTask .vmCreate (.obj (createTaskPayload req vm deps none)) (some k)) x x m'.db =
      .ok (a, ws) := hx
  obtain ⟨hcr, hsole⟩ := hs m' hr hR'
  have hdoc := decode_vmID_createTaskPayload req vm deps none
  refine ⟨fun _ => ⟨_, x, a, .filed hcreate hcr hdoc, hx⟩, ?_⟩
  have hu : Under k (m'.publish i ws).db a vm.id := by
    rw [publish_db]
    exact ⟨_, find_createTask hx, rfl, hdoc⟩
  obtain ⟨-, row, hrow, hown⟩ := (filed_of_reach h₀ hR').owned i _ _ _ _ hi hcr
  obtain ⟨row', hrow', hown'⟩ := owner_exec hx' hrow
  rw [← publish_db m' i] at hrow'
  refine outcome_ret (fun w hw => ?_) fun answer ha => ?_
  · rw [hsole w (created_of_exec hx' (fun _ h => by cases h) hw)]
    exact .inr ⟨a, hu⟩
  · cases ha
    refine ⟨vm.id, row', hu, hrow', hown'.trans hown, fun vm' hvm' => ?_⟩
    cases hvm'
    rfl

lemma persist_idle {deps : VMCreateDeps} {macAddress : String} (hm : m.Silent i) :
    Goes db₀ k clients i (attempt (persistVMRecord req deps customerID macAddress)
        (persisted req deps customerID)) (Outcome k i customerID) m := by
  have hfail : ∀ (e : GoError) (m' : Mem store ι), m'.Silent i →
      Goes db₀ k clients i (notPersisted req customerID e) (Outcome k i customerID) m' := by
    intro e m' hm'
    refine IdleIf.mono (Idle.toIf filing_allow (notPersisted_fails.idle_settled
      (fun q hq _ _ _ _ hx => exec_nil hx hq) (settled_silent hm'))) fun r m _ h => ?_
    exact ⟨tasked_of_silent h.2, fun answer ha => (h.1 answer ha).elim⟩
  unfold persistVMRecord wrapping
  rw [attempt_attempt]
  refine IdleIf.stmt (fun e m' hr _ _ => hfail _ m' (hr.silent hm))
    (fun m' x e hr _ _ => hfail _ m' (hr.silent hm)) fun m' x a ws hr hR' hok hx => ?_
  obtain ⟨-, rfl, ha⟩ := exec_createVM hx
  refine ⟨fun _ => ⟨_, x, a, .inserted fun preAction' req' customerID' hi' => ?_, hx⟩, ?_⟩
  · cases hi.symm.trans hi'
    unfold Undisturbed at hok
    rw [hi] at hok
    rw [ha]
    exact ⟨rfl, of_decide_eq_true hok⟩
  · exact publish_idle hi h₀ hk hk₀ (settled_sole (sole_publish (hr.silent hm)))

/-- **What a call ends with.** -/
theorem createVM_idle (hm : m.Silent i) :
    Goes db₀ k clients i (createVM preAction req customerID) (Outcome k i customerID) m := by
  have hsilent : ∀ (e : GoError) (m : Mem store ι), Settled (filing db₀ k clients) i
    (fun m => m.Silent i) m →
      Settled (filing db₀ k clients) i (Outcome k i customerID (.error e)) m :=
    fun e m h => h.mono fun _ _ h => ⟨tasked_of_silent h, fun answer ha => by cases ha⟩
  have hreads : ∀ {α : Type} {c : Op α} {m : Mem store ι}, (c.All Stmt.Reads) →
      m.Silent i → Goes db₀ k clients i c (fun _ m => m.Silent i) m :=
    fun hc hm => IdleIf.mono (Idle.toIf filing_allow (hc.does.idle_settled
      (fun q hq _ _ _ _ hx => exec_nil hx hq) (settled_silent hm))) fun _ _ _ h => h.2
  refine IdleIf.bind (lookup_idle hi h₀ hk hk₀ hm) (fun earlier m1 hR1 h1 => ?_)
    fun e m1 _ h1 => hsilent e m1 (h1.mono fun _ _ h => h.1)
  obtain ⟨hm1, hans⟩ := h1 m1 (.refl m1) hR1
  cases earlier with
  | some answer =>
    refine outcome_ret (tasked_of_silent hm1) fun answer' ha => ?_
    cases ha
    exact hans answer rfl
  | none =>
    refine IdleIf.bind (hreads resolveDeps_reads hm1) (fun deps m2 hR2 h2 => ?_) fun e m2 _ h2 =>
      hsilent e m2 h2
    refine IdleIf.bind (hreads (all_read rfl) (h2 m2 (.refl m2) hR2))
      (fun macAddress m3 hR3 h3 => ?_) fun e m3 _ h3 => hsilent e m3 h3
    exact persist_idle hi h₀ hk hk₀ (h3 m3 (.refl m3) hR3)

end

/-! ## the theorem -/

def Result (k : String) (clients : ι → Client) (i : ι)
    (r : Except GoError (Option (Option VM × String))) (m : Mem store ι) : Prop :=
  ∀ preAction req customerID, clients i = .create preAction req customerID → Tasked k m i ∧
    ∀ a, r = .ok a → ∃ answer, a = some answer ∧ Answered k m.db customerID answer

lemma client_idle (hk₀ : k ≠ "") (hc : Carries k clients)
    (h₀ : ∀ t ∈ db₀.tasks.rows, t.idempotencyKey ≠ some k) (hm : m.Silent i) :
    Goes db₀ k clients i (clients i).run (Result k clients i) m := by
  cases hi : clients i with
  | create preAction req customerID =>
    have hcall := createVM_idle hi h₀ (hc.create i preAction req customerID hi) hk₀ hm
    refine IdleIf.bind hcall (fun answer m' _ h => ?_) fun e m' _ h => h.mono fun m _ hm => ?_
    · refine IdleIf.ret (h.mono fun m _ hm => ?_)
      rintro preAction' req' customerID' hi'
      cases hi.symm.trans hi'
      refine ⟨hm.1, fun a ha => ?_⟩
      cases ha
      exact ⟨answer, rfl, hm.2 answer rfl⟩
    · rintro preAction' req' customerID' hi'
      exact ⟨hm.1, fun answer ha => by cases ha⟩
  | other c =>
    have hkeeps : Keeps (filing db₀ k clients) i (Client.other c).run m := by
      refine Keeps.bind ((hc.other i c hi).keeps fun q hq m x a ws _ _ hx _ => ⟨q, x, a, ?_, hx⟩)
        fun _ _ => Keeps.ret _
      by_cases hv : ∃ vm, q = .createVM vm
      · obtain ⟨vm, rfl⟩ := hv
        refine .inserted fun preAction req customerID hi' => ?_
        cases hi.symm.trans hi'
      · exact .quiet hq fun vm h => hv ⟨vm, h⟩
    refine IdleIf.mono (Idle.toIf filing_allow hkeeps)
      fun _ _ _ _ preAction req customerID hi' => ?_
    cases hi.symm.trans hi'

section
variable [DecidableEq ι] {s : Clients ι} (hk₀ : k ≠ "") (hc : Carries k clients)
  (h₀ : ∀ t ∈ db₀.tasks.rows, t.idempotencyKey ≠ some k)
  (h : ReachesIf (Undisturbed clients) (State.init db₀ fun i => (clients i).run) s)
include hk₀ hc h₀ h

lemma result_of_reaches : Filed k clients s.mem ∧ ∀ i r, s.prog i = some (.ret r) →
    Result k clients i r s.mem := by
  have hsilent : ∀ i, Mem.Silent (⟨db₀, []⟩ : Mem store ι) i := fun i b hb => by cases hb
  obtain ⟨hR, hpost⟩ := IdleIf.adequate (P := filing db₀ k clients) (R := Result k clients) rfl
    (fun i => client_idle hk₀ hc h₀ (hsilent i)) h
  exact ⟨filed_of_reach h₀ hR, hpost⟩

lemma under_of_ended (hi : (clients i).isCreate = true) (he : Ended s i) (hv : Created s.mem i v)
    (hvm : (Db.vm s.mem.db v).isSome = true) : ∃ taskID, Under k s.mem.db taskID v := by
  have hacc : Tasked k s.mem i := by
    rcases he with hnone | ⟨r, hr⟩
    · exact tasked_of_silent (ReachesIf.silent (fun _ _ hok => hok hi) h hnone)
    · obtain ⟨preAction, req, customerID, hci⟩ := exists_create hi
      exact ((result_of_reaches hk₀ hc h₀ h).2 i r hr preAction req customerID hci).1
  obtain ⟨vm, hvm⟩ := Option.isSome_iff_exists.mp hvm
  rcases hacc v hv with hd | ht
  · exact absurd hd (not_deleted_of_vm hvm)
  · exact ht

end

lemma Filed.under_inj (h : Filed k clients m) {t₁ t₂ v w : String} (hv : Under k m.db t₁ v)
    (hw : Under k m.db t₂ w) : v = w := by
  obtain ⟨t, ht, hk, hdoc⟩ := hv
  obtain ⟨t', ht', hk', hdoc'⟩ := hw
  obtain ⟨hmem, -⟩ := find_some ht
  obtain ⟨hmem', -⟩ := find_some ht'
  have hid : t.id = t'.id := h.unique t hmem t' hmem' hk hk'
  have heq : t = t' := eq_of_key hmem hmem' (mem_singleton_self _)
    (by rw [hid]; exact mem_singleton_self _)
  subst heq
  cases hdoc.symm.trans hdoc'
  rfl

/-- **One VM for one key.** In every run in which the calls are left undisturbed, whatever else goes
on: one VM at most results from the calls that carry the key, a call that succeeds returns the task
under the key, which names that VM, and a call of another customer than its owner ends with an
error. -/
theorem createVM_once [DecidableEq ι] {s : Clients ι} (hk₀ : k ≠ "") (hc : Carries k clients)
    (h₀ : ∀ t ∈ db₀.tasks.rows, t.idempotencyKey ≠ some k)
    (h : ReachesIf (Undisturbed clients) (State.init db₀ fun i => (clients i).run) s) :
    Idempotent (Undisturbed clients) k clients s := by
  obtain ⟨hfiled, hpost⟩ := result_of_reaches hk₀ hc h₀ h
  refine ⟨?_, ?_, ?_, ?_⟩
  · intro i j v w hi hj hei hej hv hw hvm hwm
    obtain ⟨t1, h1⟩ := under_of_ended hk₀ hc h₀ h hi hei hv hvm
    obtain ⟨t2, h2⟩ := under_of_ended hk₀ hc h₀ h hj hej hw hwm
    exact hfiled.under_inj h1 h2
  · intro i vm? taskID hi hr
    obtain ⟨preAction, req, customerID, hci⟩ := exists_create hi
    obtain ⟨answer, hans, v, row, ⟨t, ht, hk, hdoc⟩, -, -, hvm⟩ := (hpost i _ hr _ _ _ hci).2 _ rfl
    cases hans
    obtain ⟨j, v', hj, hv', hdoc'⟩ := hfiled.named t (find_some ht).1 hk
    cases hdoc.symm.trans hdoc'
    refine ⟨t, v, j, ht, hk, hdoc, hvm, hj, hv', fun j' w hj' hej' hw hwm => ?_⟩
    obtain ⟨t2, h2⟩ := under_of_ended hk₀ hc h₀ h hj' hej' hw hwm
    exact hfiled.under_inj h2 ⟨t, ht, hk, hdoc⟩
  · intro i j preAction preAction' req req' customerID customerID' t v hi hj hne ht hk hdoc hv r hr
    cases r with
    | error e => exact ⟨e, rfl⟩
    | ok a =>
      obtain ⟨answer, -, v', row, hu, hrow, hown, -⟩ := (hpost i _ hr _ _ _ hi).2 a rfl
      have hv' : v' = v :=
        hfiled.under_inj hu ⟨t, find_of_mem ht, hk, hdoc⟩
      subst hv'
      obtain ⟨-, row', hrow', hown'⟩ := hfiled.owned j _ _ _ v' hj hv
      cases hrow.symm.trans hrow'
      exact absurd (hown.symm.trans hown') hne
  · -- no look-up of such a run fails
    intro i e s' hi _ hok _
    obtain ⟨preAction, req, customerID, hci⟩ := exists_create hi
    unfold Undisturbed at hok
    rw [hci] at hok
    cases hok

end

/-! ## two customers and one key -/

def keyed : VMCreateRequest := ⟨"p", "h", "t", "Correct-Horse-1", [], none, none, "k"⟩

local instance three_ne_zero : NeZero 3 := ⟨by decide⟩

/-- the customers `c` and `d` carry one key; the VM `a` is deleted beside them -/
def customers : Fin 3 → Client
  | 0 => .create (.ok ()) keyed "c"
  | 1 => .create (.ok ()) keyed "d"
  | 2 => .other (VMRepository.softDelete "a")

lemma carries_customers : Carries "k" customers where
  create := by
    intro i preAction req customerID h
    match i with
    | 0 => cases h; rfl
    | 1 => cases h; rfl
    | 2 => cases h
  other := by
    intro i c h
    match i with
    | 0 => cases h
    | 1 => cases h
    | 2 =>
      cases h
      exact all_affecting.mpr (all_query.mpr rfl)

def customersFrom : Clients (Fin 3) := State.init noVM fun i => (customers i).run

/-- the next statement of a client is carried out, with ids and addresses of its own -/
def serve (i : Fin 3) : Fin 3 × Label store :=
  (i, .ev (.ok { calm with fresh := if i = 0 then "a" else "b" }))

def breaks (i : Fin 3) : Fin 3 × Label store := (i, .ev (.fail "connection reset"))

/-- `c` creates the VM, then `d` asks with the same key -/
def inTurn : List (Fin 3 × Label store) := List.replicate 9 (serve 0) ++ List.replicate 2 (serve 1)

theorem createVM_once_in_turn : ∃ s, ReachesIf (Undisturbed customers) customersFrom s ∧
    (∃ vm, s.prog 0 = some (.ret (.ok (some (some vm, "a"))))) ∧ Ended s 1 ∧
    Idempotent (Undisturbed customers) "k" customers s := by
  have hrun : (run customersFrom inTurn).isSome = true := by rfl
  have hreach : ReachesIf (Undisturbed customers) customersFrom
    ((run customersFrom inTurn).get hrun) :=
    reaches_checkedIf (run_get hrun) (by rfl)
  exact ⟨_, hreach, ⟨_, rfl⟩, .inr ⟨_, rfl⟩,
    createVM_once (by decide) carries_customers (fun t ht => by cases ht) hreach⟩

def unread : List (Fin 3 × Label store) := breaks 0 :: List.replicate 8 (serve 0)

def deletedBefore : List (Fin 3 × Label store) :=
  List.replicate 9 (serve 0) ++ serve 2 :: List.replicate 2 (serve 1)

/-- both look the key up before either has published a task, and the clean-up of the second fails -/
def atOnce : List (Fin 3 × Label store) :=
  List.replicate 8 (serve 0) ++ List.replicate 8 (serve 1) ++ [serve 0, serve 1, breaks 1]

/-- **A key that does not hold.** A call whose look-up fails creates a VM; a customer gets the task
of another one whose VM is deleted; and two VMs result from two calls at once. -/
theorem createVM_not_once : ((∃ s vm, run customersFrom unread = some s ∧
      s.prog 0 = some (.ret (.ok (some (some vm, "a")))) ∧
      Db.vm s.mem.db "a" = some vm) ∧
        ¬ Idempotent (fun _ _ _ _ => True) "k" customers customersFrom) ∧
    (∃ s, Reaches always customersFrom s ∧ s.prog 1 = some (.ret (.ok (some (none, "a")))) ∧
      ¬ Idempotent (fun _ _ _ _ => True) "k" customers s) ∧
    ∃ s, Reaches always customersFrom s ∧ (Db.vm s.mem.db "a").isSome = true ∧
      (Db.vm s.mem.db "b").isSome = true ∧ ¬ Idempotent (fun _ _ _ _ => True) "k" customers s := by
  refine ⟨⟨?_, fun h => ?_⟩, ?_, ?_⟩
  · have hrun : (run customersFrom unread).isSome = true := by rfl
    exact ⟨_, _, run_get hrun, rfl, rfl⟩
  · obtain ⟨err, herr⟩ := h.lookup 0 "connection reset" _ rfl ⟨_, rfl⟩ trivial rfl
    cases herr
  · have hrun : (run customersFrom deletedBefore).isSome = true := by rfl
    refine ⟨_, reaches_run (run_get hrun), rfl, fun h => ?_⟩
    obtain ⟨e, he⟩ := h.owner 1 0 (.ok ()) (.ok ()) keyed keyed "d" "c" _ "a" rfl rfl (by decide)
      (mem_singleton_self _) rfl rfl ⟨_, mem_cons_self, rfl⟩ _ rfl
    cases he
  · have hrun : (run customersFrom atOnce).isSome = true := by rfl
    refine ⟨_, reaches_run (run_get hrun), rfl, rfl, fun h => ?_⟩
    have heq := h.one 0 1 "a" "b" rfl rfl (.inr ⟨_, rfl⟩) (.inr ⟨_, rfl⟩) ⟨_, mem_cons_self, rfl⟩
      ⟨_, mem_cons_of_mem _ mem_cons_self, rfl⟩ rfl rfl
    exact absurd heq (by decide)

end VirtueStack.Compute
