import Mathlib
import VirtueStack.Compute.CreateFailure
import VirtueStack.Compute.StatusMachine

/-!
# What the nodes have allocated, and what their VMs take up

No operation writes the counters of a node (`counters_run`), so they are the sums over its VMs
exactly where these are what they were at the start.

* `Placed` the condition of the bound: a VM is created on a node while the VMs on it take up no more
  than its counters say, and a resize or a move adds to a node no more than the counters leave;
* `Roomy` what such a run keeps. `CreateVM` checks the rest: what the counters say and the new VM
  are no more than the node has.
-/

namespace VirtueStack.Compute
open Txn Table List
open Billing (VMStatus)

/-! ## sums and counters -/

inductive Resource where
  | vcpu
  | memory

namespace Resource

def size : Resource → VM → Int
  | .vcpu => VM.vcpu
  | .memory => VM.memoryMB

def allocated : Resource → Node → Int
  | .vcpu => Node.allocatedVCPU
  | .memory => Node.allocatedMemoryMB

def total : Resource → Node → Int
  | .vcpu => Node.totalVCPU
  | .memory => Node.totalMemoryMB

instance {p : Resource → Prop} [DecidablePred p] : Decidable (∀ r, p r) :=
  decidable_of_iff (p .vcpu ∧ p .memory) ⟨fun h r => by cases r; exacts [h.1, h.2],
    fun h => ⟨h _, h _⟩⟩

end Resource

/-- what a VM contributes to the sum over a node -/
def VM.share (r : Resource) (nodeID : String) (vm : VM) : Int :=
  if vm.nodeID = some nodeID ∧ vm.deletedAt = none then r.size vm else 0

def Db.used (db : Db) (r : Resource) (nodeID : String) : Int :=
  (db.vms.rows.map (VM.share r nodeID)).sum

/-- the counters of every node are the sums over its VMs -/
def Accounted (db : Db) : Prop :=
  ∀ node ∈ db.nodes.rows, ∀ r : Resource, r.allocated node = db.used r node.id

/-- the VMs of every node have room on it -/
def Within (db : Db) : Prop :=
  ∀ node ∈ db.nodes.rows, ∀ r : Resource, db.used r node.id ≤ r.total node

/-- no VM takes up less than nothing -/
def Sized (db : Db) : Prop := ∀ vm ∈ db.vms.rows, ∀ r : Resource, 0 ≤ r.size vm

/-! ## the condition -/

/-- what is on the node and `more` are within its counters -/
def Db.counts (db : Db) (nodeID : String) (more : Resource → Int) : Prop :=
  ∀ node ∈ db.nodes.find nodeID, ∀ r : Resource, db.used r nodeID + more r ≤ r.allocated node

instance (db : Db) (nodeID : String) (more : Resource → Int) : Decidable (db.counts nodeID more) :=
  inferInstanceAs (Decidable (∀ node ∈ db.nodes.find nodeID, _))

/-- what a resize adds to the node of the VM -/
def VM.growth (vm : VM) (vcpu memoryMB : Int) : Resource → Int
  | .vcpu => vcpu - vm.vcpu
  | .memory => memoryMB - vm.memoryMB

def Stmt.placed (db : Db) : Stmt → Prop
  | .createVM vm => (∀ r : Resource, 0 ≤ r.size vm) ∧ ∀ n ∈ vm.nodeID, db.counts n fun _ => 0
  | .updateVM v (.node n) => ∀ vm ∈ db.vm v, vm.nodeID = some n ∨ db.counts n fun r => r.size vm
  | .updateVM v (.resources vcpu memoryMB _) => (0 ≤ vcpu ∧ 0 ≤ memoryMB) ∧ ∀ vm ∈ db.vm v,
      (∀ r, vm.growth vcpu memoryMB r ≤ 0) ∨ ∀ n ∈ vm.nodeID, db.counts n (vm.growth vcpu memoryMB)
  | _ => True

instance (db : Db) (q : Stmt) : Decidable (q.placed db) := by
  unfold Stmt.placed
  split <;> infer_instance

section
variable {ι : Type}

def Placed : ι → Req store → Loc store → Mem store ι → Prop
  | _, .run q, _, m => Stmt.placed m.db q
  | _, _, _, _ => True

instance (i : ι) (r : Req store) (l : Loc store) (m : Mem store ι) : Decidable (Placed i r l m) :=
  match r with
  | .run q => inferInstanceAs (Decidable (Stmt.placed m.db q))
  | .begin => .isTrue trivial
  | .commit => .isTrue trivial
  | .rollback => .isTrue trivial

variable {db₀ db : Db} {ops : ι → Operation} {m : Mem store ι} {i : ι} {q : Stmt}
  {x : Inp} {a : q.Ans} {ws : List Write} {vm : VM} {r : Resource} {n v : String}

/-! ## the sums -/

lemma share_nonneg (h : 0 ≤ r.size vm) : 0 ≤ vm.share r n := by
  unfold VM.share
  split
  · exact h
  · exact le_refl 0

/-- the rows with `vm'` in the place of `vm` -/
lemma used_setVM {vm' : VM} (h : db.vms.find v = some vm) (hid : vm'.id = vm.id) :
    (db.setVM vm').used r n = db.used r n - vm.share r n + vm'.share r n := by
  have hkeys : vm.keys = vm'.keys := congrArg (fun id => [id]) hid.symm
  obtain ⟨before, after, hrows, hput⟩ := rows_put_of_find h hkeys
  have hput' : (db.setVM vm').vms.rows = before ++ vm' :: after := hput
  unfold Db.used
  rw [hput', hrows]
  simp only [map_append, map_cons, sum_append, sum_cons]
  omega

lemma used_of_vms {db' : Db} (h : db'.vms = db.vms) : db'.used r n = db.used r n := by
  unfold Db.used
  rw [h]

/-! ## one statement -/

/-- what holds in every state of a run: the nodes are those of `db₀` -/
structure Roomy (db₀ db : Db) : Prop where
  within : ∀ node ∈ db₀.nodes.rows, ∀ r : Resource, db.used r node.id ≤ r.total node
  sized : Sized db

variable {node : Node}

/-- the node of the start and the node of now have the same counters -/
lemma counterpart {db' : Db} (h : db.counters = db'.counters) (hn : node ∈ db.nodes.rows) :
    ∃ node' ∈ db'.nodes.rows, node'.id = node.id ∧ ∀ r : Resource, r.allocated node' =
      r.allocated node ∧ r.total node' = r.total node := by
  have hmem : node.capacity ∈ db.counters := mem_map_of_mem hn
  rw [h] at hmem
  obtain ⟨node', hnode', hsame⟩ := mem_map.mp hmem
  simp only [Node.capacity, Prod.mk.injEq] at hsame
  refine ⟨node', hnode', hsame.1, fun r => ?_⟩
  cases r with
  | vcpu => exact ⟨hsame.2.1, hsame.2.2.2.1⟩
  | memory => exact ⟨hsame.2.2.1, hsame.2.2.2.2⟩

lemma counts_of {more : Resource → Int} (hc : db.counters = db₀.counters)
    (hn : node ∈ db₀.nodes.rows)
    (h : db.counts node.id more) (r : Resource) :
    db.used r node.id + more r ≤ r.allocated node := by
  obtain ⟨node', hnode', hid, hsame⟩ := counterpart hc.symm hn
  rw [← (hsame r).1]
  refine h node' ?_ r
  rw [← hid]
  exact find_of_mem hnode'

/-- **A VM that is created has room**: by the condition the counters cover what is there, and
`CreateVM` has compared them with what the node has. -/
lemma created_roomy (hc : db.counters = db₀.counters) (hn : node ∈ db₀.nodes.rows)
    (hroom : db₀.HasRoomFor vm) (hcounts : ∀ n ∈ vm.nodeID, db.counts n fun _ => 0)
    (hnode : vm.nodeID = some node.id) : db.used r node.id + r.size vm ≤ r.total node := by
  obtain ⟨node₁, hid, hcapacity, hroom⟩ := hroom
  obtain ⟨node₂, hnode₂, hsame⟩ := mem_map.mp hcapacity
  have hid₂ : node₂.id = node.id :=
    (congrArg Prod.fst hsame).trans (Option.some.inj (hid.symm.trans hnode))
  obtain rfl : node₂ = node := eq_of_key (k := node.id) hnode₂ hn (mem_singleton.mpr hid₂.symm)
    (mem_singleton_self _)
  have hcovered : db.used r node₂.id ≤ r.allocated node₂ := by
    simpa using counts_of hc hn (hcounts _ hnode) r
  obtain ⟨hcpu, hmemory⟩ := of_decide_eq_true hroom
  simp only [Node.capacity, Prod.mk.injEq] at hsame
  obtain ⟨-, hac, ham, htc, htm⟩ := hsame
  rw [← hac, ← htc] at hcpu
  rw [← ham, ← htm] at hmemory
  cases r with
  | vcpu => exact le_trans (Int.add_le_add_right hcovered _) hcpu
  | memory => exact le_trans (Int.add_le_add_right hcovered _) hmemory

lemma share_of_node (hd : vm.deletedAt = none) (hnode : vm.nodeID = some n) :
    vm.share r n = r.size vm :=
  if_pos ⟨hnode, hd⟩

lemma share_of_other (hnode : vm.nodeID ≠ some n) : vm.share r n = 0 := if_neg fun h => hnode h.1

/-- the VM is updated: nothing is added to the node, or what is added is within the counters -/
lemma updated_roomy {u : VMUpdate} (hvm : db.vm v = some vm) (hc : db.counters = db₀.counters)
    (hn : node ∈ db₀.nodes.rows) (hlimit : r.allocated node ≤ r.total node) (hroomy : Roomy db₀ db)
    (hplaced : Stmt.placed db (.updateVM v u)) (now : Int) :
    db.used r node.id - vm.share r node.id + (u.set now vm).share r node.id ≤ r.total node := by
  obtain ⟨hfind, hd⟩ := Db.vm_eq_some.mp hvm
  have hused := hroomy.within node hn r
  have hold : 0 ≤ vm.share r node.id := share_nonneg (hroomy.sized vm (find_some hfind).1 r)
  have hsame : (u.set now vm).share r node.id = vm.share r node.id →
      db.used r node.id - vm.share r node.id + (u.set now vm).share r node.id ≤ r.total node := by
    intro h
    omega
  have hgone : (u.set now vm).share r node.id = 0 →
      db.used r node.id - vm.share r node.id + (u.set now vm).share r node.id ≤ r.total node := by
    intro h
    omega
  cases u with
  | node n =>
    by_cases hnode : vm.nodeID = some n
    · have hset : (VMUpdate.node n).set now vm = vm := by
        cases vm
        cases hnode
        rfl
      exact hsame (by rw [hset])
    by_cases hto : n = node.id
    · subst hto
      have hcounts := counts_of hc hn ((hplaced vm hvm).resolve_left hnode) r
      have hnew : ((VMUpdate.node node.id).set now vm).share r node.id = r.size vm := by
        have hd' : ((VMUpdate.node node.id).set now vm).deletedAt = none := hd
        refine (share_of_node hd' rfl).trans ?_
        cases r <;> rfl
      rw [hnew, share_of_other hnode]
      omega
    · exact hgone (share_of_other fun h => hto (Option.some.inj h))
  | resources vcpu memoryMB diskGB =>
    by_cases hnode : vm.nodeID = some node.id
    · have hnew : ((VMUpdate.resources vcpu memoryMB diskGB).set now vm).share r node.id =
          vm.share r node.id + vm.growth vcpu memoryMB r := by
        have hd' : ((VMUpdate.resources vcpu memoryMB diskGB).set now vm).deletedAt = none := hd
        rw [share_of_node hd hnode, share_of_node hd' hnode]
        cases r <;> simp [Resource.size, VM.growth, VMUpdate.set]
      rw [hnew]
      rcases hplaced.2 vm hvm with hless | hcounts
      · have := hless r
        omega
      · have := counts_of hc hn (hcounts _ hnode) r
        omega
    · refine hgone (share_of_other ?_)
      exact hnode
  | softDelete => exact hgone (if_neg fun h => by cases h.2)
  | _ =>
    refine hsame ?_
    cases r <;> rfl

lemma sized_set {u : VMUpdate} (h : ∀ r : Resource, 0 ≤ r.size vm)
    (hplaced : Stmt.placed db (.updateVM v u))
    (now : Int) (r : Resource) : 0 ≤ r.size (u.set now vm) := by
  cases u with
  | resources vcpu memoryMB diskGB =>
    cases r with
    | vcpu => exact hplaced.1.1
    | memory => exact hplaced.1.2
  | _ =>
    cases r with
    | vcpu => exact h .vcpu
    | memory => exact h .memory

/-- **A statement that is placed leaves every node within what it has.** -/
lemma roomy_exec {op : Operation} (hq : Move db₀ op i m q) (hplaced : q.placed db)
    (hx : exec q x x db = .ok (a, ws)) (hc : db.counters = db₀.counters)
    (hlimit : ∀ node ∈ db₀.nodes.rows, ∀ r : Resource, r.allocated node ≤ r.total node)
    (h : Roomy db₀ db) : Roomy db₀ (store.view db ws) := by
  by_cases ht : q.table = some .vms
  · cases q with
    | createVM vm =>
      obtain ⟨hfree, rfl, hrow⟩ := exec_createVM hx
      have hroom : db₀.HasRoomFor vm := by
        cases hq with
        | lawful _ h => exact h.elim
        | inserted _ h => exact h
        | migrating _ h =>
          cases h with
          | lawful h => exact h.elim
      have hsize : ∀ r : Resource, r.size a = r.size vm := fun r => by rw [hrow]; cases r <;> rfl
      have hrows : (store.view db [.insertVM a]).vms.rows = db.vms.rows ++ [a] :=
        rows_insert_of_find hfree
      refine ⟨fun node hn r => ?_, fun other hother r => ?_⟩
      · have hused : Db.used (store.view db [.insertVM a]) r node.id =
            db.used r node.id + a.share r node.id := by
          unfold Db.used
          rw [hrows]
          simp
        rw [hused]
        by_cases hnode : vm.nodeID = some node.id
        · have hshare : a.share r node.id = r.size vm := by
            rw [← hsize r]
            exact share_of_node (by rw [hrow]) (by rw [hrow]; exact hnode)
          rw [hshare]
          exact created_roomy hc hn hroom hplaced.2 hnode
        · have hshare : a.share r node.id = 0 := share_of_other (by rw [hrow]; exact hnode)
          rw [hshare, Int.add_zero]
          exact h.within node hn r
      · rw [hrows] at hother
        rcases mem_append.mp hother with hother | hother
        · exact h.sized other hother r
        · rw [mem_singleton.mp hother, hsize r]
          exact hplaced.1 r
    | updateVM v u =>
      rcases exec_updateVM hx with ⟨-, rfl⟩ | ⟨vm, hvm, -, -, rfl⟩
      · exact h
      · have hfind := (Db.vm_eq_some.mp hvm).1
        refine ⟨fun node hn r => ?_, fun other hother r => ?_⟩
        · have hused : Db.used (store.view db [.putVM (u.set x.now vm)]) r node.id = _ :=
            used_setVM hfind (VMUpdate.set_id u x.now vm)
          rw [hused]
          exact updated_roomy hvm hc hn (hlimit node hn r) h hplaced x.now
        · rcases mem_rows_put hother with rfl | hother
          · exact sized_set (h.sized vm (find_some hfind).1) hplaced x.now r
          · exact h.sized other hother r
    | _ => cases ht
  · have hvms : (store.view db ws).vms = db.vms :=
      Db.part_view (t := .vms) fun w hw hwt => ht (by rw [exec_table hx hw, hwt])
    refine ⟨fun node hn r => ?_, fun other hother => h.sized other ?_⟩
    · rw [used_of_vms hvms]
      exact h.within node hn r
    · rw [← hvms]
      exact hother

/-! ## every run -/

lemma roomy_run (h₀ : Accounted db₀) (hroom : Within db₀) (hsized : Sized db₀)
    (h : (operating db₀ ops Placed).Reach m) : Roomy db₀ m.db := by
  have hlimit : ∀ node ∈ db₀.nodes.rows, ∀ r : Resource, r.allocated node ≤ r.total node := by
    intro node hn r
    rw [h₀ node hn r]
    exact hroom node hn r
  refine h.invariant (I := fun m => Roomy db₀ m.db) ?_ ?_
  · rintro _ rfl
    exact ⟨hroom, hsized⟩
  · rintro m i H ws hR hm - - ⟨q, x, a, hq, hplaced, hx⟩
    rw [Mem.publish_db]
    exact roomy_exec hq hplaced hx (counters_run hR) hlimit hm

lemma accounted_iff (h₀ : Accounted db₀) (h : db.counters = db₀.counters) : Accounted db ↔
    ∀ node ∈ db.nodes.rows, ∀ r : Resource, db.used r node.id = db₀.used r node.id := by
  refine forall₂_congr fun node hn => forall_congr' fun r => ?_
  obtain ⟨node', hn', hid, hsame⟩ := counterpart h hn
  rw [← (hsame r).1, h₀ node' hn' r, hid]
  exact eq_comm

variable [DecidableEq ι]

/-- **The counters are the sums where the sums are what they were.** In every run of any number of
operations the counters stay as they are; so they are the sums exactly where no node has more or
less on it than at the start. In a run in which every VM is placed within the counters, no node ever
has more on it than there is room. -/
theorem capacity_accounted (h₀ : Accounted db₀) (hroom : Within db₀) (hsized : Sized db₀) :
    (∀ s, Reaches always (State.init db₀ fun i => (ops i).run) s → (Accounted s.mem.db ↔
      ∀ node ∈ (Db.nodes s.mem.db).rows, ∀ r, Db.used s.mem.db r node.id = db₀.used r node.id)) ∧
    ∀ s, Reaches Placed (State.init db₀ fun i => (ops i).run) s → Within s.mem.db := by
  constructor
  · intro s hs
    have hgood :=
      Protocol.sound (good_init (P := operating db₀ ops always) rfl fun _ => run_keeps rfl) hs
    exact accounted_iff h₀ (counters_run hgood.reach)
  · intro s hs node hn r
    have hgood :=
      Protocol.sound (good_init (P := operating db₀ ops Placed) rfl fun _ => run_keeps rfl) hs
    obtain ⟨node', hn', hid, hsame⟩ := counterpart (counters_run hgood.reach) hn
    rw [← (hsame r).2, ← hid]
    exact (roomy_run h₀ hroom hsized hgood.reach).within node' hn' r

end

/-! ## two VMs on one node -/

/-- a VM of the plan on the node `n` -/
def planVM : VM := { vmIn "v" .running storageBackendCeph with vcpu := 8, memoryMB := 8192 }

/-- the node `n` with this VM, and room for another one -/
def halfFull : Db :=
  { noVM with
    vms := empty.insert planVM
    nodes := empty.insert ⟨"n", "h", none, .online, 16, 16384, 8, 8192, "", "", ""⟩ }

inductive Replacing where
  | deletion
  | worker
  | creation
  deriving DecidableEq

/-- the VM is deleted, with its task; then another one is created -/
def replacement : Replacing → Operation
  | .deletion => .deleteVM "v" "c" false
  | .worker => .work ascii "task"
  | .creation => .createVM (.ok ()) ⟨"p", "h", "t", "Correct-Horse-1", [], none, none, ""⟩ "c"

def replacementFrom : State store Replacing (Except GoError Unit) :=
  State.init halfFull fun i => (replacement i).run

/-- one after the other, with ids of their own -/
def inOrder : List (Replacing × Label store) :=
  List.replicate 3 (.deletion, .ev (.ok { calm with fresh := "task" })) ++
    List.replicate 13 (.worker, .ev (.ok calm)) ++
    List.replicate 8 (.creation, .ev (.ok { calm with fresh := "w" }))

/-- The new VM is placed while the counters still speak of the one that is gone. -/
theorem capacity_accounted_replaced : ∃ s, Reaches Placed replacementFrom s ∧
    (∀ i, s.prog i = some (.ret (.ok ()))) ∧ Deleted s.mem.db "v" ∧
    (Db.vm s.mem.db "w").map VM.nodeID = some (some "n") ∧ Accounted s.mem.db ∧
      Within s.mem.db := by
  have h : (run replacementFrom inOrder).isSome = true := by rfl
  have hreach : Reaches Placed replacementFrom ((run replacementFrom inOrder).get h) :=
    reaches_checked (run_get h) (by rfl)
  have haccounted : Accounted halfFull := by
    intro node hnode r
    rw [mem_singleton.mp hnode]
    cases r <;> rfl
  have hwithin : Within halfFull := by
    intro node hnode r
    rw [mem_singleton.mp hnode]
    cases r with
    | vcpu => exact (by decide : (8 : Int) ≤ 16)
    | memory => exact (by decide : (8192 : Int) ≤ 16384)
  have hsized : Sized halfFull := by
    intro vm hvm r
    rw [mem_singleton.mp hvm]
    cases r with
    | vcpu => exact (by decide : (0 : Int) ≤ 8)
    | memory => exact (by decide : (0 : Int) ≤ 8192)
  have htheorem : _ ∧ ∀ s, Reaches Placed (State.init halfFull fun i => (replacement i).run) s →
    _ :=
    capacity_accounted haccounted hwithin hsized
  have hgone : (Db.vms ((run replacementFrom inOrder).get h).mem.db).find "v" =
      some (VMUpdate.softDelete.set 0 { planVM with status := .deleting }) := by rfl
  have hplaced : (Db.vm ((run replacementFrom inOrder).get h).mem.db "w").map VM.nodeID =
    some (some "n") := by rfl
  have hended : ∀ i, ((run replacementFrom inOrder).get h).prog i = some (.ret (.ok ())) := by
    intro i
    cases i <;> rfl
  have hbalanced : Accounted ((run replacementFrom inOrder).get h).mem.db := by
    have hrun : Reaches always replacementFrom ((run replacementFrom inOrder).get h) :=
      reaches_run (run_get h)
    apply (htheorem.1 _ hrun).mpr
    intro node hnode r
    rw [mem_singleton.mp hnode]
    cases r <;> rfl
  exact ⟨_, hreach, hended, softDelete_deleted hgone, hplaced, hbalanced, htheorem.2 _ hreach⟩

def creations : Bool → Operation := fun _ => replacement .creation

def creationsFrom : State store Bool (Except GoError Unit) :=
  State.init noVM fun i => (creations i).run

/-- one after the other; each gets ids of its own -/
def oneByOne : List (Bool × Label store) :=
  List.replicate 8 (true, .ev (.ok { calm with fresh := "a" })) ++
    List.replicate 8 (false, .ev (.ok { calm with fresh := "b" }))

/-- **Two VMs with all the memory of one node**: each request finds the counters at zero. -/
theorem capacity_exceeded : Accounted noVM ∧ Within noVM ∧ ∃ s, Reaches always creationsFrom s ∧
      s.prog true = some (.ret (.ok ())) ∧ s.prog false = some (.ret (.ok ())) ∧
      ¬ Accounted s.mem.db ∧ ¬ Within s.mem.db := by
  have h : (run creationsFrom oneByOne).isSome = true := by rfl
  have hused : Db.used ((run creationsFrom oneByOne).get h).mem.db .vcpu "n" = 16 := by rfl
  have hfirst : ((run creationsFrom oneByOne).get h).prog true = some (.ret (.ok ())) := by rfl
  have hsecond : ((run creationsFrom oneByOne).get h).prog false = some (.ret (.ok ())) := by rfl
  refine ⟨fun node hnode r => ?_, fun node hnode r => ?_, _, reaches_run (run_get h),
    hfirst, hsecond, fun hacc => ?_, fun hwithin => ?_⟩
  · rw [mem_singleton.mp hnode]
    cases r <;> rfl
  · rw [mem_singleton.mp hnode]
    cases r with
    | vcpu => exact (by decide : (0 : Int) ≤ 8)
    | memory => exact (by decide : (0 : Int) ≤ 8192)
  · have hzero : (0 : Int) = Db.used _ .vcpu "n" := hacc _ (mem_singleton_self _) .vcpu
    rw [hused] at hzero
    exact absurd hzero (by decide)
  · have hle : Db.used _ .vcpu "n" ≤ (8 : Int) := hwithin _ (mem_singleton_self _) .vcpu
    rw [hused] at hle
    exact absurd hle (by decide)

end VirtueStack.Compute
