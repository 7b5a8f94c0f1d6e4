import Mathlib
import VirtueStack.Compute.Moves
import VirtueStack.Compute.MigrateRetry

/-!
# What a failover does
-/

namespace VirtueStack.Compute
open Txn Call Op List
open Billing (VMStatus)
open FailoverService

/-! ## capacity -/

/-- the sizes of the VMs with `p`, added up -/
def demand (size : VM → Int) (p : VM → Bool) (vms : List VM) : Int := ((vms.filter p).map size).sum

/-- the VMs with `p` have room on the node, next to what is allocated there -/
def Node.Holds (node : Node) (p : VM → Bool) (vms : List VM) : Prop :=
  node.allocatedVCPU + demand VM.vcpu p vms ≤ node.totalVCPU ∧
    node.allocatedMemoryMB + demand VM.memoryMB p vms ≤ node.totalMemoryMB

/-- not more is allocated than there is -/
def Node.Sound (node : Node) : Prop :=
  (0 ≤ node.allocatedVCPU ∧ node.allocatedVCPU ≤ node.totalVCPU) ∧
    0 ≤ node.allocatedMemoryMB ∧ node.allocatedMemoryMB ≤ node.totalMemoryMB

section
variable {storage : StorageAssignments} {nodes : List Node} {o : Oracle} {db : Db} {vms : List VM}

end

/-- the node that survives, with eight -/
def survivor : Node := ⟨"t", "i", none, .online, 8, 8192, 0, 0, "", "", ""⟩

/-- every backend is Ceph, and every node has it -/
def allCeph : StorageAssignments := ⟨fun _ => some .ceph, fun _ _ => true⟩

def noSurviving : GoError := .new "no surviving nodes available for VM migration"

def Db.onNode (db : Db) (nodeID : String) : List VM :=
  db.vms.rows.filter fun vm => vm.nodeID = some nodeID ∧ vm.deletedAt = none

def Db.hasOther (db : Db) (nodeID : String) : Prop :=
  ∃ node ∈ db.nodes.rows, node.id ≠ nodeID ∧ node.status = .online

/-- every VM of the node is accounted for once, and one that was moved is on another node that was
online -/
def FailoverResult.Covers (r : FailoverResult) (nodeID : String) (db db' : Db) : Prop :=
  r.totalVMs = (db.onNode nodeID).length ∧
    (∀ vm ∈ db.onNode nodeID,
      ((r.migratedVMs.map (·.vmID)) ++ r.failedMigrations.map (·.vmID)).count vm.id = 1) ∧
    ∀ m ∈ r.migratedVMs, ∃ vm, db'.vm m.vmID = some vm ∧ vm.nodeID = some m.newNodeID ∧
      ∃ node ∈ db.nodes.rows, node.id = m.newNodeID ∧ node.id ≠ nodeID ∧ node.status = .online

/-- what a failover that is alone owes: a result is complete, and a node that is online is found -/
def FailoverComplete (storage : StorageAssignments) (commands : Commands) (nodeID : String)
    (columns : FailoverColumns) (o : Oracle) (db : Db) : Prop :=
  (∀ r db', (FailoverService.approveFailover storage commands nodeID columns).alone o db =
    (.ok r, db') → r.Covers nodeID db db') ∧
  (db.hasOther nodeID →
    ((FailoverService.approveFailover storage commands nodeID columns).alone o db).1 ≠
    .error noSurviving)

/-- the failover gets as far as the list of the VMs -/
def Begins (nodeID : String) (columns : FailoverColumns) (o : Oracle) (db : Db) : Prop :=
  (served o (.getNode nodeID) = true ∧ (db.nodes.find nodeID).isSome = true ∧
    FailoverService.failoverHeartbeatThreshold ≤ columns.consecutiveHeartbeatMisses) ∧
  served o (.listVMs nodeID maxPerPage) = true

lemma firstPage_eq_nil {α : Type} {id : α → String} {n : Nat} {rows : List α}
    (h : firstPage id (n + 1) rows = []) : rows = [] := by
  unfold firstPage trimPage at h
  have hlen : (rows.insertionSort fun a b => id b ≤ id a).length = rows.length :=
    length_insertionSort ..
  have hzero : rows.length = 0 := by
    split at h
    · have := congrArg List.length h
      simp only [length_take, hlen, length_nil] at this
      omega
    · have := congrArg List.length h
      simp only [length_take, hlen, length_nil] at this
      omega
  exact eq_nil_of_length_eq_zero hzero

section
variable {storage : StorageAssignments} {commands : Commands} {nodeID : String}
  {columns : FailoverColumns} {o : Oracle} {db : Db}

lemma namingMissing_ne {missing context t : String} (e : GoError) (h : missing ≠ t) :
    MigrationService.namingMissing missing context e ≠ .new t := by
  unfold MigrationService.namingMissing
  split
  · exact fun he => h (GoError.new.inj he)
  · exact fun he => by cases he

lemma checkMisses_error (nodeID : String)
    (h : columns.consecutiveHeartbeatMisses < failoverHeartbeatThreshold) :
    ∃ e, checkMisses nodeID columns = .error e ∧ e ≠ noSurviving := by
  refine ⟨_, if_pos h, fun he => ?_⟩
  have hc := congrArg (fun s : String => s.toList[2]?) (GoError.new.inj he)
  simp only [String.toList_append] at hc
  cases hc

lemma verifyFailedNode_error
    (h : ¬ (served o (.getNode nodeID) = true ∧ (db.nodes.find nodeID).isSome = true ∧
    failoverHeartbeatThreshold ≤ columns.consecutiveHeartbeatMisses)) :
    ∃ e db', (verifyFailedNode nodeID columns).alone o db = (.error e, db') ∧ e ≠ noSurviving := by
  unfold verifyFailedNode getNode
  cases hget : (NodeRepository.getByID nodeID).alone o db with
  | mk r db1 =>
    cases r with
    | error e =>
      refine ⟨_, db1, alone_bind_error (alone_attempt_of hget), namingMissing_ne e fun ht => ?_⟩
      have hc := congrArg (fun s : String => s.toList[2]?) ht
      rw [String.toList_append] at hc
      cases hc
    | ok node =>
      obtain ⟨⟨hserved, hnode⟩, rfl⟩ := getNode_eq_ok.mp hget
      have hmisses : columns.consecutiveHeartbeatMisses < failoverHeartbeatThreshold := by
        by_contra hm
        exact h ⟨hserved, by rw [hnode]; rfl, Int.not_lt.mp hm⟩
      obtain ⟨e, he, hne⟩ := checkMisses_error nodeID hmisses
      have hlift : (lift (checkMisses nodeID columns)).alone o db1 = (.error e, db1) := by
        rw [alone_lift, he]
      exact ⟨e, db1, (alone_bind_ok (replacing_eq_ok.mpr hget)).trans (alone_bind_error hlift), hne⟩

lemma verifyFailedNode_ok {node : Node} (hserved : served o (.getNode nodeID) = true)
    (hnode : db.nodes.find nodeID = some node)
    (hmisses : failoverHeartbeatThreshold ≤ columns.consecutiveHeartbeatMisses) :
    ∃ db', (verifyFailedNode nodeID columns).alone o db = (.ok node, db') ∧ db'.vms = db.vms := by
  have hget : (NodeRepository.getByID nodeID).alone o db = (.ok node, db) :=
    getNode_eq_ok.mpr ⟨⟨hserved, hnode⟩, rfl⟩
  have hcheck : (lift (checkMisses nodeID columns)).alone o db = (.ok (), db) := by
    rw [alone_lift, checkMisses, if_neg (Int.not_lt.mpr hmisses)]
  have hmark : ∃ db', (markFailed nodeID node).alone o db = (.ok (), db') ∧ db'.vms = db.vms := by
    unfold markFailed
    split
    · exact ⟨db, rfl, rfl⟩
    · refine ⟨_, alone_logged _, ?_⟩
      refine Db.part_alone (t := .vms) (all_affecting.mpr (all_query.mpr ?_))
      exact fun h => by cases h
  obtain ⟨db', hmark, hvms⟩ := hmark
  refine ⟨db', ?_, hvms⟩
  exact (alone_bind_ok (replacing_eq_ok.mpr hget)).trans
    ((alone_bind_ok hcheck).trans (alone_bind_ok hmark))

lemma executeFailoverSteps_alone (commands : Commands) (node : Node)
    (result : FailoverResult) (db : Db) :
    (executeFailoverSteps commands columns node result).alone o db = (.ok { result with
        stonithExecuted := stonithExecuted commands columns
        blocklistAdded := blocklistAdded commands columns }, db) := by
  have hlocks : (logged (getVMsOnNode node.id)).alone o db = (.ok (), db) := by
    rw [alone_logged]
    exact congrArg _ (alone_of_reads (all_read rfl))
  exact alone_bind_ok hlocks

section
variable (storage : StorageAssignments)

lemma approveFailover_alone (commands : Commands)
    (h : Begins nodeID columns o db) : ∃ node result db₁, db₁.vms = db.vms ∧
    result.totalVMs = (db.listVMs nodeID maxPerPage).length ∧ result.migratedVMs = [] ∧
      result.failedMigrations = [] ∧
    (approveFailover storage commands nodeID columns).alone o db =
      (failoverVMs storage node result (db.listVMs nodeID maxPerPage)).alone o db₁ := by
  obtain ⟨⟨hserved, hsome, hmisses⟩, hlist⟩ := h
  obtain ⟨node, hnode⟩ := Option.isSome_iff_exists.mp hsome
  obtain ⟨db₁, hverify, hvms⟩ := verifyFailedNode_ok hserved hnode hmisses
  have hsame : db₁.listVMs nodeID maxPerPage = db.listVMs nodeID maxPerPage := by
    unfold Db.listVMs
    rw [hvms]
  refine ⟨node, ⟨nodeID, node.hostname, (db.listVMs nodeID maxPerPage).length, [], [],
    stonithExecuted commands columns, blocklistAdded commands columns⟩,
    db₁, hvms, rfl, rfl, rfl, (alone_bind_ok hverify).trans
    ((alone_bind_ok (executeFailoverSteps_alone commands node _ db₁)).trans
      ((alone_bind_ok
        (wrapping_eq_ok.mpr ((read_eq_ok (fun _ => rfl) rfl).mpr ⟨⟨hlist, rfl⟩, rfl⟩))).trans ?_))⟩
  rw [hsame]

lemma approveFailover_error (commands : Commands) (h : ¬ Begins nodeID columns o db) : ∃ e db',
    (approveFailover storage commands nodeID columns).alone o db = (.error e, db') ∧
      e ≠ noSurviving := by
  by_cases hverify : served o (.getNode nodeID) = true ∧ (db.nodes.find nodeID).isSome = true ∧
      failoverHeartbeatThreshold ≤ columns.consecutiveHeartbeatMisses
  · obtain ⟨node, hnode⟩ := Option.isSome_iff_exists.mp hverify.2.1
    obtain ⟨db1, hverified, -⟩ := verifyFailedNode_ok hverify.1 hnode hverify.2.2
    have hlist : served o (.listVMs nodeID maxPerPage) = false := by
      rw [← Bool.not_eq_true]
      exact fun hs => h ⟨hverify, hs⟩
    obtain ⟨e, he⟩ :=
      query_not_served hlist db1 ("listing VMs on node " ++ nodeID ++ ": listing VMs")
    have hwrapped : (wrapping "getting VMs on failed node" (getVMsOnNode nodeID)).alone o db1 =
        (.error (.wrap "getting VMs on failed node" e), db1) := alone_wrapping he
    refine ⟨_, db1, (alone_bind_ok hverified).trans
      ((alone_bind_ok (executeFailoverSteps_alone commands node _ db1)).trans
        (alone_bind_error hwrapped)), ?_⟩
    exact fun h => by cases h
  · obtain ⟨e, db1, he, hne⟩ := verifyFailedNode_error hverify
    exact ⟨e, db1, alone_bind_error he, hne⟩

lemma failoverVMs_alone (node : Node) (result : FailoverResult) (vm : VM)
    (rest : List VM) (db : Db) : ∃ e, (failoverVMs storage node result (vm :: rest)).alone o db =
      (.error e, db) ∧ (e = noSurviving ↔ served o (.listNodes .online 0) = true) := by
  rcases Bool.eq_false_or_eq_true (served o (.listNodes .online 0)) with hs | hs
  · have hlist : (query (.listNodes .online 0) "listing online nodes: listing nodes").alone o db =
        (.ok [], db) := (read_eq_ok (fun _ => rfl) rfl).mpr ⟨⟨hs, firstPage_zero _⟩, rfl⟩
    have hfind : (findSurvivingNodes node).alone o db = (.ok [], db) := by
      refine (alone_bind_ok hlist).trans ?_
      show (Except.ok (preferLocation node []), db) = _
      rw [preferLocation_nil]
    exact ⟨noSurviving, alone_bind_ok (wrapping_eq_ok.mpr hfind), fun _ => hs, fun _ => rfl⟩
  · obtain ⟨e, he⟩ := query_not_served hs db "listing online nodes: listing nodes"
    have hfind : (findSurvivingNodes node).alone o db = (.error e, db) :=
      alone_bind_error he
    refine ⟨_, alone_bind_error (alone_wrapping hfind), fun h => (by cases h), fun h => ?_⟩
    rw [hs] at h
    cases h

end

lemma listVMs_eq_nil : db.listVMs nodeID maxPerPage = [] ↔ db.onNode nodeID = [] := by
  refine ⟨fun h => firstPage_eq_nil h, fun h => ?_⟩
  show firstPage VM.id maxPerPage (db.onNode nodeID) = []
  rw [h]
  rfl

lemma complete_of_error {e : GoError} {db' : Db}
    (h : (approveFailover storage commands nodeID columns).alone o db = (.error e, db'))
    (he : db.hasOther nodeID → e ≠ noSurviving) :
    FailoverComplete storage commands nodeID columns o db := by
  constructor
  · intro r db'' hr
    rw [h] at hr
    cases hr
  · intro hother herr
    rw [h] at herr
    exact he hother (Except.error.inj herr)

lemma complete_of_empty {result : FailoverResult} {db' : Db}
    (h : (approveFailover storage commands nodeID columns).alone o db = (.ok result, db'))
    (hnone : db.onNode nodeID = []) (htotal : result.totalVMs = 0)
    (hmigrated : result.migratedVMs = []) :
    FailoverComplete storage commands nodeID columns o db := by
  constructor
  · intro r db'' hr
    rw [h] at hr
    cases hr
    refine ⟨by rw [htotal, hnone]; rfl, fun vm hvm => ?_, fun m hm => ?_⟩
    · rw [hnone] at hvm
      cases hvm
    · rw [hmigrated] at hm
      cases hm
  · intro _ herr
    rw [h] at herr
    cases herr

/-- **A failover is complete exactly where it has nothing to do**: it does not begin, or the node
has no VM, or there is no other node, or the nodes cannot be listed. -/
theorem failover_complete_iff : FailoverComplete storage commands nodeID columns o db ↔
    ¬ (Begins nodeID columns o db ∧ served o (.listNodes .online 0) = true ∧ db.onNode nodeID ≠ [] ∧
      db.hasOther nodeID) := by
  by_cases hbegins : Begins nodeID columns o db
  · obtain ⟨node, result, db1, -, htotal, hmigrated, hfailed, hrun⟩ :=
      approveFailover_alone storage commands hbegins
    cases hpage : db.listVMs nodeID maxPerPage with
    | nil =>
      rw [hpage] at hrun htotal
      have hnone : db.onNode nodeID = [] := listVMs_eq_nil.mp hpage
      refine ⟨fun _ hcond => hcond.2.2.1 hnone, fun _ => ?_⟩
      exact complete_of_empty hrun hnone htotal hmigrated
    | cons vm rest =>
      obtain ⟨e, he, hiff⟩ := failoverVMs_alone (o := o) storage node result vm rest db1
      rw [hpage, he] at hrun
      constructor
      · rintro hcomplete ⟨-, hserved, -, hother⟩
        refine hcomplete.2 hother ?_
        rw [hrun, hiff.mpr hserved]
      · intro hnot
        refine complete_of_error hrun fun hother herr => ?_
        refine hnot ⟨hbegins, hiff.mp herr, fun hnone => ?_, hother⟩
        rw [listVMs_eq_nil.mpr hnone] at hpage
        cases hpage
  · obtain ⟨e, db', he, hne⟩ := approveFailover_error storage commands hbegins
    exact ⟨fun _ hcond => hbegins hcond.1, fun _ => complete_of_error he fun _ => hne⟩

end

def willing : Commands := ⟨some, .ok, fun _ _ _ => .ok (), none, fun _ => .ok ()⟩

def missedThree : FailoverColumns := ⟨3, "10.0.0.1", some "10.0.1.1", some "u", some "p"⟩

/-- **A node with one VM, another one online, and no node to go to.** -/
theorem failover_abandons : (twoNodes cephVM .shared).hasOther "n" ∧
    ((FailoverService.approveFailover allCeph willing "n" missedThree).alone (fun _ => .ok calm)
      (twoNodes cephVM .shared)).1 = .error noSurviving ∧
    ¬ FailoverComplete allCeph willing "n" missedThree (fun _ => .ok calm)
    (twoNodes cephVM .shared) := by
  have hother : (twoNodes cephVM .shared).hasOther "n" :=
    ⟨survivor, mem_cons_of_mem _ (mem_singleton_self _), by decide, rfl⟩
  have herr : ((approveFailover allCeph willing "n" missedThree).alone (fun _ => .ok calm)
      (twoNodes cephVM .shared)).1 = .error noSurviving := rfl
  exact ⟨hother, herr, fun h => h.2 hother herr⟩

/-! ## fencing -/

/-- the statement writes no row of a VM and nothing on a host: it reassigns and starts nothing -/
def Stmt.Harmless (q : Stmt) : Prop := q.table ≠ some .vms ∧ q.table ≠ some .hosts

lemma harmless_of_read {q : Stmt} (h : q.table = none) : q.Harmless := by
  unfold Stmt.Harmless
  rw [h]
  exact ⟨fun h => (by cases h), fun h => (by cases h)⟩

lemma approveFailover_does (storage : StorageAssignments) (commands : Commands) (nodeID : String)
    (columns : FailoverColumns) : (approveFailover storage commands nodeID columns).Does
      Stmt.Harmless fun r => r.stonithExecuted = stonithExecuted commands columns ∧
        r.blocklistAdded = blocklistAdded commands columns ∧ r.migratedVMs = [] := by
  have hverify : (verifyFailedNode nodeID columns).All Stmt.Harmless := by
    simp [verifyFailedNode, getNode, markFailed, Stmt.Harmless, Stmt.table]
  refine hverify.does.bind fun node _ => ?_
  refine Does.bind (c := executeFailoverSteps commands columns node _)
    (Q := fun r => r.stonithExecuted = stonithExecuted commands columns ∧
      r.blocklistAdded = blocklistAdded commands columns ∧ r.migratedVMs = []) ?_
    fun result hresult => ?_
  · refine (does_logged (does_query (harmless_of_read rfl))).bind fun _ _ => ?_
    exact Does.pure ⟨rfl, rfl, rfl⟩
  refine (does_wrapping (does_query (harmless_of_read rfl))).bind fun vms _ => ?_
  cases vms with
  | nil => exact Does.pure hresult
  | cons vm rest =>
    refine (does_wrapping (findSurvivingNodes_does node (harmless_of_read rfl))).bind
      fun nodes hnodes => ?_
    rw [hnodes]
    exact Does.fail _

/-- **No failover without fencing.** In every run of `ApproveFailover`, next to any other sessions
and whatever the commands say, the statement that is sent next reassigns no VM and starts none, and
a result says that STONITH was executed or the node put on the blocklist exactly where the commands
say so. The reason is that the list of nodes that survive is empty: where fencing fails the failover
would go on. -/
theorem failover_fenced {ι : Type} [DecidableEq ι] {storage : StorageAssignments}
    {commands : Commands}
    {nodeID : String} {columns : FailoverColumns} {db : Db} {i : ι} {p : ι → Op FailoverResult}
    (hp : p i = FailoverService.approveFailover storage commands nodeID columns)
    {s : State store ι (Except GoError FailoverResult)} (h : Reaches always (State.init db p) s) :
    (∀ q k, s.prog i = some (.req (.run q) k) →
      (∀ v n, q ≠ .updateVM v (.node n)) ∧ (∀ n v, q ≠ .agent n (.startVM v))) ∧
    ∀ r, s.prog i = some (.ret (.ok r)) → r.stonithExecuted =
      FailoverService.stonithExecuted commands columns ∧
      r.blocklistAdded = FailoverService.blocklistAdded commands columns ∧
      (r.migratedVMs ≠ [] → r.stonithExecuted = true ∨ r.blocklistAdded = true) := by
  have hdoes : (p i).Does Stmt.Harmless _ :=
    hp ▸ approveFailover_does storage commands nodeID columns
  have hleft := (Prog.Does.reaches hdoes h).2
  constructor
  · intro q k hq
    obtain ⟨hvms, hhosts⟩ : q.Harmless := (hleft _ hq).1
    refine ⟨?_, ?_⟩
    · rintro v n rfl
      exact hvms rfl
    · rintro n v rfl
      exact hhosts rfl
  · intro r hr
    obtain ⟨hs, hb, hmigrated⟩ := hleft _ hr r rfl
    exact ⟨hs, hb, fun hne => absurd hmigrated hne⟩

/-- neither the power-off nor the blocklist works -/
def unwilling : Commands :=
  ⟨some, .ok, fun _ _ _ => .error (.new "no route to host"), none, fun _ =>
    .error (.new "timed out")⟩

/-- the failover of a node with a VM on it, which fencing does not reach -/
def unfenced : State store Unit (Except GoError FailoverResult) :=
  State.init (twoNodes cephVM .shared) fun _ => FailoverService.approveFailover allCeph unwilling
    "n" missedThree

/-- the VMs have been listed: the next statement is the list of the nodes, and nothing is
reassigned -/
theorem failover_fenced_failing : ∃ s q k, Reaches always unfenced s ∧
    s.prog () = some (.req (.run q) k) ∧
    FailoverService.stonithExecuted unwilling missedThree = false ∧
    FailoverService.blocklistAdded unwilling missedThree = false ∧
    (∀ v n, q ≠ .updateVM v (.node n)) ∧ ∀ n v, q ≠ .agent n (.startVM v) := by
  have h : (run unfenced (List.replicate 4 ((), .ev (.ok calm)))).isSome = true := by rfl
  have hreach := reaches_run (run_get h)
  have hnext := (failover_fenced (i := ()) rfl hreach).1 (.listNodes .online 0) _ rfl
  exact ⟨_, _, _, hreach, rfl, rfl, rfl, hnext⟩

end VirtueStack.Compute
