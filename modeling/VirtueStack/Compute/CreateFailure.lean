import VirtueStack.Compute.CreateRun

/-!
# When a vm.create that fails leaves nothing behind

A VM in status `provisioning`, and a run of `handleVMCreate` in which the compensating calls
succeed.

* `Atomic` what is wanted of the outcome: after an error the VM is in status `error` and has
  no address and no domain, after a success it runs;
* `Compensates` the calls of a rollback are carried out, and nothing breaks on the host meanwhile.
-/

namespace VirtueStack.Compute
open Txn Call Op Db
open Billing (VMStatus)

/-- no address, no subnet and no domain -/
structure Clean (db : Db) (v node : String) : Prop where
  ips : ∀ ip ∈ db.ips.rows, ¬ ip.assignedTo v
  subnets : db.subnetsOf v = []
  domain : db.hosts.domains (node, v) = none

def Atomic (run : Except GoError Unit × Db) (v node : String) : Prop :=
  match run.1 with
  | .error _ => run.2.hasStatus v .error ∧ Clean run.2 v node
  | .ok _ => run.2.hasStatus v .running ∧ (run.2.hosts.domains (node, v)).isSome = true

structure Compensates (o : Oracle) (v node : String) : Prop where
  list : served o (.listIPAddresses v) = true
  release : ∀ ipID, served o (.releaseIPv4 ipID) = true
  subnets : served o (.deleteIPv6Subnets v) = true
  deleteVM : ∃ x, o (.agent node (.deleteVM v)) = .ok x ∧ x.lost = false ∧ ∀ op, x.broken op = false
  status : served o (.updateVM v (.transition .provisioning .error)) = true

variable {p : Platform} {o : Oracle} {db db' : Db} {doc : Json} {taskID v node : String}
  {c : CreateContext} {vm : VM}

def Listed (db : Db) (v : String) : Prop :=
  ∀ ip ∈ db.ips.rows, ip.assignedTo v → ip ∈ db.listIPAddresses v

def Materialized (o : Oracle) (db : Db) (c : CreateContext) : Prop :=
  agentAnswer o db c.payload.nodeID (.createVM c.createReq) = .ok ()

instance : Decidable (Materialized o db c) :=
  match h : agentAnswer o db c.payload.nodeID (.createVM c.createReq) with
  | .ok _ => .isTrue h
  | .error _ => .isFalse fun h' => by rw [Materialized, h] at h'; cases h'

def Started (o : Oracle) (c : CreateContext) : Prop :=
  served o (.updateVM c.payload.vmID (.transition .provisioning .running)) = true

/-- **The failures a rollback makes good.** -/
structure Recoverable (o : Oracle) (db : Db) (c : CreateContext) : Prop where
  /-- an agent that reports a failure has left no domain -/
  domain : match o (.agent c.payload.nodeID (.createVM c.createReq)) with
    | .fail _ => db.hosts.domains (c.payload.nodeID, c.payload.vmID) = none
    | .ok x => (x.lost = false ∧ db.hosts.starts x.broken c.payload.nodeID c.createReq) ∨
        db.hosts.vanishes x.broken c.payload.nodeID c.createReq
  /-- the addresses of the VM are on the first page -/
  listed : ¬ (Materialized o db c ∧ Started o c) → Listed db c.payload.vmID
  /-- nothing fails once the VM is running -/
  mac : Materialized o db c → Started o c → c.macAddress ≠ "" →
    served o (.updateVM c.payload.vmID (.macAddress c.macAddress)) = true

/-! ## the release of the addresses -/

lemma released_clean_iff (hc : Compensates o v node) :
    (∀ ip ∈ (db.released o v).ips.rows, ¬ ip.assignedTo v) ↔ Listed db v := by
  constructor
  · intro h ip hip hass
    by_contra hnot
    have hleft := (assigned_released (o := o)).mpr ⟨⟨hip, hass⟩, fun h' => hnot h'.2.1⟩
    exact h ip hleft.1 hleft.2
  · intro h ip hip hass
    obtain ⟨⟨hmem, hass'⟩, hno⟩ := assigned_released.mp ⟨hip, hass⟩
    exact hno ⟨hc.list, h ip hmem hass', hc.release ip.id⟩

lemma released_subnets (db : Db) (hc : Compensates o v node) :
    (db.released o v).subnetsOf v = [] := by
  rw [subnetsOf_released, if_pos ⟨hc.list, hc.subnets⟩]

lemma released_vms : (db.released o v).vms = db.vms := by
  unfold Db.released
  split <;> rfl

lemma released_hosts : (db.released o v).hosts = db.hosts := by
  unfold Db.released
  split <;> rfl

lemma released_vm : (db.released o v).vm v = db.vm v := by
  unfold Db.vm
  rw [released_vms]

lemma failedStatus_provisioning
    (hs : served o (.updateVM v (.transition .provisioning .error)) = true)
    (hv : db.hasStatus v .provisioning) : (failedStatus o db v).hasStatus v .error ∧
      (failedStatus o db v).ips = db.ips ∧ (failedStatus o db v).subnets = db.subnets ∧
      (failedStatus o db v).hosts = db.hosts := by
  obtain ⟨vm, hvm, hst⟩ := hv
  obtain ⟨x, hx⟩ := served_iff.mp hs
  unfold failedStatus
  rw [transition_alone_ok (by decide) hvm hst hx]
  exact ⟨⟨_, setVM_vm hvm rfl (vm_eq_some.mp hvm).2, rfl⟩, rfl, rfl, rfl⟩

lemma failedStatus_running (hv : db.hasStatus v .running) : failedStatus o db v = db := by
  obtain ⟨vm, hvm, hst⟩ := hv
  have hno : ∀ st, validateVMTransition VMStatus.provisioning.text .error = .ok st →
      served o (.updateVM v (.transition st .error)) = false ∨ ∀ vm, db.vm v = some vm →
      vm.status ≠ st := by
    intro st hok
    right
    intro vm' hvm' hst'
    obtain rfl : vm = vm' := Option.mem_unique hvm hvm'
    have htext := (validateVMTransition_ok.mp hok).1
    rw [← hst', hst] at htext
    exact absurd htext (by decide)
  obtain ⟨e, he⟩ := transition_alone_error hno
  unfold failedStatus
  rw [he]

/-! ## the three ways to fail -/

lemma atomic_rolledBack {e : GoError} (hc : Compensates o v node)
    (hv : db.hasStatus v .provisioning) :
    Atomic (.error e, failedStatus o (db.released o v) v) v node ↔
      Listed db v ∧ db.hosts.domains (node, v) = none := by
  have hv' : (db.released o v).hasStatus v .provisioning := by
    unfold Db.hasStatus
    rw [released_vm]
    exact hv
  obtain ⟨hst, hips, hsub, hhosts⟩ := failedStatus_provisioning hc.status hv'
  have hnone : (failedStatus o (db.released o v) v).subnetsOf v = [] := by
    have hs := released_subnets db hc
    unfold Db.subnetsOf at hs ⊢
    rw [hsub]
    exact hs
  constructor
  · rintro ⟨-, hclean⟩
    refine ⟨(released_clean_iff hc).mp fun ip hip => hclean.ips ip (hips ▸ hip), ?_⟩
    rw [← released_hosts (o := o) (v := v), ← hhosts]
    exact hclean.domain
  · rintro ⟨hl, hd⟩
    refine ⟨hst, fun ip hip => (released_clean_iff hc).mpr hl ip (hips ▸ hip), hnone, ?_⟩
    rw [hhosts, released_hosts]
    exact hd

/-- the state after the agent has answered -/
def materializedDb (o : Oracle) (db : Db) (c : CreateContext) : Db :=
  (allocated o db c).setHosts (agentHosts o db c.payload.nodeID (.createVM c.createReq))

lemma createVM_alone_ok (h : Materialized o db c) :
    c.createVM.alone o (allocated o db c) = (.ok (), materializedDb o db c) :=
  have h' : agentAnswer o (allocated o db c) c.payload.nodeID (.createVM c.createReq) = .ok () := h
  agent_alone_ok h'

lemma createVM_alone_error (h : ¬ Materialized o db c) :
    ∃ e, c.createVM.alone o (allocated o db c) = (.error e, materializedDb o db c) := by
  cases ha : agentAnswer o db c.payload.nodeID (.createVM c.createReq) with
  | ok a => exact absurd ha h
  | error t =>
    have ha' : agentAnswer o (allocated o db c) c.payload.nodeID (.createVM c.createReq) =
      .error t := ha
    exact agent_alone_error ha'

/-- the node is there, so the request gets to its agent -/
lemma agent_createVM {n : Node} {x : Inp} (hn : db.nodes.find c.payload.nodeID = some n)
    (hx : o (.agent c.payload.nodeID (.createVM c.createReq)) = .ok x) :
    (Materialized o db c ↔ x.lost = false ∧ db.hosts.starts x.broken c.payload.nodeID c.createReq) ∧
    agentHosts o db c.payload.nodeID (.createVM c.createReq) =
      db.hosts.after (db.hosts.createVM x.broken c.payload.nodeID c.createReq).2 := by
  have hrpc : db.rpc x c.payload.nodeID (.createVM c.createReq) =
      db.hosts.createVM x.broken c.payload.nodeID c.createReq := withNode_of_find hn
  unfold Materialized agentAnswer agentHosts
  rw [hx, ← (db.hosts.createVM_creates x.broken c.payload.nodeID c.createReq).ok]
  simp only [hrpc]
  refine ⟨?_, trivial⟩
  cases x.lost with
  | true => exact iff_of_false nofun nofun
  | false => exact (and_iff_right rfl).symm

/-- **When a creation that is not reported leaves no domain.** -/
lemma recoverable_domain_iff {n : Node} (hn : db.nodes.find c.payload.nodeID = some n) :
    (match o (.agent c.payload.nodeID (.createVM c.createReq)) with
      | .fail _ => db.hosts.domains (c.payload.nodeID, c.payload.vmID) = none
      | .ok x => (x.lost = false ∧ db.hosts.starts x.broken c.payload.nodeID c.createReq) ∨
          db.hosts.vanishes x.broken c.payload.nodeID c.createReq) ↔
    (¬ Materialized o db c → (agentHosts o db c.payload.nodeID (.createVM c.createReq)).domains
      (c.payload.nodeID, c.payload.vmID) = none) := by
  cases hx : o (.agent c.payload.nodeID (.createVM c.createReq)) with
  | ok x =>
    obtain ⟨hm, hhosts⟩ := agent_createVM hn hx
    have hgone := (db.hosts.createVM_creates x.broken c.payload.nodeID c.createReq).gone
    rw [hm, hhosts]
    exact or_iff_not_imp_left.trans (forall_congr' fun _ => hgone.symm)
  | fail e =>
    unfold Materialized agentAnswer agentHosts
    rw [hx]
    exact ⟨fun h _ => h, fun h => h nofun⟩

lemma provision_not_materialized (hc : Compensates o c.payload.vmID c.payload.nodeID)
    (hn : db.nodes.find c.payload.nodeID = some c.node)
    (hv : db.hasStatus c.payload.vmID .provisioning) (hm : ¬ Materialized o db c) :
    Atomic ((provisionVM taskID c).alone o db) c.payload.vmID c.payload.nodeID ↔
      Recoverable o db c := by
  obtain ⟨e, he⟩ := createVM_alone_error hm
  have hv' : (materializedDb o db c).hasStatus c.payload.vmID .provisioning := hv
  have hrun : (provisionVM taskID c).alone o db =
      (.error (.wrap ("creating VM " ++ c.payload.vmID ++ " via node agent") e), failedStatus o
        ((materializedDb o db c).released o c.payload.vmID) c.payload.vmID) := by
    rw [provision_alone, alone_attempt_of he]
    exact rollback_releases c _
  rw [hrun, atomic_rolledBack hc hv']
  constructor
  · rintro ⟨hl, hd⟩
    exact ⟨(recoverable_domain_iff hn).mpr fun _ => hd, fun _ => hl, fun h => absurd h hm⟩
  · intro h
    exact ⟨h.listed fun h' => hm h'.1, (recoverable_domain_iff hn).mp h.domain hm⟩

lemma materialized_domain (h : Materialized o db c) :
    ((agentHosts o db c.payload.nodeID (.createVM c.createReq)).domains
      (c.payload.nodeID, c.payload.vmID)).isSome = true ∧ c.payload.vmID ≠ "" := by
  unfold Materialized agentAnswer at h
  unfold agentHosts
  cases ho : o (.agent c.payload.nodeID (.createVM c.createReq)) with
  | fail e =>
    rw [ho] at h
    cases h
  | ok x =>
    rw [ho] at h
    cases hl : x.lost with
    | true =>
      simp only [hl] at h
      cases h
    | false =>
      simp only [hl] at h
      have hrpc : db.rpc x c.payload.nodeID (.createVM c.createReq) =
          db.hosts.createVM x.broken c.payload.nodeID c.createReq := withNode_ok h
      show ((db.hosts.after (db.rpc x c.payload.nodeID (.createVM c.createReq)).2).domains
        _).isSome = true ∧ _
      rw [hrpc]
      have hok : (db.rpc x c.payload.nodeID (.createVM c.createReq)).1 = .ok () := h
      rw [hrpc] at hok
      exact Hosts.createVM_domain hok

section
variable (hc : Compensates o c.payload.vmID c.payload.nodeID)
  (hn : db.nodes.find c.payload.nodeID = some c.node)
include hc hn

lemma deletedHosts_domain (hv : db.vm c.payload.vmID = some vm) (hid : c.payload.vmID ≠ "") :
    (deletedHosts o db c).domains (c.payload.nodeID, c.payload.vmID) = none := by
  obtain ⟨x, hx, -, hb⟩ := hc.deleteVM
  have hrpc : db.rpc x c.payload.nodeID (.deleteVM c.payload.vmID) =
      db.hosts.deleteVM x.broken c.payload.nodeID vm.deleteVMRequest :=
    (withNode_of_find hn).trans (withVM_of_find (vm_eq_some.mp hv).1)
  have hreq : vm.deleteVMRequest.vmID = c.payload.vmID := vm_id hv
  unfold deletedHosts agentHosts
  rw [hx]
  show (db.hosts.after (db.rpc x c.payload.nodeID (.deleteVM c.payload.vmID)).2).domains _ = none
  rw [hrpc, ← hreq]
  exact Hosts.deleteVM_domain hb (hreq ▸ hid)

lemma provision_not_started (hv : db.hasStatus c.payload.vmID .provisioning)
    (hm : Materialized o db c) (hs : ¬ Started o c) :
    Atomic ((provisionVM taskID c).alone o db) c.payload.vmID c.payload.nodeID ↔
      Recoverable o db c := by
  have hserved : served o (.updateVM c.payload.vmID (.transition .provisioning .running)) = false :=
    Bool.eq_false_of_not_eq_true hs
  have hno : ∀ st, validateVMTransition VMStatus.provisioning.text .running = .ok st →
      served o (.updateVM c.payload.vmID (.transition st .running)) = false ∨
        ∀ vm, (materializedDb o db c).vm c.payload.vmID = some vm → vm.status ≠ st := by
    intro st hok
    left
    have htext := (validateVMTransition_ok.mp hok).1
    have hst : VMStatus.ofText st.text = VMStatus.ofText VMStatus.provisioning.text := by rw [htext]
    rw [VMStatus.ofText_text, VMStatus.ofText_text] at hst
    rw [Option.some.inj hst]
    exact hserved
  obtain ⟨e, he⟩ := transition_alone_error hno
  have hn' : (materializedDb o db c).nodes.find c.payload.nodeID = some c.node := hn
  obtain ⟨vm, hvm, -⟩ := id hv
  have hvm' : (materializedDb o db c).vm c.payload.vmID = some vm := hvm
  have hdomain : (deletedHosts o (materializedDb o db c) c).domains
    (c.payload.nodeID, c.payload.vmID) = none :=
    deletedHosts_domain hc hn' hvm' (materialized_domain hm).2
  have hv' : ((materializedDb o db c).setHosts
      (deletedHosts o (materializedDb o db c) c)).hasStatus c.payload.vmID .provisioning := hv
  have hrun : (provisionVM taskID c).alone o db =
      (.error (.wrap ("transitioning VM " ++ c.payload.vmID ++ " to running") e), failedStatus o
        (((materializedDb o db c).setHosts (deletedHosts o (materializedDb o db c) c)).released o
          c.payload.vmID) c.payload.vmID) := by
    rw [provision_alone, alone_attempt_of (createVM_alone_ok hm)]
    refine (alone_attempt_of he).trans ?_
    exact rollback_deletes c _
  rw [hrun, atomic_rolledBack hc hv']
  constructor
  · rintro ⟨hl, -⟩
    exact ⟨(recoverable_domain_iff hn).mpr (absurd hm), fun _ => hl, fun _ h => absurd h hs⟩
  · intro h
    exact ⟨h.listed fun h' => hs h'.2, hdomain⟩

end

/-! ## once the VM is running -/

lemma update_hasStatus {u : VMUpdate} {status : VMStatus} {context : String}
    (hset : ∀ now vm, (u.set now vm).status = vm.status ∧ (u.set now vm).id = vm.id ∧
      (u.set now vm).deletedAt = vm.deletedAt)
    (happ : ∀ vm, u.applies vm = vm.deletedAt.isNone) (hv : db.hasStatus v status) :
    Db.hasStatus ((VMRepository.update v u context).alone o db).2 v status := by
  obtain ⟨vm, hvm, hst⟩ := hv
  have hd := (vm_eq_some.mp hvm).2
  cases hs : served o (.updateVM v u) with
  | true =>
    obtain ⟨x, hx⟩ := served_iff.mp hs
    have hu : u.applies vm = true := by rw [happ, hd]; rfl
    rw [update_alone_ok hvm hu hx]
    obtain ⟨h1, h2, h3⟩ := hset x.now vm
    exact ⟨_, setVM_vm hvm h2 (h3.trans hd), h1.trans hst⟩
  | false =>
    have hupd : ∃ e, (VMRepository.update v u context).alone o db = (.error e, db) :=
      updateVM_alone_error ⟨_, rfl⟩ (.inl hs)
    obtain ⟨e, he⟩ := hupd
    rw [he]
    exact ⟨vm, hvm, hst⟩

lemma recordTemplate_alone (hv : db.hasStatus c.payload.vmID .running) :
    ∃ db', (recordTemplate c).alone o db = (.ok (), db') ∧ db'.hosts = db.hosts ∧
      db'.hasStatus c.payload.vmID .running := by
  unfold recordTemplate
  by_cases ht : c.payload.templateID ≠ ""
  · rw [if_pos ht, alone_logged]
    refine ⟨_, rfl, ?_, update_hasStatus (fun _ _ => ⟨rfl, rfl, rfl⟩)
      (fun vm => Bool.and_true _) hv⟩
    exact part_alone (t := .hosts) (all_affecting.mpr (all_query.mpr fun h => by cases h))
  · rw [if_neg ht]
    exact ⟨db, rfl, rfl, hv⟩

lemma complete_alone (taskID : String) (db : Db) : ∃ db', (completeVMCreate taskID).alone o db =
    (.ok (), db') ∧ db'.hosts = db.hosts ∧ db'.vms = db.vms := by
  unfold completeVMCreate
  rw [alone_bind_ok (progress_alone _ _ _), alone_logged]
  have hall : ∀ t : TableName, t ≠ .tasks → (TaskRepository.setCompleted taskID).All
      fun q : Stmt => q.table ≠ some t := by
    intro t ht
    refine all_affecting.mpr (all_query.mpr fun h => ht ?_)
    exact (Option.some.inj h).symm
  exact ⟨_, rfl, part_alone (t := .hosts) (hall _ (by decide)),
    part_alone (t := .vms) (hall _ (by decide))⟩

/-- the record of a VM that runs: only an error of the MAC address is not logged away -/
lemma vmStarted_atomic (hv : db.hasStatus c.payload.vmID .running)
    (hd : (db.hosts.domains (c.payload.nodeID, c.payload.vmID)).isSome = true) :
    Atomic ((vmStarted taskID c (.ok ())).alone o db) c.payload.vmID c.payload.nodeID ↔
      (c.macAddress ≠ "" →
        served o (.updateVM c.payload.vmID (.macAddress c.macAddress)) = true) := by
  obtain ⟨db1, hrec, hhosts, hst⟩ := recordTemplate_alone (o := o) hv
  have hcomplete : ∀ db2 : Db, db2.hosts = db.hosts → db2.hasStatus c.payload.vmID .running →
      Atomic ((completeVMCreate taskID).alone o db2) c.payload.vmID c.payload.nodeID := by
    intro db2 hh hst2
    obtain ⟨db3, hrun, hh3, hv3⟩ := complete_alone (o := o) taskID db2
    rw [hrun]
    refine ⟨?_, ?_⟩
    · unfold Db.hasStatus Db.vm
      rw [hv3]
      exact hst2
    · show (db3.hosts.domains _).isSome = true
      rw [hh3, hh]
      exact hd
  unfold vmStarted
  rw [alone_bind_ok hrec]
  by_cases hm : c.macAddress ≠ ""
  · rw [if_pos hm]
    cases hs : served o (.updateVM c.payload.vmID (.macAddress c.macAddress)) with
    | true =>
      refine iff_of_true ?_ fun _ => rfl
      obtain ⟨vm, hvm, hrun⟩ := hst
      obtain ⟨x, hx⟩ := served_iff.mp hs
      have hd1 := (vm_eq_some.mp hvm).2
      have hu : (VMUpdate.macAddress c.macAddress).applies vm = true := by
        unfold VMUpdate.applies
        rw [hd1]
        rfl
      have hupd : (VMRepository.updateMACAddress c.payload.vmID c.macAddress).alone o db1 =
          (.ok (), db1.setVM { vm with macAddress := c.macAddress }) := update_alone_ok hvm hu hx
      rw [alone_attempt_of hupd]
      exact hcomplete _ hhosts ⟨_, setVM_vm hvm rfl hd1, hrun⟩
    | false =>
      refine iff_of_false ?_ fun h => by cases h hm
      have hupd : ∃ e, (VMRepository.updateMACAddress c.payload.vmID c.macAddress).alone o db1 =
          (.error e, db1) := updateVM_alone_error ⟨_, rfl⟩ (.inl hs)
      obtain ⟨e, he⟩ := hupd
      rw [alone_attempt_of he]
      unfold macAddressRecorded
      rw [rollback_deletes]
      -- the VM is running, so its status cannot become `error` any more
      have hst' : ((db1.setHosts (deletedHosts o db1 c)).released o c.payload.vmID).hasStatus
          c.payload.vmID .running := by
        unfold Db.hasStatus
        rw [released_vm]
        exact hst
      rw [failedStatus_running hst']
      rintro ⟨herr, -⟩
      exact absurd (hasStatus_unique hst' herr) (by decide)
  · rw [if_neg hm]
    exact iff_of_true (hcomplete _ hhosts hst) fun h => absurd h hm

lemma provision_started (hn : db.nodes.find c.payload.nodeID = some c.node)
    (hv : db.hasStatus c.payload.vmID .provisioning) (hm : Materialized o db c) (hs : Started o c) :
    Atomic ((provisionVM taskID c).alone o db) c.payload.vmID c.payload.nodeID ↔
      Recoverable o db c := by
  obtain ⟨vm, hvm, hst⟩ := hv
  obtain ⟨x, hx⟩ := served_iff.mp hs
  have hvm' : (materializedDb o db c).vm c.payload.vmID = some vm := hvm
  have htrans := transition_alone_ok (by decide) hvm' hst hx
  have hrunning : ((materializedDb o db c).setVM { vm with status := .running }).hasStatus
      c.payload.vmID .running := ⟨_, setVM_vm hvm' rfl (vm_eq_some.mp hvm').2, rfl⟩
  rw [provision_alone, alone_attempt_of (createVM_alone_ok hm)]
  unfold vmMaterialized
  rw [alone_attempt_of htrans, vmStarted_atomic hrunning (materialized_domain hm).1]
  constructor
  · exact fun h => ⟨(recoverable_domain_iff hn).mpr (absurd hm), absurd ⟨hm, hs⟩, fun _ _ => h⟩
  · exact fun h => h.mac hm hs

/-- **A run of vm.create is atomic if and only if everything it reads is there and what fails after
that is recoverable.** -/
theorem create_atomic_iff (p : Platform) (o : Oracle) (db : Db) (taskID : String) (doc : Json)
    (v node : String) (vm : VM)
    (hdoc : ∀ payload, VMCreatePayload.decode doc = .ok payload → payload.vmID = v ∧
      payload.nodeID = node)
    (hvm : db.vm v = some vm) (hst : vm.status = .provisioning) (hc : Compensates o v node) :
    Atomic ((handleVMCreate p taskID doc).alone o db) v node ↔
      ∃ c, Prepared p o db doc c ∧ Recoverable o db c := by
  by_cases hprep : ∃ c, Prepared p o db doc c
  · obtain ⟨c, hp⟩ := hprep
    obtain ⟨rfl, rfl⟩ := hdoc c.payload hp.decoded
    have hv : db.hasStatus c.payload.vmID .provisioning := ⟨vm, hvm, hst⟩
    have hiff : Atomic ((handleVMCreate p taskID doc).alone o db) c.payload.vmID c.payload.nodeID ↔
        Recoverable o db c := by
      rw [handleVMCreate_prepared hp]
      by_cases hm : Materialized o db c
      · by_cases hs : Started o c
        · exact provision_started hp.node.2 hv hm hs
        · exact provision_not_started hc hp.node.2 hv hm hs
      · exact provision_not_materialized hc hp.node.2 hv hm
    rw [hiff]
    constructor
    · exact fun h => ⟨c, hp, h⟩
    · rintro ⟨c', hp', h⟩
      rw [hp.unique hp']
      exact h
  · obtain ⟨e, he⟩ := handleVMCreate_unprepared taskID fun c hp => hprep ⟨c, hp⟩
    rw [he]
    refine iff_of_false ?_ fun ⟨c, hp, _⟩ => hprep ⟨c, hp⟩
    rintro ⟨herr, -⟩
    exact absurd (hasStatus_unique ⟨vm, hvm, hst⟩ herr) (by decide)

/-! ## a lookup that fails -/

def ascii : Platform where
  isUpper := Char.isUpper
  isLower := Char.isLower
  isDigit := Char.isDigit
  isSpecial := fun c => ¬ c.isAlphanum
  macSuffix := fun _ => "00:00:00"

/-- the payload of a vm.create of `v` on `n` -/
def createDoc : Json :=
  .obj [("vm_id", .str "v"), ("node_id", .str "n"), ("vcpu", .num 1), ("memory_mb", .num 1024),
    ("disk_gb", .num 10), ("template_id", .str "t")]

def createPayload : VMCreatePayload := ⟨"v", "n", "", 1, 1024, 10, "t", "", [], "", ""⟩

lemma decode_createDoc : VMCreatePayload.decode createDoc = .ok createPayload := by rfl

lemma calm_compensates (o : Oracle) (h : ∀ q, q.table ≠ none → o q = .ok calm)
    (hl : o (.listIPAddresses "v") = .ok calm) : Compensates o "v" "n" where
  list := served_iff.mpr ⟨calm, hl⟩
  release ipID := served_iff.mpr ⟨calm, h _ fun h => by cases h⟩
  subnets := served_iff.mpr ⟨calm, h _ fun h => by cases h⟩
  deleteVM := ⟨calm, h _ (fun h => by cases h), rfl, fun _ => rfl⟩
  status := served_iff.mpr ⟨calm, h _ fun h => by cases h⟩

theorem create_atomic_calm : Compensates (fun _ => .ok calm) "v" "n" ∧
      (Atomic ((handleVMCreate ascii "task" createDoc).alone (fun _ => .ok calm)
        (oneVM (vmIn "v" .provisioning storageBackendCeph))) "v" "n" ↔
      ∃ c, Prepared ascii (fun _ => .ok calm)
      (oneVM (vmIn "v" .provisioning storageBackendCeph)) createDoc c ∧
        Recoverable (fun _ => .ok calm) (oneVM (vmIn "v" .provisioning storageBackendCeph)) c) := by
  have hc : Compensates (fun _ => .ok calm) "v" "n" := calm_compensates _ (fun _ _ => rfl) rfl
  refine ⟨hc, create_atomic_iff ascii _ _ "task" createDoc "v" "n" _ (fun payload h => ?_)
    (oneVM_vm .provisioning storageBackendCeph) rfl hc⟩
  rw [decode_createDoc] at h
  cases h
  exact ⟨rfl, rfl⟩

def nodeLost : Oracle
  | .getNode _ => .fail "connection refused"
  | _ => .ok calm

/-- **The handler returns an error and the VM stays in status `provisioning`.** -/
theorem create_not_atomic :
    (oneVM (vmIn "v" .provisioning storageBackendCeph)).hasStatus "v" .provisioning ∧
      Compensates nodeLost "v" "n" ∧
      ¬ Atomic ((handleVMCreate ascii "task" createDoc).alone nodeLost
        (oneVM (vmIn "v" .provisioning storageBackendCeph))) "v" "n" := by
  have hst : (oneVM (vmIn "v" .provisioning storageBackendCeph)).hasStatus "v" .provisioning :=
    ⟨_, oneVM_vm .provisioning storageBackendCeph, rfl⟩
  have hwrites : ∀ q : Stmt, q.table ≠ none → nodeLost q = .ok calm := by
    intro q hq
    cases q <;> first | rfl | exact absurd rfl hq
  refine ⟨hst, calm_compensates nodeLost hwrites rfl, ?_⟩
  have hno : ∀ c, ¬ Prepared ascii nodeLost (oneVM (vmIn "v" .provisioning storageBackendCeph))
      createDoc c := fun c hp => by cases hp.node.1
  obtain ⟨e, he⟩ := handleVMCreate_unprepared "task" hno
  rw [he]
  rintro ⟨herr, -⟩
  exact absurd (hasStatus_unique hst herr) (by decide)

end VirtueStack.Compute
