import VirtueStack.Compute.CreateFailure

/-!
# A vm.create that is delivered again

The VM runs, its domain is on the node, and the message of its creation comes once more. The handler
does not look at the status: it allocates, asks the agent for the VM, and rolls back when the agent
refuses or when the status is not `provisioning` any more.
-/

namespace VirtueStack.Compute
open Txn
open Billing (VMStatus)

/-- the VM runs as before -/
structure Harmless (db db' : Db) (v node : String) : Prop where
  status : db'.hasStatus v .running
  domain : (db'.hosts.domains (node, v)).isSome = true
  ips : ∀ ip, (ip ∈ db'.ips.rows ∧ ip.assignedTo v) ↔ (ip ∈ db.ips.rows ∧ ip.assignedTo v)
  subnets : db'.subnetsOf v = db.subnetsOf v

variable {p : Platform} {o : Oracle} {db : Db} {doc : Json} {taskID v node : String}
  {c : CreateContext}

/-- the hosts after a second execution: a VM that is materialized again is deleted by the
rollback -/
def hostsAfter (o : Oracle) (db : Db) (c : CreateContext) : Hosts :=
  if Materialized o db c then deletedHosts o (materializedDb o db c) c
  else agentHosts o db c.payload.nodeID (.createVM c.createReq)

lemma transition_running_again (hv : db.hasStatus v .running) :
    ∃ e, (VMRepository.transitionStatus v VMStatus.provisioning.text .running).alone o db =
      (.error e, db) := by
  obtain ⟨vm, hvm, hst⟩ := hv
  refine transition_alone_error fun st hok => .inr fun vm' hvm' hst' => ?_
  obtain rfl : vm = vm' := Option.mem_unique hvm hvm'
  have htext := (validateVMTransition_ok.mp hok).1
  rw [← hst', hst] at htext
  exact absurd htext (by decide)

/-- **What a second execution leaves**: the addresses are released, whatever the agent says. -/
theorem provision_again (hv : db.hasStatus c.payload.vmID .running) :
    ((provisionVM taskID c).alone o db).2 =
      ((allocated o db c).setHosts (hostsAfter o db c)).released o c.payload.vmID := by
  have hstatus : ∀ h : Hosts, (((allocated o db c).setHosts h).released o c.payload.vmID).hasStatus
      c.payload.vmID .running := by
    intro h
    unfold Db.hasStatus
    rw [released_vm]
    exact hv
  rw [provision_alone]
  by_cases hm : Materialized o db c
  · have hv' : (materializedDb o db c).hasStatus c.payload.vmID .running := hv
    obtain ⟨e, he⟩ := transition_running_again (o := o) hv'
    rw [Call.alone_attempt_of (createVM_alone_ok hm)]
    unfold vmMaterialized
    rw [Call.alone_attempt_of he]
    unfold vmStarted
    rw [rollback_deletes]
    have hh : hostsAfter o db c = deletedHosts o (materializedDb o db c) c := if_pos hm
    rw [hh]
    exact failedStatus_running (hstatus _)
  · obtain ⟨e, he⟩ := createVM_alone_error hm
    rw [Call.alone_attempt_of he]
    unfold vmMaterialized
    rw [rollback_releases]
    have hh : hostsAfter o db c = agentHosts o db c.payload.nodeID (.createVM c.createReq) :=
      if_neg hm
    rw [hh]
    exact failedStatus_running (hstatus _)

/-- **The rollback has no effect.** -/
structure Untouched (o : Oracle) (db : Db) (c : CreateContext) : Prop where
  /-- the agent leaves the domain, and if it starts it, its answer is lost or it does not get it off
  the host -/
  domain : ∀ x, o (.agent c.payload.nodeID (.createVM c.createReq)) = .ok x →
    ¬ db.hosts.vanishes x.broken c.payload.nodeID c.createReq ∧
    (db.hosts.starts x.broken c.payload.nodeID c.createReq → x.lost = true ∨
      ∀ y, o (.agent c.payload.nodeID (.deleteVM c.payload.vmID)) = .ok y →
        y.broken .destroy = true ∨ y.broken .undefine = true)
  /-- no address is released -/
  ips : served o (.listIPAddresses c.payload.vmID) = true →
    ∀ ip ∈ db.listIPAddresses c.payload.vmID, ip.assignedTo c.payload.vmID →
      served o (.releaseIPv4 ip.id) = false
  /-- no subnet is deleted, and none is added -/
  subnets : if served o (.listIPAddresses c.payload.vmID) = true ∧
      served o (.deleteIPv6Subnets c.payload.vmID) = true then db.subnetsOf c.payload.vmID = []
    else newSubnet o db c.payload.vmID c.payload.nodeID = none

section
variable {d : Domain} (hn : db.nodes.find c.payload.nodeID = some c.node)
  (hvm : db.vm c.payload.vmID = some c.vm)
include hn hvm

/-- the rollback asks the agent to delete a domain that runs -/
lemma deletedHosts_running (hid : c.payload.vmID ≠ "") (hs : d.state = .running)
    (hd : db.hosts.domains (c.payload.nodeID, c.payload.vmID) = some d) :
    ((deletedHosts o db c).domains (c.payload.nodeID, c.payload.vmID)).isSome = true ↔
      ∀ y, o (.agent c.payload.nodeID (.deleteVM c.payload.vmID)) = .ok y →
        y.broken .destroy = true ∨ y.broken .undefine = true := by
  have hreq : c.vm.deleteVMRequest.vmID = c.payload.vmID := Db.vm_id hvm
  unfold deletedHosts agentHosts
  cases o (.agent c.payload.nodeID (.deleteVM c.payload.vmID)) with
  | fail e =>
    refine iff_of_true ?_ nofun
    show (db.hosts.domains _).isSome = true
    rw [hd]
    rfl
  | ok y =>
    have hrpc : db.rpc y c.payload.nodeID (.deleteVM c.payload.vmID) =
        db.hosts.deleteVM y.broken c.payload.nodeID c.vm.deleteVMRequest :=
      (withNode_of_find hn).trans (withVM_of_find (Db.vm_eq_some.mp hvm).1)
    simp only [hrpc]
    rw [← hreq] at hd hid ⊢
    rw [Hosts.deleteVM_running hd hs hid]
    exact ⟨fun h y hy => Event.ok.inj hy ▸ h, fun h => h y rfl⟩

/-- **What becomes of the domain.** -/
lemma hostsAfter_domain (hd : db.hosts.domains (c.payload.nodeID, c.payload.vmID) = some d) :
    ((hostsAfter o db c).domains (c.payload.nodeID, c.payload.vmID)).isSome = true ↔
      ∀ x, o (.agent c.payload.nodeID (.createVM c.createReq)) = .ok x →
        ¬ db.hosts.vanishes x.broken c.payload.nodeID c.createReq ∧
        (db.hosts.starts x.broken c.payload.nodeID c.createReq → x.lost = true ∨
          ∀ y, o (.agent c.payload.nodeID (.deleteVM c.payload.vmID)) = .ok y →
            y.broken .destroy = true ∨ y.broken .undefine = true) := by
  unfold hostsAfter
  cases hx : o (.agent c.payload.nodeID (.createVM c.createReq)) with
  | fail e =>
    have hm : ¬ Materialized o db c := by
      unfold Materialized agentAnswer
      rw [hx]
      exact nofun
    rw [if_neg hm]
    unfold agentHosts
    rw [hx]
    exact iff_of_true (congrArg Option.isSome hd) nofun
  | ok x =>
    obtain ⟨hm, hhosts⟩ := agent_createVM hn hx
    have hc := db.hosts.createVM_creates x.broken c.payload.nodeID c.createReq
    have hone : ∀ {P : Inp → Prop}, (∀ x', Event.ok (S := store) x = .ok x' → P x') ↔ P x :=
      ⟨fun h => h x rfl, fun h x' hx' => Event.ok.inj hx' ▸ h⟩
    rw [hone, ← hc.gone]
    by_cases hm' : Materialized o db c
    · -- the rollback deletes the domain again
      obtain ⟨hl, hstarts⟩ := hm.mp hm'
      obtain ⟨d', hd', hrun⟩ := hc.running hstarts
      have hleft : (materializedDb o db c).hosts.domains (c.payload.nodeID, c.payload.vmID) =
          some d' := by
        rw [← hd', ← hhosts]
        rfl
      have hid := (Hosts.createVM_domain (hc.ok.mpr hstarts)).2
      have hn' : (materializedDb o db c).nodes.find c.payload.nodeID = some c.node := hn
      have hvm' : (materializedDb o db c).vm c.payload.vmID = some c.vm := hvm
      rw [if_pos hm', deletedHosts_running hn' hvm' hid hrun hleft]
      refine ⟨fun h => ⟨fun hgone => ?_, fun _ => .inr h⟩, fun h =>
        (h.2 hstarts).resolve_left fun hl' => ?_⟩
      · cases hd'.symm.trans hgone
      · cases hl.symm.trans hl'
    · rw [if_neg hm', hhosts, Option.isSome_iff_ne_none]
      refine ⟨fun h => ⟨h, fun hstarts => .inl ?_⟩, And.left⟩
      exact Bool.eq_true_of_not_eq_false fun hl => hm' (hm.mpr ⟨hl, hstarts⟩)

end

lemma ips_kept_iff {db' : Db} (h : db'.ips = db.ips) :
    (∀ ip, (ip ∈ (db'.released o v).ips.rows ∧ ip.assignedTo v) ↔
        (ip ∈ db.ips.rows ∧ ip.assignedTo v)) ↔
      (served o (.listIPAddresses v) = true → ∀ ip ∈ db.listIPAddresses v, ip.assignedTo v →
        served o (.releaseIPv4 ip.id) = false) := by
  have hlist : db'.listIPAddresses v = db.listIPAddresses v := by
    unfold Db.listIPAddresses
    rw [h]
  constructor
  · intro hkept hs ip hip hass
    have hback := (hkept ip).mpr ⟨(mem_listIPAddresses hip).1, hass⟩
    obtain ⟨-, hno⟩ := assigned_released.mp hback
    rw [hlist] at hno
    exact Bool.eq_false_of_not_eq_true fun hr => hno ⟨hs, hip, hr⟩
  · intro hfail ip
    rw [assigned_released, h, hlist]
    refine and_iff_left_of_imp fun hrow => ?_
    rintro ⟨hs, hip, hr⟩
    rw [hfail hs ip hip hrow.2] at hr
    cases hr

lemma subnets_kept_iff {h : Hosts} :
    ((((allocated o db c).setHosts h).released o c.payload.vmID).subnetsOf c.payload.vmID =
        db.subnetsOf c.payload.vmID) ↔ if served o (.listIPAddresses c.payload.vmID) = true ∧
        served o (.deleteIPv6Subnets c.payload.vmID) = true then db.subnetsOf c.payload.vmID = []
      else newSubnet o db c.payload.vmID c.payload.nodeID = none := by
  have hadd : ((allocated o db c).setHosts h).subnetsOf c.payload.vmID =
    db.subnetsOf c.payload.vmID ++
      (newSubnet o db c.payload.vmID c.payload.nodeID).toList := subnetsOf_addSubnet
  rw [subnetsOf_released, hadd]
  by_cases hs : served o (.listIPAddresses c.payload.vmID) = true ∧
    served o (.deleteIPv6Subnets c.payload.vmID) = true
  · rw [if_pos hs, if_pos hs]
    exact eq_comm
  · rw [if_neg hs, if_neg hs, List.append_right_eq_self, Option.toList_eq_nil_iff]

lemma provision_harmless_iff {d : Domain} (hv : db.hasStatus c.payload.vmID .running)
    (hn : db.nodes.find c.payload.nodeID = some c.node) (hvm : db.vm c.payload.vmID = some c.vm)
    (hd : db.hosts.domains (c.payload.nodeID, c.payload.vmID) = some d) :
    Harmless db ((provisionVM taskID c).alone o db).2 c.payload.vmID c.payload.nodeID ↔
      Untouched o db c := by
  rw [provision_again hv]
  have hhosts :
    (((allocated o db c).setHosts (hostsAfter o db c)).released o c.payload.vmID).hosts =
      hostsAfter o db c := released_hosts
  have hips : ((allocated o db c).setHosts (hostsAfter o db c)).ips = db.ips := rfl
  constructor
  · intro h
    refine ⟨(hostsAfter_domain hn hvm hd).mp ?_, (ips_kept_iff hips).mp h.ips,
      subnets_kept_iff.mp h.subnets⟩
    rw [← hhosts]
    exact h.domain
  · intro h
    refine ⟨?_, ?_, (ips_kept_iff hips).mpr h.ips, subnets_kept_iff.mpr h.subnets⟩
    · unfold Db.hasStatus
      rw [released_vm]
      exact hv
    · rw [hhosts]
      exact (hostsAfter_domain hn hvm hd).mpr h.domain

/-- **A redelivery of vm.create is harmless if and only if it ends before the addresses, or its
rollback has no effect.** -/
theorem create_again_iff (p : Platform) (o : Oracle) (db : Db) (taskID : String) (doc : Json)
    (v node : String) (d : Domain)
    (hdoc : ∀ payload, VMCreatePayload.decode doc = .ok payload → payload.vmID = v ∧
      payload.nodeID = node)
    (hst : db.hasStatus v .running) (hd : db.hosts.domains (node, v) = some d) :
    Harmless db ((handleVMCreate p taskID doc).alone o db).2 v node ↔
      ∀ c, Prepared p o db doc c → Untouched o db c := by
  by_cases hprep : ∃ c, Prepared p o db doc c
  · obtain ⟨c, hp⟩ := hprep
    obtain ⟨rfl, rfl⟩ := hdoc c.payload hp.decoded
    rw [handleVMCreate_prepared hp, provision_harmless_iff hst hp.node.2 hp.vm.2 hd]
    constructor
    · intro h c' hp'
      rw [← hp.unique hp']
      exact h
    · exact fun h => h c hp
  · obtain ⟨e, he⟩ := handleVMCreate_unprepared taskID fun c hp => hprep ⟨c, hp⟩
    rw [he]
    refine iff_of_true ⟨hst, ?_, fun _ => Iff.rfl, rfl⟩ fun c hp => absurd ⟨c, hp⟩ hprep
    show (db.hosts.domains (node, v)).isSome = true
    rw [hd]
    rfl

/-! ## a redelivery to a VM that runs -/

/-- the VM `v` runs on the node `n`, with its disk in the pool and a subnet -/
def provisionedVM : Db :=
  { oneVM (vmIn "v" .running storageBackendCeph) with
    subnets := [⟨"s", "v", "prefix", 0⟩]
    hosts := { emptyHosts with
      domains := fun k => if k = ("n", "v") then some ⟨.running, .shared⟩ else none
      disks := fun k => if k = (.shared, "v") then some .current else none } }

def foundAgain : CreateContext where
  payload := createPayload
  node := ⟨"n", "h", none, .online, 8, 8192, 0, 0, "", "", ""⟩
  template := ⟨"t", "image", "snapshot", 10, true, storageBackendCeph⟩
  vm := vmIn "v" .running storageBackendCeph
  macAddress := "52:54:00:00:00:01"
  templateFilePath := ""

/-- the addresses cannot be listed -/
def listLost : Oracle
  | .listIPAddresses _ => .fail "connection refused"
  | _ => .ok calm

/-- The agent refuses a second disk, and the rollback does not find the addresses. -/
theorem create_again_unlisted : provisionedVM.hasStatus "v" .running ∧
      provisionedVM.subnetsOf "v" ≠ [] ∧
        Prepared ascii listLost provisionedVM createDoc foundAgain ∧
      Harmless provisionedVM
        ((handleVMCreate ascii "task" createDoc).alone listLost provisionedVM).2 "v" "n" := by
  have hst : provisionedVM.hasStatus "v" .running := ⟨_, oneVM_vm .running storageBackendCeph, rfl⟩
  have hp : Prepared ascii listLost provisionedVM createDoc foundAgain :=
    ⟨decode_createDoc, rfl, ⟨rfl, rfl⟩, ⟨rfl, rfl⟩, ⟨rfl, rfl⟩, rfl, rfl⟩
  have hdoc : ∀ payload, VMCreatePayload.decode createDoc = .ok payload →
      payload.vmID = "v" ∧ payload.nodeID = "n" := by
    intro payload h
    rw [decode_createDoc] at h
    cases h
    exact ⟨rfl, rfl⟩
  refine ⟨hst,
    by decide, hp, (create_again_iff ascii listLost provisionedVM "task" createDoc "v" "n"
    ⟨.running, .shared⟩ hdoc hst (by rfl)).mpr fun c hc => ?_⟩
  rw [← hp.unique hc]
  have hrefuses : ∀ x, listLost (.agent "n" (.createVM foundAgain.createReq)) = .ok x →
      provisionedVM.hosts.refuses x.broken "n" foundAgain.createReq := by
    rintro _ ⟨⟩
    exact .inr (.inr (.inl ⟨_, rfl⟩))
  refine ⟨fun x hx => ⟨?_, fun h => absurd (hrefuses x hx) h.1⟩, nofun, rfl⟩
  rintro (⟨-, hnone⟩ | ⟨hr, -⟩)
  · cases hnone
  · exact hr (hrefuses x hx)

/-- **The VM runs, and the redelivered execution takes its subnet away.** -/
theorem create_again_releases : provisionedVM.hasStatus "v" .running ∧
      provisionedVM.hosts.domains ("n", "v") = some ⟨.running, .shared⟩ ∧
      ¬ Harmless provisionedVM ((handleVMCreate ascii "task" createDoc).alone (fun _ => .ok calm)
        provisionedVM).2 "v" "n" := by
  have hst : provisionedVM.hasStatus "v" .running := ⟨_, oneVM_vm .running storageBackendCeph, rfl⟩
  refine ⟨hst, by rfl, fun h => ?_⟩
  have hp : Prepared ascii (fun _ => .ok calm) provisionedVM createDoc foundAgain :=
    ⟨decode_createDoc, rfl, ⟨rfl, rfl⟩, ⟨rfl, rfl⟩, ⟨rfl, rfl⟩, rfl, rfl⟩
  have hsub := h.subnets
  rw [handleVMCreate_prepared hp, provision_again (c := foundAgain) hst] at hsub
  have hkept := subnets_kept_iff.mp hsub
  rw [if_pos ⟨rfl, rfl⟩] at hkept
  cases hkept

end VirtueStack.Compute
