import VirtueStack.Compute.Effects

/-!
# What a call of an agent can write
-/

namespace VirtueStack.Compute
open Txn List Function Hosts
open Billing (VMStatus)

variable {o : Oracle} {db db' : Db} {v s t : String}

/-! ## the writes of each call -/

/-- a domain that does not run, or none -/
def Stopped (domain : Option Domain) : Prop := ∀ d, domain = some d → d.isRunning = false

def AgentCall.mayWrite (node : String) (call : AgentCall) (w : HostWrite) : Prop :=
  match call with
  | .createVM req =>
    (∃ domain, w = .domain node req.vmID domain) ∨ ∃ place disk, w = .disk place req.vmID disk
  | .reinstallVM req =>
    (∃ domain, w = .domain node req.vmID domain) ∨ ∃ place disk, w = .disk place req.vmID disk
  | .deleteVM vmID =>
    (∃ domain, w = .domain node vmID domain ∧ Stopped domain) ∨ ∃ place, w = .disk place vmID none
  | .deleteDisk vmID => ∃ place, w = .disk place vmID none
  | .startVM vmID => ∃ domain, w = .domain node vmID domain
  | .stopVM vmID => ∃ domain, w = .domain node vmID domain ∧ Stopped domain
  | .forceStopVM vmID => ∃ domain, w = .domain node vmID domain ∧ Stopped domain
  | .undefineVM vmID => ∃ domain, w = .domain node vmID domain ∧ Stopped domain
  | .resizeVM _ _ _ _ => False
  | .createSnapshot vmID _ => ∃ names, w = .snapshots node vmID names
  | .deleteSnapshot vmID _ => ∃ names, w = .snapshots node vmID names
  | .transferDisk opts => w = .sent opts.vmID opts.sourceNodeID opts.targetNodeID
  | .prepareMigratedVM vmID _ _ => ∃ domain, w = .domain node vmID domain
  | .postMigrateSetup _ => False
  | .migrateVM vmID target => w = .domain node vmID none ∨ ∃ domain, w = .domain target vmID domain
  | .abortMigration _ => False

variable {w : HostWrite} {call : AgentCall} {node : String}

lemma withNode_writes {nodeID : String} {r : HostResult} (h : w ∈ (db.withNode nodeID r).2) :
    w ∈ r.2 := by
  unfold Db.withNode at h
  split at h
  · exact h
  · cases h

lemma withVM_writes {vmID : String} {f : VM → HostResult}
    (h : w ∈ (db.withVM vmID f).2) : ∃ vm, db.vms.find vmID = some vm ∧ w ∈ (f vm).2 := by
  unfold Db.withVM at h
  split at h
  · rename_i vm hvm
    exact ⟨vm, hvm, h⟩
  · cases h

section
variable {h : Hosts} {broken : HostOp → Bool} {node vm : String} {w : HostWrite}

lemma stopped_none : Stopped none := by
  intro d hd
  cases hd

lemma Domain.stopped_stopped (d : Domain) : Stopped d.stopped := by
  intro d' hd
  unfold Domain.stopped at hd
  split at hd
  · cases hd
  · cases hd
    rfl

lemma Hosts.undefineVM_writes (hw : w ∈ (h.undefineVM broken node vm).2) :
    ∃ domain, w = .domain node vm domain ∧ Stopped domain := by
  unfold Hosts.undefineVM at hw
  repeat' split at hw
  all_goals first
    | cases hw; done
    | exact ⟨none, mem_singleton.mp hw, stopped_none⟩
    | exact ⟨_, mem_singleton.mp hw, Domain.stopped_stopped _⟩

variable {req : DeleteVMRequest}

lemma Hosts.removeDisk_writes (hw : w ∈ (h.removeDisk broken node req).2) :
    w = .disk (diskPlace (h.backendOf node req.storageBackend) node) req.vmID none := by
  unfold Hosts.removeDisk at hw
  simp only at hw
  repeat' split at hw
  all_goals first
    | cases hw; done
    | exact mem_singleton.mp hw

lemma Hosts.deleteDisk_writes (hw : w ∈ (h.deleteDisk broken node req).2) :
    w = .disk (diskPlace (h.backendOf node req.storageBackend) node) req.vmID none := by
  unfold Hosts.deleteDisk at hw
  split at hw
  · cases hw
  · exact removeDisk_writes hw

lemma Hosts.deleteVM_writes (hw : w ∈ (h.deleteVM broken node req).2) :
    (∃ domain, w = .domain node req.vmID domain ∧ Stopped domain) ∨
      ∃ place, w = .disk place req.vmID none := by
  unfold Hosts.deleteVM at hw
  have hundefine : ∀ w ∈ (h.undefineVM broken node req.vmID).2,
      ∃ domain, w = .domain node req.vmID domain ∧ Stopped domain :=
      fun w hw => undefineVM_writes hw
  split at hw
  · rename_i hu
    rw [hu] at hundefine
    exact .inl (hundefine w hw)
  · rename_i hu
    rw [hu] at hundefine
    rcases mem_append.mp hw with hw | hw
    · exact .inl (hundefine w hw)
    · exact .inr ⟨_, removeDisk_writes hw⟩

end

/-- **A call writes nothing else.** -/
theorem rpc_writes {x : Inp} (hw : w ∈ (db.rpc x node call).2) : call.mayWrite node w := by
  have hw := withNode_writes hw
  cases call with
  | createVM req | reinstallVM req =>
    simp only [Hosts.createVM, Hosts.reinstallVM] at hw
    repeat' split at hw
    all_goals first
      | cases hw; done
      | exact .inl ⟨_, mem_singleton.mp hw⟩
      | rcases mem_cons.mp hw with rfl | hw
        · exact .inl ⟨_, rfl⟩
        · exact .inr ⟨_, _, mem_singleton.mp hw⟩
  | deleteVM vmID =>
    obtain ⟨vm, hvm, hdel⟩ := withVM_writes hw
    obtain rfl : vmID = vm.id := (Table.key_of_find hvm).symm
    exact deleteVM_writes hdel
  | deleteDisk vmID =>
    obtain ⟨vm, hvm, hdel⟩ := withVM_writes hw
    obtain rfl : vmID = vm.id := (Table.key_of_find hvm).symm
    exact ⟨_, deleteDisk_writes hdel⟩
  | startVM vmID | createSnapshot vmID name | deleteSnapshot vmID name
  | prepareMigratedVM vmID diskPath storageBackend =>
    simp only [Hosts.startVM, Hosts.createSnapshot, Hosts.deleteSnapshot,
      Hosts.prepareMigratedVM] at hw
    repeat' split at hw
    all_goals first
      | cases hw; done
      | exact ⟨_, mem_singleton.mp hw⟩
  | stopVM vmID | forceStopVM vmID =>
    simp only [Hosts.stopVM, Hosts.forceStopVM] at hw
    repeat' split at hw
    all_goals first
      | cases hw; done
      | exact ⟨_, mem_singleton.mp hw, Domain.stopped_stopped _⟩
  | undefineVM vmID => exact undefineVM_writes hw
  | transferDisk opts =>
    have hw := withNode_writes hw
    simp only [Hosts.transferDisk] at hw
    repeat' split at hw
    all_goals first
      | cases hw; done
      | exact mem_singleton.mp hw
  | migrateVM vmID target =>
    have hw := withNode_writes hw
    simp only [Hosts.migrateVM] at hw
    repeat' split at hw
    all_goals first
      | cases hw; done
      | rcases mem_cons.mp hw with rfl | hw
        · exact .inl rfl
        · exact .inr ⟨_, mem_singleton.mp hw⟩
  | resizeVM vmID vcpu memoryMB diskGB | postMigrateSetup vmID | abortMigration vmID =>
    simp only [Hosts.unaffected] at hw
    repeat' split at hw
    all_goals cases hw

/-! ## running domains -/

/-- the write leaves no running domain of the VM on the node -/
def HostWrite.idle (node vm : String) (w : HostWrite) : Prop :=
  ∀ d, w = .domain node vm (some d) → d.isRunning = false

lemma Hosts.runs_apply {h : Hosts} (hw : w.idle s v) (hr : (h.apply w).runs s v) : h.runs s v := by
  obtain ⟨d, hd, hrun⟩ := hr
  cases w with
  | domain node vm domain =>
    have hd' : update h.domains (node, vm) domain (s, v) = some d := hd
    by_cases hk : (s, v) = (node, vm)
    · cases hk
      rw [update_self] at hd'
      rw [hw d (by rw [hd'])] at hrun
      cases hrun
    · rw [update_of_ne hk] at hd'
      exact ⟨d, hd', hrun⟩
  | disk place vm disk | snapshots node vm names | sent vm source target => exact ⟨d, hd, hrun⟩

lemma Hosts.runs_after {h : Hosts} {ws : List HostWrite} (hw : ∀ w ∈ ws, w.idle s v)
    (hr : (h.after ws).runs s v) : h.runs s v := by
  induction ws generalizing h with
  | nil => exact hr
  | cons w ws ih =>
    exact runs_apply (hw w mem_cons_self) (ih (fun w' hw' => hw w' (mem_cons_of_mem w hw')) hr)

variable {domain : Option Domain}

lemma idle_of_stopped {vm : String} (h : Stopped domain) :
    (HostWrite.domain node vm domain).idle s v :=
  fun d hd => h d (HostWrite.domain.inj hd).2.2

lemma idle_of_ne {vm : String} (h : node ≠ s) : (HostWrite.domain node vm domain).idle s v :=
  fun _ hd => absurd (HostWrite.domain.inj hd).1 h

def AgentCall.writesNoDisk : AgentCall → Bool
  | .createVM _ => false
  | .reinstallVM _ => false
  | .deleteVM _ => false
  | .deleteDisk _ => false
  | _ => true

def AgentCall.startsNothing : AgentCall → Bool
  | .createVM _ => false
  | .reinstallVM _ => false
  | .startVM _ => false
  | .prepareMigratedVM _ _ _ => false
  | .migrateVM _ _ => false
  | _ => true

lemma mayWrite_idle (h : call.startsNothing = true) (hw : call.mayWrite node w) : w.idle s v := by
  cases call with
  | deleteVM vmID =>
    rcases hw with ⟨domain, rfl, hd⟩ | ⟨place, rfl⟩
    · exact idle_of_stopped hd
    · intro d hd
      cases hd
  | deleteDisk vmID =>
    obtain ⟨place, rfl⟩ := hw
    intro d hd
    cases hd
  | stopVM vmID | forceStopVM vmID | undefineVM vmID =>
    obtain ⟨domain, rfl, hd⟩ := hw
    exact idle_of_stopped hd
  | createSnapshot vmID name | deleteSnapshot vmID name =>
    obtain ⟨names, rfl⟩ := hw
    intro d hd
    cases hd
  | transferDisk opts =>
    obtain rfl := hw
    intro d hd
    cases hd
  | resizeVM vmID vcpu memoryMB diskGB | postMigrateSetup vmID
  | abortMigration vmID => exact hw.elim
  | _ => cases h

/-! ## calls that stop a VM -/

section
variable {h : Hosts} {broken : HostOp → Bool} {node vm : String}

lemma Hosts.not_runs_of_domain (hd : ∀ d, h.domains (node, vm) = some d → d.isRunning = false) :
    ¬ h.runs node vm := by
  rintro ⟨d, hd', hr⟩
  rw [hd d hd'] at hr
  cases hr

lemma Hosts.not_runs_stopped (d : Domain) :
    ¬ (h.after [.domain node vm d.stopped]).runs node vm := by
  refine not_runs_of_domain fun d' hd' => d.stopped_stopped d' ?_
  have hd : update h.domains (node, vm) d.stopped (node, vm) = some d' := hd'
  rwa [update_self] at hd

lemma Hosts.stopVM_stops (hok : (h.stopVM broken node vm).1 = .ok ()) :
    ¬ (h.after (h.stopVM broken node vm).2).runs node vm := by
  unfold Hosts.stopVM at hok ⊢
  by_cases hv : vm = ""
  · rw [if_pos hv] at hok
    cases hok
  · simp only [if_neg hv] at hok ⊢
    cases hd : h.domains (node, vm) with
    | none =>
      simp only [hd] at hok
      cases hok
    | some d =>
      simp only [hd] at hok ⊢
      cases hs : d.state with
      | shutoff =>
        refine not_runs_of_domain fun d' hd' => ?_
        obtain rfl : d = d' := Option.mem_unique hd hd'
        unfold Domain.isRunning
        rw [hs]
        rfl
      | running =>
        simp only [hs] at hok ⊢
        by_cases hb : broken .shutdown = true
        · simp only [if_pos hb] at hok
          cases hok
        · simp only [if_neg hb]
          exact not_runs_stopped d
      | transient =>
        simp only [hs] at hok
        by_cases hb : broken .shutdown = true
        · simp only [if_pos hb] at hok
          cases hok
        · simp only [if_neg hb] at hok
          cases hok

lemma Hosts.forceStopVM_stops (hok : (h.forceStopVM broken node vm).1 = .ok ()) :
    ¬ (h.after (h.forceStopVM broken node vm).2).runs node vm := by
  unfold Hosts.forceStopVM at hok ⊢
  by_cases hv : vm = ""
  · rw [if_pos hv] at hok
    cases hok
  · simp only [if_neg hv] at hok ⊢
    cases hd : h.domains (node, vm) with
    | none =>
      simp only [hd] at hok
      cases hok
    | some d =>
      simp only [hd] at hok ⊢
      by_cases hr : d.isRunning = true
      · simp only [hr, not_true, if_false] at hok ⊢
        by_cases hb : broken .destroy = true
        · simp only [if_pos hb] at hok
          cases hok
        · simp only [if_neg hb]
          exact not_runs_stopped d
      · simp only [hr]
        refine not_runs_of_domain fun d' hd' => ?_
        obtain rfl : d = d' := Option.mem_unique hd hd'
        simpa using hr

end

/-! ## calls of a migration -/

section
variable {h : Hosts} {broken : HostOp → Bool} {node vm b : String}

lemma Hosts.backendOf_of_ne (hb : b ≠ "") : h.backendOf node b = b := if_pos hb

variable {opts : DiskTransferOptions}

lemma Hosts.transferDisk_sends (hok : (h.transferDisk broken opts).1 = .ok ()) :
    (h.transferDisk broken opts).2 = [.sent opts.vmID opts.sourceNodeID opts.targetNodeID] := by
  unfold Hosts.transferDisk at hok ⊢
  simp only at hok ⊢
  repeat' split at hok
  all_goals first
    | cases hok; done
    | simp only [*, if_false]

lemma Slot.create_disk {place : Place} {s : Slot} (hok : (s.create broken place).1 = .ok ()) :
    s.disk ≠ none := by
  intro hd
  unfold Slot.create at hok
  split at hok
  · cases hok
  · simp only [hd, true_or, or_true, if_true] at hok
    cases hok

variable {x : Inp}

lemma rpc_transferDisk (hok : (db.rpc x node (.transferDisk opts)).1 = .ok ()) :
    (db.rpc x node (.transferDisk opts)).2 =
      [.sent opts.vmID opts.sourceNodeID opts.targetNodeID] := by
  have h1 : db.rpc x node (.transferDisk opts) =
      db.withNode opts.targetNodeID (db.hosts.transferDisk x.broken opts) := withNode_ok hok
  rw [h1] at hok ⊢
  have h2 := withNode_ok hok
  rw [h2] at hok ⊢
  exact transferDisk_sends hok

lemma rpc_prepareMigratedVM {diskPath : String}
    (hok : (db.rpc x node (.prepareMigratedVM vm diskPath b)).1 = .ok ()) :
    db.hosts.disks (diskPlace (db.hosts.backendOf node b) node, vm) ≠ none := by
  have h1 : db.rpc x node (.prepareMigratedVM vm diskPath b) =
      db.hosts.prepareMigratedVM x.broken node vm b diskPath := withNode_ok hok
  rw [h1] at hok
  unfold Hosts.prepareMigratedVM at hok
  simp only at hok
  repeat' split at hok
  all_goals first
    | cases hok
    | exact Slot.create_disk hok

lemma rpc_deleteDisk {row : VM} {w : HostWrite} (hvm : db.vms.find vm = some row)
    (hw : w ∈ (db.rpc x node (.deleteDisk vm)).2) :
    w = .disk (diskPlace (db.hosts.backendOf node row.storageBackend) node) vm none := by
  obtain ⟨row', hrow', hdel⟩ := withVM_writes (withNode_writes hw)
  obtain rfl : row = row' := Option.mem_unique hvm hrow'
  rw [deleteDisk_writes hdel]
  exact congrArg (HostWrite.disk _ · none) (Table.key_of_find hvm)

end

/-! ## statements that start nothing -/

/-- the VM runs on the node afterwards only if it did before -/
def Quiet (s v : String) (q : Stmt) : Prop :=
  ∀ (db : Db) (e : Event store),
    Hosts.runs (Db.hosts (store.view db (store.answer q db e).2)) s v → db.hosts.runs s v

lemma quiet_of_table {q : Stmt} (h : q.table ≠ some .hosts) : Quiet s v q := by
  intro db e hr
  have hp : Db.hosts (store.view db (store.answer q db e).2) = db.hosts := Db.part_answer h db e
  rw [hp] at hr
  exact hr

lemma quiet_agent (h : ∀ w, call.mayWrite node w → w.idle s v) : Quiet s v (.agent node call) := by
  intro db e hr
  cases e with
  | fail e => exact hr
  | ok x =>
    have hr' : Hosts.runs (Db.hosts (store.view db ((db.rpc x node call).2.map .host))) s v := hr
    rw [view_host] at hr'
    exact runs_after (fun w hw => h w (rpc_writes hw)) hr'

lemma quiet_of_startsNothing (h : call.startsNothing = true) : Quiet s v (.agent node call) :=
  quiet_agent fun _ hw => mayWrite_idle h hw

end VirtueStack.Compute
