import VirtueStack.Compute.MigrateRun

/-!
# Copies of a disk in use

The handler decides by the status of the row whether the VM has to be stopped or the disk to be
snapshotted before the copy. The service has set that status to migrating before it published the
task.

* `SafeCopy` of a run of the handler: no copy of a disk in use without a snapshot, and no start
  on the target while the VM runs on the source.
-/

namespace VirtueStack.Compute
open Txn Call Op List
open Billing (VMStatus)

variable {o : Oracle} {db db' : Db} {v s t taskID : String} {p : VMMigratePayload}
  {mc : MigrationContext}

/-! ## safe runs -/

def Copies (s v : String) (q : Stmt) : Prop :=
  ∃ opts, q = .agent s (.transferDisk opts) ∧ opts.vmID = v

def Snapshots (o : Oracle) (s v : String) (c : Stmt × Db) : Prop :=
  ∃ name, c.1 = .agent s (.createSnapshot v name) ∧
    agentAnswer o c.2 s (.createSnapshot v name) = .ok ()

/-- a start of the VM; `PrepareMigratedVM` starts the domain it defines -/
def Starts (t v : String) (q : Stmt) : Prop :=
  q = .agent t (.startVM v) ∨ ∃ path backend, q = .agent t (.prepareMigratedVM v path backend)

structure SafeCopy (o : Oracle) (s t v : String) (calls : List (Stmt × Db)) : Prop where
  copies : ∀ before c after, calls = before ++ c :: after → Copies s v c.1 →
    ¬ c.2.hosts.runs s v ∨ ∃ g ∈ before, Snapshots o s v g
  starts : ∀ c ∈ calls, Starts t v c.1 → ¬ c.2.hosts.runs s v

/-- a call before which the VM has stopped, or that is no copy and no start -/
def Careful (s t v : String) (c : Stmt × Db) : Prop :=
  (Copies s v c.1 → ¬ c.2.hosts.runs s v) ∧ (Starts t v c.1 → ¬ c.2.hosts.runs s v)

lemma safeCopy_of_careful {calls : List (Stmt × Db)} (h : ∀ c ∈ calls, Careful s t v c) :
    SafeCopy o s t v calls := by
  constructor
  · rintro before c after rfl hc
    exact .inl ((h c (mem_append_right _ mem_cons_self)).1 hc)
  · intro c hc
    exact (h c hc).2

variable {g : Stmt × Db} {α : Type} {q : Stmt}

lemma not_copies_of_snapshots (hg : Snapshots o s v g) : ¬ Copies s v g.1 := by
  rintro ⟨opts, hopts, -⟩
  obtain ⟨name, hname, -⟩ := hg
  rw [hname] at hopts
  cases hopts

lemma not_starts_of_snapshots (hg : Snapshots o s v g) : ¬ Starts t v g.1 := by
  obtain ⟨name, hname, -⟩ := hg
  rintro (hs | ⟨path, backend, hs⟩)
  · rw [hname] at hs
    cases hs
  · rw [hname] at hs
    cases hs

lemma safeCopy_of_snapshot {after : List (Stmt × Db)} (hg : Snapshots o s v g)
    (ha : ∀ c ∈ after, Starts t v c.1 → ¬ c.2.hosts.runs s v) : SafeCopy o s t v (g :: after) := by
  constructor
  · intro before c rest hsplit hc
    cases before with
    | nil =>
      obtain ⟨rfl, -⟩ := List.cons.inj hsplit
      exact absurd hc (not_copies_of_snapshots hg)
    | cons b before =>
      obtain ⟨rfl, -⟩ := List.cons.inj hsplit
      exact .inr ⟨g, mem_cons_self, hg⟩
  · intro c hc hs
    rcases mem_cons.mp hc with rfl | hc
    · exact absurd hs (not_starts_of_snapshots hg)
    · exact ha c hc hs

section
variable {A B : List (Stmt × Db)}

lemma SafeCopy.append_left (hA : ∀ c ∈ A, Careful s t v c) (hB : SafeCopy o s t v B) :
    SafeCopy o s t v (A ++ B) := by
  constructor
  · intro before c after hsplit hc
    rcases append_eq_append_iff.mp hsplit with ⟨mid, rfl, hmid⟩ | ⟨mid, hmid, hrest⟩
    · rcases hB.copies mid c after hmid hc with hidle | ⟨g, hg, hs⟩
      · exact .inl hidle
      · exact .inr ⟨g, mem_append_right _ hg, hs⟩
    · cases mid with
      | nil =>
        rcases hB.copies [] c after hrest.symm hc with hidle | ⟨g, hg, -⟩
        · exact .inl hidle
        · cases hg
      | cons m mid =>
        obtain ⟨rfl, -⟩ := List.cons.inj hrest
        exact .inl ((hA c (hmid ▸ mem_append_right _ mem_cons_self)).1 hc)
  · intro c hc
    rcases mem_append.mp hc with hc | hc
    · exact (hA c hc).2
    · exact hB.starts c hc

lemma SafeCopy.append_right (hA : SafeCopy o s t v A) (hB : ∀ c ∈ B, Careful s t v c) :
    SafeCopy o s t v (A ++ B) := by
  constructor
  · intro before c after hsplit hc
    rcases append_eq_append_iff.mp hsplit with ⟨mid, -, hmid⟩ | ⟨mid, hmid, hrest⟩
    · exact .inl ((hB c (hmid ▸ mem_append_right _ mem_cons_self)).1 hc)
    · cases mid with
      | nil =>
        obtain rfl : c :: after = B := hrest
        exact .inl ((hB c mem_cons_self).1 hc)
      | cons m mid =>
        obtain ⟨rfl, -⟩ := List.cons.inj hrest
        exact hA.copies before c mid hmid hc
  · intro c hc
    rcases mem_append.mp hc with hc | hc
    · exact hA.starts c hc
    · exact (hB c hc).2

end

def Bland (s t v : String) (q : Stmt) : Prop := ¬ Copies s v q ∧ ¬ Starts t v q

lemma Bland.careful {c : Stmt × Db} (h : Bland s t v c.1) : Careful s t v c :=
  ⟨fun hc => absurd hc h.1, fun hs => absurd hs h.2⟩

lemma careful_of_bland {c : Op α} (h : c.All (Bland s t v)) : ∀ x ∈ c.calls o db, Careful s t v x :=
  fun _ hx => Bland.careful (h.mem_calls hx)

lemma bland_of_table (h : q.table ≠ some .hosts) : Bland s t v q := by
  constructor
  · rintro ⟨opts, rfl, -⟩
    exact h rfl
  · rintro (rfl | ⟨path, backend, rfl⟩)
    · exact h rfl
    · exact h rfl

/-! ## statements that start nothing -/

lemma quiet_of_works (hne : p.targetNodeID ≠ p.sourceNodeID) (h : p.Works q) :
    Quiet p.sourceNodeID v q := by
  cases h with
  | read h => exact quiet_of_table fun hq => by rw [h] at hq; cases hq
  | onSource hs _ => exact quiet_of_startsNothing hs
  | migrated =>
    refine quiet_agent fun w hw => ?_
    rcases hw with rfl | ⟨domain, rfl⟩
    · exact idle_of_stopped stopped_none
    · exact idle_of_ne hne
  | prepared diskPath storageBackend | started =>
    refine quiet_agent fun w hw => ?_
    obtain ⟨domain, rfl⟩ := hw
    exact idle_of_ne hne
  | configured => exact quiet_of_startsNothing rfl

lemma quiet_of_sends (hne : p.targetNodeID ≠ p.sourceNodeID) (h : p.Sends q) :
    Quiet p.sourceNodeID v q := by
  cases h with
  | works h => exact quiet_of_works hne h
  | completed taskID | marked hpre hf | failed | assigned | restored =>
      exact quiet_of_table fun h => by cases h
  | deleted => exact quiet_of_startsNothing rfl

/-- **A VM that does not run on its source stays so**, and nothing is wrong with what the calls
do. -/
theorem careful_of_idle {c : Op α} (hne : p.targetNodeID ≠ p.sourceNodeID)
    (hc : c.All p.Sends) (hidle : ¬ db.hosts.runs p.sourceNodeID v) :
    ∀ x ∈ c.calls o db, Careful p.sourceNodeID t v x := by
  have hinv := (hc.invariant (o := o) (I := fun db : Db => ¬ db.hosts.runs p.sourceNodeID v)
    (fun q hq db e hI hr => hI (quiet_of_sends hne hq db e hr)) hidle).1
  exact fun x hx => ⟨fun _ => (hinv x hx).1, fun _ => (hinv x hx).1⟩

/-! ## the steps of a migration -/

lemma stopVMGracefully_stops (h : mc.stopVMGracefully.alone o db = (.ok (), db')) :
    ¬ db'.hosts.runs mc.payload.sourceNodeID mc.payload.vmID := by
  unfold MigrationContext.stopVMGracefully at h
  rw [wrapping_eq_ok, alone_attempt] at h
  cases hstop : (mc.onSource (.stopVM mc.payload.vmID)).alone o db with
  | mk r db1 =>
    rw [hstop] at h
    cases r with
    | ok u =>
      cases h
      obtain ⟨ha, rfl⟩ := agent_eq_ok.mp hstop
      obtain ⟨x, -, hok, hhosts⟩ := agentAnswer_ok ha
      have hrpc : db.rpc x mc.payload.sourceNodeID (.stopVM mc.payload.vmID) = _ := withNode_ok hok
      rw [hrpc] at hok hhosts
      show ¬ Hosts.runs (agentHosts _ _ _ _) _ _
      rw [hhosts]
      exact Hosts.stopVM_stops hok
    | error e =>
      obtain ⟨ha, rfl⟩ := agent_eq_ok.mp (wrapping_eq_ok.mp h)
      obtain ⟨x, -, hok, hhosts⟩ := agentAnswer_ok ha
      have hrpc : db1.rpc x mc.payload.sourceNodeID (.forceStopVM mc.payload.vmID) = _ :=
        withNode_ok hok
      rw [hrpc] at hok hhosts
      show ¬ Hosts.runs (agentHosts _ _ _ _) _ _
      rw [hhosts]
      exact Hosts.forceStopVM_stops hok

attribute [local simp] Bland Copies Starts

@[simp] lemma progress_bland (percent : Int) (message : String) :
    (mc.progress percent message).All (Bland s t v) := by
  simp [MigrationContext.progress, progress]

lemma agent_bland {node : String} {call : AgentCall} (hc : ∀ opts, call ≠ .transferDisk opts)
    (hs : call ≠ .startVM v) (hp : ∀ path backend, call ≠ .prepareMigratedVM v path backend) :
    Bland s t v (.agent node call) := by
  constructor
  · rintro ⟨opts, h, -⟩
    exact hc opts (Stmt.agent.inj h).2
  · rintro (h | ⟨path, backend, h⟩)
    · exact hs (Stmt.agent.inj h).2
    · exact hp path backend (Stmt.agent.inj h).2

@[simp] lemma stopVMGracefully_bland : mc.stopVMGracefully.All (Bland s t v) := by
  simp [MigrationContext.stopVMGracefully, MigrationContext.onSource]

lemma ended_bland (r : Except GoError Unit) : (LiveCopy.ended mc r).All (Bland s t v) := by
  simp [LiveCopy.ended, MigrationContext.onSource]

section
variable (hne : mc.payload.targetNodeID ≠ mc.payload.sourceNodeID)
include hne

lemma coldCopy_careful (k : ColdCopy) (hrun : mc.vm.status = .running) :
    ∀ x ∈ (k.execute mc).calls o db, Careful mc.payload.sourceNodeID t mc.payload.vmID x := by
  have hstop : k.ensureStopped mc =
    (do mc.progress k.stopPercent k.stopMessage; mc.stopVMGracefully) :=
    if_pos hrun
  have hbland : (k.ensureStopped mc).All (Bland mc.payload.sourceNodeID t mc.payload.vmID) := by
    rw [hstop]
    exact (progress_bland _ _).bind fun _ => stopVMGracefully_bland
  have hall : (k.execute mc).All mc.payload.Sends := (k.execute_works mc).mono fun _ hq => .works hq
  unfold ColdCopy.execute at hall ⊢
  refine forall_calls_bind (careful_of_bland hbland) fun u db1 hr => ?_
  have hidle : ¬ db1.hosts.runs mc.payload.sourceNodeID mc.payload.vmID := by
    rw [hstop, alone_bind_ok (mc.progress_alone _ _)] at hr
    exact stopVMGracefully_stops hr
  exact careful_of_idle hne (hall.of_bind hr) hidle

lemma switchover_starts (k : LiveCopy) : ∀ x ∈ (k.switchover mc).calls o db,
    Starts mc.payload.targetNodeID mc.payload.vmID x.1 →
      ¬ x.2.hosts.runs mc.payload.sourceNodeID mc.payload.vmID := by
  have hprogress : ∀ n msg db, ∀ x ∈ (mc.progress n msg).calls o db,
      Starts mc.payload.targetNodeID mc.payload.vmID x.1 →
      ¬ x.2.hosts.runs mc.payload.sourceNodeID mc.payload.vmID :=
    fun n msg db x hx => (careful_of_bland (progress_bland n msg) x hx).2
  have hall : (k.switchover mc).All mc.payload.Sends :=
    (k.switchover_works mc).mono fun _ hq => .works hq
  unfold LiveCopy.switchover at hall ⊢
  refine forall_calls_bind (hprogress _ _ db) fun _ db1 h1 => ?_
  have hall1 := hall.of_bind h1
  refine forall_calls_bind (fun x hx hs => ?_) fun _ db2 h2 => ?_
  · -- the copy is no start
    unfold MigrationContext.transferDisk MigrationContext.onSource at hx
    rw [calls_wrapping, calls_agent, mem_singleton] at hx
    rw [hx] at hs
    rcases hs with hs | ⟨path, backend, hs⟩
    · cases (Stmt.agent.inj hs).2
    · cases (Stmt.agent.inj hs).2
  have hall2 := hall1.of_bind h2
  refine forall_calls_bind (hprogress _ _ db2) fun _ db3 h3 => ?_
  have hall3 := hall2.of_bind h3
  refine forall_calls_bind (fun x hx => (careful_of_bland stopVMGracefully_bland x hx).2)
    fun _ db4 h4 => ?_
  exact fun x hx => (careful_of_idle hne (hall3.of_bind h4) (stopVMGracefully_stops h4) x hx).2

lemma liveCopy_safe (k : LiveCopy) :
    SafeCopy o mc.payload.sourceNodeID mc.payload.targetNodeID mc.payload.vmID
      ((k.execute mc).calls o db) := by
  unfold LiveCopy.execute
  rw [calls_bind_ok (mc.progress_alone _ _)]
  refine SafeCopy.append_left (careful_of_bland (progress_bland _ _)) ?_
  have hg : (wrapping k.snapshotFailure
      (mc.onSource (.createSnapshot mc.payload.vmID mc.snapshotName))).calls o db =
      [(.agent mc.payload.sourceNodeID (.createSnapshot mc.payload.vmID mc.snapshotName), db)] := by
    rw [calls_wrapping]
    exact calls_agent _ _ _ _
  cases hr : (wrapping k.snapshotFailure
      (mc.onSource (.createSnapshot mc.payload.vmID mc.snapshotName))).alone o db with
  | mk r db1 =>
    cases r with
    | error e =>
      rw [calls_bind_error hr, hg]
      refine safeCopy_of_careful fun c hc => Bland.careful ?_
      rw [mem_singleton.mp hc]
      exact agent_bland (fun _ h => by cases h) (fun h => by cases h) fun _ _ h => by cases h
    | ok u =>
      rw [calls_bind_ok hr, hg, singleton_append]
      obtain ⟨ha, -⟩ := agent_eq_ok.mp (wrapping_eq_ok.mp hr)
      refine safeCopy_of_snapshot ⟨_, rfl, ha⟩ fun c hc => ?_
      rw [calls_attempt] at hc
      rcases mem_append.mp hc with hc | hc
      · exact switchover_starts hne k c hc
      · exact (careful_of_bland (ended_bland _) c hc).2

/-- **A VM whose row says running is copied safely.** -/
theorem diskCopy_safe (hrun : mc.vm.status = .running) :
    SafeCopy o mc.payload.sourceNodeID mc.payload.targetNodeID mc.payload.vmID
      ((executeDiskCopyMigration mc).calls o db) := by
  unfold executeDiskCopyMigration
  rw [calls_bind_ok (mc.progress_alone _ _)]
  refine SafeCopy.append_left (careful_of_bland (progress_bland _ _)) ?_
  unfold diskCopy
  split
  · split
    · exact liveCopy_safe hne _
    · exact safeCopy_of_careful (coldCopy_careful hne _ hrun)
  · split
    · exact liveCopy_safe hne _
    · exact safeCopy_of_careful (coldCopy_careful hne _ hrun)

end

/-! ## the handler -/

@[simp] lemma transition_bland {w src : String} {dst : VMStatus} :
    (VMRepository.transitionStatus w src dst).All (Bland s t v) :=
  all_transition fun st _ => bland_of_table fun h => by cases h

@[simp] lemma finalize_bland : (finalizeMigration mc).All (Bland s t v) := by
  simp [finalizeMigration, statusRestored, completeMigration, cleanupSourceDiskAfterCommit,
    MigrationContext.onSource]

lemma strategyEnded_bland (r : Except GoError Unit) : (strategyEnded mc r).All (Bland s t v) := by
  cases r with
  | ok u => exact finalize_bland
  | error e => simp [strategyEnded, handleMigrationFailure]

@[simp] lemma begin_bland : (beginMigration mc).All (Bland s t v) := by
  simp [beginMigration, markMigrationComplete, markMigrating, progress]

lemma SafeCopy.bind {β : Type} {c : Op α} {f : α → Op β} (hc : c.All (Bland s t v))
    (hf : ∀ a db', c.alone o db = (.ok a, db') → SafeCopy o s t v ((f a).calls o db')) :
    SafeCopy o s t v ((c >>= f).calls o db) := by
  cases hr : c.alone o db with
  | mk r db' =>
    cases r with
    | error e =>
      rw [calls_bind_error hr]
      exact safeCopy_of_careful (careful_of_bland hc)
    | ok a =>
      rw [calls_bind_ok hr]
      exact SafeCopy.append_left (careful_of_bland hc) (hf a db' hr)

lemma prepare_bland {doc : Json} (hdec : VMMigratePayload.decode doc = .ok p) :
    (prepareMigrationContext taskID doc).All (Bland s t v) := by
  rw [prepare_of_decoded hdec]
  refine All.bind ?_ fun mc => begin_bland
  exact (validate_reads p).mono fun q hq => bland_of_table fun h => by rw [hq] at h; cases h

/-- the handler finds the VM migrating while it runs on the source -/
def Exposed (o : Oracle) (db : Db) (s t v : String) : Prop :=
  db.hosts.runs s v ∧ ∃ vm sourceNode targetNode,
    (served o (.getVM v) = true ∧ db.vm v = some vm) ∧ vm.nodeID = some s ∧ vm.status = .migrating ∧
    (served o (.getNode s) = true ∧ db.nodes.find s = some sourceNode) ∧
    (served o (.getNode t) = true ∧ db.nodes.find t = some targetNode) ∧ targetNode.status = .online

lemma strategyOf_diskCopy (h : mc.payload.migrationStrategy = migrationStrategyDiskCopy) :
    strategyOf mc = executeDiskCopyMigration mc := by
  unfold strategyOf
  rw [h, if_neg (by decide), if_pos rfl]

/-- the run comes to this statement, and has only read before -/
def ComesTo (o : Oracle) (db : Db) {α : Type} (c : Op α) (x : Stmt × Db) : Prop :=
  ∃ before after, c.calls o db = before ++ x :: after ∧ ∀ g ∈ before, g.1.table = none

section
variable {α β : Type} {c : Op α} {x : Stmt × Db}

lemma ComesTo.attempt {f : Except GoError α → Op β} (h : ComesTo o db c x) :
    ComesTo o db (Call.attempt c f) x := by
  obtain ⟨before, after, hcalls, hreads⟩ := h
  refine ⟨before, after ++ (f (c.alone o db).1).calls o (c.alone o db).2, ?_, hreads⟩
  rw [calls_attempt, hcalls, append_assoc, cons_append]

lemma ComesTo.bind {f : α → Op β} (h : ComesTo o db c x) : ComesTo o db (c >>= f) x :=
  ComesTo.attempt h

lemma comesTo_after {f : α → Op β} {a : α} (hc : c.alone o db = (.ok a, db'))
    (hreads : ∀ g ∈ c.calls o db, g.1.table = none) (h : ComesTo o db' (f a) x) :
    ComesTo o db (c >>= f) x := by
  obtain ⟨before, after, hcalls, hbefore⟩ := h
  refine ⟨c.calls o db ++ before, after, ?_, fun g hg => ?_⟩
  · rw [calls_bind_ok hc, hcalls, append_assoc]
  · rcases mem_append.mp hg with hg | hg
    · exact hreads g hg
    · exact hbefore g hg

lemma comesTo_progress {f : Unit → Op β} {percent : Int} {message : String}
    (h : ComesTo o db (f ()) x) : ComesTo o db (mc.progress percent message >>= f) x := by
  refine comesTo_after (mc.progress_alone _ _) (fun g hg => ?_) h
  have hreads : (mc.progress percent message).All Stmt.Reads :=
    all_logged.mpr (all_affecting.mpr (all_read rfl))
  exact hreads.mem_calls hg

end

lemma coldCopy_comesTo (k : ColdCopy) (hs : mc.vm.status ≠ .running) :
    ∃ opts, opts.vmID = mc.payload.vmID ∧
      ComesTo o db (k.execute mc) (.agent mc.payload.sourceNodeID (.transferDisk opts), db) := by
  refine ⟨mc.transferOpts k.sourceStorageBackend "", rfl, ?_⟩
  have hstop : k.ensureStopped mc = .pure () := if_neg hs
  unfold ColdCopy.execute
  rw [hstop]
  refine comesTo_after rfl (fun g hg => by cases hg) (comesTo_progress (ComesTo.bind ?_))
  refine ⟨[], [], ?_, fun g hg => by cases hg⟩
  unfold MigrationContext.transferDisk
  rw [calls_wrapping]
  exact calls_agent _ _ _ _

lemma diskCopy_comesTo (hs : mc.vm.status ≠ .running) : ∃ opts, opts.vmID = mc.payload.vmID ∧
    ComesTo o db (diskCopy mc) (.agent mc.payload.sourceNodeID (.transferDisk opts), db) := by
  have hlive : ¬ (mc.payload.live = true ∧ mc.vm.status = .running) := fun h => hs h.2
  unfold diskCopy
  rw [if_neg hlive, if_neg hlive]
  split
  · exact coldCopy_comesTo _ hs
  · exact coldCopy_comesTo _ hs

section
variable {doc : Json} (hdec : VMMigratePayload.decode doc = .ok p)
  (hne : p.targetNodeID ≠ p.sourceNodeID)
  (hstrategy : p.migrationStrategy = migrationStrategyDiskCopy)
include hdec hne hstrategy

lemma safe_of_not_exposed (hpre : p.preMigrationState = VMStatus.running.text)
    (h : ¬ Exposed o db p.sourceNodeID p.targetNodeID p.vmID) :
    SafeCopy o p.sourceNodeID p.targetNodeID p.vmID ((handleVMMigrate taskID doc).calls o db) := by
  by_cases hruns : db.hosts.runs p.sourceNodeID p.vmID
  · refine SafeCopy.bind (prepare_bland hdec) fun r db1 hr => ?_
    cases r with
    | none => exact safeCopy_of_careful fun c hc => by cases hc
    | some mc =>
      rw [prepare_of_decoded hdec] at hr
      obtain ⟨mc', db2, hv, hb⟩ := alone_bind_eq_ok.mp hr
      obtain ⟨⟨-, hp, he⟩, rfl⟩ := validate_eq_ok.mp hv
      obtain ⟨rfl, -, hstatus⟩ := begin_eq_some hb
      subst hp
      have hrun : mc.vm.status = .running := by
        rcases hstatus with ⟨hm, -⟩ | ⟨hm, htr⟩
        · exact absurd ⟨hruns, mc.vm, mc.sourceNode, mc.targetNode, he.vm, he.source, hm,
            he.sourceNode, he.targetNode, he.online⟩ h
        · obtain ⟨vm, hvm, htext, -, -⟩ := transition_eq_ok htr
          rw [Option.mem_unique he.vm.2 hvm]
          refine text_inj (htext.trans ?_)
          unfold VMMigratePayload.fromStatus
          rw [hpre]
          rfl
      show SafeCopy _ _ _ _
        ((Call.attempt (executeMigrationStrategy mc) (strategyEnded mc)).calls o db1)
      rw [calls_attempt]
      refine SafeCopy.append_right ?_ (careful_of_bland (strategyEnded_bland _))
      refine SafeCopy.bind (progress_bland _ _) fun _ db3 _ => ?_
      rw [strategyOf_diskCopy hstrategy]
      exact diskCopy_safe hne hrun
  · exact safeCopy_of_careful (careful_of_idle hne (handle_sends hdec) hruns)

lemma not_safe_of_exposed (h : Exposed o db p.sourceNodeID p.targetNodeID p.vmID) :
    ¬ SafeCopy o p.sourceNodeID p.targetNodeID p.vmID
      ((handleVMMigrate taskID doc).calls o db) := by
  obtain ⟨hruns, vm, sourceNode, targetNode, hvm, hn, hs, hsource, htarget, honline⟩ := h
  let mc : MigrationContext := ⟨taskID, p, vm, sourceNode, targetNode⟩
  have he : Entities o db mc := ⟨hvm, hn, hsource, htarget, honline⟩
  have hvalidate : (validateMigrationEntities taskID p).alone o db = (.ok mc, db) :=
    validate_eq_ok.mpr ⟨⟨rfl, rfl, he⟩, rfl⟩
  have hbegin : beginMigration mc = (do .pure (); return some mc) := by
    have hnode : ¬ mc.vm.nodeID = some mc.payload.targetNodeID := by
      intro heq
      exact hne (Option.mem_unique heq hn)
    have hmark : markMigrating mc.payload mc.vm = .pure () := if_pos hs
    unfold beginMigration
    rw [if_neg hnode, hmark]
  obtain ⟨opts, hopts, before, after, hcalls, hreads⟩ : ∃ opts, opts.vmID = p.vmID ∧
      ComesTo o db (handleVMMigrate taskID doc)
      (.agent p.sourceNodeID (.transferDisk opts), db) := by
    have hcopy : ∃ opts, opts.vmID = p.vmID ∧
        ComesTo o db (diskCopy mc) (.agent p.sourceNodeID (.transferDisk opts), db) :=
      diskCopy_comesTo fun hrun =>
        by rw [show mc.vm.status = .migrating from hs] at hrun; cases hrun
    obtain ⟨opts, hopts, hreach⟩ := hcopy
    refine ⟨opts, hopts, ?_⟩
    unfold handleVMMigrate
    rw [prepare_of_decoded hdec]
    have hprepare : (validateMigrationEntities taskID p >>= beginMigration).alone o db =
        (.ok (some mc), db) := by
      rw [alone_bind_ok hvalidate, hbegin]
      rfl
    refine comesTo_after hprepare (fun g hg => ?_) (ComesTo.attempt (comesTo_progress ?_))
    · rw [calls_bind_ok hvalidate, hbegin] at hg
      have hg' : g ∈ (validateMigrationEntities taskID p).calls o db ++ [] := hg
      rw [append_nil] at hg'
      exact (validate_reads p).mem_calls hg'
    · rw [strategyOf_diskCopy hstrategy]
      exact comesTo_progress hreach
  intro hsafe
  rcases hsafe.copies before _ after hcalls ⟨opts, rfl, hopts⟩ with hidle | ⟨g, hg, name, hname, -⟩
  · exact hidle hruns
  · have hread := hreads g hg
    rw [hname] at hread
    cases hread

end

/-! ## the request and its task -/

section
variable {req : MigrateVMRequest} {adminID : String} {result : MigrateVMResult}
  {vm : VM} {task : Task}

/-- **A running VM whose migration was accepted is migrated safely exactly if, when the handler
runs, it does not run on the source, or the handler does not find it there in status migrating** (or
does not find one of the nodes). This is for any state the handler finds, and for any failures of
its calls. -/
theorem copies_safely_iff
    (haccepted : (MigrationService.migrateVM req adminID).alone o db = (.ok result, db'))
    (hvm : db.vm req.vmID = some vm) (hrunning : vm.status = .running)
    (hstrategy : determineMigrationStrategy (getNodeStorageBackend vm) = migrationStrategyDiskCopy)
    (htask : db'.tasks.find result.taskID = some task) (o₂ : Oracle) (db₂ : Db) :
    SafeCopy o₂ result.sourceNodeID result.targetNodeID req.vmID
      ((handleVMMigrate task.id task.payload).calls o₂ db₂) ↔
      ¬ Exposed o₂ db₂ result.sourceNodeID result.targetNodeID req.vmID := by
  obtain ⟨vm', sourceNode, targetNode, hvm', -, -, ht, hne, hfree, rfl⟩ :=
    MigrationService.migrateVM_accepted haccepted
  obtain rfl : vm = vm' := Option.mem_unique hvm hvm'
  have hid : vm.id = req.vmID := Db.vm_id hvm
  obtain rfl := Option.some.inj (htask.symm.trans (Db.addTask_find hfree))
  have hdec := decode_buildMigrationPayload vm result.sourceNodeID sourceNode targetNode
    (getNodeStorageBackend vm) (determineMigrationStrategy (getNodeStorageBackend vm))
    (getVMDiskPath vm sourceNode) (getVMDiskPathForTarget vm targetNode) req.live adminID vm.status
  rw [← ht, ← hid]
  rw [← ht] at hne
  constructor
  · intro hsafe hexposed
    exact not_safe_of_exposed hdec hne hstrategy hexposed hsafe
  · intro h
    exact safe_of_not_exposed hdec hne hstrategy (congrArg VMStatus.text hrunning) h

end

/-- the VM `vm` runs on the node `n` from a disk at `place`, and there is a node `t` -/
def twoNodes (vm : VM) (place : Place) : Db :=
  { oneVM vm with
    nodes := (oneVM vm).nodes.insert ⟨"t", "i", none, .online, 8, 8192, 0, 0, "", "", ""⟩
    hosts := { emptyHosts with
      domains := fun k => if k = ("n", vm.id) then some ⟨.running, place⟩ else none
      disks := fun k => if k = (place, vm.id) then some .current else none } }

def qcowVM : VM := vmIn "v" .running storageBackendQcow

/-- `MigrateVM` of `v` to `t`, and the state it leaves -/
def requested : Except GoError MigrateVMResult × Db :=
  (MigrationService.migrateVM ⟨"v", some "t", true⟩ "admin").alone (fun _ => .ok calm)
    (twoNodes qcowVM (.node "n"))

theorem copies_safely_calm : ∃ task, requested.1 = .ok ⟨"f", "n", "t"⟩ ∧
    requested.2.tasks.find "f" = some task ∧ (SafeCopy (fun _ => .ok calm) "n" "t" "v"
      ((handleVMMigrate task.id task.payload).calls (fun _ => .ok calm) requested.2) ↔
      ¬ Exposed (fun _ => .ok calm) requested.2 "n" "t" "v") := by
  have haccepted : (MigrationService.migrateVM ⟨"v", some "t", true⟩ "admin").alone
    (fun _ => .ok calm) (twoNodes qcowVM (.node "n")) = (.ok ⟨"f", "n", "t"⟩, requested.2) := rfl
  refine ⟨_, rfl, rfl, ?_⟩
  exact copies_safely_iff haccepted (oneVM_vm .running storageBackendQcow) rfl rfl rfl _ _

/-- **The disk of a running VM is copied without a snapshot**, if every call succeeds. -/
theorem copies_live_disk : ∃ task, requested.1 = .ok ⟨"f", "n", "t"⟩ ∧
    requested.2.tasks.find "f" = some task ∧ ¬ SafeCopy (fun _ => .ok calm) "n" "t" "v"
      ((handleVMMigrate task.id task.payload).calls (fun _ => .ok calm) requested.2) := by
  refine ⟨_, rfl, rfl, ?_⟩
  have hdec :=
    decode_buildMigrationPayload qcowVM "n" ⟨"n", "h", none, .online, 8, 8192, 0, 0, "", "", ""⟩
    ⟨"t", "i", none, .online, 8, 8192, 0, 0, "", "", ""⟩ "qcow" "disk_copy"
    "/var/lib/virtuestack/vms/v-disk0.qcow2" "/var/lib/virtuestack/vms/v-disk0.qcow2" true
    "admin" .running
  refine not_safe_of_exposed hdec (by decide) rfl ?_
  exact ⟨⟨_, rfl, rfl⟩, _, _, _, ⟨rfl, rfl⟩, rfl, rfl, ⟨rfl, rfl⟩, ⟨rfl, rfl⟩, rfl⟩

end VirtueStack.Compute
