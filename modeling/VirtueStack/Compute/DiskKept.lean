import VirtueStack.Compute.MigrateRetry
import VirtueStack.Txn.Solo

/-!
# The disk of a VM during a migration

One task, delivered any number of times, each execution cut at any statement.

* `Delivered` the states of such a history, each with the log of its last execution;
* `DiskAtNode` a complete copy of the disk is where the row says the VM is;
* `DeletesAfter` a disk is deleted after the data was sent and the node was recorded, and never for
  a disk on shared storage;
* `NoLeftover` the condition: the target does not hold another disk of the VM when the VM is
  prepared there. `TransferDisk` writes nothing on the target, so what the VM then runs from is
  what was there before.
-/

namespace VirtueStack.Compute
open Txn Call Op Mem List Option Db
open Billing (VMStatus)

/-! ## histories -/

inductive Delivered (allow : Unit → Req store → Loc store → Mem store Unit → Prop) (taskID : String)
    (doc : Json) (db : Db) : Mem store Unit → Prop
  | start : Delivered allow taskID doc db ⟨db, []⟩
  | deliver {m : Mem store Unit} {s : State store Unit (Except GoError Unit)} :
      Delivered allow taskID doc db m →
      Reaches allow (State.init m.db fun _ => handleVMMigrate taskID doc) s →
      Delivered allow taskID doc db s.mem

def DiskAtNode (db : Db) (v : String) : Prop :=
  ∃ vm node, db.vm v = some vm ∧ vm.nodeID = some node ∧
    db.hosts.disks (diskPlace (db.hosts.backendOf node vm.storageBackend) node, v) = some .current

section
variable (p : VMMigratePayload) (log : List (Unit × List Write))

def Sent : Prop :=
  ∃ e ∈ log, Write.host (.sent p.vmID p.sourceNodeID p.targetNodeID) ∈ e.2

def Committed : Prop :=
  ∃ e ∈ log, ∃ vm, Write.putVM vm ∈ e.2 ∧ vm.id = p.vmID ∧ vm.nodeID = some p.targetNodeID

def DeletesAfter : Prop :=
  ∀ before e after, log = before ++ e :: after →
    (∃ place disk, Write.host (.disk place p.vmID disk) ∈ e.2) →
    p.migrationStrategy ≠ migrationStrategyLiveSharedStorage ∧ Sent p before ∧ Committed p before

end

/-- the strategy is the one for the storage -/
def Fits (p : VMMigratePayload) (storageBackend : String) : Prop :=
  storageBackend ≠ "" ∧
    (p.migrationStrategy = migrationStrategyLiveSharedStorage ↔ storageBackend = storageBackendCeph)

/-- the statement prepares the VM over a disk that does not hold its data -/
def Stmt.overLeftover (v : String) (db : Db) : Stmt → Bool
  | .agent node (.prepareMigratedVM vm _ backend) =>
    vm = v && db.hosts.disks (diskPlace (db.hosts.backendOf node backend) node, v) = some .stale
  | _ => false

def NoLeftover (v : String) : Unit → Req store → Loc store → Mem store Unit → Prop
  | _, .run q, _, m => Stmt.overLeftover v m.db q = false
  | _, _, _, _ => True

/-! ## what the statements leave alone -/

variable {o : Oracle} {db : Db} {v b node taskID : String} {p : VMMigratePayload}
  {mc : MigrationContext}

/-- the row of the VM, as far as its disk goes -/
def OnNode (db : Db) (v b node : String) : Prop :=
  ∃ vm, db.vm v = some vm ∧ vm.nodeID = some node ∧ vm.storageBackend = b

/-- the statement writes no disk and does not move the VM -/
def Plain (v : String) (q : Stmt) : Prop :=
  ∀ (x : Inp) (db : Db) (a : q.Ans) (ws : List Write), exec q x x db = .ok (a, ws) →
    (∀ w ∈ ws, ∀ place vm disk, w ≠ .host (.disk place vm disk)) ∧
    ∀ b node, OnNode db v b node → OnNode (store.view db ws) v b node

lemma disks_view {ws : List Write}
    (h : ∀ w ∈ ws, ∀ place vm disk, w ≠ .host (.disk place vm disk)) :
    Hosts.disks (Db.hosts (store.view db ws)) = db.hosts.disks := by
  refine Store.view_same (S := store) (g := fun db : Db => db.hosts.disks) (fun w hw db => ?_) db
  cases w with
  | host w =>
    cases w with
    | disk place vm disk => exact absurd rfl (h _ hw place vm disk)
    | _ => rfl
  | _ => rfl

lemma plain_of_table {q : Stmt} (hv : q.table ≠ some .vms) (hh : q.table ≠ some .hosts) :
    Plain v q := by
  intro x db a ws hx
  have htable : ∀ w ∈ ws, q.table = some w.table := fun w hw => exec_table hx hw
  refine ⟨fun w hw place vm disk hw' => hh ?_, fun b node h => ?_⟩
  · rw [htable w hw, hw']
    rfl
  · have hvms : Db.vms (store.view db ws) = db.vms :=
      part_view (t := .vms) fun w hw hw' => hv (by rw [htable w hw, hw'])
    obtain ⟨vm, hvm, hn⟩ := h
    refine ⟨vm, ?_, hn⟩
    unfold Db.vm
    rw [hvms]
    exact hvm

variable {call : AgentCall} {node : String}

lemma plain_agent (h : ∀ w, call.mayWrite node w → ∀ place vm disk, w ≠ .disk place vm disk) :
    Plain v (.agent node call) := by
  intro x db a ws hx
  cases hx
  refine ⟨fun w hw place vm disk hw' => ?_, fun b n hn => ?_⟩
  · obtain ⟨w', hw1, rfl⟩ := mem_map.mp hw
    exact h w' (rpc_writes hw1) place vm disk (Write.host.inj hw')
  · rw [view_host]
    exact hn

lemma OnNode.setVM {vm vm' : VM} {id : String} (h : OnNode db v b node) (hvm : db.vm id = some vm)
    (hid : vm'.id = vm.id) (hd : vm'.deletedAt = none) (hn : vm'.nodeID = vm.nodeID)
    (hb : vm'.storageBackend = vm.storageBackend) : OnNode (db.setVM vm') v b node := by
  obtain ⟨row, hrow, hnode, hback⟩ := h
  by_cases hv : id = v
  · subst hv
    obtain rfl : vm = row := mem_unique hvm hrow
    exact ⟨vm', setVM_vm hvm hid hd, hn.trans hnode, hb.trans hback⟩
  · refine ⟨row, ?_, hnode, hback⟩
    rw [setVM_vm_ne (by rw [hid, vm_id hvm]; exact hv)]
    exact hrow

lemma plain_transition (vmID : String) (src dst : VMStatus) :
    Plain v (.updateVM vmID (.transition src dst)) := by
  intro x db a ws hx
  have hws : (db.updateVM vmID (.transition src dst) x.now).2 = ws :=
    congrArg Prod.snd (Except.ok.inj hx)
  rcases db.updateVM_cases vmID (.transition src dst) x.now with hu | ⟨vm, hvm, -, hu⟩
  · rw [hu] at hws
    subst hws
    exact ⟨fun w hw => (by cases hw), fun b node h => h⟩
  · rw [hu] at hws
    subst hws
    refine ⟨fun w hw place vm disk hw' => ?_, fun b node h => ?_⟩
    · rw [mem_singleton.mp hw] at hw'
      cases hw'
    · exact h.setVM hvm rfl (vm_eq_some.mp hvm).2 rfl rfl

lemma plain_of_writesNoDisk (h : call.writesNoDisk = true) : Plain v (.agent node call) := by
  refine plain_agent fun w hw place vm disk hd => ?_
  subst hd
  cases call with
  | startVM vmID | createSnapshot vmID name | deleteSnapshot vmID name
  | prepareMigratedVM vmID path backend =>
    obtain ⟨_, hw⟩ := hw; cases hw
  | stopVM vmID | forceStopVM vmID | undefineVM vmID => obtain ⟨_, hw, _⟩ := hw; cases hw
  | transferDisk opts => cases hw
  | migrateVM vmID target =>
    rcases hw with hw | ⟨_, hw⟩
    · cases hw
    · cases hw
  | resizeVM vmID vcpu memoryMB diskGB | postMigrateSetup vmID
  | abortMigration vmID => exact hw.elim
  | _ => cases h

/-! ## the protocol -/

/-- a complete copy of the disk is on the node the row names, for a backend that is named -/
def Kept (v b : String) (db : Db) : Prop :=
  ∃ node, OnNode db v b node ∧ db.hosts.disks (diskPlace b node, v) = some .current

def Safe (p : VMMigratePayload) (b : String) (m : Mem store Unit) : Prop :=
  Kept p.vmID b m.db ∧ DeletesAfter p m.wal

def keeping (p : VMMigratePayload) (b : String) : Protocol store Unit where
  init := Safe p b
  may := fun _ _ ws m => Safe p b (m.publish () ws)
  allow := NoLeftover p.vmID

lemma keeping_safe {m : Mem store Unit} (h : (keeping p b).Reach m) : Safe p b m :=
  h.invariant (fun _ h => h) fun _ _ _ _ _ _ _ _ h => h

/-- what the handler knows on its way -/
structure Known (p : VMMigratePayload) (b node : String) (copied sent committed : Prop)
    (m : Mem store Unit) : Prop where
  onNode : OnNode m.db p.vmID b node
  copied : copied → m.db.hosts.disks (diskPlace b p.targetNodeID, p.vmID) = some .current
  sent : sent → Sent p m.wal
  committed : committed → Committed p m.wal

section
variable {m : Mem store Unit} {ws : List Write} {copied sent committed : Prop}

lemma Sent.publish (h : Sent p m.wal) (ws : List Write) : Sent p (m.publish () ws).wal := by
  obtain ⟨e, he, hw⟩ := h
  exact ⟨e, (m.wal_prefix_publish () ws).subset he, hw⟩

lemma Committed.publish (h : Committed p m.wal) (ws : List Write) :
    Committed p (m.publish () ws).wal := by
  obtain ⟨e, he, hw⟩ := h
  exact ⟨e, (m.wal_prefix_publish () ws).subset he, hw⟩

lemma DeletesAfter.publish (h : DeletesAfter p m.wal)
    (hws : (∃ place disk, Write.host (.disk place p.vmID disk) ∈ ws) →
      p.migrationStrategy ≠ migrationStrategyLiveSharedStorage ∧ Sent p m.wal ∧ Committed p m.wal) :
    DeletesAfter p (m.publish () ws).wal := by
  cases ws with
  | nil => exact h
  | cons w ws =>
    unfold DeletesAfter
    rw [publish_wal (cons_ne_nil w ws)]
    exact forall_split_concat.mpr ⟨h, hws⟩

section
variable (hno : ∀ w ∈ ws, ∀ place vm disk, w ≠ .host (.disk place vm disk))
  (hon : ∀ b node, OnNode m.db p.vmID b node → OnNode (store.view m.db ws) p.vmID b node)
include hno hon

lemma Safe.plain (h : Safe p b m) : Safe p b (m.publish () ws) := by
  obtain ⟨⟨node, hnode, hdisk⟩, hlog⟩ := h
  refine ⟨⟨node, ?_, ?_⟩, hlog.publish fun ⟨place, disk, hw⟩ => absurd rfl (hno _ hw place _ disk)⟩
  · rw [publish_db]
    exact hon b node hnode
  · rw [publish_db, disks_view hno]
    exact hdisk

lemma Known.plain (h : Known p b node copied sent committed m) :
    Known p b node copied sent committed (m.publish () ws) := by
  refine ⟨?_, fun hc => ?_, fun hs => (h.sent hs).publish ws, fun hc => (h.committed hc).publish ws⟩
  · rw [publish_db]
    exact hon b node h.onNode
  · rw [publish_db, disks_view hno]
    exact h.copied hc

end

variable {α : Type} {c : Op α}

/-- **Plain statements keep what is known.** -/
theorem solo_plain (hc : c.All (Plain p.vmID)) (h : Known p b node copied sent committed m) :
    Solo (keeping p b) () c (fun _ m => Known p b node copied sent committed m) m := by
  refine Solo.all hc (fun q hq m x a ws hm _ hK hx => ?_) h
  obtain ⟨hno, hon⟩ := hq x m.db a ws hx
  exact ⟨fun _ => Safe.plain hno hon (keeping_safe hm), hK.plain hno hon⟩

lemma solo_plain_attempt {β : Type} {f : Except GoError α → Op β}
    {Q : β → Mem store Unit → Prop} (hc : c.All (Plain p.vmID))
    (h : Known p b node copied sent committed m)
    (hf : ∀ r m, (keeping p b).Reach m → Known p b node copied sent committed m →
      Solo (keeping p b) () (f r) Q m) : Solo (keeping p b) () (attempt c f) Q m := by
  refine Idle.attempt (Idle.all hc (fun q hq m x a ws hm _ hK hx => ?_) h) fun r m hm hr =>
    hf r m hm (hr m (.refl m) hm)
  obtain ⟨hno, hon⟩ := hq x m.db a ws hx
  exact ⟨fun _ => Safe.plain hno hon (keeping_safe hm), hK.plain hno hon⟩

lemma solo_safe (hc : c.All (Plain p.vmID)) : Solo (keeping p b) () c (fun _ _ => True) m := by
  refine Solo.all hc (fun q hq m x a ws hm _ _ hx => ?_) trivial
  obtain ⟨hno, hon⟩ := hq x m.db a ws hx
  exact ⟨fun _ => Safe.plain hno hon (keeping_safe hm), trivial⟩

lemma solo_wrapping {context : String} {Q : α → Mem store Unit → Prop}
    (h : Solo (keeping p b) () c Q m) : Solo (keeping p b) () (wrapping context c) Q m := by
  refine Solo.attempt h (fun a m _ hq => Solo.ret fun a' ha => ?_) fun e m _ =>
    Solo.ret fun a ha => ?_
  · cases ha
    exact hq
  · cases ha

lemma solo_agent {Q : Mem store Unit → Prop}
    (h : ∀ x, (keeping p b).Reach m → NoLeftover p.vmID () (.run (.agent node call)) .idle m →
      Safe p b (m.publish () ((m.db.rpc x node call).2.map .host)) ∧
      ((m.db.rpc x node call).1 = .ok () → Q (m.publish () ((m.db.rpc x node call).2.map .host)))) :
    Solo (keeping p b) () (NodeAgent.call node call) (fun _ => Q) m := by
  refine Solo.bind (Q := fun r m' => r = .ok () → Q m') (Solo.stmt fun x a ws hm ha hx => ?_) ?_
  · obtain ⟨hsafe, hq⟩ := h x hm ha
    cases hx
    refine ⟨fun _ => hsafe, fun hok => hq ?_⟩
    split at hok
    · cases hok
    · exact hok
  · intro r m' _ hq
    cases r with
    | ok u => exact Solo.ret fun _ _ => hq rfl
    | error e => exact Solo.ret fun _ ha => by cases ha

lemma solo_lift (r : Except GoError α) :
    Solo (keeping p b) () (lift r) (fun a m' => r = .ok a ∧ m' = m) m := by
  cases r with
  | ok a =>
    refine Solo.ret fun a' ha => ?_
    cases ha
    exact ⟨rfl, rfl⟩
  | error e => exact Solo.ret fun _ ha => by cases ha

/-! ## the steps of the handler -/

lemma plain_of_works {q : Stmt} (h : p.Works q) : Plain v q := by
  cases h with
  | read h =>
    exact plain_of_table (fun hq => by rw [h] at hq; cases hq) fun hq => by rw [h] at hq; cases hq
  | onSource _ hd => exact plain_of_writesNoDisk hd
  | migrated | prepared diskPath storageBackend | started
  | configured => exact plain_of_writesNoDisk rfl

lemma solo_works (hc : c.All p.Works) (h : Known p b node copied sent committed m) :
    Solo (keeping p b) () c (fun _ m => Known p b node copied sent committed m) m :=
  solo_plain (hc.mono fun _ => plain_of_works) h

lemma solo_getVM (id : String) : Solo (keeping p b) () (VMRepository.getByID id)
    (fun vm m' => m' = m ∧ Db.vm m.db id = some vm) m := by
  refine Solo.bind (Q := fun r m' => m' = m ∧ r = Db.vm m.db id) (Solo.stmt fun x a ws _ _ hx => ?_)
    fun r m' _ hr => ?_
  · cases hx
    exact ⟨fun hne => absurd rfl hne, rfl, rfl⟩
  · obtain ⟨rfl, hr⟩ := hr
    cases r with
    | none => exact Solo.ret fun _ ha => by cases ha
    | some vm =>
      refine Solo.ret fun a ha => ?_
      cases ha
      exact ⟨rfl, hr.symm⟩

/-- the context is of this task, and of a VM on this storage -/
structure Begun (p : VMMigratePayload) (b : String) (mc : MigrationContext) : Prop where
  payload : mc.payload = p
  backend : mc.vm.storageBackend = b
  source : mc.vm.nodeID = some p.sourceNodeID

lemma solo_validate : Solo (keeping p b) () (validateMigrationEntities taskID p)
    (fun mc m => Begun p b mc ∧ Known p b p.sourceNodeID False False False m) m := by
  refine Solo.bind (solo_wrapping (solo_getVM _)) fun vm m1 hm1 h1 => ?_
  obtain ⟨rfl, hvm⟩ := h1
  refine Solo.bind (solo_lift _) fun _ m2 _ h2 => ?_
  obtain ⟨hsource, rfl⟩ := h2
  have hnode := checkSource_eq_ok.mp hsource
  obtain ⟨⟨n, ⟨row, hrow, -, hback⟩, -⟩, -⟩ := keeping_safe hm1
  obtain rfl : vm = row := mem_unique hvm hrow
  have hK : Known p b p.sourceNodeID False False False m2 :=
    ⟨⟨vm, hvm, hnode, hback⟩, False.elim, False.elim, False.elim⟩
  have hread : ∀ {α : Type} {c : Op α}, (c.All Stmt.Reads) → c.All p.Works :=
    fun hc => hc.mono fun _ hq => .read hq
  refine Solo.bind (solo_works (hread (all_wrapping.mpr (all_found.mpr (all_read rfl)))) hK)
    fun sourceNode m3 _ h3 => ?_
  refine Solo.bind (solo_works (hread (all_wrapping.mpr (all_found.mpr (all_read rfl)))) h3)
    fun targetNode m4 _ h4 => ?_
  refine Solo.bind (solo_lift _) fun _ m5 _ h5 => ?_
  obtain ⟨-, rfl⟩ := h5
  refine Solo.ret fun mc hmc => ?_
  cases hmc
  exact ⟨⟨rfl, hback, hnode⟩, h4⟩

lemma solo_begin (hb : Begun mc.payload b mc)
    (h : Known mc.payload b mc.payload.sourceNodeID False False False m) :
    Solo (keeping mc.payload b) () (beginMigration mc)
      (fun r m => ∀ mc', r = some mc' → mc' = mc ∧ mc.payload.sourceNodeID ≠
        mc.payload.targetNodeID ∧
        Known mc.payload b mc.payload.sourceNodeID False False False m) m := by
  unfold beginMigration
  split
  · refine Solo.bind (solo_plain ?_ h) fun _ m1 _ _ => Solo.ret fun r hr => ?_
    · refine All.bind ((mc.progress_works _ _).mono fun _ => plain_of_works) fun _ => ?_
      refine all_logged.mpr (all_affecting.mpr (all_query.mpr ?_))
      exact plain_of_table (fun hq => by cases hq) fun hq => by cases hq
    · cases hr
      exact fun mc' hmc' => by cases hmc'
  · rename_i ht
    have hmark : (markMigrating mc.payload mc.vm).All (Plain mc.payload.vmID) :=
      All.ite (fun _ => trivial) fun _ =>
        all_wrapping.mpr (all_transition fun st _ => plain_transition _ _ _)
    refine Solo.bind (solo_plain hmark h) fun _ m1 _ h1 => Solo.ret fun r hr => ?_
    cases hr
    intro mc' hmc'
    cases hmc'
    refine ⟨rfl, fun hst => ht ?_, h1⟩
    rw [hb.source, hst]

lemma solo_transferDisk {failure backend snapshot : String}
    (h : Known mc.payload b node copied sent committed m) :
    Solo (keeping mc.payload b) () (mc.transferDisk failure backend snapshot)
      (fun _ m => Known mc.payload b node copied True committed m) m := by
  refine solo_wrapping (solo_agent fun x hm _ => ?_)
  have hplain : Plain mc.payload.vmID (.agent mc.payload.sourceNodeID
    (.transferDisk (mc.transferOpts backend snapshot))) := plain_of_writesNoDisk rfl
  obtain ⟨hno, hon⟩ := hplain x m.db _ _ rfl
  refine ⟨(keeping_safe hm).plain hno hon, fun hok => ?_⟩
  have hK := h.plain hno hon
  refine ⟨hK.onNode, hK.copied, fun _ => ?_, hK.committed⟩
  rw [rpc_transferDisk hok]
  exact ⟨_, mem_append_right _ (mem_singleton_self _), mem_singleton_self _⟩

lemma solo_prepare (hb : mc.vm.storageBackend = b) (hne : b ≠ "")
    (h : Known mc.payload b node copied sent committed m) :
    Solo (keeping mc.payload b) () mc.prepareMigratedVM
      (fun _ m => Known mc.payload b node True sent committed m) m := by
  refine solo_wrapping (solo_agent fun x hm ha => ?_)
  have hplain : Plain mc.payload.vmID (.agent mc.payload.targetNodeID
    (.prepareMigratedVM mc.payload.vmID mc.payload.targetDiskPath mc.vm.storageBackend)) :=
    plain_of_writesNoDisk rfl
  obtain ⟨hno, hon⟩ := hplain x m.db _ _ rfl
  refine ⟨(keeping_safe hm).plain hno hon, fun hok => ?_⟩
  have hK := h.plain hno hon
  refine ⟨hK.onNode, fun _ => ?_, hK.sent, hK.committed⟩
  have hsome := rpc_prepareMigratedVM hok
  have hstale : Hosts.disks (Db.hosts m.db) (diskPlace (Hosts.backendOf (Db.hosts m.db)
      mc.payload.targetNodeID mc.vm.storageBackend) mc.payload.targetNodeID, mc.payload.vmID) ≠
      some .stale := by
    intro hd
    have hover : Stmt.overLeftover mc.payload.vmID m.db _ = false := ha
    simp only [Stmt.overLeftover, hd] at hover
    exact absurd hover (by simp)
  rw [hb, Hosts.backendOf_of_ne hne] at hsome hstale
  rw [publish_db, disks_view hno]
  cases hd : Hosts.disks (Db.hosts m.db) (diskPlace b mc.payload.targetNodeID, mc.payload.vmID) with
  | none => exact absurd hd hsome
  | some disk =>
    cases disk with
    | current => rfl
    | stale => exact absurd hd hstale

/-! ## the strategies -/

/-- what a strategy that succeeded has brought about -/
abbrev Moved (mc : MigrationContext) (b : String) : Mem store Unit → Prop :=
  Known mc.payload b mc.payload.sourceNodeID True
    (mc.payload.migrationStrategy ≠ migrationStrategyLiveSharedStorage) False

/-- the disk was sent, and is there -/
abbrev Copied (mc : MigrationContext) (b : String) : Mem store Unit → Prop :=
  Known mc.payload b mc.payload.sourceNodeID True True False

section
variable (hfits : Fits mc.payload b) (hb : mc.vm.storageBackend = b)
  (h : Known mc.payload b mc.payload.sourceNodeID False False False m)
include hfits h

lemma solo_liveShared (hs : mc.payload.migrationStrategy = migrationStrategyLiveSharedStorage) :
    Solo (keeping mc.payload b) () (executeLiveSharedStorageMigration mc)
    (fun _ => Moved mc b) m := by
  refine Solo.mono (solo_works (liveShared_works mc) h) fun _ m1 hm1 h1 => ?_
  refine ⟨h1.onNode, fun _ => ?_, fun hne => absurd hs hne, False.elim⟩
  -- a disk in the pool is where it was
  obtain ⟨⟨n, -, hdisk⟩, -⟩ := keeping_safe hm1
  have hplace : diskPlace b mc.payload.targetNodeID = diskPlace b n :=
    (if_pos (hfits.2.mp hs)).trans (if_pos (hfits.2.mp hs)).symm
  rw [hplace]
  exact hdisk

include hb

lemma solo_switchover (k : LiveCopy) :
    Solo (keeping mc.payload b) () (k.switchover mc) (fun _ => Copied mc b) m := by
  refine Solo.bind (solo_works (mc.progress_works _ _) h) fun _ m1 _ h1 => ?_
  refine Solo.bind (solo_transferDisk h1) fun _ m2 _ h2 => ?_
  refine Solo.bind (solo_works (mc.progress_works _ _) h2) fun _ m3 _ h3 => ?_
  refine Solo.bind (solo_works mc.stopVMGracefully_works h3) fun _ m4 _ h4 => ?_
  refine Solo.bind (solo_works (k.syncProgress_works mc) h4) fun _ m5 _ h5 => ?_
  refine Solo.bind (solo_works mc.undefineVM_works h5) fun _ m6 _ h6 => ?_
  refine Solo.bind (solo_works (mc.progress_works _ _) h6) fun _ m7 _ h7 => ?_
  refine Solo.bind (solo_prepare hb hfits.1 h7) fun _ m8 _ h8 => ?_
  exact solo_works (mc.startVM_works.bind fun _ => mc.postMigrateSetup_works) h8

lemma solo_liveCopy (k : LiveCopy) :
    Solo (keeping mc.payload b) () (k.execute mc) (fun _ => Copied mc b) m := by
  refine Solo.bind (solo_works (mc.progress_works _ _) h) fun _ m1 _ h1 => ?_
  refine Solo.bind (solo_works (all_wrapping.mpr (mc.onSource_works rfl rfl)) h1)
    fun _ m2 _ h2 => ?_
  refine Solo.attempt (solo_switchover hfits hb h2 k) (fun _ m3 _ h3 => ?_) fun e m3 _ => ?_
  · exact solo_works (LiveCopy.ended_works mc _) h3
  · refine Solo.bind (solo_safe ?_) fun _ _ _ _ => Solo.ret fun _ ha => by cases ha
    exact (all_logged.mpr (mc.onSource_works rfl rfl)).mono fun _ => plain_of_works

lemma solo_coldCopy (k : ColdCopy) :
    Solo (keeping mc.payload b) () (k.execute mc) (fun _ => Copied mc b) m := by
  refine Solo.bind (solo_works (k.ensureStopped_works mc) h) fun _ m1 _ h1 => ?_
  refine Solo.bind (solo_works (mc.progress_works _ _) h1) fun _ m2 _ h2 => ?_
  refine Solo.bind (solo_transferDisk h2) fun _ m3 _ h3 => ?_
  refine Solo.bind (solo_works (mc.progress_works _ _) h3) fun _ m4 _ h4 => ?_
  refine Solo.bind (solo_works mc.undefineVM_works h4) fun _ m5 _ h5 => ?_
  refine Solo.bind (solo_works (mc.progress_works _ _) h5) fun _ m6 _ h6 => ?_
  refine Solo.bind (solo_prepare hb hfits.1 h6) fun _ m7 _ h7 => ?_
  exact solo_works (All.ite (fun _ => mc.startVM_works) fun _ => trivial) h7

lemma solo_diskCopy :
    Solo (keeping mc.payload b) () (executeDiskCopyMigration mc) (fun _ => Copied mc b) m := by
  refine Solo.bind (solo_works (mc.progress_works _ _) h) fun _ m1 _ h1 => ?_
  unfold diskCopy
  split
  · split
    · exact solo_liveCopy hfits hb h1 _
    · exact solo_coldCopy hfits hb h1 _
  · split
    · exact solo_liveCopy hfits hb h1 _
    · exact solo_coldCopy hfits hb h1 _

/-- **A strategy that succeeds leaves the data at the target.** -/
theorem solo_strategy :
    Solo (keeping mc.payload b) () (executeMigrationStrategy mc) (fun _ => Moved mc b) m := by
  have hmoved : ∀ m, Copied mc b m → Moved mc b m :=
    fun m hc => ⟨hc.onNode, hc.copied, fun _ => hc.sent trivial, hc.committed⟩
  refine Solo.bind (solo_works (mc.progress_works _ _) h) fun _ m1 _ h1 => ?_
  unfold strategyOf
  split
  · rename_i hs
    exact solo_liveShared hfits h1 hs
  · split
    · exact Solo.mono (solo_diskCopy hfits hb h1) fun _ m _ hc => hmoved m hc
    · split
      · exact Solo.mono (solo_coldCopy hfits hb h1 _) fun _ m _ hc => hmoved m hc
      · exact Solo.ret fun _ ha => by cases ha

end

/-! ## the commit, and the disk of the source -/

/-- the row names the target -/
abbrev Assigned (mc : MigrationContext) (b : String) : Mem store Unit → Prop :=
  Known mc.payload b mc.payload.targetNodeID True
    (mc.payload.migrationStrategy ≠ migrationStrategyLiveSharedStorage) True

lemma solo_assign (h : Moved mc b m) : Solo (keeping mc.payload b) ()
    (VMRepository.updateNodeAssignment mc.payload.vmID mc.payload.targetNodeID)
    (fun _ => Assigned mc b) m := by
  refine Solo.bind (Q := fun done m => done = true → Assigned mc b m)
    (Solo.stmt fun x a ws hm _ hx => ?_) fun done m1 _ h1 => ?_
  · have hu : Db.updateVM m.db mc.payload.vmID (.node mc.payload.targetNodeID) x.now = (a, ws) :=
      Except.ok.inj hx
    rcases updateVM_cases m.db mc.payload.vmID (.node mc.payload.targetNodeID) x.now with
      hu' | ⟨vm, hvm, -, hu'⟩
    · cases hu.symm.trans hu'
      exact silent (fun ha => by cases ha)
    · cases hu.symm.trans hu'
      obtain ⟨row, hrow, -, hback⟩ := h.onNode
      obtain rfl : vm = row := mem_unique hvm hrow
      have hon : OnNode (Db.setVM m.db ((VMUpdate.node mc.payload.targetNodeID).set x.now vm))
          mc.payload.vmID b mc.payload.targetNodeID :=
        ⟨_, setVM_vm hvm rfl (vm_eq_some.mp hvm).2, rfl, hback⟩
      refine ⟨fun _ => ⟨⟨_, hon, h.copied trivial⟩, ?_⟩, fun _ => ⟨hon, h.copied, ?_, fun _ => ?_⟩⟩
      · refine (keeping_safe hm).2.publish fun ⟨place, disk, hw⟩ => ?_
        cases mem_singleton.mp hw
      · exact fun hs => (h.sent hs).publish _
      · exact ⟨_, mem_append_right _ (mem_singleton_self _), _, mem_singleton_self _,
          (VMUpdate.set_id _ _ _).trans (vm_id hvm), rfl⟩
  · cases done with
    | true => exact Solo.ret fun _ _ => h1 rfl
    | false => exact Solo.ret fun _ ha => by cases ha

lemma disks_after_of_ne {h : Hosts} {ws : List HostWrite} {place place' : Place}
    (hw : ∀ w ∈ ws, w = .disk place v none) (hne : place' ≠ place) :
    (h.after ws).disks (place', v) = h.disks (place', v) := by
  induction ws generalizing h with
  | nil => rfl
  | cons w ws ih =>
    refine (ih fun w' hw' => hw w' (mem_cons_of_mem w hw')).trans ?_
    rw [hw w mem_cons_self]
    exact Function.update_of_ne (fun hk => hne (congrArg Prod.fst hk)) _ _

section
variable (hfits : Fits mc.payload b) (hne : mc.payload.sourceNodeID ≠ mc.payload.targetNodeID)
include hfits hne

lemma solo_deleteDisk (hs : mc.payload.migrationStrategy ≠ migrationStrategyLiveSharedStorage)
    (h : Assigned mc b m) :
    Solo (keeping mc.payload b) () (mc.onSource (.deleteDisk mc.payload.vmID))
    (fun _ _ => True) m := by
  refine solo_agent fun x hm _ => ⟨?_, fun _ => trivial⟩
  obtain ⟨vm, hvm, hnode, hback⟩ := h.onNode
  have hplace : ∀ n, diskPlace b n = .node n := fun n => if_neg fun hc => hs (hfits.2.mpr hc)
  have hw : ∀ w ∈ (Db.rpc m.db x mc.payload.sourceNodeID (.deleteDisk mc.payload.vmID)).2,
      w = .disk (.node mc.payload.sourceNodeID) mc.payload.vmID none := by
    intro w hw
    rw [rpc_deleteDisk (vm_eq_some.mp hvm).1 hw, hback, Hosts.backendOf_of_ne hfits.1, hplace]
  have hdisk := h.copied trivial
  rw [hplace] at hdisk
  refine ⟨⟨mc.payload.targetNodeID, ?_, ?_⟩, (keeping_safe hm).2.publish fun _ => ?_⟩
  · rw [publish_db, view_host]
    exact ⟨vm, hvm, hnode, hback⟩
  · rw [publish_db, view_host, hplace]
    refine (disks_after_of_ne hw fun hp => hne ?_).trans hdisk
    exact (Place.node.inj hp).symm
  · exact ⟨hs, h.sent hs, h.committed trivial⟩

lemma solo_complete (h : Assigned mc b m) :
    Solo (keeping mc.payload b) () (completeMigration mc) (fun _ _ => True) m := by
  refine Solo.bind (Q := fun _ _ => True) ?_ fun _ m1 _ _ => solo_safe ?_
  · unfold cleanupSourceDiskAfterCommit
    split
    · exact Solo.ret fun _ _ => trivial
    · rename_i hs
      refine Solo.attempt (solo_deleteDisk hfits hne hs h) (fun _ _ _ _ => ?_) fun _ _ _ => ?_
      · exact Solo.ret fun _ _ => trivial
      · exact Solo.ret fun _ _ => trivial
  · refine All.bind ((mc.progress_works _ _).mono fun _ => plain_of_works) fun _ => ?_
    refine all_logged.mpr (all_affecting.mpr (all_query.mpr ?_))
    exact plain_of_table (fun hq => by cases hq) fun hq => by cases hq

lemma solo_finalize (h : Moved mc b m) :
    Solo (keeping mc.payload b) () (finalizeMigration mc) (fun _ _ => True) m := by
  refine Solo.bind (solo_works (mc.progress_works _ _) h) fun _ m1 _ h1 => ?_
  refine Solo.bind (solo_wrapping (solo_assign h1)) fun _ m2 _ h2 => ?_
  refine solo_plain_attempt (all_transition fun st _ => plain_transition _ _ _) h2
    fun r m3 _ h3 => ?_
  cases r with
  | ok u => exact solo_complete hfits hne h3
  | error e =>
    unfold statusRestored
    simp only
    split
    · exact Solo.ret fun _ ha => by cases ha
    · exact solo_complete hfits hne h3

end

lemma solo_migrate (hfits : Fits mc.payload b) (hb : mc.vm.storageBackend = b)
    (hne : mc.payload.sourceNodeID ≠ mc.payload.targetNodeID)
    (h : Known mc.payload b mc.payload.sourceNodeID False False False m) :
    Solo (keeping mc.payload b) () (migrate (some mc)) (fun _ _ => True) m := by
  refine Solo.attempt (solo_strategy hfits hb h) (fun _ m1 _ h1 => ?_) fun e m1 _ => ?_
  · exact solo_finalize hfits hne h1
  · refine Solo.bind (solo_safe (all_logged.mpr ?_)) fun _ _ _ _ => Solo.ret fun _ ha => by cases ha
    exact all_transition fun st _ => plain_transition _ _ _

/-- **An execution keeps to the protocol**, from any state of it. -/
theorem solo_handle {doc : Json} (hdec : VMMigratePayload.decode doc = .ok p) (hfits : Fits p b) :
    Solo (keeping p b) () (handleVMMigrate taskID doc) (fun _ _ => True) m := by
  refine Solo.bind (Q := fun r m => ∀ mc, r = some mc → Begun p b mc ∧
    p.sourceNodeID ≠ p.targetNodeID ∧ Known p b p.sourceNodeID False False False m) ?_
    fun r m1 _ h1 => ?_
  · rw [prepare_of_decoded hdec]
    refine Solo.bind solo_validate fun mc m2 _ h2 => ?_
    obtain ⟨hbegun, hK⟩ := h2
    obtain rfl := hbegun.payload
    refine Solo.mono (solo_begin hbegun hK) fun r m3 _ h3 mc' hmc' => ?_
    obtain ⟨rfl, hne, hK'⟩ := h3 mc' hmc'
    exact ⟨hbegun, hne, hK'⟩
  · cases r with
    | none => exact Solo.ret fun _ _ => trivial
    | some mc =>
      obtain ⟨hbegun, hne, hK⟩ := h1 mc rfl
      obtain rfl := hbegun.payload
      exact solo_migrate hfits hbegun.backend hne hK

end

/-! ## whole histories -/

lemma kept_iff {vm : VM} (hvm : db.vm v = some vm) (hne : vm.storageBackend ≠ "") :
    DiskAtNode db v ↔ Kept v vm.storageBackend db := by
  constructor
  · rintro ⟨row, n, hrow, hn, hd⟩
    obtain rfl : vm = row := mem_unique hvm hrow
    rw [Hosts.backendOf_of_ne hne] at hd
    exact ⟨n, ⟨vm, hvm, hn, rfl⟩, hd⟩
  · rintro ⟨n, ⟨row, hrow, hn, -⟩, hd⟩
    obtain rfl : vm = row := mem_unique hvm hrow
    rw [← Hosts.backendOf_of_ne hne] at hd
    exact ⟨vm, n, hvm, hn, hd⟩

lemma Kept.diskAtNode (h : Kept v b db) (hne : b ≠ "") : DiskAtNode db v := by
  obtain ⟨n, ⟨vm, hvm, hn, rfl⟩, hd⟩ := h
  exact (kept_iff hvm hne).mpr ⟨n, ⟨vm, hvm, hn, rfl⟩, hd⟩

/-- **A complete copy of the disk is always where the row says the VM is**, and a disk is deleted
only after its data was sent and the target recorded, as long as the VM is never prepared over a
disk that was on the target before. This is for any number of deliveries of the task, each cut
anywhere, and any failures. -/
theorem disk_kept {doc : Json} {vm : VM} {m : Mem store Unit}
    (hdec : VMMigratePayload.decode doc = .ok p) (hvm : db.vm p.vmID = some vm)
    (hfits : Fits p vm.storageBackend) (h₀ : DiskAtNode db p.vmID)
    (h : Delivered (NoLeftover p.vmID) taskID doc db m) :
    DiskAtNode m.db p.vmID ∧ DeletesAfter p m.wal := by
  have hsafe : Safe p vm.storageBackend m := by
    induction h with
    | start =>
      exact ⟨(kept_iff hvm hfits.1).mp h₀, fun before e after hl => by cases before <;> cases hl⟩
    | @deliver m s _ hs ih =>
      have hinit : Safe p vm.storageBackend ⟨m.db, []⟩ :=
        ⟨ih.1, fun before e after hl => by cases before <;> cases hl⟩
      exact keeping_safe (Idle.adequate (P := keeping p vm.storageBackend) hinit
        (fun _ => solo_handle hdec hfits) hs).1
  exact ⟨hsafe.1.diskAtNode hfits.1, hsafe.2⟩

instance (v : String) (i : Unit) (r : Req store) (l : Loc store) (m : Mem store Unit) :
    Decidable (NoLeftover v i r l m) :=
  match r with
  | .run q => inferInstanceAs (Decidable (Stmt.overLeftover v m.db q = false))
  | .begin => .isTrue trivial
  | .commit => .isTrue trivial
  | .rollback => .isTrue trivial

def copyDoc : Json :=
  .obj (migrationTaskPayload qcowVM "n" ⟨"n", "h", none, .online, 8, 8192, 0, 0, "", "", ""⟩
    ⟨"t", "i", none, .online, 8, 8192, 0, 0, "", "", ""⟩ true "admin")

/-- so many statements of a delivery, all carried out -/
def delivery (db : Db) (doc : Json) (n : Nat) : Option (State store Unit (Except GoError Unit)) :=
  run (State.init db fun _ => handleVMMigrate "f" doc) (List.replicate n ((), .ev (.ok calm)))

/-- On shared storage the VM moves; a copy does not start on the target, and the VM stays with its
disk. -/
theorem disk_kept_calm : (∃ p m, VMMigratePayload.decode liveDoc = .ok p ∧
      Delivered (NoLeftover "v") "f" liveDoc requestedLive.2 m ∧
      ((Db.vm m.db "v").bind (·.nodeID)) = some "t" ∧ DiskAtNode m.db "v" ∧ DeletesAfter p m.wal) ∧
    ∃ p m, VMMigratePayload.decode copyDoc = .ok p ∧
      Delivered (NoLeftover "v") "f" copyDoc requested.2 m ∧
      ((Db.vm m.db "v").bind (·.nodeID)) = some "n" ∧ DiskAtNode m.db "v" ∧
        DeletesAfter p m.wal := by
  constructor
  · have h : (delivery requestedLive.2 liveDoc 13).isSome = true := by rfl
    have hdelivered : Delivered (NoLeftover "v") "f" liveDoc requestedLive.2 (Option.get _ h).mem :=
      .deliver .start (reaches_checked (run_get h) (by rfl))
    have hdec : VMMigratePayload.decode liveDoc = .ok _ :=
      decode_buildMigrationPayload cephVM "n" _ _ _ _ _ _ true "admin" .running
    refine ⟨_, _, hdec, hdelivered, rfl, ?_⟩
    exact disk_kept hdec rfl ⟨by decide, by decide⟩ ⟨_, _, rfl, rfl, rfl⟩ hdelivered
  · have h : (delivery requested.2 copyDoc 12).isSome = true := by rfl
    have hdelivered : Delivered (NoLeftover "v") "f" copyDoc requested.2 (Option.get _ h).mem :=
      .deliver .start (reaches_checked (run_get h) (by rfl))
    have hdec : VMMigratePayload.decode copyDoc = .ok _ :=
      decode_buildMigrationPayload qcowVM "n" _ _ _ _ _ _ true "admin" .running
    refine ⟨_, _, hdec, hdelivered, rfl, ?_⟩
    exact disk_kept hdec rfl ⟨by decide, by decide⟩ ⟨_, _, rfl, rfl, rfl⟩ hdelivered

/-- the state `MigrateVM` of `qcowVM` leaves, with an old file of the VM on the target -/
def withLeftover : Db :=
  requested.2.setHosts (requested.2.hosts.apply (.disk (.node "t") "v" (some .stale)))

/-- **The disk is lost**, though every call succeeds: the VM is on `t` with the old file, and the
file on `n` is deleted. -/
theorem disk_lost :
    ∃ p m, requested.2.tasks.find "f" = some ⟨"f", .vmMigrate, .pending, copyDoc, none⟩ ∧
    VMMigratePayload.decode copyDoc = .ok p ∧ Fits p storageBackendQcow ∧
      DiskAtNode withLeftover "v" ∧
    Delivered always "f" copyDoc withLeftover m ∧ ¬ DiskAtNode m.db "v" := by
  have hdec : VMMigratePayload.decode copyDoc = .ok _ :=
    decode_buildMigrationPayload qcowVM "n" _ _ _ _ _ _ true "admin" .running
  obtain ⟨s, hs, -, hdb⟩ := alone_reaches_from (S := store) (fun _ => .ok calm)
    ((handle_sends hdec).mono fun _ _ => trivial)
      (s := State.init withLeftover fun _ => handleVMMigrate "f" copyDoc) rfl rfl
    fun _ => rfl
  refine ⟨_, s.mem, rfl, hdec, ⟨by decide, by decide⟩, ⟨_, _, rfl, rfl, rfl⟩,
    .deliver .start hs, ?_⟩
  rw [hdb]
  rintro ⟨vm, node, hvm, hnode, hdisk⟩
  obtain rfl := Option.some.inj hvm
  obtain rfl := Option.some.inj hnode
  cases (Option.some.inj hdisk : Disk.stale = Disk.current)

end VirtueStack.Compute
