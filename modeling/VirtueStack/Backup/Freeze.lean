import VirtueStack.Agent.LiveRuns
import VirtueStack.Backup.Sends
import VirtueStack.Txn.Run

/-!
# backup.create and the file systems of the guest

The handler thaws the file systems if the client has reported how many it froze. The client never
does: it answers zero (services/node_agent_storage.go).
-/

namespace VirtueStack.Backup
open Txn Call Op List Option

def Freezes (node domain : String) (q : Stmt) (e : Event store) (db : Db) : Prop :=
  Write.guest ⟨node, domain, .freeze⟩ ∈ (store.answer q db e).2

/-- a freeze that took effect is followed by the call for a thaw -/
def ThawedAfter (tr : List (Sent store)) : Prop :=
  ∀ before s after node domain, tr = before ++ s :: after →
    Freezes node domain s.stmt s.event s.db → ∃ t ∈ after, t.stmt = .guestCall ⟨node, domain, .thaw⟩

/-- in no run of the handler the file systems of a guest are left frozen -/
def NeverLeftFrozen (cl : Client) (task : Task) (db : Db) : Prop :=
  ∀ tr r db', (handleBackupCreate cl task).Run db tr r db' → ThawedAfter tr

/-- the domain that the request for the freeze gets to -/
def freezeTarget (task : Task) (db : Db) : Option Agent.Domain :=
  match BackupCreatePayload.decode task.payload with
  | .error _ => none
  | .ok payload =>
    if task.isTerminal ∨ payload.vmID = "" then none
    else (db.vm payload.vmID).bind fun vm => vm.nodeID.bind fun nodeID =>
      (db.nodes.find nodeID).bind fun _ => (db.hosts nodeID).domains (Agent.domainName payload.vmID)

/-- a guest that can be frozen: its process is alive -/
def CanFreeze (task : Task) (db : Db) : Prop := ∃ d ∈ freezeTarget task db, d.qemu = true

/-! ## what freezes -/

/-- anything but a command for a guest -/
def Stmt.noGuest : Stmt → Bool
  | .guest _ => false
  | .guestCall _ => false
  | _ => true

lemma noGuest_reads (q : Stmt) (hq : q.reads = true) : q.noGuest = true := by
  cases q <;> first | rfl | cases hq

lemma commands_of_noGuest {ok : Stmt → Prop} (h : ∀ q : Stmt, q.noGuest = true → ok q)
    (nodeID : String) : Commands ok nodeID where
  read q hq := h q (noGuest_reads q hq)
  createBackup b _ := h (.createBackup b) rfl
  agent q := h (.agent nodeID q) rfl

variable {q : Stmt} {db : Db} {vmID nodeID : String}

lemma alive_of_freezes {node domain : String} {e : Event store} (hf : Freezes node domain q e db) :
    q = .guest ⟨node, domain, .freeze⟩ ∧ ∃ d ∈ (db.hosts node).domains domain, d.qemu = true := by
  have hw := writes_of_mem hf
  cases q with
  | guest event =>
    obtain ⟨rfl, d, hd, hq⟩ := hw
    exact ⟨rfl, d, hd, hq⟩
  | _ => exact hw.elim

def FreezesNone (q : Stmt) (e : Event store) (db : Db) : Prop :=
  ∀ node domain, ¬ Freezes node domain q e db

def NoFreeze (q : Stmt) : Prop := ∀ node domain, q ≠ .guest ⟨node, domain, .freeze⟩

lemma NoFreeze.freezesNone (hq : NoFreeze q) (e : Event store) (db : Db) : FreezesNone q e db :=
  fun node domain hf => hq node domain (alive_of_freezes hf).1

lemma noFreeze_of_noGuest (hq : q.noGuest = true) : NoFreeze q := by
  intro node domain h
  rw [h] at hq
  cases hq

/-! ## no thaw -/

def NoThaw (q : Stmt) : Prop := ∀ node domain, q ≠ .guestCall ⟨node, domain, .thaw⟩

lemma noThaw_of_noGuest (hq : q.noGuest = true) : NoThaw q := by
  intro node domain h
  rw [h] at hq
  cases hq

lemma noThaw_commands (nodeID : String) : Commands NoThaw nodeID :=
  commands_of_noGuest (fun _ => noThaw_of_noGuest) nodeID

lemma all_noThaw_guestFreeze : (NodeAgent.guestFreezeFilesystems nodeID vmID).All NoThaw := by
  refine all_guestFreeze (noThaw_commands nodeID).read ?_ ?_
  · intro node domain h
    cases h
  · intro node domain h
    cases h

lemma all_thawIfFrozen {ok : Stmt → Prop} {b : HandlerContext} {freeze : Except GoError Int}
    (h : ∀ n, freeze = .ok n → n = 0) : (thawIfFrozen b freeze).All ok := by
  cases freeze with
  | error e => trivial
  | ok n =>
    rw [h n rfl]
    trivial

/-- **The handler never calls for a thaw.** -/
theorem all_noThaw (cl : Client) (task : Task) : (handleBackupCreate cl task).All NoThaw := by
  have hread := (noThaw_commands "").read
  refine all_handleBackupCreate hread (fun b => ?_) task
  refine All.bind (all_progress hread _ _ _) fun _ => ?_
  refine Prog.All.bind_of (S := store) all_noThaw_guestFreeze fun freeze hfreeze => ?_
  refine All.attempt (all_backUp (noThaw_commands b.nodeID)) fun r => ?_
  refine All.attempt (all_thawIfFrozen fun n hn => ?_) fun _ => (by cases r <;> trivial)
  -- the client does not say how many file systems it has frozen
  rw [hn] at hfreeze
  obtain ⟨_, -, hfreeze⟩ := returns_bind hfreeze
  obtain ⟨_, -, hfreeze⟩ := returns_bind hfreeze
  exact (Except.ok.inj hfreeze).symm

/-! ## every run -/

lemma freezesNone_reads (q : Stmt) (e : Event store) (db : Db) (hq : q.reads = true) :
    FreezesNone q e db :=
  (noFreeze_of_noGuest (noGuest_reads q hq)).freezesNone e db

lemma each_noFreeze {α : Type} {c : Op α} {A : Stmt → Event store → Db → Prop}
    (hc : c.All NoFreeze) : c.Each A FreezesNone (fun _ _ => True) db :=
  Each.of_all (K := fun _ => True) hc (fun _ hq e db _ _ => ⟨hq.freezesNone e db, trivial⟩) trivial

lemma noFreeze_commands (nodeID : String) : Commands NoFreeze nodeID :=
  commands_of_noGuest (fun _ => noFreeze_of_noGuest) nodeID

lemma all_backUpFrozen (cl : Client) (b : HandlerContext) (freeze : Except GoError Int) :
    (backUpFrozen cl b freeze).All NoFreeze := by
  refine All.attempt (all_backUp (noFreeze_commands b.nodeID)) fun r => ?_
  refine all_thenThaw (noFreeze_commands b.nodeID).read ?_ ?_ freeze r
  · intro node domain h
    cases h
  · intro node domain h
    cases h

section
variable {A : Stmt → Event store → Db → Prop} {db : Db}

lemma each_called (event : GuestEvent) :
    (NodeAgent.called event).Each A FreezesNone (Call.Kept db fun _ => True) db := by
  have hans : ∀ e, (store.answer (.guestCall event) db e).2 = [] := by
    intro e
    cases e with
    | fail text => rfl
    | ok x => rfl
  have hcall : (query (.guestCall event) "calling").Each A FreezesNone (Kept db fun _ => True) db :=
    each_stmt_kept hans (fun e node domain hf => writes_of_mem hf) fun _ _ _ => trivial
  exact Each.attempt hcall fun r db' hr => ⟨hr.1, fun _ _ => trivial⟩

lemma each_guestFilesystems {nodeID vmID : String} {c : GuestCommand}
    (hno : vmID ≠ "" → ∀ d ∈ (db.hosts nodeID).domains (Agent.domainName vmID), d.qemu ≠ true) :
    (guestFilesystems nodeID vmID c).Each A FreezesNone (fun _ _ => True) db := by
  by_cases hid : vmID = ""
  · unfold guestFilesystems requireVMID
    rw [if_pos hid]
    trivial
  · unfold guestFilesystems requireVMID
    rw [if_neg hid]
    refine (each_stmt_kept (P := fun _ => True) (answer_reads rfl db)
      (fun e => freezesNone_reads _ e db rfl) fun _ _ _ => trivial).kept_bind
      (fun _ _ => ?_) fun _ => trivial
    -- the guest is asked in the state the handler has started from
    refine Each.bind (R := fun _ _ => True) ?_ (fun r db' _ => ?_) fun _ _ _ => trivial
    · refine each_stmt.mpr fun e _ => ⟨fun node domain hf => ?_, trivial⟩
      obtain ⟨hq, d, hd, hd'⟩ := alive_of_freezes hf
      cases hq
      exact hno hid d hd hd'
    · cases r with
      | ok n => trivial
      | error text => trivial

lemma each_guestFreeze {nodeID vmID : String}
    (hno : ∀ node, db.nodes.find nodeID = some node → vmID ≠ "" →
      ∀ d ∈ (db.hosts nodeID).domains (Agent.domainName vmID), d.qemu ≠ true) :
    (NodeAgent.guestFreezeFilesystems nodeID vmID).Each A FreezesNone (fun _ _ => True) db := by
  refine (each_called _).kept_bind (fun _ _ => ?_) fun _ => trivial
  refine Each.bind (R := fun _ _ => True) ?_ (fun _ _ _ => trivial) fun _ _ _ => trivial
  refine each_withNode freezesNone_reads (fun node hn => ?_) fun _ => trivial
  refine Each.attempt (each_guestFilesystems (hno node hn)) fun r db' _ => ?_
  refine each_noFreeze ?_
  cases r <;> simp [answering, answered, withContext, sends_reads (noFreeze_commands nodeID).read]

lemma each_handleBackupCreate {cl : Client} {task : Task} (hno : ¬ CanFreeze task db) :
    (handleBackupCreate cl task).Each A FreezesNone (fun _ _ => True) db := by
  unfold handleBackupCreate
  cases hp : BackupCreatePayload.decode task.payload with
  | error e => trivial
  | ok payload =>
    show (task.unlessTerminal (createBackupOf cl task.id payload)).Each _ _ _ _
    unfold Task.unlessTerminal
    by_cases ht : task.isTerminal = true
    · rw [if_pos ht]
      trivial
    rw [if_neg ht]
    refine (kept_progress freezesNone_reads _ _ _).kept_bind (fun _ _ => ?_) fun _ => trivial
    refine (kept_wrapping (kept_getVM freezesNone_reads _)).kept_bind (fun vm hvm => ?_) fun _ =>
      trivial
    unfold onAssignedNode
    split
    · trivial
    · rename_i nodeID hn
      refine (kept_progress freezesNone_reads _ _ _).kept_bind (fun _ _ => ?_) fun _ => trivial
      refine Each.attempt (each_guestFreeze fun node hnode hid d hd hq => hno ⟨d, ?_, hq⟩)
        fun r db' _ => ?_
      · unfold freezeTarget
        rw [hp]
        dsimp only
        rw [if_neg (not_or.mpr ⟨ht, hid⟩), hvm, bind_some, hn, bind_some, hnode, bind_some]
        exact hd
      · exact each_noFreeze (all_backUpFrozen cl _ r)

end

/-! ## some run -/

/-- everything works, and the guest does as it is told -/
def obediently : Stmt → Event store := fun _ => .ok ⟨Agent.quiet, 0, "", "", true, .ok 1⟩

lemma alone_progress (taskID : String) (n : Int) (message : String) :
    (progress taskID n message).alone obediently db = (.ok (), db) := rfl

lemma alone_getVM {id : String} {vm : Compute.VM} (h : db.vm id = some vm) :
    (wrapping ("getting VM " ++ id) (VMRepository.getByID id)).alone obediently db =
      (.ok vm, db) := by
  have hq : (query (.getVM id) ("getting VM " ++ id)).alone obediently db =
    (.ok (some vm), db) := by
    refine (alone_stmt _ _).trans ?_
    show ((Except.ok (db.vm id) : Except GoError _), db) = _
    rw [h]
  refine (alone_attempt_of ((alone_bind_ok hq).trans rfl)).trans rfl

lemma may_withNode {α : Type} {P : Stmt → Event store → Db → Prop}
    {node : Compute.Node} {f : Compute.Node → Op α} (hn : db.nodes.find nodeID = some node)
    (hf : (f node).May P db) : (withNode nodeID f).May P db := by
  have hq : (query (.getNode nodeID) ("getting node " ++ nodeID)).alone obediently db =
      (.ok (some node), db) := by
    refine (alone_stmt _ _).trans ?_
    show ((Except.ok (db.nodes.find nodeID) : Except GoError _), db) = _
    rw [hn]
  have hnode : (wrapping ("getting node " ++ nodeID) (NodeRepository.getByID nodeID)).alone
    obediently db = (.ok node, db) :=
    (alone_attempt_of ((alone_bind_ok hq).trans rfl)).trans rfl
  have hconn : (wrapping ("connecting to node " ++ nodeID)
      (query (.connect nodeID) "creating connection")).alone obediently db = (.ok (), db) := rfl
  exact may_bind hnode (may_bind hconn hf)

def FreezesSome (q : Stmt) (e : Event store) (db : Db) : Prop :=
  ∃ node domain, Freezes node domain q e db

lemma may_guestFreeze {node : Compute.Node} {d : Agent.Domain} (hid : vmID ≠ "")
    (hn : db.nodes.find nodeID = some node)
    (hd : (db.hosts nodeID).domains (Agent.domainName vmID) = some d) (hq : d.qemu = true) :
    (NodeAgent.guestFreezeFilesystems nodeID vmID).May FreezesSome db := by
  have hcalled : (NodeAgent.called ⟨nodeID, Agent.domainName vmID, .freeze⟩).alone obediently db =
    (.ok (), db) := rfl
  have hlookup : (lookupDomain nodeID (Agent.domainName vmID)).alone obediently db =
      (.ok (), db) := by
    refine (alone_stmt _ _).trans ?_
    simp only [obediently, Store.answer, exec, execAgent, Agent.exec, Agent.Host.withDomain_some hd]
    rfl
  refine may_bind hcalled (May.bind (may_withNode hn (May.attempt ?_)))
  have hid : (requireVMID vmID).alone obediently db = (.ok (), db) := by
    unfold requireVMID
    rw [if_neg hid]
    rfl
  refine may_bind hid (may_bind hlookup (May.bind ?_))
  refine may_stmt (.ok ⟨Agent.quiet, 0, "", "", true, .ok 1⟩) ⟨nodeID, Agent.domainName vmID, ?_⟩
  unfold Freezes
  simp only [Store.answer, exec, Db.guestCommand, hd, hq]
  exact mem_singleton.mpr rfl

lemma may_handleBackupCreate {cl : Client} {task : Task} (h : CanFreeze task db) :
    (handleBackupCreate cl task).May FreezesSome db := by
  obtain ⟨d, hd, hq⟩ := h
  unfold freezeTarget at hd
  split at hd
  · cases hd
  · rename_i payload hp
    split at hd
    · cases hd
    · rename_i hrun
      obtain ⟨ht, hid⟩ := not_or.mp hrun
      obtain ⟨vm, hvm, hd⟩ := bind_eq_some_iff.mp hd
      obtain ⟨nodeID, hn, hd⟩ := bind_eq_some_iff.mp hd
      obtain ⟨node, hnode, hd⟩ := bind_eq_some_iff.mp hd
      unfold handleBackupCreate
      rw [hp]
      show (task.unlessTerminal (createBackupOf cl task.id payload)).May _ _
      unfold Task.unlessTerminal
      rw [if_neg ht]
      refine may_bind (show _ = (Except.ok (), db) from alone_progress _ _ _)
        (may_bind (alone_getVM hvm) ?_)
      unfold onAssignedNode
      rw [hn]
      refine may_bind (show _ = (Except.ok (), db) from alone_progress _ _ _) (May.attempt ?_)
      exact may_guestFreeze hid hnode hd hq

/-! ## the theorem -/

lemma not_neverLeftFrozen {cl : Client} {task : Task} (hcan : CanFreeze task db) :
    ¬ NeverLeftFrozen cl task db := by
  intro h
  obtain ⟨tr, r, db', hrun, -, s, hs, node, domain, hf⟩ :=
    MayIf.run (all_noThaw cl task) (fun _ _ => ⟨.fail "", trivial⟩) (may_handleBackupCreate hcan)
  obtain ⟨before, after, rfl⟩ := append_of_mem hs
  obtain ⟨t, ht, hthaw⟩ := h _ r db' hrun before s after node domain rfl hf
  have ht' : t ∈ before ++ s :: after := mem_append_right _ (mem_cons_of_mem _ ht)
  exact hrun.all (all_noThaw cl task) t ht' node domain hthaw

/-- **File systems are never left frozen, exactly when there is no guest to be frozen.** -/
theorem neverLeftFrozen_iff (cl : Client) (task : Task) (db : Db) :
    NeverLeftFrozen cl task db ↔ ¬ CanFreeze task db := by
  refine ⟨fun h hcan => not_neverLeftFrozen hcan h,
    fun hno tr r db' hrun before s after node domain htr hf => ?_⟩
  have hs : s ∈ tr := by
    rw [htr]
    exact mem_append_right _ mem_cons_self
  exact absurd hf ((hrun.each (each_handleBackupCreate hno)).1 s hs node domain)

def runningDomain : Agent.Domain := (Agent.Domain.new Agent.someXML).started

theorem running_left_frozen : ¬ NeverLeftFrozen (clientOf Agent.cephNode) createTask
      (oneVM "ceph" (Agent.aliveHost runningDomain Agent.emptyImage)) :=
  not_neverLeftFrozen ⟨runningDomain, rfl, rfl⟩

end VirtueStack.Backup
