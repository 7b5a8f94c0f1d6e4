import VirtueStack.Agent.SnapshotRuns
import VirtueStack.Backup.Sends

/-!
# Backups: runs of the calls
-/

namespace VirtueStack.Backup
open Txn Call Op

def Stmt.isCleanupFailed : Stmt → Bool
  | .cleanupFailed _ => true
  | _ => false

def CleanedUp (tr : List (Sent store)) : Prop := ∀ s ∈ tr, s.stmt.isCleanupFailed = false

/-- the statements of the services themselves do not fail; those of the calls of the agents may -/
def OnlyCallsFail (q : Stmt) (e : Event store) (_ : Db) : Prop :=
  match q with
  | .getNode _ => True
  | .connect _ => True
  | .agent _ _ => True
  | .guest _ => True
  | .reply _ => True
  | _ => ∃ x, e = .ok x

lemma onlyCallsFail_ok (q : Stmt) (x : Inp) (db : Db) : OnlyCallsFail q (.ok x) db := by
  cases q with
  | _ => first | trivial | exact ⟨x, rfl⟩

/-- nothing fails but calls of the agents, and no clean-up -/
def Fair (s : Sent store) : Prop :=
  s.stmt.isCleanupFailed = false ∧ OnlyCallsFail s.stmt s.event s.db

/-- some run ends like this, and nothing fails in it but calls of the agents -/
abbrev Can {α : Type} (c : Op α) (db : Db) (r : Except GoError α) (db' : Db) : Prop :=
  Call.Can Fair c db r db'

/-- nothing goes wrong outside -/
def calm : Inp := ⟨Agent.quiet, 0, "", "", true, .ok 1⟩

section
variable {α β : Type} {db db' : Db}

variable {context nodeID : String} {a : α} {c : Op α} {r : Except GoError α}

lemma can_query (q : Stmt) {a : q.Ans} {ws : List Write} (x : Inp)
    (hq : q.isCleanupFailed = false) (hx : exec q x x db = .ok (a, ws)) :
    Can (query q context) db (.ok a) (store.view db ws) :=
  can_stmt_ok hx ⟨hq, onlyCallsFail_ok q x db⟩

lemma can_read (q : Stmt) {a : q.Ans} (x : Inp) (hq : q.isCleanupFailed = false)
    (hx : exec q x x db = .ok (a, [])) : Can (query q context) db (.ok a) db := can_query q x hq hx

lemma can_wrapping (hc : Can c db (.ok a) db') : Can (wrapping context c) db (.ok a) db' :=
  hc.attempt (can_ret _)

lemma can_wrapping_error {e : GoError} (hc : Can c db (.error e) db') :
    Can (wrapping context c) db (.error (.wrap context e)) db' := hc.attempt (can_ret _)

lemma can_logged (hc : Can c db r db') : Can (logged c) db (.ok ()) db' :=
  hc.attempt (can_ret _)

lemma can_progress (taskID : String) (n : Int) (message : String) :
    Can (progress taskID n message) db (.ok ()) db :=
  can_logged (can_read (.updateProgress taskID n message) calm rfl rfl)

lemma can_now (t : Int) (stamp : String) : Can now db (.ok (t, stamp)) db :=
  can_read .now ⟨Agent.quiet, t, stamp, "", true, .ok 1⟩ rfl rfl

lemma can_found {c : Op (Option α)} (hc : Can c db (.ok (some a)) db') :
    Can (found context c) db (.ok a) db' := hc.bind (can_ret _)

lemma can_getVM {id : String} {vm : Compute.VM} (hvm : db.vm id = some vm) :
    Can (VMRepository.getByID id) db (.ok vm) db := by
  refine can_found (can_read (.getVM id) calm rfl ?_)
  show Except.ok (db.vm id, []) = _
  rw [hvm]

lemma can_withNode {node : Compute.Node} {f : Compute.Node → Op α}
    (hnode : db.nodes.find nodeID = some node) (hf : Can (f node) db r db') :
    Can (withNode nodeID f) db r db' := by
  have hget : Can (NodeRepository.getByID nodeID) db (.ok node) db := by
    refine can_found (can_read (.getNode nodeID) calm rfl ?_)
    show Except.ok (db.nodes.find nodeID, []) = _
    rw [hnode]
  have hconn : Can (query (.connect nodeID) "creating connection") db (.ok ()) db :=
    can_read (.connect nodeID) calm rfl rfl
  exact (can_wrapping hget).bind ((can_wrapping hconn).bind hf)

lemma can_withNode_failed (db : Db) (nodeID : String) (f : Compute.Node → Op α) :
    ∃ e, Can (withNode nodeID f) db (.error e) db := by
  have hq : Can (query (.getNode nodeID) ("getting node " ++ nodeID)) db
      (.error (.wrap ("getting node " ++ nodeID) (Err.error (.failed "lost")))) db :=
    can_stmt_fail (S := store) "lost" ⟨rfl, trivial⟩
  exact ⟨_, (can_wrapping_error hq.bind_error).bind_error⟩

lemma can_embed {job : Agent.Job α} {h' : Agent.Host}
    (hjob : Agent.Can job (db.hosts nodeID) r h') :
    ∃ db', Can (job.embed (onNode nodeID)) db r db' ∧ db'.hosts nodeID = h' := by
  refine Can.embed (L := onNode nodeID) (fun e => ?_) (fun _ _ _ => ⟨rfl, trivial⟩) rfl hjob
  cases e with
  | ok x => exact ⟨.ok { calm with host := x }, rfl⟩
  | fail text => exact ⟨.fail text, rfl⟩

lemma can_send {request : String} {work : Op α} (hw : Can work db (.ok a) db') :
    Can (send nodeID request work) db (.ok a) db' := by
  have hreply :
    Can (stmt (S := store) (.reply nodeID) fun e => .rpc .unavailable e.agentErr.text) db' (.ok ())
      (store.view db' []) := can_stmt_ok (x := calm) rfl ⟨rfl, trivial⟩
  exact hw.attempt (hreply.attempt (can_ret _))

lemma can_send_lost (nodeID request : String) {work : Op α} (hw : Can work db r db') :
    ∃ e, Can (send nodeID request work) db (.error e) db' := by
  have hreply :
    Can (stmt (S := store) (.reply nodeID) fun e => .rpc .unavailable e.agentErr.text) db'
      (.error (.rpc .unavailable (Agent.Err.failed "lost").text)) db' :=
      can_stmt_fail (S := store) "lost" ⟨rfl, trivial⟩
  exact ⟨_, hw.attempt (hreply.attempt (can_ret _))⟩

end

/-! ## every run -/

section
variable {A I : Stmt → Event store → Db → Prop} {α : Type} {db : Db} {nodeID request : String}
  (hI : ∀ q e db, q.reads = true → I q e db)
include hI

lemma kept_answering {r : Except GoError α} {P : α → Prop} (hr : ∀ a, r = .ok a → P a) :
    (answering nodeID request r).Each A I (Kept db P) db := by
  refine Each.attempt (each_stmt_kept (P := fun _ => True) (answer_reads rfl db)
    (fun e => hI _ e db rfl) fun _ _ _ => trivial) fun s db' hs => ?_
  rw [hs.1]
  cases s with
  | error e => exact ⟨rfl, fun a ha => (by cases ha)⟩
  | ok _ =>
    cases r with
    | ok a => exact ⟨rfl, fun b hb => hr b (by cases hb; rfl)⟩
    | error e => exact ⟨rfl, fun a ha => (by cases ha)⟩

lemma kept_send {work : Op α} {P : α → Prop} (hw : work.Each A I (Kept db P) db) :
    (send nodeID request work).Each A I (Kept db P) db := by
  refine Each.attempt hw fun r db' hr => ?_
  rw [hr.1]
  exact kept_answering hI hr.2

end

variable {A : Stmt → Event store → Db → Prop} {α : Type} {db : Db}
  {Q : Except GoError α → Agent.Host → Prop} {job : Agent.Job α}

lemma kept_embed {nodeID : String}
    (hjob : job.Each (fun _ _ _ => True) Silent Q (db.hosts nodeID)) :
    (job.embed (onNode nodeID)).Each A (fun _ _ _ => True)
    (Kept db fun a => Q (.ok a) (db.hosts nodeID)) db := by
  have hsilent : (job.embed (onNode nodeID)).Each A Silent
      (fun r (db' : Db) => Q r (db'.hosts nodeID)) db := by
    refine Prog.each_embed (L := onNode nodeID) (fun _ _ _ _ => trivial) (fun q e db hq => ?_) hjob
    show (store.answer (.agent nodeID q) db e).2 = []
    rw [(answer_agent nodeID q db e).2]
    exact List.map_eq_nil_iff.mpr hq
  refine Prog.Each.imp (fun _ _ _ _ => trivial) (fun r db' hr => ?_) (Prog.Each.silent hsilent)
  refine ⟨hr.1, fun a ha => ?_⟩
  have hQ := hr.2
  rw [ha, hr.1] at hQ
  exact hQ

/-- **A request whose handler writes nothing leaves the whole state as it is.** -/
theorem kept_call {nodeID request : String} (hjob : ∀ node, db.nodes.find nodeID = some node →
      job.Each (fun _ _ _ => True) Silent Q (db.hosts nodeID)) :
    (call nodeID request job).Each A (fun _ _ _ => True)
    (Kept db fun a => Q (.ok a) (db.hosts nodeID)) db :=
  each_withNode (fun _ _ _ _ => trivial)
    (fun node hnode => kept_send (fun _ _ _ _ => trivial) (kept_embed (hjob node hnode)))
    fun e => ⟨rfl, fun a ha => (by cases ha)⟩

end VirtueStack.Backup
