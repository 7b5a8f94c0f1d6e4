import VirtueStack.Compute.Models
import VirtueStack.Txn.Does
import Mathlib.Data.List.Sort
import Mathlib.Data.String.Basic

/-!
# Heartbeats (repository/node_repo.go, services/heartbeat_checker.go, services/failover_monitor.go)

Nodes report that they are alive, and a checker counts the passes in which it found their last
report too old.

* `Node` a row, without the columns no modelled statement reads or writes;
* `Stmt` the statements, and the clock of the controller;
* `Write` what they write. `listed` and `clock` change nothing: they record in the log of the
  machine what a pass was told, for the statements of the theorems;
* `checkAllNodes` one pass of the checker. It writes the counter it read, plus one.

The events that the checker publishes are left out.
-/

namespace VirtueStack.Nodes
open Txn Call
open Compute (NodeStatus)

def failoverHeartbeatThreshold : Int := 3

structure Node where
  id : String
  hostname : String
  status : NodeStatus
  lastHeartbeatAt : Option Int
  consecutiveHeartbeatMisses : Int
  deriving DecidableEq

namespace Node

variable (n : Node)

def keys : List String := [n.id]

def beat (now : Int) : Node :=
  { n with
    lastHeartbeatAt := some now
    consecutiveHeartbeatMisses := 0
    status := if n.status = .offline then .online else n.status }

def withMisses (misses : Int) : Node := { n with consecutiveHeartbeatMisses := misses }
def withStatus (status : NodeStatus) : Node := { n with status := status }

/-- there is no heartbeat, or it is older than `cutoff` -/
def Stale (cutoff : Int) : Prop := ∀ h ∈ n.lastHeartbeatAt, h < cutoff

end Node

/-! ## the store -/

structure Db where
  nodes : Table Node.keys
  /-- the node and the time -/
  heartbeats : List (String × Int)

inductive Write where
  | insertHeartbeat (nodeID : String) (timestamp : Int)
  | beat (n : Node)
  | misses (n : Node)
  | status (n : Node)
  | listed (nodes : List Node)
  | clock (now : Int)
  deriving DecidableEq

def Db.apply (db : Db) : Write → Db
  | .insertHeartbeat nodeID timestamp =>
    { db with heartbeats := db.heartbeats ++ [(nodeID, timestamp)] }
  | .beat n => { db with nodes := db.nodes.put n }
  | .misses n => { db with nodes := db.nodes.put n }
  | .status n => { db with nodes := db.nodes.put n }
  | .listed _ => db
  | .clock _ => db

/-- the row of the node is locked -/
def Write.guards : Write → List String
  | .beat n => [n.id]
  | .misses n => [n.id]
  | .status n => [n.id]
  | _ => []

/-- the clock -/
structure Inp where
  now : Int

inductive Stmt where
  | listByStatus (status : NodeStatus)
  | timeNow
  | updateHeartbeatMisses (nodeID : String) (misses : Int)
  | updateStatus (nodeID : String) (status : NodeStatus)
  -- the statements of a heartbeat
  | insertHeartbeat (nodeID : String)
  | updateLastHeartbeat (nodeID : String)

@[reducible] def Stmt.Ans : Stmt → Type
  | .listByStatus _ => List Node
  | .timeNow => Int
  -- the number of rows
  | .updateHeartbeatMisses _ _ => Nat
  | .updateStatus _ _ => Nat
  | .insertHeartbeat _ => Unit
  | .updateLastHeartbeat _ => Unit

def Db.listByStatus (db : Db) (status : NodeStatus) : List Node :=
  (db.nodes.rows.filter fun n => n.status = status).insertionSort fun a b => a.hostname ≤ b.hostname

/-- an `UPDATE nodes ... WHERE id = $1`: the new row, if there is one -/
def Db.updates (db : Db) (nodeID : String) (f : Node → Write) : List Write :=
  ((db.nodes.find nodeID).map f).toList

def exec : (q : Stmt) → Inp → Inp → Db → Except PgError (q.Ans × List Write)
  | .listByStatus status, _, _, db =>
    .ok (db.listByStatus status, [.listed (db.listByStatus status)])
  | .timeNow, _, x, _ => .ok (x.now, [.clock x.now])
  | .updateHeartbeatMisses nodeID misses, _, _, db =>
    .ok ((db.updates nodeID fun n => .misses (n.withMisses misses)).length,
      db.updates nodeID fun n => .misses (n.withMisses misses))
  | .updateStatus nodeID status, _, _, db =>
    .ok ((db.updates nodeID fun n => .status (n.withStatus status)).length,
      db.updates nodeID fun n => .status (n.withStatus status))
  -- `NOW()` is the time at which the transaction was opened
  | .insertHeartbeat nodeID, x₀, _, db =>
    match db.nodes.find nodeID with
    | some _ => .ok ((), [.insertHeartbeat nodeID x₀.now])
    | none => .error (.fault
        "insert or update on table \"node_heartbeats\" violates foreign key constraint")
  | .updateLastHeartbeat nodeID, x₀, _, db =>
      .ok ((), db.updates nodeID fun n => .beat (n.beat x₀.now))

def locks : Stmt → Inp → Db → List String
  | .updateHeartbeatMisses nodeID _, _, _ => [nodeID]
  | .updateStatus nodeID _, _, _ => [nodeID]
  | .updateLastHeartbeat nodeID, _, _ => [nodeID]
  | _, _, _ => []

variable {db : Db}

lemma find_id {id : String} {n : Node} (h : db.nodes.find id = some n) : n.id = id :=
  Table.key_of_find h

lemma mem_updates {nodeID : String} {f : Node → Write} {w : Write} (h : w ∈ db.updates nodeID f) :
    ∃ n, db.nodes.find nodeID = some n ∧ w = f n := by
  rw [Db.updates, Option.mem_toList] at h
  obtain ⟨n, hn, rfl⟩ := Option.map_eq_some_iff.mp h
  exact ⟨n, hn, rfl⟩

lemma updates_guarded {nodeID : String} {f : Node → Write} (hf : ∀ n, (f n).guards = [n.id]) :
    ∀ w ∈ db.updates nodeID f, ∀ l ∈ w.guards, l ∈ [nodeID] := by
  intro w hw l hl
  obtain ⟨n, hn, rfl⟩ := mem_updates hw
  rw [hf, find_id hn] at hl
  exact hl

lemma exec_guarded (q : Stmt) (x₀ x : Inp) (db : Db) (a : q.Ans) (ws : List Write)
    (h : exec q x₀ x db = .ok (a, ws)) : ∀ w ∈ ws, ∀ l ∈ w.guards, l ∈ locks q x db := by
  cases q with
  | updateHeartbeatMisses nodeID misses | updateStatus nodeID status | updateLastHeartbeat nodeID =>
    cases h
    exact updates_guarded fun _ => rfl
  | insertHeartbeat nodeID =>
    intro w hw l hl
    simp only [exec] at h
    split at h
    · cases h
      obtain rfl := List.mem_singleton.mp hw
      cases hl
    · cases h
  | listByStatus status | timeNow =>
    cases h
    intro w hw l hl
    obtain rfl := List.mem_singleton.mp hw
    cases hl

@[reducible] def store : Store where
  Db := Db
  Lock := String
  Write := Write
  Stmt := Stmt
  Ans := Stmt.Ans
  Inp := Inp
  Err := PgError
  Fault := String
  fault := PgError.fault
  decLock := inferInstance
  exec := exec
  locks := locks
  apply := Db.apply
  guards := Write.guards
  exec_guarded := exec_guarded

abbrev Op (α : Type) : Type := Call store GoError α

/-! ## the repository -/

def listByStatus (status : NodeStatus) : Op (List Node) :=
  stmt (S := store) (.listByStatus status) fun e =>
    .wrap ("listing nodes by status " ++ status.text) (.pg e)

/-- `RowsAffected() == 0` -/
def affected (context : String) : Nat → Op Unit
  | 0 => fail (.wrap context (.sentinel .noRowsAffected))
  | _ + 1 => .pure ()

def updateHeartbeatMisses (nodeID : String) (misses : Int) : Op Unit :=
  Call.bind (stmt (S := store) (.updateHeartbeatMisses nodeID misses)
      fun e => .wrap ("updating heartbeat misses for node " ++ nodeID) (.pg e))
    (affected ("updating heartbeat misses for node " ++ nodeID))

def updateStatus (nodeID : String) (status : NodeStatus) : Op Unit :=
  Call.bind (stmt (S := store) (.updateStatus nodeID status)
      fun e => .wrap ("updating node " ++ nodeID ++ " status") (.pg e))
    (affected ("updating node " ++ nodeID ++ " status"))

def recordHeartbeat (nodeID : String) : Op Unit :=
  withTx (fun e => .wrap "starting heartbeat transaction" (.pg e)) <|
    Call.bind (stmt (S := store) (.insertHeartbeat nodeID) fun e =>
      .wrap "inserting node heartbeat" (.pg e)) fun _ =>
    Call.bind (stmt (S := store) (.updateLastHeartbeat nodeID)
      fun e => .wrap ("updating node " ++ nodeID ++ " last_heartbeat_at") (.pg e)) fun _ =>
    Call.bind (commit fun e => .pg e) fun _ => .pure ()

/-! ## the checker -/

/-- the status of a node that has missed too many heartbeats -/
def degrade (node : Node) : Op Unit :=
  if failoverHeartbeatThreshold ≤ node.consecutiveHeartbeatMisses + 1 ∧ node.status = .online then
    (updateStatus node.id .degraded).attempt fun _ => .pure ()
  else .pure ()

def checkNode (cutoff : Int) (node : Node) : Op Unit :=
  match node.lastHeartbeatAt with
  | none => (updateHeartbeatMisses node.id (node.consecutiveHeartbeatMisses + 1)).attempt fun _ =>
      .pure ()
  | some h =>
    if h < cutoff then
      (updateHeartbeatMisses node.id (node.consecutiveHeartbeatMisses + 1)).attempt fun
        | .ok _ => degrade node
        | .error _ => .pure ()
    else .pure ()

def checkNodes (cutoff : Int) : List Node → Op Unit
  | [] => .pure ()
  | node :: rest => Call.bind (checkNode cutoff node) fun _ => checkNodes cutoff rest

/-- a list that could not be read is empty -/
def listedOr : Except GoError (List Node) → List Node
  | .ok nodes => nodes
  | .error _ => []

def checkListed (timeout : Int) (allNodes : List Node) : Op Unit :=
  Call.bind (stmt (S := store) .timeNow fun e => .pg e) fun (now : Int) =>
    checkNodes (now - timeout) allNodes

def checkAllNodes (timeout : Int) : Op Unit :=
  (listByStatus .online).attempt fun
    | .error _ => .pure ()
    | .ok onlineNodes => (listByStatus .degraded).attempt fun degradedNodes =>
      checkListed timeout (onlineNodes ++ listedOr degradedNodes)

def filterNodesNeedingFailover (nodes : List Node) (threshold : Int) : List Node :=
  nodes.filter fun node => threshold ≤ node.consecutiveHeartbeatMisses

/-- the check of `verifyFailedNode` -/
def inFailedState (node : Node) : Bool :=
  failoverHeartbeatThreshold ≤ node.consecutiveHeartbeatMisses

/-! ## requests -/

inductive Request where
  | heartbeat (nodeID : String)
  | check

def Request.run (timeout : Int) : Request → Op Unit
  | .heartbeat nodeID => recordHeartbeat nodeID
  | .check => checkAllNodes timeout

end VirtueStack.Nodes
