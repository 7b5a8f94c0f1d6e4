import VirtueStack.Txn.Rules
import VirtueStack.Txn.Table
import VirtueStack.Shared.Errors
import Mathlib.Data.List.Sort

/-!
# Tasks and their messages

The table of tasks (repository/task_repo.go, tasks/worker.go), the JetStream stream and the consumer
that hands its messages to the workers.

* `Task` a row, without the columns no modelled statement reads or writes;
* `Message` a message of the stream, with the state the consumer keeps for it: it is handed out at
  most `maxDeliver` times, and again only `ackWait` after it was handed out, or when the
  delay of a negative acknowledgement is over;
* `Db` both, and the executions of handlers, which are the effect of a task on the world;
* `Stmt` the statements, each of which runs on its own, and the requests to the consumer. A message
  stays in the stream.

A statement in a context fails once the deadline of the context is over. The tables have all the
columns the statements name.
-/

namespace VirtueStack.Tasks
open Txn List

inductive TaskStatus where
  | pending
  | running
  | completed
  | failed
  | cancelled
  deriving DecidableEq, Repr

structure Task where
  id : String
  type : String
  status : TaskStatus
  result : Option String
  errorMessage : Option String
  retryCount : Int
  startedAt : Option Int
  completedAt : Option Int
  deriving DecidableEq, Repr

namespace Task

variable (t : Task)

def keys : List String := [t.id]

/-- `updateTaskStatus`, with its `COALESCE`s -/
def update (status : TaskStatus) (result errMsg : Option String) (now : Int) : Task :=
  { t with
    status := status
    result := result.or t.result
    errorMessage := errMsg.or t.errorMessage
    startedAt := if status = .running then some now else t.startedAt
    completedAt := if status = .completed ∨ status = .failed then some now else t.completedAt }

def setFailed (errorMessage : String) (now : Int) : Task :=
  { t with
    status := .failed
    completedAt := some now
    errorMessage := some errorMessage
    retryCount := t.retryCount + 1 }

def reset : Task :=
  { t with status := .pending, errorMessage := none, startedAt := none, completedAt := none }

/-- `status = 'running' AND started_at < NOW() - $1` -/
def stuck (threshold now : Int) : Bool :=
  t.status = .running ∧ ∃ s ∈ t.startedAt, s < now - threshold

end Task

/-! ## the consumer -/

/-- microseconds -/
def second : Int := 1000000

def ackWait : Int := 300 * second
def maxDeliver : Nat := 3

inductive MessageState where
  /-- not handed out yet, or given back -/
  | ready
  /-- handed out -/
  | waiting
  | acked
  deriving DecidableEq, Repr

/-- the part of the JSON the worker reads -/
structure TaskData where
  id : String
  type : String
  deriving DecidableEq, Repr

structure Message where
  seq : Nat
  /-- `none` for data that is not a task -/
  data : Option TaskData
  numDelivered : Nat
  state : MessageState
  visibleAt : Int
  deriving DecidableEq, Repr

namespace Message

variable (msg : Message)

def keys : List Nat := [msg.seq]

def deliverable (now : Int) : Bool :=
  msg.state ≠ .acked ∧ msg.numDelivered < maxDeliver ∧ msg.visibleAt ≤ now

def delivered (now : Int) : Message :=
  { msg with
    numDelivered := msg.numDelivered + 1
    state := .waiting
    visibleAt := now + ackWait }

def acknowledged : Message := { msg with state := .acked }

def givenBack (visibleAt : Int) : Message :=
  { msg with state := .ready, visibleAt := visibleAt }

end Message

/-! ## the store -/

structure Db where
  tasks : Table Task.keys
  stream : Table Message.keys
  executions : List String

inductive Write where
  | putTask (t : Task)
  | putMessage (msg : Message)
  | execute (id : String)
  deriving DecidableEq

def Db.apply (db : Db) : Write → Db
  | .putTask t => { db with tasks := db.tasks.put t }
  | .putMessage msg => { db with stream := db.stream.put msg }
  | .execute id => { db with executions := db.executions ++ [id] }

inductive Lock where
  | task (id : String)
  | message (seq : Nat)
  deriving DecidableEq

def Write.guards : Write → List Lock
  | .putTask t => [.task t.id]
  | .putMessage msg => [.message msg.seq]
  | .execute _ => []

/-- the clock, and what a handler returned -/
structure Inp where
  now : Int
  outcome : Except String (Option String)

inductive Stmt where
  | timeNow
  | updateStatus (id : String) (status : TaskStatus) (result errMsg : Option String)
      (deadline : Int)
  | stuckTasks (threshold : Int)
  | setFailed (id errorMessage : String)
  | resetTask (id : String)
  -- the consumer of the stream
  | deliver (seq : Nat)
  | ack (seq : Nat)
  | nakWithDelay (seq : Nat) (delay : Int)
  -- the handler of a task is called, and returns
  | callHandler (id : String)
  | handlerReturn

@[reducible] def Stmt.Ans : Stmt → Type
  | .timeNow => Int
  | .updateStatus _ _ _ _ _ => Unit
  | .stuckTasks _ => List Task
  | .setFailed _ _ => Bool
  | .resetTask _ => Bool
  | .deliver _ => Message
  | .ack _ => Unit
  | .nakWithDelay _ _ => Unit
  | .callHandler _ => Unit
  | .handlerReturn => Except String (Option String)

/-- the row after an `UPDATE tasks ... WHERE id = $1`, if there is one -/
def updated (t : Option Task) (f : Task → Task) : List Write :=
  (t.map fun t => .putTask (f t)).toList

def Db.stuckTasks (db : Db) (threshold now : Int) : List Task :=
  (db.tasks.rows.filter fun t => t.stuck threshold now).insertionSort
    fun a b => a.startedAt.getD 0 ≤ b.startedAt.getD 0

def exec : (q : Stmt) → Inp → Inp → Db → Except PgError (q.Ans × List Write)
  | .timeNow, _, x, _ => .ok (x.now, [])
  | .updateStatus id status result errMsg deadline, _, x, db =>
    if deadline ≤ x.now then .error (.fault "context deadline exceeded")
    else .ok ((), updated (db.tasks.find id) fun t => t.update status result errMsg x.now)
  | .stuckTasks threshold, _, x, db => .ok (db.stuckTasks threshold x.now, [])
  | .setFailed id errorMessage, _, x, db =>
    .ok ((db.tasks.find id).isSome, updated (db.tasks.find id) fun t =>
      t.setFailed errorMessage x.now)
  | .resetTask id, _, _, db =>
    .ok ((db.tasks.find id).isSome, updated (db.tasks.find id) Task.reset)
  | .deliver seq, _, x, db =>
    match db.stream.find seq with
    | some msg =>
      if msg.deliverable x.now then
        .ok (msg.delivered x.now, [.putMessage (msg.delivered x.now)])
      else .error (.fault "no message")
    | none => .error (.fault "no message")
  | .ack seq, _, _, db =>
    .ok ((), ((db.stream.find seq).map fun msg => .putMessage msg.acknowledged).toList)
  | .nakWithDelay seq delay, _, x, db =>
    .ok ((), (((db.stream.find seq).filter fun msg => msg.state ≠ .acked).map fun msg =>
      .putMessage (msg.givenBack (x.now + delay))).toList)
  | .callHandler id, _, _, _ => .ok ((), [.execute id])
  | .handlerReturn, _, x, _ => .ok (x.outcome, [])

def locks : Stmt → Inp → Db → List Lock
  | .updateStatus id _ _ _ _, _, _ => [.task id]
  | .setFailed id _, _, _ => [.task id]
  | .resetTask id, _, _ => [.task id]
  | .deliver seq, _, _ => [.message seq]
  | .ack seq, _, _ => [.message seq]
  | .nakWithDelay seq _, _, _ => [.message seq]
  | _, _, _ => []

variable {db : Db}

lemma find_task_id {id : String} {t : Task} (h : db.tasks.find id = some t) :
    t.id = id := Table.key_of_find h

lemma find_message_seq {seq : Nat} {msg : Message} (h : db.stream.find seq = some msg) :
    msg.seq = seq := Table.key_of_find h

lemma updated_guarded {id : String} {f : Task → Task} (hf : ∀ t, (f t).id = t.id) :
    ∀ w ∈ updated (db.tasks.find id) f, ∀ l ∈ w.guards, l ∈ [Lock.task id] := by
  intro w hw l hl
  cases ht : db.tasks.find id with
  | none => rw [ht] at hw; cases hw
  | some t =>
    rw [ht] at hw
    rw [mem_singleton.mp hw, Write.guards, hf, find_task_id ht] at hl
    exact hl

lemma put_message_guarded {seq : Nat} {o : Option Message} {f : Message → Message}
    (hf : ∀ msg, (f msg).seq = msg.seq) (ho : ∀ msg, o = some msg → msg.seq = seq) :
    ∀ w ∈ (o.map fun msg => Write.putMessage (f msg)).toList, ∀ l ∈ w.guards, l ∈
      [Lock.message seq] := by
  intro w hw l hl
  rw [Option.mem_toList] at hw
  obtain ⟨msg, hmsg, rfl⟩ := Option.map_eq_some_iff.mp hw
  rw [Write.guards, hf, ho msg hmsg] at hl
  exact hl

lemma exec_guarded (q : Stmt) (x₀ x : Inp) (db : Db) (a : q.Ans) (ws : List Write)
    (h : exec q x₀ x db = .ok (a, ws)) : ∀ w ∈ ws, ∀ l ∈ w.guards, l ∈ locks q x db := by
  cases q with
  | callHandler id =>
    cases h
    intro w hw l hl
    rw [mem_singleton.mp hw] at hl
    exact hl
  | updateStatus id status result errMsg deadline =>
    simp only [exec] at h
    split at h
    · cases h
    · cases h
      exact updated_guarded (f := fun t => t.update status result errMsg x.now) fun _ => rfl
  | setFailed id errorMessage =>
    cases h
    exact updated_guarded (f := fun t => t.setFailed errorMessage x.now) fun _ => rfl
  | resetTask id =>
    cases h
    exact updated_guarded fun _ => rfl
  | deliver seq =>
    intro w hw l hl
    simp only [exec] at h
    split at h
    · rename_i msg hmsg
      split at h
      · cases h
        rw [mem_singleton.mp hw] at hl
        rw [← find_message_seq hmsg]
        exact hl
      · cases h
    · cases h
  | ack seq =>
    cases h
    exact put_message_guarded (fun _ => rfl) fun _ h => find_message_seq h
  | nakWithDelay seq delay =>
    cases h
    exact put_message_guarded (f := fun msg => msg.givenBack (x.now + delay)) (fun _ => rfl)
      fun _ h => find_message_seq (Option.filter_eq_some_iff.mp h).1
  | _ => cases h; intro w hw; cases hw

@[reducible] def store : Store where
  Db := Db
  Lock := Lock
  Write := Write
  Stmt := Stmt
  Ans := Stmt.Ans
  Inp := Inp
  Err := PgError
  Fault := String
  fault := .fault
  decLock := inferInstance
  exec := exec
  locks := locks
  apply := Db.apply
  guards := Write.guards
  exec_guarded := exec_guarded

end VirtueStack.Tasks
