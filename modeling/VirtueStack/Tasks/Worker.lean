import VirtueStack.Tasks.Store

/-!
# The task worker and the stuck-task scanner (tasks/worker.go, repository/task_repo.go)

* `processMessage` one delivery: the task is set to running, the handler is called, and the
  task is set to completed or failed;
* `recoverStuckTasks` one pass of the scanner: the stuck tasks are read, then each of them is reset
  or set to failed;
* `TaskSession` a delivery of a message to a worker, or a pass of the scanner.

Logging and metrics are left out.
-/

namespace VirtueStack.Tasks
open Txn Call

abbrev Op (α : Type) : Type := Call store GoError α

def Op.query (q : Stmt) (context : String) : Op q.Ans :=
  stmt (S := store) q fun e => .wrap context (.pg e)

/-! ## the worker -/

def maxTaskRetries : Int := 3

def handlerTimeout : Int := 300 * second

def nakDelays : List Int := [10 * second, 60 * second, 300 * second]

/-- the last delay for all later deliveries -/
def nakDelay (numDelivered : Nat) : Int :=
  nakDelays.getD (min (numDelivered - 1) (nakDelays.length - 1)) 0

def updateTaskStatus (deadline : Int) (id : String) (status : TaskStatus)
    (result errMsg : Option String) : Op Unit :=
  Op.query (.updateStatus id status result errMsg deadline) "updating task status"

def Message.ack (msg : Message) : Op Unit := Op.query (.ack msg.seq) "ack"

def Message.nak (msg : Message) : Op Unit :=
  Op.query (.nakWithDelay msg.seq (nakDelay msg.numDelivered)) "nak"

/-- the handler, with the result it leaves in the task -/
def runHandler (id : String) : Op (Option String) := do
  stmt (S := store) (.callHandler id) GoError.pg
  match ← stmt (S := store) .handlerReturn GoError.pg with
  | .ok result => return result
  | .error text => fail (.new text)

/-- what follows the handler; the errors of the status update and of the acknowledgement are
logged -/
def finishTask (msg : Message) (id : String) (deadline : Int) :
    Except GoError (Option String) → Op Unit
  | .error e =>
    attempt (updateTaskStatus deadline id .failed none (some e.text)) fun _ =>
      attempt msg.nak fun _ => fail e
  | .ok result =>
    attempt (updateTaskStatus deadline id .completed result none) fun _ =>
      attempt msg.ack fun _ => .pure ()

def processTask (handlers : List String) (msg : Message) (task : TaskData) (deadline : Int) :
    Op Unit :=
  attempt (updateTaskStatus deadline task.id .running none none) fun
    | .error e => attempt msg.nak fun _ => fail e
    | .ok _ =>
      if task.type ∈ handlers then
        attempt (runHandler task.id) (finishTask msg task.id deadline)
      else
        attempt (updateTaskStatus deadline task.id .failed none
          (some ("no handler registered for task type: " ++ task.type))) fun _ =>
          attempt msg.ack fun _ => .pure ()

def processMessage (handlers : List String) (msg : Message) : Op Unit :=
  match msg.data with
  | none => attempt msg.ack fun _ => .pure ()
  | some task => do
    let now ← Op.query .timeNow "time"
    processTask handlers msg task (now + handlerTimeout)

/-! ## the scanner -/

def stuckTaskRecoveredMessage : String := "stuck task recovered after timeout"

/-- an update without a row is an error -/
def affecting (context : String) (q : Op Bool) : Op Unit := do
  if ← q then return ()
  else fail (.wrap context (.sentinel .noRowsAffected))

def setFailed (id errorMessage : String) : Op Unit :=
  let context := "setting task " ++ id ++ " failed"
  affecting context (Op.query (.setFailed id errorMessage) context)

def resetTask (id : String) : Op Unit :=
  let context := "resetting task " ++ id
  affecting context (Op.query (.resetTask id) context)

def findStuckTasks (threshold : Int) : Op (List Task) :=
  Op.query (.stuckTasks threshold) "finding stuck tasks"

/-- an error for one task is logged; the pass goes on with the next -/
def recoverTasks : List Task → Op Unit
  | [] => .pure ()
  | task :: tasks =>
    attempt (if maxTaskRetries ≤ task.retryCount then
      setFailed task.id stuckTaskRecoveredMessage else resetTask task.id) fun _ =>
        recoverTasks tasks

def recoverStuckTasks (threshold : Int) : Op Unit :=
  attempt (findStuckTasks threshold) fun
    | .error _ => .pure ()
    | .ok tasks => recoverTasks tasks

/-! ## sessions -/

inductive TaskSession where
  | delivery (seq : Nat)
  | scan (threshold : Int)

def TaskSession.run (handlers : List String) : TaskSession → Op Unit
  | .delivery seq => do
    let msg ← stmt (S := store) (.deliver seq) GoError.pg
    processMessage handlers msg
  | .scan threshold => recoverStuckTasks threshold

end VirtueStack.Tasks
