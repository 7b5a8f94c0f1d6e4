import VirtueStack.Agent.Handlers
import VirtueStack.Compute.Store
import VirtueStack.Txn.Embed

/-!
# Backups: the rows of the controller and the storage of the nodes

* `Backup` the rows (models/backup.go, repository/backup_repo.go);
* `Db` the tables, the host of every node, and what has happened in the guests. RBD images
  are on all hosts at once;
* `Stmt` one statement for each method of a repository, for each command of an agent, and for
  the two ends of a call of an agent: the request arrives, the answer comes back;
* `GuestCommand` the commands for the agent inside a guest that freeze and thaw its file systems.

A row of `backups` has to meet the checks of its columns (migrations/000037, 000065): the source is
one of three texts, and the method is set.
-/

set_option linter.dupNamespace false

namespace VirtueStack.Backup
open Txn

/-! ## rows -/

/-- `Backup.Method`, a text that is empty unless it is set -/
inductive BackupMethod where
  | unset
  | full
  | snapshot
  deriving DecidableEq, Repr

inductive BackupStatus where
  | creating
  | completed
  | failed
  | restoring
  | deleted
  deriving DecidableEq, Repr

def BackupStatus.text : BackupStatus → String
  | .creating => "creating"
  | .completed => "completed"
  | .failed => "failed"
  | .restoring => "restoring"
  | .deleted => "deleted"

structure Backup where
  id : String
  vmID : String
  method : BackupMethod
  source : String
  adminScheduleID : Option String
  storageBackend : String
  rbdSnapshot : Option String
  filePath : Option String
  snapshotName : Option String
  storagePath : Option String
  sizeBytes : Option Int
  status : BackupStatus
  createdAt : Int
  expiresAt : Option Int
  deriving DecidableEq, Repr

def Backup.keys (b : Backup) : List String := [b.id]

def backupSources : List String := ["manual", "customer_schedule", "admin_schedule"]
def storageBackends : List String := ["ceph", "qcow", "lvm"]

/-- the checks of the columns of `backups` -/
def Backup.Checked (b : Backup) : Prop :=
  b.method ≠ .unset ∧ b.source ∈ backupSources ∧ b.storageBackend ∈ storageBackends

instance (b : Backup) : Decidable b.Checked := inferInstanceAs (Decidable (_ ∧ _ ∧ _))

/-! ## the state -/

inductive GuestCommand where
  | freeze
  | thaw
  deriving DecidableEq, Repr

/-- a command has taken effect in a guest -/
structure GuestEvent where
  node : String
  domain : String
  command : GuestCommand
  deriving DecidableEq, Repr

structure Db where
  vms : Table Compute.VM.keys
  nodes : Table Compute.Node.keys
  backups : Table Backup.keys
  hosts : String → Agent.Host
  guests : List GuestEvent

inductive Write where
  | insertBackup (b : Backup)
  | deleteBackup (id : String)
  | host (node : String) (w : Agent.Write)
  | guest (event : GuestEvent)

/-- an RBD image is the same on every host -/
def isShared : Agent.Write → Bool
  | .object (.image _ _) _ => true
  | _ => false

def applyHost (hosts : String → Agent.Host) (node : String) (w : Agent.Write) (n : String) :
    Agent.Host :=
  if n = node ∨ isShared w = true then (hosts n).apply w else hosts n

def Db.apply (db : Db) : Write → Db
  | .insertBackup b => { db with backups := db.backups.insert b }
  | .deleteBackup id => { db with backups := db.backups.filter fun b => b.id ≠ id }
  | .host node w => { db with hosts := applyHost db.hosts node w }
  | .guest event => { db with guests := db.guests ++ [event] }

/-! ## statements -/

inductive Stmt where
  -- the process of the controller
  | now
  /-- a line of the log: a clean-up has failed -/
  | cleanupFailed (operation : String)
  -- repositories
  | getVM (id : String)
  | getVMIncludingDeleted (id : String)
  | getNode (id : String)
  | updateProgress (id : String) (progress : Int) (message : String)
  | setCompleted (id : String)
  | createBackup (b : Backup)
  | getBackup (id : String)
  | listBackupsByVM (vmID : String)
  | listExpiredBackups (now : Int)
  | deleteBackup (id : String)
  -- the agents
  | connect (node : String)
  | agent (node : String) (q : Agent.Cmd)
  /-- the client is asked to freeze or to thaw: nothing is done yet -/
  | guestCall (event : GuestEvent)
  | guest (event : GuestEvent)
  | reply (node : String)

@[reducible] def Stmt.Ans : Stmt → Type
  | .now => Int × String
  | .getVM _ => Option Compute.VM
  | .getVMIncludingDeleted _ => Option Compute.VM
  | .getNode _ => Option Compute.Node
  | .createBackup _ => Backup
  | .getBackup _ => Option Backup
  | .listBackupsByVM _ => List Backup
  | .listExpiredBackups _ => List Backup
  | .deleteBackup _ => Bool
  | .agent _ q => q.Ans
  | .guest _ => Except String Int
  | _ => Unit

structure Inp where
  host : Agent.Inp
  /-- seconds since the epoch -/
  now : Int
  /-- the time in the layout `20060102-150405` -/
  stamp : String
  /-- an id that is generated -/
  fresh : String
  /-- a command takes effect in the guest -/
  effect : Bool
  /-- the answer of the agent in the guest: the number of file systems -/
  guest : Except String Int

inductive Err where
  | pg (e : PgError)
  | agent (e : Agent.Err)
  | failed (text : String)

def Err.agentErr : Err → Agent.Err
  | .pg e => .failed e.text
  | .agent e => e
  | .failed text => .failed text

def Err.error : Err → GoError
  | .pg e => .pg e
  | .agent e => e.error
  | .failed text => .pg (.fault text)

def checkViolation : PgError := .fault "new row for relation \"backups\" violates check constraint"

/-! ## what a statement does -/

namespace Db

def vm (db : Db) (id : String) : Option Compute.VM :=
  (db.vms.find id).filter fun vm => vm.deletedAt.isNone

variable (db : Db)

/-- `INSERT INTO backups`: the id and the time of the row are defaults of their columns -/
def insertBackup (db : Db) (b : Backup) (x : Inp) : Except Err (Backup × List Write) :=
  let row : Backup := { b with id := x.fresh, createdAt := x.now }
  if b.Checked then
    if (db.backups.find x.fresh).isSome then .error (.pg (.uniqueViolation "backups_pkey"))
    else .ok (row, [.insertBackup row])
  else .error (.pg checkViolation)

/-- `ORDER BY created_at DESC` -/
def backupsByVM (vmID : String) : List Backup :=
  (db.backups.rows.filter fun b => b.vmID = vmID).insertionSort fun a b => b.createdAt ≤ a.createdAt

/-- `ORDER BY expires_at ASC` -/
def expiredBackups (now : Int) : List Backup :=
  (db.backups.rows.filter fun b => ∃ t ∈ b.expiresAt, t ≤ now).insertionSort
    fun a b => a.expiresAt.getD 0 ≤ b.expiresAt.getD 0

/-- the agent of a guest is asked through the process of its domain -/
def guestCommand (event : GuestEvent) (x : Inp) : Except Err (Except String Int × List Write) :=
  match (db.hosts event.node).domains event.domain with
  | none => .error (.agent .noDomain)
  | some d =>
    if d.qemu then .ok (x.guest, if x.effect then [.guest event] else [])
    else .error (.agent (.failed "domain is not running"))

end Db

/-- a command of an agent, on the host of its node -/
def execAgent (node : String) (q : Agent.Cmd) (x₀ x : Inp) (db : Db) :
    Except Err (q.Ans × List Write) :=
  match Agent.exec q x₀.host x.host (db.hosts node) with
  | .ok (a, ws) => .ok (a, ws.map (.host node))
  | .error e => .error (.agent e)

def exec : (q : Stmt) → Inp → Inp → Db → Except Err (q.Ans × List Write)
  | .now, _, x, _ => .ok ((x.now, x.stamp), [])
  | .cleanupFailed _, _, _, _ => .ok ((), [])
  | .getVM id, _, _, db => .ok (db.vm id, [])
  | .getVMIncludingDeleted id, _, _, db => .ok (db.vms.find id, [])
  | .getNode id, _, _, db => .ok (db.nodes.find id, [])
  | .updateProgress _ _ _, _, _, _ => .ok ((), [])
  | .setCompleted _, _, _, _ => .ok ((), [])
  | .createBackup b, _, x, db => db.insertBackup b x
  | .getBackup id, _, _, db => .ok (db.backups.find id, [])
  | .listBackupsByVM vmID, _, _, db => .ok (db.backupsByVM vmID, [])
  | .listExpiredBackups now, _, _, db => .ok (db.expiredBackups now, [])
  | .deleteBackup id, _, _, db => .ok ((db.backups.find id).isSome, [.deleteBackup id])
  | .connect _, _, _, _ => .ok ((), [])
  | .agent node q, x₀, x, db => execAgent node q x₀ x db
  | .guestCall _, _, _, _ => .ok ((), [])
  | .guest event, _, x, db => db.guestCommand event x
  | .reply _, _, _, _ => .ok ((), [])

@[reducible] def store : Store where
  Db := Db
  Lock := Empty
  Write := Write
  Stmt := Stmt
  Ans := Stmt.Ans
  Inp := Inp
  Err := Err
  Fault := String
  fault := .failed
  decLock := inferInstance
  exec := exec
  locks := fun _ _ _ => []
  apply := Db.apply
  guards := fun _ => []
  exec_guarded := fun _ _ _ _ _ _ _ _ _ _ hl => hl

/-! ## the host of a node -/

/-- the outcome of a statement as an outcome of the host -/
def hostEvent : Event store → Event Agent.store
  | .ok x => .ok x.host
  | .fail text => .fail text

lemma hosts_view_host (node : String) (ws : List Agent.Write) (db : Db) :
    (store.view db (ws.map (.host node))).hosts node = Agent.store.view (db.hosts node) ws := by
  induction ws generalizing db with
  | nil => rfl
  | cons w ws ih =>
    rw [List.map_cons, Store.view_cons, Store.view_cons, ih]
    exact congrArg (fun h => Agent.store.view h ws) (if_pos (.inl rfl))

lemma answer_agent (node : String) (q : Agent.Cmd) (db : Db) (e : Event store) :
    (store.answer (.agent node q) db e).1.mapError Err.agentErr =
        (Agent.store.answer q (db.hosts node) (hostEvent e)).1 ∧
          (store.answer (.agent node q) db e).2 =
        (Agent.store.answer q (db.hosts node) (hostEvent e)).2.map (.host node) := by
  cases e with
  | fail text => exact ⟨rfl, rfl⟩
  | ok x =>
    simp only [Store.answer, hostEvent, exec, execAgent]
    cases Agent.exec q x.host x.host (db.hosts node) with
    | ok r | error err => exact ⟨rfl, rfl⟩

/-- **The host of one node is a part of the whole.** -/
def onNode (node : String) : Part Agent.store store where
  stmt := .agent node
  reply _ r := r.mapError Err.agentErr
  db := fun db => db.hosts node
  event := hostEvent
  reply_answer q db e := (answer_agent node q db e).1
  db_view q db e := by
    rw [(answer_agent node q db e).2]
    exact hosts_view_host node _ db

end VirtueStack.Backup
