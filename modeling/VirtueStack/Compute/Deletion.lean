import VirtueStack.Compute.Moves
import VirtueStack.Txn.Faults

/-!
# vm.delete, with the client of the agents and the hook of the billing provider

The handler of `VMTasks` (tasks/handlers_vm_delete.go) over a store in which a call of `DeleteVM` is
what the client does (services/node_agent_vm.go): read the node, connect, read the VM, send the
request. Every step has errors of its own, and all of them reach `isAlreadyAbsent`.

* `Write` what the controller and the agents write, and two entries of the log that change nothing:
  the client has the answer of the agent that there is no domain (any more), and the hook is called;
* `Status` a gRPC status, and what a request can fail with;
* `agentDeleteVM` the method of the agent (nodeagent/server.go), with the status it answers.

The hook is a function of the controller: it is called or not, and an error is its answer.
-/

namespace VirtueStack.Compute.Deletion
open Txn Call

/-! ## the store -/

structure Customer where
  id : String
  isDeleted : Bool
  billingProvider : Option String

/-- `billing.VMRef` -/
structure VMRef where
  id : String
  customerID : String
  planID : String
  hostname : String
  deriving DecidableEq

structure Db where
  main : Compute.Db
  customers : List Customer

inductive Write where
  | db (w : Compute.Write)
  | confirmed (node vm : String)
  | hook (ref : VMRef)

def Db.apply (db : Db) : Write → Db
  | .db w => { db with main := db.main.apply w }
  | .confirmed _ _ => db
  | .hook _ => db

structure Status where
  code : Code
  message : String

inductive Err where
  | pg (e : PgError)
  | failed (status : Status)

/-- the error of the driver of the database -/
def Err.pgError : Err → PgError
  | .pg e => e
  | .failed status => .fault status.message

def Status.error (status : Status) : GoError := .rpc status.code status.message

inductive Stmt where
  | db (q : Compute.Stmt)
  | connect (node : String)
  | deleteVM (node : String) (req : DeleteVMRequest)
  | getCustomer (id : String)
  | onVMDeleted (ref : VMRef)

@[reducible] def Stmt.Ans : Stmt → Type
  | .db q => q.Ans
  | .connect _ => Unit
  | .deleteVM _ _ => Except Status Unit
  | .getCustomer _ => Option Customer
  | .onVMDeleted _ => Except String Unit

structure Inp where
  main : Compute.Inp
  /-- what `validatePath` says of a path that it refuses -/
  pathError : String
  /-- the answer of the agent is lost, and the client gets this status in its place -/
  lost : Option Status
  hook : Except String Unit

def diskName (backend : String) : String :=
  if backend = storageBackendQcow then "QCOW" else if backend = storageBackendLvm then
    "LVM" else "RBD"

def diskStatus (h : Hosts) (x : Inp) (node : String) (req : DeleteVMRequest) : Status :=
  let backend := h.backendOf node req.storageBackend
  if backend = storageBackendQcow ∧ req.diskPath ≠ "" ∧
    (h.config node).allowsPath req.diskPath = false
  then ⟨.invalidArgument, "invalid disk_path: " ++ x.pathError⟩
  else ⟨.internal, "deleting " ++ diskName backend ++ " disk failed"⟩

def undefineStatus (vmID : String) : Status :=
  if vmID = "" then ⟨.invalidArgument, vmRequired⟩ else ⟨.internal, "deleting VM domain failed"⟩

def agentDeleteVM (h : Hosts) (x : Inp) (node : String) (req : DeleteVMRequest) :
    Except Status Unit × List HostWrite :=
  match h.undefineVM x.main.broken node req.vmID with
  | (.error _, ws) => (.error (undefineStatus req.vmID), ws)
  | (.ok _, ws) =>
    match h.removeDisk x.main.broken node req with
    | (.error _, ws') => (.error (diskStatus h x node req), ws ++ ws')
    | (.ok _, ws') => (.ok (), ws ++ ws')

/-- what the client gets, and the entry of the log for the answer that there is no domain -/
def delivered (x : Inp) (node vm : String) (answer : Except Status Unit) :
    Except Status Unit × List Write :=
  match x.lost, answer with
  | some status, _ => (.error status, [])
  | none, .error status => (.error status, [])
  | none, .ok _ => (.ok (), [.confirmed node vm])

def exec : (q : Stmt) → Inp → Inp → Db → Except Err (q.Ans × List Write)
  | .db q, x₀, x, db =>
    match Compute.exec q x₀.main x.main db.main with
    | .ok (a, ws) => .ok (a, ws.map .db)
    | .error e => .error (.pg e)
  | .connect _, _, _, _ => .ok ((), [])
  | .deleteVM node req, _, x, db =>
    let (answer, ws) := agentDeleteVM db.main.hosts x node req
    .ok ((delivered x node req.vmID answer).1,
      ws.map (fun w => .db (.host w)) ++ (delivered x node req.vmID answer).2)
  | .getCustomer id, _, _, db =>
      .ok (db.customers.find? fun c => c.id = id ∧ c.isDeleted = false, [])
  | .onVMDeleted ref, _, x, _ => .ok (x.hook, [.hook ref])

@[reducible] def store : Store where
  Db := Db
  Lock := Empty
  Write := Write
  Stmt := Stmt
  Ans := Stmt.Ans
  Inp := Inp
  Err := Err
  Fault := Status
  fault := .failed
  decLock := inferInstance
  exec := exec
  locks := fun _ _ _ => []
  apply := Db.apply
  guards := fun _ => []
  exec_guarded := fun _ _ _ _ _ _ _ _ _ _ hl => hl

/-! ## the calls of the controller -/

abbrev Op (α : Type) : Type := Call store GoError α

variable {α : Type}

/-- a program of the controller in this store; the database has no gRPC status -/
def embed : Prog Compute.store α → Prog store α
  | .ret a => .ret a
  | .req (.run q) k => .req (.run (.db q)) fun r => embed (k (Except.mapError Err.pgError r))
  | .req .begin k => .req .begin fun r => embed (k (Except.mapError Err.pgError r))
  | .req .commit k => .req .commit fun r => embed (k (Except.mapError Err.pgError r))
  | .req .rollback k => .req .rollback fun r => embed (k r)

def ofDb (c : Compute.Op α) : Op α := embed c

namespace Op

/-- how a call goes on whose error gets a context -/
def withContext (context : String) : Except GoError α → Op α
  | .ok a => .pure a
  | .error e => fail (.wrap context e)

def wrapping (context : String) (c : Op α) : Op α := attempt c (withContext context)

def logged (c : Op α) : Op Unit := attempt c fun _ => .pure ()

end Op

/-! ## the client of the agents -/

namespace NodeAgent

def getConnection (nodeID : String) : Op Unit :=
  stmt (S := store) (.connect nodeID) fun e =>
    .wrap ("creating connection to node " ++ nodeID) (.new e.pgError.text)

def answered : Except Status Unit → Op Unit
  | .ok _ => .pure ()
  | .error status => fail (.wrap "calling DeleteVM" status.error)

def statusOf : Err → GoError
  | .pg e => .pg e
  | .failed status => status.error

/-- the request itself; an agent that answers, answers with success or with a status -/
def callDeleteVM (nodeID : String) (req : DeleteVMRequest) : Op Unit := do
  let answer ← stmt (S := store) (.deleteVM nodeID req) fun e =>
    .wrap "calling DeleteVM" (statusOf e)
  answered answer

def deleteVMRequest (vmID : String) : Op DeleteVMRequest := do
  let vm ← Op.wrapping ("getting VM " ++ vmID) (ofDb (VMRepository.getByIDIncludingDeleted vmID))
  return vm.deleteVMRequest

def deleteVM (nodeID vmID : String) : Op Unit := do
  let _ ← Op.wrapping ("getting node " ++ nodeID) (ofDb (NodeRepository.getByID nodeID))
  Op.wrapping ("connecting to node " ++ nodeID) (getConnection nodeID)
  let req ← deleteVMRequest vmID
  callDeleteVM nodeID req

end NodeAgent

/-! ## the hook -/

def getCustomer (id : String) : Op Customer := do
  match ← stmt (S := store) (.getCustomer id) fun e => .wrap ("getting customer " ++ id)
    (.pg e.pgError) with
  | some customer => return customer
  | none => fail (.wrap ("getting customer " ++ id) (.sentinel .notFound))

def forCustomer (registered : String → Bool) (provider : String) : Except GoError Unit :=
  if registered provider then .ok ()
  else .error (.new ("billing provider " ++ quoted provider ++ " not registered"))

def billingHook (registered : String → Bool) (customerID : String) : Op Unit := do
  let customer ← Op.wrapping ("getting customer " ++ customerID) (getCustomer customerID)
  ofDb (Compute.Op.lift (forCustomer registered (customer.billingProvider.getD "")))

def VMRef.ofVM (vm : VM) : VMRef := ⟨vm.id, vm.customerID, vm.planID, vm.hostname⟩

def callHook (vm : VM) : Op Unit :=
  Op.logged (stmt (S := store) (.onVMDeleted (.ofVM vm)) fun e => .pg e.pgError)

/-- a customer without a provider that is registered has no hook, and that is only logged -/
def hookIfFound (vm : VM) : Except GoError Unit → Op Unit
  | .ok _ => callHook vm
  | .error _ => .pure ()

variable (providers : Option (String → Bool))

/-- `providers` is what is registered, if there are hooks at all -/
def notifyBilling (vm : VM) : Op Unit :=
  match providers with
  | none => .pure ()
  | some registered => attempt (billingHook registered vm.customerID) (hookIfFound vm)

/-! ## the handler -/

def deletion : VMDeletion store := ⟨ofDb, NodeAgent.deleteVM, notifyBilling providers⟩

def handleVMDelete (taskID : String) (doc : Json) : Op Unit :=
  (deletion providers).handle taskID doc

end VirtueStack.Compute.Deletion
