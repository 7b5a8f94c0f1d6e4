import VirtueStack.Compute.Hosts
import VirtueStack.Compute.Payloads
import VirtueStack.Shared.Pagination
import VirtueStack.Tasks.Store
import VirtueStack.Txn.Does

/-!
# The database of the controller, and the hosts behind it

One statement for each method of the repositories (repository/vm_repo.go, node_repo.go,
task_repo.go, ip_repo.go) and for each method of the client of the node agents
(services/node_agent_*.go).

* `Db` the tables that the operations on a VM use, and the hosts;
* `VMUpdate` the `UPDATE`s of a row of `vms`; they all leave a deleted VM alone;
* `AgentCall` the calls of the agents. The client first reads the node, and the VM where the request
  needs it;
* `Stmt` every method is one statement: those with a transaction of their own too;
* `Inp` the clock, what is generated, what breaks on a host, and whether the answer of an agent
  is lost after the agent has done its work.

`TaskRepository.List` selects a column more than it scans, so it fails on the first row it finds.
The progress of a task is written to columns that nothing here reads.
-/

namespace VirtueStack.Compute
open Txn
open Billing (VMStatus)

/-! ## rows and their keys -/

inductive TaskType where
  | vmCreate
  | vmDelete
  | vmReinstall
  | vmMigrate
  | vmResize
  deriving DecidableEq, Repr

structure Task where
  id : String
  type : TaskType
  status : Tasks.TaskStatus
  payload : Json
  idempotencyKey : Option String

def VM.keys (vm : VM) : List String := [vm.id]
def Node.keys (node : Node) : List String := [node.id]
def Task.keys (t : Task) : List String := [t.id]
def IPAddress.keys (ip : IPAddress) : List String := [ip.id]

structure Db where
  vms : Table VM.keys
  nodes : Table Node.keys
  tasks : Table Task.keys
  plans : List Plan
  templates : List Template
  templateCache : List TemplateCacheEntry
  /-- the storage backends assigned to a node -/
  backends : String → List StorageBackend
  ipSets : List IPSet
  ips : Table IPAddress.keys
  prefixes : List IPv6Prefix
  subnets : List VMIPv6Subnet
  hosts : Hosts

inductive Write where
  | insertVM (vm : VM)
  | putVM (vm : VM)
  | putNode (node : Node)
  | insertTask (t : Task)
  | putTask (t : Task)
  | putIP (ip : IPAddress)
  | insertSubnet (s : VMIPv6Subnet)
  | deleteSubnets (vmID : String)
  | host (w : HostWrite)

def Db.apply (db : Db) : Write → Db
  | .insertVM vm => { db with vms := db.vms.insert vm }
  | .putVM vm => { db with vms := db.vms.put vm }
  | .putNode node => { db with nodes := db.nodes.put node }
  | .insertTask t => { db with tasks := db.tasks.insert t }
  | .putTask t => { db with tasks := db.tasks.put t }
  | .putIP ip => { db with ips := db.ips.put ip }
  | .insertSubnet s => { db with subnets := db.subnets ++ [s] }
  | .deleteSubnets vmID => { db with subnets := db.subnets.filter fun s => s.vmID ≠ vmID }
  | .host w => { db with hosts := db.hosts.apply w }

/-! ## updates of a VM -/

inductive VMUpdate where
  | status (status : VMStatus)
  | transition (src dst : VMStatus)
  | node (nodeID : String)
  | resources (vcpu memoryMB diskGB : Int)
  | plan (planID : String)
  | template (templateID : String)
  | macAddress (macAddress : String)
  | softDelete
  deriving DecidableEq, Repr

/-- the condition of the `UPDATE` -/
def VMUpdate.applies (u : VMUpdate) (vm : VM) : Bool :=
  vm.deletedAt.isNone &&
    match u with
    | .transition src _ => vm.status = src
    | _ => true

def VMUpdate.set (u : VMUpdate) (now : Int) (vm : VM) : VM :=
  match u with
  | .status st => { vm with status := st }
  | .transition _ dst => { vm with status := dst }
  | .node nodeID => { vm with nodeID := some nodeID }
  | .resources vcpu memoryMB diskGB =>
      { vm with vcpu := vcpu, memoryMB := memoryMB, diskGB := diskGB }
  | .plan planID => { vm with planID := planID }
  | .template templateID => { vm with templateID := some templateID }
  | .macAddress mac => { vm with macAddress := mac }
  | .softDelete => { vm with deletedAt := some now, status := .deleted }

/-! ## queries -/

def Db.vm (db : Db) (id : String) : Option VM :=
  (db.vms.find id).filter fun vm => vm.deletedAt.isNone

variable (db : Db)

def Db.vmByExternalServiceID (serviceID : Int) : Option VM :=
  db.vms.rows.find? fun vm => vm.externalServiceID = some serviceID ∧ vm.deletedAt = none

/-- the first page of a list `ORDER BY id DESC`, which is fetched with one row more -/
def firstPage {α : Type} (id : α → String) (perPage : Nat) (rows : List α) : List α :=
  (trimPage perPage ((rows.insertionSort fun a b => id b ≤ id a).take (perPage + 1))).1

def defaultPerPage : Nat := 20
def maxPerPage : Nat := 100

def Db.listIPAddresses (vmID : String) : List IPAddress :=
  firstPage (·.id) defaultPerPage (db.ips.rows.filter fun ip => ip.vmID = some vmID)

def Db.listIPSets (locationID : String) (ipVersion : Int) (perPage : Nat) : List IPSet :=
  firstPage (·.id) perPage
    (db.ipSets.filter fun s => s.locationID = some locationID ∧ s.ipVersion = ipVersion)

def Db.listNodes (status : NodeStatus) (perPage : Nat) : List Node :=
  firstPage (·.id) perPage (db.nodes.rows.filter fun n => n.status = status)

def Db.listVMs (nodeID : String) (perPage : Nat) : List VM :=
  firstPage (·.id) perPage
    (db.vms.rows.filter fun vm => vm.nodeID = some nodeID ∧ vm.deletedAt = none)

/-- `ORDER BY hostname ASC` -/
def Db.nodesByStatus (status : NodeStatus) : List Node :=
  (db.nodes.rows.filter fun n => n.status = status).insertionSort fun a b => a.hostname ≤ b.hostname

/-- the first address of the set that is available, `ORDER BY address ASC` -/
def Db.availableIP (ipSetID : String) : Option IPAddress :=
  ((db.ips.rows.filter fun ip => ip.ipSetID = ipSetID ∧ ip.status = .available).insertionSort
    fun a b => a.address ≤ b.address).head?

/-- `COALESCE(MAX(subnet_index), -1) + 1` -/
def Db.nextSubnetIndex (prefixID : String) : Int :=
  (db.subnets.filter fun s => s.ipv6PrefixID = prefixID).foldl
    (fun n s => max n (s.subnetIndex + 1)) 0

/-! ## the agents -/

inductive AgentCall where
  | createVM (req : CreateVMRequest)
  | reinstallVM (req : CreateVMRequest)
  | deleteVM (vmID : String)
  | deleteDisk (vmID : String)
  | startVM (vmID : String)
  | stopVM (vmID : String)
  | forceStopVM (vmID : String)
  | undefineVM (vmID : String)
  | resizeVM (vmID : String) (vcpu memoryMB diskGB : Int)
  | createSnapshot (vmID name : String)
  | deleteSnapshot (vmID name : String)
  | transferDisk (opts : DiskTransferOptions)
  | prepareMigratedVM (vmID diskPath storageBackend : String)
  | postMigrateSetup (vmID : String)
  | migrateVM (vmID target : String)
  | abortMigration (vmID : String)

structure Inp where
  now : Int
  /-- an id, a MAC address or the name of a snapshot -/
  fresh : String
  broken : HostOp → Bool
  lost : Bool

/-- a request that names the VM by its row, deleted or not -/
def Db.withVM (vmID : String) (f : VM → HostResult) : HostResult :=
  match db.vms.find vmID with
  | some vm => f vm
  | none => (.error ("getting VM " ++ vmID ++ ": getting VM " ++ vmID ++
      " including deleted: resource not found"), [])

/-- a request to the agent of a node, or one that names a second node -/
def Db.withNode (nodeID : String) (r : HostResult) : HostResult :=
  match db.nodes.find nodeID with
  | some _ => r
  | none => (.error ("getting node " ++ nodeID ++ ": getting node " ++ nodeID ++
      ": resource not found"), [])

def Db.rpc (x : Inp) (node : String) (call : AgentCall) : HostResult :=
  db.withNode node <|
    match call with
    | .createVM req => db.hosts.createVM x.broken node req
    | .reinstallVM req => db.hosts.reinstallVM x.broken node req
    | .deleteVM vmID => db.withVM vmID fun vm => db.hosts.deleteVM x.broken node vm.deleteVMRequest
    | .deleteDisk vmID => db.withVM vmID fun vm =>
        db.hosts.deleteDisk x.broken node vm.deleteVMRequest
    | .startVM vmID => db.hosts.startVM x.broken node vmID
    | .stopVM vmID => db.hosts.stopVM x.broken node vmID
    | .forceStopVM vmID => db.hosts.forceStopVM x.broken node vmID
    | .undefineVM vmID => db.hosts.undefineVM x.broken node vmID
    | .resizeVM vmID _ _ _ => Hosts.unaffected x.broken vmID
    | .createSnapshot vmID name => db.hosts.createSnapshot x.broken node vmID x.fresh name
    | .deleteSnapshot vmID name => db.hosts.deleteSnapshot x.broken node vmID name
    | .transferDisk opts => db.withNode opts.targetNodeID (db.hosts.transferDisk x.broken opts)
    | .prepareMigratedVM vmID diskPath storageBackend =>
      db.hosts.prepareMigratedVM x.broken node vmID storageBackend diskPath
    | .postMigrateSetup vmID => Hosts.unaffected x.broken vmID
    | .migrateVM vmID target => db.withNode target (db.hosts.migrateVM x.broken node vmID target)
    | .abortMigration vmID => Hosts.unaffected x.broken vmID

/-! ## statements -/

inductive Stmt where
  | getVM (id : String)
  | getVMIncludingDeleted (id : String)
  | getVMByExternalServiceID (serviceID : Int)
  | listVMs (nodeID : String) (perPage : Nat)
  | createVM (vm : VM)
  | updateVM (id : String) (u : VMUpdate)
  | getNode (id : String)
  | listNodes (status : NodeStatus) (perPage : Nat)
  | nodesByStatus (status : NodeStatus)
  | updateNodeStatus (id : String) (status : NodeStatus)
  | incrementAllocated (id : String) (vcpu memoryMB : Int)
  | decrementAllocated (id : String) (vcpu memoryMB : Int)
  | getPlan (id : String)
  | getTemplate (id : String)
  | getTemplateCache (templateID nodeID : String)
  | getBackends (nodeID : String) (type : String)
  | createTask (type : TaskType) (payload : Json) (idempotencyKey : Option String)
  | getTask (id : String)
  | getTaskByIdempotencyKey (key : String)
  | listTasks (type : TaskType)
  | updateProgress (id : String) (progress : Int) (message : String)
  | setCompleted (id : String)
  | listIPSets (locationID : String) (ipVersion : Int) (perPage : Nat)
  | allocateIPv4 (ipSetID vmID customerID : String)
  | listIPAddresses (vmID : String)
  | releaseIPv4 (id : String)
  | getIPv6Prefix (nodeID : String)
  | createIPv6Subnet (vmID prefixID : String)
  | deleteIPv6Subnets (vmID : String)
  | generateMACAddress
  | agent (node : String) (call : AgentCall)

@[reducible] def Stmt.Ans : Stmt → Type
  | .getVM _ => Option VM
  | .getVMIncludingDeleted _ => Option VM
  | .getVMByExternalServiceID _ => Option VM
  | .listVMs _ _ => List VM
  | .createVM _ => VM
  | .updateVM _ _ => Bool
  | .getNode _ => Option Node
  | .listNodes _ _ => List Node
  | .nodesByStatus _ => List Node
  | .updateNodeStatus _ _ => Bool
  | .incrementAllocated _ _ _ => Bool
  | .decrementAllocated _ _ _ => Bool
  | .getPlan _ => Option Plan
  | .getTemplate _ => Option Template
  | .getTemplateCache _ _ => Option TemplateCacheEntry
  | .getBackends _ _ => List StorageBackend
  | .createTask _ _ _ => String
  | .getTask _ => Option Task
  | .getTaskByIdempotencyKey _ => Option Task
  | .listTasks _ => List Task
  | .updateProgress _ _ _ => Bool
  | .setCompleted _ => Bool
  | .listIPSets _ _ _ => List IPSet
  | .allocateIPv4 _ _ _ => Option IPAddress
  | .listIPAddresses _ => List IPAddress
  | .releaseIPv4 _ => Bool
  | .getIPv6Prefix _ => Option IPv6Prefix
  | .createIPv6Subnet _ _ => Except String VMIPv6Subnet
  | .deleteIPv6Subnets _ => Unit
  | .generateMACAddress => String
  | .agent _ _ => Except String Unit

def StorageType.text : StorageType → String
  | .ceph => "ceph"
  | .qcow => "qcow"
  | .lvm => "lvm"

/-- rows affected, and the row after the update -/
def Db.updateVM (id : String) (u : VMUpdate) (now : Int) : Bool × List Write :=
  match (db.vms.find id).filter u.applies with
  | some vm => (true, [.putVM (u.set now vm)])
  | none => (false, [])

def exec : (q : Stmt) → Inp → Inp → Db → Except PgError (q.Ans × List Write)
  | .getVM id, _, _, db => .ok (db.vm id, [])
  | .getVMIncludingDeleted id, _, _, db => .ok (db.vms.find id, [])
  | .getVMByExternalServiceID serviceID, _, _, db => .ok (db.vmByExternalServiceID serviceID, [])
  | .listVMs nodeID perPage, _, _, db => .ok (db.listVMs nodeID perPage, [])
  | .createVM vm, _, x, db =>
    -- the id is the default of the column
    let row : VM := { vm with id := x.fresh, rbdImage := none, deletedAt := none }
    if (db.vms.find x.fresh).isSome then .error (.uniqueViolation "vms_pkey")
    else if ∃ id ∈ vm.externalServiceID, (db.vmByExternalServiceID id).isSome = true then
      .error (.uniqueViolation "idx_vms_external_service_id_active_unique")
    else .ok (row, [.insertVM row])
  | .updateVM id u, _, x, db => .ok (db.updateVM id u x.now)
  | .getNode id, _, _, db => .ok (db.nodes.find id, [])
  | .listNodes status perPage, _, _, db => .ok (db.listNodes status perPage, [])
  | .nodesByStatus status, _, _, db => .ok (db.nodesByStatus status, [])
  | .updateNodeStatus id status, _, _, db =>
    .ok ((db.nodes.find id).isSome,
      ((db.nodes.find id).map fun n => .putNode { n with status := status }).toList)
  | .incrementAllocated id vcpu memoryMB, _, _, db =>
    .ok ((db.nodes.find id).isSome,
      ((db.nodes.find id).map fun n => .putNode { n with
        allocatedVCPU := n.allocatedVCPU + vcpu, allocatedMemoryMB :=
        n.allocatedMemoryMB + memoryMB }).toList)
  | .decrementAllocated id vcpu memoryMB, _, _, db =>
    .ok ((db.nodes.find id).isSome,
      ((db.nodes.find id).map fun n => .putNode { n with
        allocatedVCPU := max 0 (n.allocatedVCPU - vcpu),
        allocatedMemoryMB := max 0 (n.allocatedMemoryMB - memoryMB) }).toList)
  | .getPlan id, _, _, db => .ok (db.plans.find? fun p => p.id = id, [])
  | .getTemplate id, _, _, db => .ok (db.templates.find? fun t => t.id = id, [])
  | .getTemplateCache templateID nodeID, _, _, db =>
    .ok (db.templateCache.find? fun e => e.templateID = templateID ∧ e.nodeID = nodeID, [])
  | .getBackends nodeID type, _, _, db =>
    .ok ((db.backends nodeID).filter fun b => b.type.text = type, [])
  | .createTask type payload key, _, x, db =>
    if (db.tasks.find x.fresh).isSome then .error (.uniqueViolation "tasks_pkey")
    else if key.isSome ∧ db.tasks.rows.any (fun t => t.idempotencyKey = key) then
      .error (.uniqueViolation "tasks_idempotency_key_key")
    else .ok (x.fresh, [.insertTask ⟨x.fresh, type, .pending, payload, key⟩])
  | .getTask id, _, _, db => .ok (db.tasks.find id, [])
  | .getTaskByIdempotencyKey key, _, _, db =>
    .ok (db.tasks.rows.find? fun t => t.idempotencyKey = some key, [])
  | .listTasks type, _, _, db =>
    if db.tasks.rows.any (fun t => t.type = type) then
      .error
        (.fault "number of field descriptions must equal number of destinations, got 14 and 13")
    else .ok ([], [])
  | .updateProgress id _ _, _, _, db => .ok ((db.tasks.find id).isSome, [])
  | .setCompleted id, _, _, db =>
    .ok ((db.tasks.find id).isSome,
      ((db.tasks.find id).map fun t => .putTask { t with status := .completed }).toList)
  | .listIPSets locationID ipVersion perPage, _, _, db =>
    .ok (db.listIPSets locationID ipVersion perPage, [])
  | .allocateIPv4 ipSetID vmID customerID, _, _, db =>
    let ip := (db.availableIP ipSetID).map fun ip =>
      { ip with status := .assigned, vmID := some vmID, customerID := some customerID }
    .ok (ip, (ip.map .putIP).toList)
  | .listIPAddresses vmID, _, _, db => .ok (db.listIPAddresses vmID, [])
  | .releaseIPv4 id, _, _, db =>
    match (db.ips.find id).filter fun ip => ip.status = .assigned with
    | some ip =>
        .ok (true, [.putIP { ip with status := .cooldown, vmID := none, customerID := none }])
    | none => .ok (false, [])
  | .getIPv6Prefix nodeID, _, _, db => .ok (db.prefixes.find? fun p => p.nodeID = nodeID, [])
  | .createIPv6Subnet vmID prefixID, _, x, db =>
    if db.prefixes.any (fun p => p.id = prefixID) then
      let subnet : VMIPv6Subnet := ⟨x.fresh, vmID, prefixID, db.nextSubnetIndex prefixID⟩
      if 65536 ≤ db.nextSubnetIndex prefixID then
        .ok (.error "IPv6 prefix is exhausted (no available /64 subnets)", [])
      else .ok (.ok subnet, [.insertSubnet subnet])
    else .ok (.error "locking IPv6 prefix row", [])
  | .deleteIPv6Subnets vmID, _, _, _ => .ok ((), [.deleteSubnets vmID])
  | .generateMACAddress, _, x, _ => .ok (x.fresh, [])
  | .agent node call, _, x, db =>
    .ok (if x.lost then .error "transport is closing" else (db.rpc x node call).1,
      (db.rpc x node call).2.map .host)

/-- no statement holds a lock that another one waits for -/
@[reducible] def store : Store where
  Db := Db
  Lock := Empty
  Write := Write
  Stmt := Stmt
  Ans := Stmt.Ans
  Inp := Inp
  Err := PgError
  Fault := String
  fault := .fault
  decLock := inferInstance
  exec := exec
  locks := fun _ _ _ => []
  apply := Db.apply
  guards := fun _ => []
  exec_guarded := fun _ _ _ _ _ _ _ _ _ _ hl => hl

end VirtueStack.Compute
