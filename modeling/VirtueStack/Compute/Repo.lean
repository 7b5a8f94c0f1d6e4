import VirtueStack.Compute.Store

/-!
# Repositories, the client of the agents and the address management

* `Op.found` a query of one row: no row is `ErrNotFound`;
* `Op.affecting` an update: no row is `ErrNoRowsAffected`;
* `VMRepository`, `NodeRepository`, `TaskRepository`, ... the methods (repository/*.go).
-/

namespace VirtueStack.Compute
open Txn Call
open Billing (VMStatus)

abbrev Op (α : Type) : Type := Call store GoError α

namespace Op

def query (q : Stmt) (context : String) : Op q.Ans :=
  stmt (S := store) q fun e => .wrap context (.pg e)

def found {α : Type} (context : String) (c : Op (Option α)) : Op α := do
  match ← c with
  | some a => return a
  | none => fail (.wrap context (.sentinel .notFound))

def affecting (context : String) (c : Op Bool) : Op Unit := do
  if ← c then return () else fail (.wrap context (.sentinel .noRowsAffected))

variable {α : Type}

def logged (c : Op α) : Op Unit := attempt c fun _ => .pure ()

/-- `fmt.Errorf(context + ": %w", err)` -/
def wrapping (context : String) (c : Op α) : Op α :=
  attempt c fun
    | .ok a => .pure a
    | .error e => fail (.wrap context e)

/-- an error that the caller replaces -/
def replacing (f : GoError → GoError) (c : Op α) : Op α :=
  attempt c fun
    | .ok a => .pure a
    | .error e => fail (f e)

/-- a check that needs no statement -/
def lift : Except GoError α → Op α
  | .ok a => .pure a
  | .error e => fail e

end Op

open Op

/-! ## repositories -/

namespace VMRepository

variable (id : String)

def getByID : Op VM :=
  found ("getting VM " ++ id) (query (.getVM id) ("getting VM " ++ id))

def getByIDIncludingDeleted : Op VM :=
  found ("getting VM " ++ id ++ " including deleted")
    (query (.getVMIncludingDeleted id) ("getting VM " ++ id ++ " including deleted"))

def getByExternalServiceID (serviceID : Int) : Op VM :=
  found ("getting VM by external service " ++ toString serviceID)
    (query (.getVMByExternalServiceID serviceID)
      ("getting VM by external service " ++ toString serviceID))

/-- the index on the service of a VM that is not deleted is a conflict -/
def createError (e : PgError) : GoError :=
  if e = .uniqueViolation "idx_vms_external_service_id_active_unique" then
    .wrap "creating VM duplicate external service" (.join (.pg e) (.sentinel .conflict))
  else .wrap "creating VM" (.pg e)

def create (vm : VM) : Op VM := stmt (S := store) (.createVM vm) createError

/-- `UPDATE vms ... WHERE id = $1 AND deleted_at IS NULL` -/
def update (u : VMUpdate) (context : String) : Op Unit :=
  affecting context (query (.updateVM id u) context)

/-- a text that is no status violates the check of the column -/
def updateStatus (status : String) : Op Unit :=
  match VMStatus.ofText status with
  | some st => update id (.status st) ("updating VM " ++ id ++ " status")
  | none => fail (.wrap ("updating VM " ++ id ++ " status")
      (.pg (.fault "new row violates check constraint")))

variable (vmID : String)

def transitionStatus (fromStatus : String) (toStatus : VMStatus) : Op Unit := do
  let src ← lift (validateVMTransition fromStatus toStatus)
  let done ← query (.updateVM vmID (.transition src toStatus))
    ("transition VM " ++ vmID ++ " status from " ++ fromStatus ++ " to " ++ toStatus.text)
  if done then return ()
  else fail (.wrap ("VM " ++ vmID ++ " not in expected state " ++ fromStatus ++
    " for transition to " ++ toStatus.text) (.sentinel .conflict))

def updateNodeAssignment (nodeID : String) : Op Unit :=
  update vmID (.node nodeID) ("updating VM " ++ vmID ++ " node assignment")

def updateResources (vcpu memoryMB diskGB : Int) : Op Unit :=
  update id (.resources vcpu memoryMB diskGB) ("updating VM " ++ id ++ " resources")

def updatePlanID (planID : String) : Op Unit :=
  update vmID (.plan planID) ("updating VM " ++ vmID ++ " plan")

def softDelete (id : String) : Op Unit := update id .softDelete ("soft-deleting VM " ++ id)

def updateTemplateID (templateID : String) : Op Unit :=
  update vmID (.template templateID) ("updating VM " ++ vmID ++ " template_id")

def updateMACAddress (macAddress : String) : Op Unit :=
  update vmID (.macAddress macAddress) ("updating VM " ++ vmID ++ " mac_address")

end VMRepository

namespace NodeRepository

variable (id : String)

def getByID : Op Node :=
  found ("getting node " ++ id) (query (.getNode id) ("getting node " ++ id))

def updateStatus (status : NodeStatus) : Op Unit :=
  affecting ("updating node " ++ id ++ " status")
    (query (.updateNodeStatus id status) ("updating node " ++ id ++ " status"))

def incrementAllocatedResources (vcpu memoryMB : Int) : Op Unit :=
  affecting ("incrementing node " ++ id ++ " allocated resources")
    (query (.incrementAllocated id vcpu memoryMB)
      ("incrementing node " ++ id ++ " allocated resources"))

def decrementAllocatedResources (vcpu memoryMB : Int) : Op Unit :=
  affecting ("decrementing node " ++ id ++ " allocated resources")
    (query (.decrementAllocated id vcpu memoryMB)
      ("decrementing node " ++ id ++ " allocated resources"))

end NodeRepository

def PlanRepository.getByID (id : String) : Op Plan :=
  found ("getting plan " ++ id) (query (.getPlan id) ("getting plan " ++ id))

def TemplateRepository.getByID (id : String) : Op Template :=
  found ("getting template " ++ id) (query (.getTemplate id) ("getting template " ++ id))

def TemplateCacheRepository.get (templateID nodeID : String) : Op TemplateCacheEntry :=
  found "getting template cache entry"
    (query (.getTemplateCache templateID nodeID) "getting template cache entry")

namespace TaskRepository

def getByID (id : String) : Op Task :=
  found ("getting task " ++ id) (query (.getTask id) ("getting task " ++ id))

def getByIdempotencyKey (key : String) : Op Task :=
  found ("getting task by idempotency key " ++ key)
    (query (.getTaskByIdempotencyKey key) ("getting task by idempotency key " ++ key))

def updateProgress (id : String) (progress : Int) (message : String) : Op Unit :=
  affecting ("updating task " ++ id ++ " progress")
    (query (.updateProgress id progress message) ("updating task " ++ id ++ " progress"))

def setCompleted (id : String) : Op Unit :=
  affecting ("setting task " ++ id ++ " completed")
    (query (.setCompleted id) ("setting task " ++ id ++ " completed"))

end TaskRepository

section
variable (type : TaskType) (payload : List (String × Json))

/-- `DefaultTaskPublisher.PublishTask`: the row of the task, and no message -/
def TaskPublisher.publishTask : Op String :=
  query (.createTask type (.obj payload) none) "creating task: creating task"

/-- an empty key is none -/
def TaskPublisher.publishTaskWithIdempotencyKey (key : String) : Op String :=
  query (.createTask type (.obj payload) (if key = "" then none else some key))
    "creating task: creating task"

end

def StorageBackendService.getBackendsForNodeByType (nodeID backendType : String) :
    Op (List StorageBackend) :=
  query (.getBackends nodeID backendType)
    ("getting backends for node " ++ nodeID ++ ": getting backends for node " ++ nodeID)

/-- the error of the agent becomes the error of the client -/
def NodeAgent.call (nodeID : String) (call : AgentCall) : Op Unit := do
  match ← query (.agent nodeID call) ("calling node " ++ nodeID) with
  | .ok _ => return ()
  | .error text => fail (.new text)

/-! ## addresses -/

namespace IPAM

/-- the sets in turn, until one has an address; `lastErr` is the error of the set before -/
def tryIPSets (locationID vmID customerID : String) : GoError → List IPSet → Op IPAddress
  | lastErr, [] => fail (.wrap ("all IPv4 sets exhausted for location " ++ locationID) lastErr)
  | _, ipSet :: rest =>
    attempt (query (.allocateIPv4 ipSet.id vmID customerID)
      ("allocating IPv4 address from IP set " ++ ipSet.id)) fun
    | .ok (some ip) => .pure ip
    | .ok none => tryIPSets locationID vmID customerID
        (.new ("no available IPv4 addresses in IP set " ++ ipSet.id)) rest
    | .error e => tryIPSets locationID vmID customerID e rest

/-- the filter has no page size, which is a page of no sets -/
def allocateIPv4 (locationID vmID customerID : String) : Op IPAddress := do
  let ipSets ← query (.listIPSets locationID 4 0)
    ("finding IP set for location " ++ locationID ++ ": listing IP sets")
  if ipSets.isEmpty then fail (.new ("no IPv4 IP set found for location " ++ locationID))
  else tryIPSets locationID vmID customerID (.new "") ipSets

def allocateIPv6 (vmID nodeID : String) : Op VMIPv6Subnet := do
  match ← query (.getIPv6Prefix nodeID) ("getting IPv6 prefix for node " ++ nodeID) with
  | none => fail (.new ("no IPv6 prefix assigned to node " ++ nodeID))
  | some p =>
    match ← query (.createIPv6Subnet vmID p.id) "allocating IPv6 subnet" with
    | .ok subnet => return subnet
    | .error text => fail (.wrap "allocating IPv6 subnet" (.new text))

def releaseIPv4 (ipID : String) : Op Unit :=
  affecting ("releasing IP address " ++ ipID)
    (query (.releaseIPv4 ipID) ("releasing IP address " ++ ipID))

/-- the addresses of the page that are assigned, with the errors on the way -/
def releaseEach : List GoError → List IPAddress → Op (List GoError)
  | errs, [] => .pure errs
  | errs, ip :: rest =>
    if ip.status = .assigned then
      attempt (releaseIPv4 ip.id) fun
        | .ok _ => releaseEach errs rest
        | .error e => releaseEach (errs ++ [.wrap ("releasing IP " ++ ip.id) e]) rest
    else releaseEach errs rest

/-- the filter has no page size, which is a page of twenty addresses -/
def releaseIPsByVM (vmID : String) : Op Unit := do
  let ips ← query (.listIPAddresses vmID)
    ("listing IPs for VM " ++ vmID ++ ": listing IP addresses")
  let releaseErrors ← releaseEach [] ips
  logged (query (.deleteIPv6Subnets vmID) ("deleting IPv6 subnets for VM " ++ vmID))
  if releaseErrors.isEmpty then return ()
  else fail (.new ("errors releasing IPs for VM " ++ vmID ++ ": [" ++
    String.intercalate " " (releaseErrors.map GoError.text) ++ "]"))

end IPAM

end VirtueStack.Compute
