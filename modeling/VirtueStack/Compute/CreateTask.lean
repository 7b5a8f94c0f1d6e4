import VirtueStack.Compute.Repo

/-!
# The task vm.create (tasks/handlers_vm_create.go)

* `prepareVMCreate` the first half of `handleVMCreate`, which only reads: the payload, the node, the
  template, the VM and the file of the template;
* `provisionVM` the second half: addresses, the domain, and the record of the VM;
* `Platform` what the libraries decide about a character and about a hash.

Hashing the password is left out but for the check before it.
-/

namespace VirtueStack.Compute
open Txn Call Op
open Billing (VMStatus)

structure Platform where
  isUpper : Char → Bool
  isLower : Char → Bool
  isDigit : Char → Bool
  /-- punctuation or a symbol -/
  isSpecial : Char → Bool
  /-- the first three bytes of a SHA-256, in hex -/
  macSuffix : String → String

/-! ## passwords and MAC addresses (tasks/helpers.go) -/

inductive CharClass where
  | upper
  | lower
  | digit
  | special
  deriving DecidableEq

variable (p : Platform)

def Platform.classify (c : Char) : Option CharClass :=
  if p.isUpper c then some .upper
  else if p.isLower c then some .lower
  else if p.isDigit c then some .digit
  else if p.isSpecial c then some .special
  else none

def Platform.has (password : String) (k : CharClass) : Bool :=
  password.toList.any fun c => p.classify c = some k

def validatePasswordStrength (password : String) : Except GoError Unit :=
  if password.utf8ByteSize < 12 then .error (.new "password must be at least 12 characters long")
  else if ¬ p.has password .upper then
    .error (.new "password must contain at least one uppercase letter")
  else if ¬ p.has password .lower then
    .error (.new "password must contain at least one lowercase letter")
  else if ¬ p.has password .digit then .error (.new "password must contain at least one digit")
  else if ¬ p.has password .special then
    .error (.new "password must contain at least one special character")
  else .ok ()

def hashPasswordForCloudInit (password : String) : Except GoError Unit :=
  if password = "" then .ok () else validatePasswordStrength p password

def macPrefix : String := "52:54:00"

def generateMACAddress (p : Platform) (vmID : String) : Op String :=
  attempt (query .generateMACAddress "generating MAC address") fun
    | .ok mac => .pure mac
    | .error _ => .pure (macPrefix ++ ":" ++ p.macSuffix vmID)

/-- the address of the VM; one that has none gets a new one -/
def macAddressFor (vm : VM) (vmID : String) : Op String :=
  if vm.macAddress = "" then generateMACAddress p vmID else .pure vm.macAddress

/-! ## the template -/

/-- a template of a pool needs no file -/
def needsTemplateFile (template : Template) : Bool :=
  template.storageBackend ≠ "" ∧ template.storageBackend ≠ storageBackendCeph

/-- the local path of an entry of the cache that is ready -/
def cachedPath (template : Template) (nodeID : String) (entry : TemplateCacheEntry) :
    Except GoError String :=
  if entry.status ≠ .ready then
    .error (.new ("template " ++ template.id ++ " cache on node " ++ nodeID ++ " is " ++
      entry.status.text))
  else
    match entry.localPath with
    | none => .error (.new ("template " ++ template.id ++ " cache on node " ++ nodeID ++
        " has no local path"))
    | some path =>
      if path = "" then .error (.new ("template " ++ template.id ++ " cache on node " ++ nodeID ++
        " has no local path"))
      else .ok path

def resolveTemplatePathForNode (template : Template) (nodeID : String) : Op String :=
  if needsTemplateFile template then
    attempt (TemplateCacheRepository.get template.id nodeID) fun
      | .ok entry => lift (cachedPath template nodeID entry)
      | .error e =>
        if e.is .notFound then
          fail (.new ("template " ++ template.id ++ " is not cached on node " ++ nodeID ++
            "; distribute it first"))
        else fail (.wrap "getting template cache entry" e)
  else .pure ""

/-! ## the handler -/

structure CreateContext where
  payload : VMCreatePayload
  node : Node
  template : Template
  vm : VM
  macAddress : String
  templateFilePath : String

def prepareVMCreate (taskID : String) (doc : Json) : Op CreateContext := do
  let payload ← wrapping "parsing vm.create payload" (lift (VMCreatePayload.decode doc))
  wrapping "hashing password" (lift (hashPasswordForCloudInit p payload.password))
  logged (TaskRepository.updateProgress taskID 5 "Starting VM provisioning...")
  let node ← wrapping ("getting node " ++ payload.nodeID) (NodeRepository.getByID payload.nodeID)
  let template ← wrapping ("getting template " ++ payload.templateID)
    (TemplateRepository.getByID payload.templateID)
  let vm ← wrapping ("getting VM " ++ payload.vmID) (VMRepository.getByID payload.vmID)
  let macAddress ← macAddressFor p vm payload.vmID
  logged (TaskRepository.updateProgress taskID 15 "Preparing VM materialization inputs...")
  let templateFilePath ← wrapping ("resolving template for VM " ++ payload.vmID)
    (resolveTemplatePathForNode template payload.nodeID)
  logged (TaskRepository.updateProgress taskID 30 "Allocating network resources...")
  return ⟨payload, node, template, vm, macAddress, templateFilePath⟩

namespace CreateContext
variable (c : CreateContext)

def locationID : String := c.node.locationID.getD ""

/-- without the fields that only end up in the configuration of the guest -/
def createReq : CreateVMRequest where
  vmID := c.payload.vmID
  vcpu := c.payload.vcpu
  memoryMB := c.payload.memoryMB
  diskGB := c.payload.diskGB
  storageBackend := c.template.storageBackend
  templateFilePath := c.templateFilePath
  templateRBDImage := c.template.rbdImage
  templateRBDSnapshot := c.template.rbdSnapshot

/-- the step `release-ips` -/
def releaseIPs : Op Unit := IPAM.releaseIPsByVM c.payload.vmID

def createVM : Op Unit := NodeAgent.call c.payload.nodeID (.createVM c.createReq)

/-- the step `delete-vm` -/
def deleteVM : Op Unit := NodeAgent.call c.payload.nodeID (.deleteVM c.payload.vmID)

end CreateContext

/-- the steps of the stack from the last to the first; an error of a step is logged -/
def rollback : List (Op Unit) → Op Unit
  | [] => .pure ()
  | step :: steps => do
    logged step
    rollback steps

/-- `rollbackWithErrorStatus`, and the error it is called for -/
def rollbackWithErrorStatus (c : CreateContext) (steps : List (Op Unit)) (cause : GoError) :
    Op Unit := do
  rollback steps.reverse
  logged (VMRepository.transitionStatus c.payload.vmID VMStatus.provisioning.text .error)
  fail cause

variable (taskID : String)

def completeVMCreate : Op Unit := do
  logged (TaskRepository.updateProgress taskID 100 "VM provisioned successfully")
  logged (TaskRepository.setCompleted taskID)

section
variable (c : CreateContext)

/-- `template_id`, where the payload has one -/
def recordTemplate : Op Unit :=
  if c.payload.templateID ≠ "" then
    logged (VMRepository.updateTemplateID c.payload.vmID c.payload.templateID)
  else .pure ()

/-- `mac_address` has been written, or not -/
def macAddressRecorded : Except GoError Unit → Op Unit
  | .ok _ => completeVMCreate taskID
  | .error e => rollbackWithErrorStatus c [c.releaseIPs, c.deleteVM]
      (.wrap ("updating VM " ++ c.payload.vmID ++ " mac address") e)

/-- the status is running, or not -/
def vmStarted : Except GoError Unit → Op Unit
  | .ok _ => do
    recordTemplate c
    if c.macAddress ≠ "" then
      attempt (VMRepository.updateMACAddress c.payload.vmID c.macAddress)
        (macAddressRecorded taskID c)
    else completeVMCreate taskID
  | .error e => rollbackWithErrorStatus c [c.releaseIPs, c.deleteVM]
      (.wrap ("transitioning VM " ++ c.payload.vmID ++ " to running") e)

/-- the agent has created the VM, or not -/
def vmMaterialized : Except GoError Unit → Op Unit
  | .ok _ => attempt
      (VMRepository.transitionStatus c.payload.vmID VMStatus.provisioning.text .running)
      (vmStarted taskID c)
  | .error e => rollbackWithErrorStatus c [c.releaseIPs]
      (.wrap ("creating VM " ++ c.payload.vmID ++ " via node agent") e)

def provisionVM : Op Unit := do
  logged (IPAM.allocateIPv4 c.locationID c.payload.vmID c.payload.customerID)
  logged (IPAM.allocateIPv6 c.payload.vmID c.payload.nodeID)
  logged (TaskRepository.updateProgress taskID 50 "Creating virtual machine...")
  attempt c.createVM (vmMaterialized taskID c)

end

def handleVMCreate (p : Platform) (taskID : String) (doc : Json) : Op Unit := do
  let c ← prepareVMCreate p taskID doc
  provisionVM taskID c

end VirtueStack.Compute
