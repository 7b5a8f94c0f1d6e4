import VirtueStack.Agent.Storage

/-!
# Domains and seed ISOs (nodeagent/vm, nodeagent/storage/cloudinit.go)

* `CloudInitGenerator` the seed ISO of a VM;
* `generateDomainXML` the XML of a domain, with its disk, or what the configuration lacks;
* `Manager` `CreateVM`, `StartVM`, `StopVM`, `ForceStopVM`, `DeleteVM` and `GetStatus` of the
  manager.

The start times, the VNC ports and the samples of the CPU, which the manager keeps for its
statistics, are left out.
-/

namespace VirtueStack.Agent
open Txn Call Job

/-- `net.ParseIP`, `net.ParseCIDR`, `net.SplitHostPort`, `ssh.ParseAuthorizedKey` -/
structure Parsers where
  isIP : String → Bool
  isCIDR : String → Bool
  splitHostPort : String → Option (String × String)
  isAuthorizedKey : String → Bool

/-! ## cloud-init -/

structure CloudInitConfig where
  vmID : String
  rootPasswordHash : String
  sshPublicKeys : List String
  ipv4Address : String
  ipv4Gateway : String
  ipv6Address : String
  ipv6Gateway : String
  nameservers : List String

/-- `^\$[0-9a-z]+\$.+` -/
def isPasswordHash (hash : String) : Bool :=
  match hash.toList with
  | '$' :: rest =>
    let id := rest.takeWhile fun c => c.isDigit || c.isLower
    match rest.drop id.length with
    | '$' :: c :: _ => !id.isEmpty && c != '\n'
    | _ => false
  | _ => false

def validatePasswordHash (hash : String) : Except GoError Unit :=
  if hash = "" ∨ isPasswordHash hash = true then .ok ()
  else .error (.new
    "root_password_hash does not appear to be a valid Unix password hash (must start with $id$)")

/-- the checks of `writeUserData` -/
def validateUserData (parsers : Parsers) (cfg : CloudInitConfig) : Except GoError Unit :=
  match validatePasswordHash cfg.rootPasswordHash with
  | .error e => .error (.wrap ("invalid root_password_hash for VM " ++ cfg.vmID) e)
  | .ok _ => if cfg.sshPublicKeys.all parsers.isAuthorizedKey then .ok ()
      else .error (.new "invalid SSH public key")

/-- the checks of `writeNetworkConfig` -/
def validateNetworkConfig (parsers : Parsers) (cfg : CloudInitConfig) : Except GoError Unit :=
  if cfg.ipv4Address ≠ "" ∧ parsers.isCIDR cfg.ipv4Address = false then
    .error (.new ("invalid IPv4 address for VM " ++ cfg.vmID))
  else if cfg.ipv6Address ≠ "" ∧ parsers.isCIDR cfg.ipv6Address = false then
    .error (.new ("invalid IPv6 address for VM " ++ cfg.vmID))
  else if cfg.ipv4Gateway ≠ "" ∧ parsers.isIP cfg.ipv4Gateway = false then
    .error (.new ("invalid IPv4 gateway " ++ quoted cfg.ipv4Gateway ++ " for VM " ++ cfg.vmID))
  else if cfg.ipv6Gateway ≠ "" ∧ parsers.isIP cfg.ipv6Gateway = false then
    .error (.new ("invalid IPv6 gateway " ++ quoted cfg.ipv6Gateway ++ " for VM " ++ cfg.vmID))
  else
    match cfg.nameservers.find? fun ns => parsers.isIP ns = false with
    | some ns => .error (.new ("invalid nameserver " ++ quoted ns ++ " for VM " ++ cfg.vmID))
    | none => .ok ()

structure CloudInitGenerator where
  outputPath : String

namespace CloudInitGenerator

variable (g : CloudInitGenerator)

def isoPath (vmID : String) : String := join g.outputPath ("vs-" ++ vmID ++ "-seed.iso")

/-- `os.Remove`, for which a file that is not there is gone -/
def removed (context : String) : Except Err Unit → Job Unit
  | .ok _ => .pure ()
  | .error .notExist => .pure ()
  | .error e => fail (.wrap context e.error)

def removeISO (context vmID : String) : Job Unit :=
  onCmd (.removeFile (g.isoPath vmID)) (removed context)

def delete (vmID : String) : Job Unit :=
  g.removeISO ("deleting cloud-init ISO for VM " ++ vmID) vmID

/-- genisoimage may have left a part of the file -/
def built (vmID : String) : Except Err (Except String Unit) → Job Unit
  | .ok (.ok _) => .pure ()
  | .ok (.error text) => do
    cleanup .incompleteISO (g.removeISO "removing incomplete ISO file" vmID)
    fail (.wrap ("building cloud-init ISO for VM " ++ vmID)
      (.wrap "genisoimage failed" (.new text)))
  | .error e => do
    cleanup .incompleteISO (g.removeISO "removing incomplete ISO file" vmID)
    fail (.wrap ("building cloud-init ISO for VM " ++ vmID) (.wrap "genisoimage failed" e.error))

def writeMetaData (cfg : CloudInitConfig) : Job Unit :=
  wrapping ("writing meta-data for VM " ++ cfg.vmID) (rawCmd (.writeFile "meta-data"))

variable (parsers : Parsers)

def writeUserData (cfg : CloudInitConfig) : Job Unit :=
  wrapping ("writing user-data for VM " ++ cfg.vmID) do
    lift (validateUserData parsers cfg)
    rawCmd (.writeFile "user-data")

def writeNetworkConfig (cfg : CloudInitConfig) : Job Unit :=
  wrapping ("writing network-config for VM " ++ cfg.vmID) do
    lift (validateNetworkConfig parsers cfg)
    rawCmd (.writeFile "network-config")

def generate (g : CloudInitGenerator) (cfg : CloudInitConfig) : Job String := do
  cmd ("creating cloud-init output dir " ++ g.outputPath) (.mkdirAll g.outputPath)
  cmd ("creating temp dir for cloud-init " ++ cfg.vmID) .mkdirTemp
  writeMetaData cfg
  writeUserData parsers cfg
  writeNetworkConfig parsers cfg
  onCmd (.genisoimage (g.isoPath cfg.vmID)) (g.built cfg.vmID)
  return g.isoPath cfg.vmID

end CloudInitGenerator

/-! ## the XML of a domain -/

def storageBackendCeph : String := "ceph"
def storageBackendQcow : String := "qcow"
def storageBackendLVM : String := "lvm"

structure DomainConfig where
  vmID : String
  vcpu : Int
  memoryMB : Int
  storageBackend : String
  diskPath : String
  lvmDiskPath : String
  cephPool : String
  cephMonitors : List String
  cephUser : String
  cephSecretUUID : String
  macAddress : String
  ipv4Address : String
  ipv6Address : String
  portSpeedKbps : Int
  cloudInitISOPath : String

def domainName (vmID : String) : String := "vs-" ++ vmID

def missingFields (fields : List (Bool × String)) : List String :=
  (fields.filter fun f => f.1).map Prod.snd

def requireFields (what : String) (fields : List (Bool × String)) : Except GoError Unit :=
  if missingFields fields = [] then .ok ()
  else .error (.new ("missing " ++ what ++ ": " ++ ", ".intercalate (missingFields fields)))

def DomainConfig.backend (cfg : DomainConfig) : String :=
  if cfg.storageBackend = "" then storageBackendCeph else cfg.storageBackend

def validateStorage (cfg : DomainConfig) : Except GoError Unit :=
  if cfg.backend = storageBackendCeph then
    requireFields "Ceph storage fields"
      [(cfg.cephPool = "", "CephPool"), (cfg.cephMonitors = [], "CephMonitors"),
      (cfg.cephUser = "", "CephUser"), (cfg.cephSecretUUID = "", "CephSecretUUID")]
  else if cfg.backend = storageBackendQcow then
    if cfg.diskPath = "" then .error (.new "missing DiskPath for qcow storage backend") else .ok ()
  else if cfg.backend = storageBackendLVM then
    if cfg.lvmDiskPath = "" then .error (.new "missing LVMDiskPath for lvm storage backend")
    else .ok ()
  else .error (.new ("unsupported storage backend: " ++ cfg.backend))

def validateDomainConfig (cfg : DomainConfig) : Except GoError Unit := do
  requireFields "required fields" [(cfg.vmID = "", "VMID"), (cfg.vcpu ≤ 0, "VCPU"),
    (cfg.memoryMB ≤ 0, "MemoryMB"), (cfg.macAddress = "", "MACAddress")]
  validateStorage cfg

/-- a monitor is an address, with or without a port -/
def monitorHost (parsers : Parsers) (monitor : String) : String :=
  match parsers.splitHostPort monitor with
  | some (host, _) => host
  | none => monitor

/-- the disk that the XML names -/
def diskXML (parsers : Parsers) (cfg : DomainConfig) : Except GoError Obj :=
  if cfg.backend = storageBackendCeph then
    match cfg.cephMonitors.find? fun monitor =>
      parsers.isIP (monitorHost parsers monitor) = false with
    | some monitor =>
        .error (.new ("invalid Ceph monitor address " ++ quoted monitor ++ ": host part " ++
        quoted (monitorHost parsers monitor) ++ " is not a valid IP address"))
    | none => .ok (.image cfg.cephPool (vmDiskName cfg.vmID))
  else if cfg.backend = storageBackendQcow then .ok (fileAt cfg.diskPath)
  else .ok (.device cfg.lvmDiskPath)

def inContext (context : String) {α : Type} : Except GoError α → Except GoError α
  | .ok a => .ok a
  | .error e => .error (.wrap context e)

def generateDomainXML (parsers : Parsers) (cfg : DomainConfig) : Except GoError DomainXML := do
  inContext "validating domain config" (validateDomainConfig cfg)
  let disk ← inContext "generating disk XML" (diskXML parsers cfg)
  return {
    name := domainName cfg.vmID
    disk := disk
    vcpu := cfg.vcpu
    memoryMB := cfg.memoryMB
    macAddress := cfg.macAddress
    ipv4Address := cfg.ipv4Address
    ipv6Address := cfg.ipv6Address
    portSpeedKbps := cfg.portSpeedKbps
    cloudInitISOPath := cfg.cloudInitISOPath }

/-! ## the manager -/

namespace Manager

variable (vmID : String)

def domainFound : Except Err Unit → Job Unit
  | .ok _ => .pure ()
  | .error .noDomain => fail (.wrap ("VM " ++ vmID) (.sentinel .notFound))
  | .error e => fail (.wrap ("looking up domain " ++ domainName vmID) e.error)

def lookupDomain (vmID : String) : Job Unit :=
  onCmd (.lookupDomain (domainName vmID)) (domainFound vmID)

def getState (context vmID : String) : Job DomainState := cmd context (.getState (domainName vmID))

/-- a domain that does not start is undefined -/
def started (name : String) : Except GoError Unit → Job Unit
  | .ok _ => .pure ()
  | .error e => do
    cleanup .domain (rawCmd (.undefineDomain name))
    fail (.wrap "starting domain" e)

/-- the name of the domain -/
def createVM (parsers : Parsers) (cfg : DomainConfig) : Job String := do
  let xml ← wrapping "generating domain XML" (lift (generateDomainXML parsers cfg))
  cmd "defining domain" (.defineXML xml)
  let name ← cmd "getting domain name" (.getName xml.name)
  attempt (rawCmd (.createDomain xml.name)) (started xml.name)
  return name

def startFrom (state : DomainState) : Job Unit :=
  if state = .running then .pure () else cmd ("starting VM " ++ vmID)
    (.createDomain (domainName vmID))

def startVM : Job Unit := do
  wrapping "lookup domain for start" (lookupDomain vmID)
  let state ← getState "getting domain state" vmID
  startFrom vmID state

/-- the state is looked at every two seconds -/
def awaitShutoff (vmID : String) : Nat → Job Unit
  | 0 => fail (.wrap ("shutdown timeout for VM " ++ vmID) (.new "operation timed out"))
  | polls + 1 => do
    cmd "shutdown cancelled" (.tick (domainName vmID))
    let state ← getState "checking shutdown state" vmID
    if state = .shutoff then .pure () else awaitShutoff vmID polls

def shutdownFrom (timeoutSec : Nat) (state : DomainState) : Job Unit :=
  if state = .shutoff then .pure ()
  else do
    cmd "sending ACPI shutdown" (.shutdownDomain (domainName vmID))
    awaitShutoff vmID (timeoutSec / 2)

def stopVM (timeoutSec : Nat) : Job Unit := do
  wrapping "lookup domain for stop" (lookupDomain vmID)
  let state ← getState "getting domain state" vmID
  shutdownFrom vmID timeoutSec state

def destroyFrom (state : DomainState) : Job Unit :=
  if state = .shutoff then .pure ()
  else cmd ("force stopping VM " ++ vmID) (.destroyDomain (domainName vmID))

def forceStopVM : Job Unit := do
  wrapping "lookup domain for force stop" (lookupDomain vmID)
  let state ← getState "getting domain state" vmID
  destroyFrom vmID state

/-- only a domain that is running is destroyed first -/
def deleteVM : Job Unit := do
  wrapping "lookup domain for delete" (lookupDomain vmID)
  let state ← getState "getting domain state" vmID
  when (state = .running)
    (cmd ("destroying running VM " ++ vmID) (.destroyDomain (domainName vmID)))
  cmd ("undefining VM " ++ vmID) (.undefineDomain (domainName vmID))

end Manager

def mapLibvirtState : DomainState → String
  | .nostate => "no_state"
  | .running => "running"
  | .blocked => "blocked"
  | .paused => "paused"
  | .shutdown => "shutting_down"
  | .shutoff => "stopped"
  | .crashed => "crashed"
  | .pmsuspended => "suspended"

/-- the status of a VM; the number of its CPUs and its memory are read too -/
def Manager.getStatus (vmID : String) : Job String := do
  wrapping "lookup domain for status" (lookupDomain vmID)
  let state ← getState "getting domain state" vmID
  cmd "getting domain info" (.getInfo (domainName vmID))
  return mapLibvirtState state

end VirtueStack.Agent
