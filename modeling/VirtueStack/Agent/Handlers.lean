import VirtueStack.Agent.Lifecycle

/-!
# The requests of a node agent (nodeagent/server.go, nodeagent/grpc_handlers_*.go)

* `createVM`, `deleteVM`, `reinstallVM`, `resizeVM`, ... the handlers. A deferred function is what
  the handler goes on with, whatever the outcome.

The firewall rules of a VM, whose failures are only logged, and the password that is set through the
guest agent are left out.
-/

namespace VirtueStack.Agent
open Txn Call Job

/-! ## the agent -/

inductive StorageType where
  | ceph
  | qcow
  | lvm
  deriving DecidableEq, Repr

def StorageType.text : StorageType → String
  | .ceph => storageBackendCeph
  | .qcow => storageBackendQcow
  | .lvm => storageBackendLVM

/-- A configuration that the agent starts with: `storage_backend` is not set, or it is one of the
three, and `NewQCOWManager` has a path. -/
structure Config where
  parsers : Parsers
  storageType : StorageType
  storagePath : String
  cephPool : String
  cephUser : String
  lvmVolumeGroup : String
  lvmThinPool : String
  cloudInitPath : String
  qcow_path : storageType = .qcow → storagePath ≠ ""

namespace Config

variable (cfg : Config)

def storage : StorageBackend :=
  match cfg.storageType with
  | .ceph => .ceph ⟨cfg.cephPool⟩
  | .qcow => .qcow ⟨cfg.storagePath⟩
  | .lvm => .lvm ⟨cfg.lvmVolumeGroup, cfg.lvmThinPool⟩

def templates : TemplateBackend :=
  match cfg.storageType with
  | .ceph => .ceph ⟨⟨cfg.cephPool⟩⟩
  | .qcow => .qcow ⟨cfg.storagePath ++ "/vms"⟩
  | .lvm => .lvm ⟨cfg.lvmVolumeGroup⟩

def cloudInit : CloudInitGenerator :=
  ⟨if cfg.cloudInitPath = "" then "/var/lib/virtuestack/cloud-init" else cfg.cloudInitPath⟩

/-- the backend of a request, or the one of the agent -/
def backendOf (storageBackend : String) : String :=
  if storageBackend = "" then cfg.storageType.text else storageBackend

/-- where the handlers look for the disk of a VM when the request has no path -/
def defaultDiskPath (vmID : String) : String := cfg.storagePath ++ "/vms/" ++ vmDiskFile vmID

end Config

/-! ## errors and checks -/

def invalidArgument (msg : String) : GoError := .rpc .invalidArgument msg

namespace Job
variable {α : Type}

def statusOf (code : Code) (context : String) : Except GoError α → Job α
  | .ok a => .pure a
  | .error e => fail (.rpc code (context ++ ": " ++ e.text))

/-- `status.Errorf(codes.Internal, "context: %v", err)` -/
def internal (context : String) (c : Job α) : Job α := attempt c (statusOf .internal context)

def mapped (operation : String) : Except GoError α → Job α
  | .ok a => .pure a
  | .error _ => fail (.rpc .internal (operation ++ " failed"))

def mapError (operation : String) (c : Job α) : Job α := attempt c (mapped operation)

def require (refused : Bool) (msg : String) : Job Unit :=
  if refused then fail (invalidArgument msg) else .pure ()

end Job

def vmIDRequired : String := "vm_id is required"

def validatePath (path allowedPrefix : String) : Except GoError Unit :=
  if path = "" then .error (.new "path must not be empty")
  else if allowedPrefix = "" then .error (.new "allowed prefix must not be empty")
  else if (allowedPrefix ++ "/").toList.isPrefixOf (clean path).text.toList ∨
      (clean path).text = allowedPrefix then
    .ok ()
  else .error (.new ("path " ++ quoted (clean path).text ++ " is outside the allowed directory " ++
    quoted allowedPrefix))

def checkPath (field path allowedPrefix : String) : Job Unit :=
  attempt (lift (validatePath path allowedPrefix)) (statusOf .invalidArgument ("invalid " ++ field))

def isDeleteAlreadyAbsentError (e : GoError) : Bool :=
  decide (Mentions "not found" e.text) || decide (Mentions "does not exist" e.text) ||
    decide (Mentions "no such file" e.text)

/-! ## deleting -/

structure DeleteVMRequest where
  vmID : String
  storageBackend : String
  diskPath : String

/-- a disk that is not there is deleted -/
def diskDeleted (operation : String) : Except GoError Unit → Job Unit
  | .ok _ => .pure ()
  | .error e =>
    if isDeleteAlreadyAbsentError e then .pure ()
      else fail (.rpc .internal (operation ++ " failed"))

variable (cfg : Config)

def deleteQCOWDisk (diskPath : String) : Job Unit := do
  checkPath "disk_path" diskPath cfg.storagePath
  attempt (cfg.storage.delete diskPath) (diskDeleted "deleting QCOW disk")

def deleteDiskOf (req : DeleteVMRequest) : Job Unit :=
  let backend := cfg.backendOf req.storageBackend
  if backend = storageBackendQcow then
    deleteQCOWDisk cfg (if req.diskPath = "" then cfg.defaultDiskPath req.vmID else req.diskPath)
  else if backend = storageBackendCeph then
    attempt (cfg.storage.delete (vmDiskName req.vmID)) (diskDeleted "deleting RBD disk")
  else if backend = storageBackendLVM then
    attempt (cfg.storage.delete (cfg.storage.diskIdentifier req.vmID))
      (diskDeleted "deleting LVM disk")
  else .pure ()

def domainDeleted : Except GoError Unit → Job Unit
  | .ok _ => .pure ()
  | .error e => if e.is .notFound then .pure
    () else fail (.rpc .internal "deleting VM domain failed")

variable (vmID : String)

def undefineVM : Job Unit := do
  require (vmID = "") vmIDRequired
  attempt (Manager.deleteVM vmID) domainDeleted

def deleteDisk (req : DeleteVMRequest) : Job Unit := do
  require (req.vmID = "") vmIDRequired
  deleteDiskOf cfg req

def deleteVM (req : DeleteVMRequest) : Job Unit := do
  require (req.vmID = "") vmIDRequired
  undefineVM req.vmID
  deleteDiskOf cfg req

/-! ## creating -/

structure CreateVMRequest where
  vmID : String
  vcpu : Int
  memoryMB : Int
  diskGB : Int
  storageBackend : String
  templateFilePath : String
  templateRBDImage : String
  templateRBDSnapshot : String
  cephPool : String
  cephMonitors : List String
  cephUser : String
  cephSecretUUID : String
  macAddress : String
  ipv4Address : String
  ipv4Gateway : String
  ipv6Address : String
  ipv6Gateway : String
  nameservers : List String
  portSpeedMbps : Int
  rootPasswordHash : String
  sshPublicKeys : List String

structure CreateVMResponse where
  vmID : String
  libvirtDomainName : String
  cloudInitPath : String
  deriving DecidableEq

def isStorageBackend (s : String) : Bool :=
  s = storageBackendCeph || s = storageBackendQcow || s = storageBackendLVM

def invalidBackend (s : String) : String :=
  "invalid storage_backend: " ++ s ++ " (must be 'ceph', 'qcow', or 'lvm')"

variable (req : CreateVMRequest)

def validateCreate : Except GoError Unit :=
  if req.vmID = "" then .error (invalidArgument vmIDRequired)
  else if req.vcpu ≤ 0 then .error (invalidArgument "vcpu must be positive")
  else if req.memoryMB ≤ 0 then .error (invalidArgument "memory_mb must be positive")
  else if req.diskGB ≤ 0 then .error (invalidArgument "disk_gb must be positive")
  else if req.storageBackend ≠ "" ∧ isStorageBackend req.storageBackend = false then
    .error (invalidArgument (invalidBackend req.storageBackend))
  else .ok ()

def CreateVMRequest.cloudInit : CloudInitConfig :=
  ⟨req.vmID, req.rootPasswordHash, req.sshPublicKeys, req.ipv4Address, req.ipv4Gateway,
    req.ipv6Address, req.ipv6Gateway, req.nameservers⟩

/-- the configuration of the domain, before its disk is known -/
def CreateVMRequest.domainConfig (backend cloudInitPath : String) : DomainConfig where
  vmID := req.vmID
  vcpu := req.vcpu
  memoryMB := req.memoryMB
  storageBackend := backend
  diskPath := ""
  lvmDiskPath := ""
  cephPool := ""
  cephMonitors := []
  cephUser := ""
  cephSecretUUID := ""
  macAddress := req.macAddress
  ipv4Address := req.ipv4Address
  ipv6Address := req.ipv6Address
  portSpeedKbps := req.portSpeedMbps * 1000
  cloudInitISOPath := cloudInitPath

def CreateVMRequest.cephConfig (cfg : Config) (dc : DomainConfig) : DomainConfig :=
  { dc with
    cephPool := if req.cephPool = "" then cfg.cephPool else req.cephPool
    cephMonitors := req.cephMonitors
    cephUser := if req.cephUser = "" then cfg.cephUser else req.cephUser
    cephSecretUUID := req.cephSecretUUID }

/-- only the QCOW template manager clones a file -/
def cloneQCOW (templatePath vmID : String) (sizeGB : Int) : Job String :=
  match cfg.templates with
  | .qcow m => internal "cloning QCOW template" (m.cloneForVM templatePath vmID sizeGB)
  | _ => fail (.rpc .internal "QCOW template manager not available")

variable (dc : DomainConfig)

def createQCOW : Job DomainConfig := do
  require (req.templateFilePath = "") "template_file_path is required for qcow storage backend"
  checkPath "template_file_path" req.templateFilePath cfg.storagePath
  let diskPath ← cloneQCOW cfg req.templateFilePath req.vmID req.diskGB
  return { dc with diskPath := diskPath }

/-- without a template there is no clone -/
def createCeph : Job DomainConfig := do
  let dc := req.cephConfig cfg dc
  when (req.templateRBDImage ≠ "" ∧ req.templateRBDSnapshot ≠ "")
    (internal "cloning RBD template" (cfg.storage.cloneFromTemplate dc.cephPool req.templateRBDImage
      req.templateRBDSnapshot (vmDiskName req.vmID)))
  return dc

def checkUsage (percent : Nat × Nat) : Job Unit :=
  if 950 ≤ percent.1 then fail (.rpc .resourceExhausted "LVM thin pool data usage is critical")
  else if 700 ≤ percent.2 then
    fail (.rpc .resourceExhausted "LVM thin pool metadata usage is critical")
  else .pure ()

def checkThinPool : Job Unit :=
  match cfg.storageType with
  | .lvm => do
    let percent ← internal "checking LVM thin pool stats" (rawCmd .thinPoolStats)
    checkUsage percent
  | _ => .pure ()

def createLVM : Job DomainConfig := do
  require (req.templateFilePath = "") "template_file_path is required for lvm storage backend"
  checkThinPool cfg
  let diskPath ← internal "cloning LVM template"
    (cfg.templates.cloneForVM req.templateFilePath req.vmID req.diskGB)
  return { dc with lvmDiskPath := diskPath }

def createDisk : Job DomainConfig :=
  if dc.storageBackend = storageBackendQcow then createQCOW cfg req dc
  else if dc.storageBackend = storageBackendCeph then createCeph cfg req dc
  else createLVM cfg req dc

def cleanupFailedCreate : Except GoError String → Job String
  | .ok name => .pure name
  | .error _ => do
    cleanup .disk (deleteDiskOf cfg ⟨dc.vmID, dc.storageBackend, dc.diskPath⟩)
    fail (.rpc .internal "creating VM failed")

def provision : Job String := do
  let dc ← createDisk cfg req dc
  attempt (Manager.createVM cfg.parsers dc) (cleanupFailedCreate cfg dc)

/-- the deferred function: the seed ISO goes unless the VM was created -/
def keepCloudInit (cloudInitPath : String) :
    Except GoError String → Job CreateVMResponse
  | .ok name => .pure ⟨req.vmID, name, cloudInitPath⟩
  | .error e => do
    cleanup .cloudInit (cfg.cloudInit.delete req.vmID)
    fail e

def generateCloudInitISO (ci : CloudInitConfig) : Job String :=
  internal "generating cloud-init"
    (wrapping "generating cloud-init ISO" (cfg.cloudInit.generate cfg.parsers ci))

def createVM : Job CreateVMResponse := do
  lift (validateCreate req)
  let cloudInitPath ← generateCloudInitISO cfg req.cloudInit
  attempt (provision cfg req (req.domainConfig (cfg.backendOf req.storageBackend) cloudInitPath))
    (keepCloudInit cfg req cloudInitPath)

/-! ## reinstalling -/

/-- The request has the fields of the one that creates a VM. Its `disk_size_gb` counts if it is
positive, and else the size of the old disk does. -/
def reinstallSize : Except GoError Int → Int
  | .ok size =>
    if 0 < req.diskGB then req.diskGB
    else if 0 < size ∧ 1 ≤ size / gbToBytes then size / gbToBytes else 20
  | .error _ => if 0 < req.diskGB then req.diskGB else 20

def deleteAndCloneQCOW (diskPath : String) (size : Except GoError Int) : Job String := do
  logged (cfg.storage.delete diskPath)
  cloneQCOW cfg req.templateFilePath req.vmID (reinstallSize req size)

/-- the template manager is looked for before anything is deleted -/
def requireQCOWTemplates : Job Unit :=
  match cfg.templates with
  | .qcow _ => .pure ()
  | _ => fail (.rpc .internal "QCOW template manager not available")

def reinstallQCOW : Job String := do
  require (req.templateFilePath = "") "template_file_path is required for qcow storage backend"
  checkPath "template_file_path" req.templateFilePath cfg.storagePath
  requireQCOWTemplates cfg
  attempt (cfg.storage.getImageSize (cfg.defaultDiskPath req.vmID))
    (deleteAndCloneQCOW cfg req (cfg.defaultDiskPath req.vmID))

def reinstallCeph : Job String := do
  require (req.templateRBDImage = "" ∨ req.templateRBDSnapshot = "")
    "template_rbd_image and template_rbd_snapshot are required for ceph storage backend"
  logged (cfg.storage.delete (vmDiskName req.vmID))
  internal "cloning RBD template" (cfg.storage.cloneFromTemplate
    (if req.cephPool = "" then cfg.cephPool else req.cephPool) req.templateRBDImage
      req.templateRBDSnapshot
    (vmDiskName req.vmID))
  return ""

def deleteAndCloneLVM (size : Except GoError Int) : Job String := do
  logged (cfg.storage.delete (cfg.storage.diskIdentifier req.vmID))
  internal "cloning LVM template"
    (cfg.templates.cloneForVM req.templateFilePath req.vmID (reinstallSize req size))

def reinstallLVM : Job String := do
  require (req.templateFilePath = "") "template_file_path is required for lvm storage backend"
  attempt (cfg.storage.getImageSize (cfg.storage.diskIdentifier req.vmID))
    (deleteAndCloneLVM cfg req)

/-- the path of the new disk, if the backend has paths -/
def reinstallDisk : Job String :=
  let backend := cfg.backendOf req.storageBackend
  if backend = storageBackendQcow then reinstallQCOW cfg req
  else if backend = storageBackendCeph then reinstallCeph cfg req
  else if backend = storageBackendLVM then reinstallLVM cfg req
  else fail (invalidArgument ("unsupported storage backend: " ++ backend))

def reinstallConfig (cloudInitPath diskPath : String) : DomainConfig :=
  let backend := cfg.backendOf req.storageBackend
  let dc := req.cephConfig cfg (req.domainConfig backend cloudInitPath)
  if backend = storageBackendLVM then { dc with lvmDiskPath := diskPath }
    else { dc with diskPath := diskPath }

def validateReinstall : Except GoError Unit :=
  if req.vmID = "" then .error (invalidArgument vmIDRequired)
  else if req.vcpu ≤ 0 then .error (invalidArgument "vcpu must be positive")
  else if req.memoryMB ≤ 0 then .error (invalidArgument "memory_mb must be positive")
  else if req.macAddress = "" then .error (invalidArgument "mac_address is required")
  else .ok ()

def reinstallVM : Job CreateVMResponse := do
  lift (validateReinstall req)
  let cloudInitPath ← generateCloudInitISO cfg req.cloudInit
  logged (Manager.forceStopVM req.vmID)
  let diskPath ← reinstallDisk cfg req
  logged (Manager.deleteVM req.vmID)
  let name ← internal "recreating VM"
    (Manager.createVM cfg.parsers (reinstallConfig cfg req cloudInitPath diskPath))
  return ⟨req.vmID, name, cloudInitPath⟩

/-! ## resizing -/

/-- zero keeps what is there -/
structure ResizeVMRequest where
  vmID : String
  newVCPU : Int
  newMemoryMB : Int
  newDiskGB : Int
  storageBackend : String
  diskPath : String

def validateResize (req : ResizeVMRequest) : Except GoError Unit :=
  if req.vmID = "" then .error (invalidArgument vmIDRequired)
  else if req.newVCPU < 0 then
    .error (invalidArgument "new_vcpu cannot be negative (0 keeps current)")
  else if req.newMemoryMB < 0 then
    .error (invalidArgument "new_memory_mb cannot be negative (0 keeps current)")
  else if req.newDiskGB < 0 then
    .error (invalidArgument "new_disk_gb cannot be negative (0 keeps current)")
  else if req.storageBackend ≠ "" ∧ isStorageBackend req.storageBackend = false then
    .error (invalidArgument (invalidBackend req.storageBackend))
  else .ok ()

def resizeQCOW (diskPath : String) (newDiskGB : Int) : Job Unit := do
  checkPath "disk_path" diskPath cfg.storagePath
  internal "resizing QCOW disk" (cfg.storage.resize diskPath newDiskGB)

def resizeDisk (req : ResizeVMRequest) : Job Unit :=
  let backend := cfg.backendOf req.storageBackend
  if backend = storageBackendQcow then
    resizeQCOW cfg (if req.diskPath = "" then cfg.defaultDiskPath req.vmID else req.diskPath)
      req.newDiskGB
  else if backend = storageBackendCeph then
    internal "resizing RBD disk" (cfg.storage.resize (vmDiskName req.vmID) req.newDiskGB)
  else
    internal "resizing LVM disk"
      (cfg.storage.resize (cfg.storage.diskIdentifier req.vmID) req.newDiskGB)

/-- the maximum is set first, and a failure there is only logged -/
def setVcpus (vmID : String) (vcpu : Int) : Job Unit := do
  logged (rawCmd (.setVcpus (domainName vmID) vcpu))
  internal "setting vcpus" (rawCmd (.setVcpus (domainName vmID) vcpu))

def setMemory (vmID : String) (memoryMB : Int) : Job Unit := do
  logged (rawCmd (.setMemory (domainName vmID) memoryMB))
  internal "setting memory" (rawCmd (.setMemory (domainName vmID) memoryMB))

def resizeDomain (req : ResizeVMRequest) : Job Unit := do
  internal "looking up domain" (rawCmd (.lookupDomain (domainName req.vmID)))
  when (0 < req.newVCPU) (setVcpus req.vmID req.newVCPU)
  when (0 < req.newMemoryMB) (setMemory req.vmID req.newMemoryMB)

/-- only a domain that is running is stopped first -/
def resizeVM (req : ResizeVMRequest) : Job Unit := do
  lift (validateResize req)
  let status ← mapError "getting VM status" (Manager.getStatus req.vmID)
  when (status = "running") (internal "stopping VM for resize" (Manager.stopVM req.vmID 120))
  when (0 < req.newDiskGB) (resizeDisk cfg req)
  when (0 < req.newVCPU ∨ 0 < req.newMemoryMB) (resizeDomain req)
  logged (Manager.startVM req.vmID)

/-! ## snapshots -/

structure Snapshot where
  vmID : String
  name : String
  rbdSnapshotName : String
  sizeBytes : Int
  deriving DecidableEq

def shortUUID (uuid : String) : String := String.ofList (uuid.toList.take 8)

def sizeOrZero : Except GoError Int → Job Int
  | .ok size => .pure size
  | .error _ => .pure 0

/-- the snapshot gets a name of its own, whatever name the request has -/
def createSnapshot (cfg : Config) (vmID name : String) : Job Snapshot := do
  require (vmID = "") vmIDRequired
  require (name = "") "name is required"
  let uuid ← rawCmd .newUUID
  let snapName := "snap-" ++ shortUUID uuid
  internal "creating snapshot"
    (cfg.storage.createSnapshot (cfg.storage.diskIdentifier vmID) snapName)
  let size ← attempt (cfg.storage.getImageSize (cfg.storage.diskIdentifier vmID)) sizeOrZero
  return ⟨vmID, name, snapName, size⟩

def deleteListed (snapshotID : String) (snapshots : List String) : Job Unit :=
  if snapshotID ∈ snapshots then
    internal "deleting snapshot"
      (cfg.storage.deleteSnapshot (cfg.storage.diskIdentifier vmID) snapshotID)
  else fail (.rpc .notFound "snapshot not found")

def deleteSnapshot (snapshotID : String) : Job Unit := do
  require (vmID = "" ∨ snapshotID = "") "vm_id and snapshot_id are required"
  let snapshots ← internal "listing snapshots"
    (cfg.storage.listSnapshots (cfg.storage.diskIdentifier vmID))
  deleteListed cfg vmID snapshotID snapshots

/-- only a domain that is running is stopped first -/
def revertSnapshot (snapshotID : String) : Job Unit := do
  require (vmID = "" ∨ snapshotID = "") "vm_id and snapshot_id are required"
  let status ← mapError "getting VM status" (Manager.getStatus vmID)
  when (status = "running") (internal "stopping VM" (Manager.forceStopVM vmID))
  internal "rolling back disk to snapshot"
    (cfg.storage.rollback (cfg.storage.diskIdentifier vmID) snapshotID)

structure DiskSnapshotRequest where
  vmID : String
  snapshotName : String
  storageBackend : String
  diskPath : String

section
variable (req : DiskSnapshotRequest)

/-- unlike elsewhere, the directory of the disks is not part of the default -/
def DiskSnapshotRequest.path (cfg : Config) : String :=
  if req.diskPath = "" then cfg.storagePath ++ "/" ++ vmDiskFile req.vmID else req.diskPath

def createDiskSnapshot : Job Unit := do
  require (req.vmID = "") vmIDRequired
  require (req.snapshotName = "") "snapshot_name is required"
  let backend := cfg.backendOf req.storageBackend
  if backend = storageBackendQcow then do
    checkPath "disk_path" (req.path cfg) cfg.storagePath
    internal "creating QCOW snapshot" (cfg.storage.createSnapshot (req.path cfg) req.snapshotName)
  else if backend = storageBackendCeph then
    internal "creating RBD snapshot"
      (cfg.storage.createSnapshot (vmDiskName req.vmID) req.snapshotName)
  else fail (invalidArgument ("unsupported storage backend: " ++ backend))

/-- an error of the backend is only logged, and a backend without disk snapshots is a success -/
def deleteDiskSnapshot : Job Unit := do
  require (req.vmID = "") vmIDRequired
  require (req.snapshotName = "") "snapshot_name is required"
  let backend := cfg.backendOf req.storageBackend
  if backend = storageBackendQcow then do
    checkPath "disk_path" (req.path cfg) cfg.storagePath
    logged (cfg.storage.deleteSnapshot (req.path cfg) req.snapshotName)
  else if backend = storageBackendCeph then
    logged (cfg.storage.deleteSnapshot (vmDiskName req.vmID) req.snapshotName)
  else .pure ()

end

/-! ## LVM backups -/

def validateLVMIdentifier (id : String) : Except GoError Unit :=
  if id = "" then .error (.new "identifier must not be empty")
  else if hasParent id then
    .error (.new ("identifier " ++ quoted id ++ " must not contain path traversal characters"))
  else if validLVMLVName id = false then
    .error (.new ("identifier " ++ quoted id ++ " must match " ++ lvmNamePattern))
  else .ok ()

def validateCreateLVMBackupArgs (snapshotName backupFilePath storageRoot : String) :
    Except GoError Unit := do
  inContext "invalid snapshot_name" (validateLVMIdentifier snapshotName)
  inContext "invalid backup_file_path" (validatePath backupFilePath storageRoot)

def invalidRequest : Except GoError Unit → Job Unit
  | .ok _ => .pure ()
  | .error e => fail (invalidArgument e.text)

/-- how a handler goes on after dd -/
def copied (context : String) : Except Err (Except String Unit) → Job Unit
  | .ok (.ok _) => .pure ()
  | .ok (.error text) => fail (.rpc .internal (context ++ ": " ++ text))
  | .error e => fail (.rpc .internal (context ++ ": " ++ e.text))

def requireLVM : Job LVMManager :=
  match cfg.storage with
  | .lvm m => .pure m
  | _ => fail (.rpc .internal "LVM storage backend not available")

def requireImage (context notFound : String) (m : LVMManager) (name : String) : Job Unit := do
  let exists_ ← internal context (m.imageExists name)
  if exists_ then .pure () else fail (.rpc .notFound notFound)

/-- the size of the file -/
def createLVMBackup (snapshotName backupFilePath : String) : Job Int := do
  require (vmID = "") vmIDRequired
  require (snapshotName = "") "snapshot_name is required"
  require (backupFilePath = "") "backup_file_path is required"
  invalidRequest (validateCreateLVMBackupArgs snapshotName backupFilePath cfg.storagePath)
  let m ← requireLVM cfg
  requireImage "checking if snapshot exists" ("snapshot " ++ snapshotName ++ " does not exist")
    m snapshotName
  internal "creating backup directory" (rawCmd (.mkdirAll backupFilePath))
  onCmd (.dd (.device (m.lvPath snapshotName)) (fileAt backupFilePath))
    (copied "creating backup file")
  let size ← internal "getting backup file info" (rawCmd (.fileSize backupFilePath))
  logged (m.deleteSnapshot (m.diskIdentifier vmID) snapshotName)
  return size

def requireBackupFile (path : String) : Except Err Unit → Job Unit
  | .error .notExist => fail (.rpc .notFound ("backup file " ++ path ++ " does not exist"))
  | _ => .pure ()

def requireStopped (status : String) : Job Unit :=
  if status = "running" then
    fail (.rpc .failedPrecondition "VM must be stopped before restoring backup")
  else .pure ()

def restoreLVMBackup (backupFilePath : String) : Job Unit := do
  require (vmID = "") vmIDRequired
  require (backupFilePath = "") "backup_file_path is required"
  checkPath "backup_file_path" backupFilePath cfg.storagePath
  let status ← internal "getting VM status" (Manager.getStatus vmID)
  requireStopped status
  let m ← requireLVM cfg
  let diskID := cfg.storage.diskIdentifier vmID
  requireImage "checking if LV exists" ("LV " ++ diskID ++ " does not exist") m diskID
  onCmd (.stat backupFilePath) (requireBackupFile backupFilePath)
  onCmd (.dd (fileAt backupFilePath) (.device diskID)) (copied "restoring backup")

end VirtueStack.Agent
