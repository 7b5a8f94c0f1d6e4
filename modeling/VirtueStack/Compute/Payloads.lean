import VirtueStack.Compute.Models
import VirtueStack.Shared.Json

/-!
# The payloads of the tasks of a VM

What the services publish (services/vm_service.go, services/migration_service.go) and the structs
the handlers decode it into (tasks/handlers_types.go).
-/

namespace VirtueStack.Compute
open Billing (VMStatus)

/-! ## what the services publish -/

structure VMCreateRequest where
  planID : String
  hostname : String
  templateID : String
  password : String
  sshKeys : List String
  locationID : Option String
  externalServiceID : Option Int
  idempotencyKey : String

/-- the resolved parts of a request -/
structure VMCreateDeps where
  plan : Plan
  template : Template
  node : Node
  storageBackend : Option StorageBackend

/-- a member for a pointer that is not nil -/
def optionalText (key : String) (s : Option String) : List (String × Json) :=
  (s.map fun s => (key, .str s)).toList

def storageMembers (backend : StorageBackend) : List (String × Json) :=
  (match backend.type with
    | .ceph => optionalText "ceph_pool" backend.cephPool ++
        optionalText "ceph_user" backend.cephUser ++
        optionalText "ceph_monitors" backend.cephMonitors
    | .qcow => optionalText "storage_path" backend.storagePath
    | .lvm => optionalText "lvm_volume_group" backend.lvmVolumeGroup ++
        optionalText "lvm_thin_pool" backend.lvmThinPool) ++
  [("storage_backend_id", .str backend.id)]

/-- where the disk goes: the storage backend, or what the node says -/
def placementMembers (deps : VMCreateDeps) : List (String × Json) :=
  match deps.storageBackend with
  | some backend => storageMembers backend
  | none => [("ceph_pool", .str deps.node.cephPool), ("storage_path", .str deps.node.storagePath)]

section
variable (req : VMCreateRequest) (vm : VM) (deps : VMCreateDeps)

/-- the members that are always there -/
def createdMembers : List (String × Json) :=
  [("vm_id", .str vm.id), ("node_id", .str deps.node.id), ("hostname", .str vm.hostname),
    ("vcpu", .num vm.vcpu), ("memory_mb", .num vm.memoryMB), ("disk_gb", .num vm.diskGB),
    ("template_id", .str deps.template.id), ("template_rbd_image", .str deps.template.rbdImage),
    ("template_rbd_snapshot", .str deps.template.rbdSnapshot), ("mac_address", .str vm.macAddress),
    ("port_speed_mbps", .num vm.portSpeedMbps), ("bandwidth_limit_gb", .num vm.bandwidthLimitGB),
    ("ssh_keys", .arr (req.sshKeys.map .str)), ("storage_backend", .str deps.plan.storageBackend)]

def createTaskPayload (ipv4Address : Option IPAddress) : List (String × Json) :=
  createdMembers req vm deps ++
    (optionalText "ipv4_address" (ipv4Address.map (·.address)) ++ placementMembers deps)

end

variable (vm : VM)

/-- the VM is on the node `nodeID` -/
def reinstallTaskPayload (nodeID : String) (template : Template) : List (String × Json) :=
  [("vm_id", .str vm.id), ("node_id", .str nodeID), ("hostname", .str vm.hostname),
    ("template_id", .str template.id), ("template_rbd_image", .str template.rbdImage),
    ("template_rbd_snapshot", .str template.rbdSnapshot), ("vcpu", .num vm.vcpu),
    ("memory_mb", .num vm.memoryMB), ("disk_gb", .num vm.diskGB),
    ("mac_address", .str vm.macAddress)]

/-! ## migrations -/

def getNodeStorageBackend : String :=
  if vm.storageBackend ≠ "" then vm.storageBackend else storageBackendCeph

def migrationStrategyLiveSharedStorage : String := "live_shared"
def migrationStrategyDiskCopy : String := "disk_copy"
def migrationStrategyCold : String := "cold"

def determineMigrationStrategy (storageBackend : String) : String :=
  if storageBackend = storageBackendCeph then migrationStrategyLiveSharedStorage
  else migrationStrategyDiskCopy

def validateStorageBackend (storageBackend : String) : Except GoError Unit :=
  if storageBackend ∈ [storageBackendCeph, storageBackendQcow, storageBackendLvm] then .ok ()
  else .error (.new ("unknown storage backend " ++ quoted storageBackend ++
    ": VM must be migrated from a node with the same backend"))

def qcowDiskPath (node : Node) : String :=
  if node.storagePath ≠ "" then node.storagePath ++ "/" ++ vm.id ++ "-disk0.qcow2"
  else "/var/lib/virtuestack/vms/" ++ vm.id ++ "-disk0.qcow2"

def rbdDiskName : String :=
  match vm.rbdImage with
  | some image => if image ≠ "" then image else "vm-" ++ vm.id ++ "-disk0"
  | none => "vm-" ++ vm.id ++ "-disk0"

def getVMDiskPathForTarget (targetNode : Node) : String :=
  if getNodeStorageBackend vm = storageBackendQcow then qcowDiskPath vm targetNode
    else rbdDiskName vm

def getVMDiskPath (node : Node) : String :=
  match vm.diskPath with
  | some path => if path ≠ "" then path else getVMDiskPathForTarget vm node
  | none => getVMDiskPathForTarget vm node

section
variable (sourceNodeID : String) (sourceNode targetNode : Node)

/-- the VM is on the node `sourceNodeID` -/
def buildMigrationPayload (storageBackend strategy sourceDiskPath targetDiskPath : String)
    (live : Bool) (adminID : String) (preMigrationStatus : VMStatus) : List (String × Json) :=
  [("vm_id", .str vm.id), ("source_node_id", .str sourceNodeID),
    ("target_node_id", .str targetNode.id), ("hostname", .str vm.hostname), ("vcpu", .num vm.vcpu),
    ("memory_mb", .num vm.memoryMB), ("disk_gb", .num vm.diskGB),
    ("mac_address", .str vm.macAddress),
    ("live", .bool live), ("source_ceph_pool", .str sourceNode.cephPool),
    ("target_ceph_pool", .str targetNode.cephPool), ("initiated_by", .str adminID),
    ("pre_migration_state", .str preMigrationStatus.text), ("storage_backend", .str storageBackend),
    ("source_storage_path", .str sourceNode.storagePath),
    ("target_storage_path", .str targetNode.storagePath), ("migration_strategy", .str strategy),
    ("source_disk_path", .str sourceDiskPath), ("target_disk_path", .str targetDiskPath),
    ("disk_size_gb", .num vm.diskGB)]

/-- the payload `executeMigration` publishes for a VM in the status `vm.status` -/
def migrationTaskPayload (live : Bool)
    (adminID : String) : List (String × Json) :=
  buildMigrationPayload vm sourceNodeID sourceNode targetNode (getNodeStorageBackend vm)
    (determineMigrationStrategy (getNodeStorageBackend vm)) (getVMDiskPath vm sourceNode)
    (getVMDiskPathForTarget vm targetNode) live adminID vm.status

end

/-! ## what the handlers decode -/

structure VMCreatePayload where
  vmID : String
  nodeID : String
  hostname : String
  vcpu : Int
  memoryMB : Int
  diskGB : Int
  templateID : String
  customerID : String
  sshKeys : List String
  userData : String
  password : String
  deriving DecidableEq, Repr

def VMCreatePayload.tags : List String :=
  ["vm_id", "node_id", "hostname", "vcpu", "memory_mb", "disk_gb", "template_id", "customer_id",
    "ssh_keys", "user_data", "password"]

def VMCreatePayload.decode (doc : Json) : Except GoError VMCreatePayload := do
  let members ← doc.members
  return {
    vmID := ← stringField tags members "vm_id"
    nodeID := ← stringField tags members "node_id"
    hostname := ← stringField tags members "hostname"
    vcpu := ← intField tags members "vcpu"
    memoryMB := ← intField tags members "memory_mb"
    diskGB := ← intField tags members "disk_gb"
    templateID := ← stringField tags members "template_id"
    customerID := ← stringField tags members "customer_id"
    sshKeys := ← stringsField tags members "ssh_keys"
    userData := ← stringField tags members "user_data"
    password := ← stringField tags members "password" }

structure VMReinstallPayload where
  vmID : String
  templateID : String
  sshKeys : List String
  password : String
  deriving DecidableEq, Repr

def VMReinstallPayload.tags : List String := ["vm_id", "template_id", "ssh_keys", "password"]

def VMReinstallPayload.decode (doc : Json) : Except GoError VMReinstallPayload := do
  let members ← doc.members
  return {
    vmID := ← stringField tags members "vm_id"
    templateID := ← stringField tags members "template_id"
    sshKeys := ← stringsField tags members "ssh_keys"
    password := ← stringField tags members "password" }

structure VMDeletePayload where
  vmID : String
  deriving DecidableEq, Repr

def VMDeletePayload.tags : List String := ["vm_id"]

def VMDeletePayload.decode (doc : Json) : Except GoError VMDeletePayload := do
  let members ← doc.members
  return { vmID := ← stringField tags members "vm_id" }

structure VMMigratePayload where
  vmID : String
  sourceNodeID : String
  targetNodeID : String
  preMigrationState : String
  sourceStorageBackend : String
  targetStorageBackend : String
  sourceStoragePath : String
  targetStoragePath : String
  sourceCephPool : String
  targetCephPool : String
  sourceLVMVolumeGroup : String
  sourceLVMThinPool : String
  targetLVMVolumeGroup : String
  targetLVMThinPool : String
  migrationStrategy : String
  live : Bool
  sourceDiskPath : String
  targetDiskPath : String
  diskSizeGB : Int
  diskTransferProgress : Int
  deriving DecidableEq, Repr

def VMMigratePayload.tags : List String :=
  ["vm_id", "source_node_id", "target_node_id", "pre_migration_state", "source_storage_backend",
    "target_storage_backend", "source_storage_path", "target_storage_path", "source_ceph_pool",
    "target_ceph_pool", "source_lvm_volume_group", "source_lvm_thin_pool",
    "target_lvm_volume_group",
    "target_lvm_thin_pool", "migration_strategy", "live", "source_disk_path", "target_disk_path",
    "disk_size_gb", "disk_transfer_progress"]

/-- the test by which `executeDiskCopyMigration` takes the path for LVM volumes -/
def VMMigratePayload.sourceIsLVM (p : VMMigratePayload) : Bool := p.sourceStorageBackend = "lvm"

def VMMigratePayload.decode (doc : Json) : Except GoError VMMigratePayload := do
  let members ← doc.members
  return {
    vmID := ← stringField tags members "vm_id"
    sourceNodeID := ← stringField tags members "source_node_id"
    targetNodeID := ← stringField tags members "target_node_id"
    preMigrationState := ← stringField tags members "pre_migration_state"
    sourceStorageBackend := ← stringField tags members "source_storage_backend"
    targetStorageBackend := ← stringField tags members "target_storage_backend"
    sourceStoragePath := ← stringField tags members "source_storage_path"
    targetStoragePath := ← stringField tags members "target_storage_path"
    sourceCephPool := ← stringField tags members "source_ceph_pool"
    targetCephPool := ← stringField tags members "target_ceph_pool"
    sourceLVMVolumeGroup := ← stringField tags members "source_lvm_volume_group"
    sourceLVMThinPool := ← stringField tags members "source_lvm_thin_pool"
    targetLVMVolumeGroup := ← stringField tags members "target_lvm_volume_group"
    targetLVMThinPool := ← stringField tags members "target_lvm_thin_pool"
    migrationStrategy := ← stringField tags members "migration_strategy"
    live := ← boolField tags members "live"
    sourceDiskPath := ← stringField tags members "source_disk_path"
    targetDiskPath := ← stringField tags members "target_disk_path"
    diskSizeGB := ← intField tags members "disk_size_gb"
    diskTransferProgress := ← intField tags members "disk_transfer_progress" }

end VirtueStack.Compute
