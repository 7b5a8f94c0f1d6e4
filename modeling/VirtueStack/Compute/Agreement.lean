import VirtueStack.Compute.Payloads

/-!
# What a handler reads of what a service published

The publisher of a task is an untyped map and its handler a tagged struct. Each of the three
theorems `decode_*` says what the handler gets, for every VM and every request:

* of a creation  no customer and no password;
* of a reinstall  no password;
* of a migration  no storage backend, neither of the source nor of the target, so that
  `executeDiskCopyMigration` does not see that a disk is an LVM volume.
-/

namespace VirtueStack.Compute
open Billing (VMStatus)
open List

/-! ## creation -/

variable {k : String}

lemma optionalText_keys {key : String} {s : Option String}
    (h : k ∈ (optionalText key s).map Prod.fst) : k = key := by
  cases s with
  | none => cases h
  | some s => exact mem_singleton.mp h

/-- the keys of a payload that no field of `VMCreatePayload` is for -/
def placementKeys : List String :=
  ["ipv4_address", "ceph_pool", "ceph_user", "ceph_monitors", "storage_path", "lvm_volume_group",
    "lvm_thin_pool", "storage_backend_id"]

lemma storageMembers_keys {backend : StorageBackend}
    (h : k ∈ (storageMembers backend).map Prod.fst) : k ∈ placementKeys := by
  unfold storageMembers at h
  rw [map_append, mem_append] at h
  rcases h with h | h
  · cases ht : backend.type with
    | ceph =>
      simp only [ht, map_append, mem_append] at h
      rcases h with (h | h) | h <;> rw [optionalText_keys h] <;> decide
    | qcow =>
      simp only [ht] at h
      rw [optionalText_keys h]
      decide
    | lvm =>
      simp only [ht, map_append, mem_append] at h
      rcases h with h | h <;> rw [optionalText_keys h] <;> decide
  · have hk : k = "storage_backend_id" := mem_singleton.mp h
    rw [hk]
    decide

lemma placementMembers_keys {deps : VMCreateDeps}
    (h : k ∈ (placementMembers deps).map Prod.fst) : k ∈ placementKeys := by
  unfold placementMembers at h
  cases hb : deps.storageBackend with
  | some backend =>
    simp only [hb] at h
    exact storageMembers_keys h
  | none =>
    simp only [hb, map_cons, map_nil] at h
    have hsub : ∀ k ∈ ["ceph_pool", "storage_path"], k ∈ placementKeys := by decide
    exact hsub k h

section
variable (req : VMCreateRequest) (vm : VM) (deps : VMCreateDeps) (ipv4Address : Option IPAddress)

/-- the place of the VM is not in the structs -/
lemma stored_createTaskPayload {tags : List String}
    (hnone : ∀ k ∈ placementKeys, fieldOf tags k = none)
    (tag : String) : stored tags (createTaskPayload req vm deps ipv4Address) tag =
      stored tags (createdMembers req vm deps) tag := by
  unfold createTaskPayload
  rw [stored_append]
  refine (congrArg _ (stored_eq_nil fun k hk => hnone k ?_)).trans (append_nil _)
  rw [map_append, mem_append] at hk
  rcases hk with hk | hk
  · rw [optionalText_keys hk]
    decide
  · exact placementMembers_keys hk

def createdKeys : List String :=
  ["vm_id", "node_id", "hostname", "vcpu", "memory_mb", "disk_gb", "template_id",
    "template_rbd_image",
    "template_rbd_snapshot", "mac_address", "port_speed_mbps", "bandwidth_limit_gb", "ssh_keys",
    "storage_backend"]

/-- **The handler of a creation gets neither the customer nor the password.** -/
theorem decode_createTaskPayload :
    VMCreatePayload.decode (.obj (createTaskPayload req vm deps ipv4Address)) = .ok
      { vmID := vm.id, nodeID := deps.node.id, hostname := vm.hostname, vcpu := vm.vcpu,
        memoryMB := vm.memoryMB, diskGB := vm.diskGB, templateID := deps.template.id,
        customerID := "", sshKeys := req.sshKeys, userData := "", password := "" } := by
  have hkeys : (createdMembers req vm deps).map Prod.fst = createdKeys := rfl
  have hsep : Separate VMCreatePayload.tags createdKeys := by decide
  have hnd : createdKeys.Nodup := by decide
  have hplace : ∀ k ∈ placementKeys, fieldOf VMCreatePayload.tags k = none := by decide
  have value : ∀ tag v (i j : Nat), VMCreatePayload.tags[i]? = some tag →
      (createdMembers req vm deps)[j]? = some (tag, v) →
      stored VMCreatePayload.tags (createTaskPayload req vm deps ipv4Address) tag = [v] := by
    intro tag v i j ht hm
    rw [stored_createTaskPayload req vm deps ipv4Address hplace]
    exact stored_getElem hkeys hsep hnd i j ht hm
  have noValue : ∀ tag, tag ∈ VMCreatePayload.tags → tag ∉ createdKeys →
      stored VMCreatePayload.tags (createTaskPayload req vm deps ipv4Address) tag = [] := by
    intro tag ht hm
    rw [stored_createTaskPayload req vm deps ipv4Address hplace]
    exact stored_of_notMem hkeys hsep ht hm
  unfold VMCreatePayload.decode Json.members
  simp only [ok_bind, stringField_of_singleton (value "vm_id" _ 0 0 rfl rfl),
    stringField_of_singleton (value "node_id" _ 1 1 rfl rfl),
    stringField_of_singleton (value "hostname" _ 2 2 rfl rfl),
    intField_of_singleton (value "vcpu" _ 3 3 rfl rfl),
    intField_of_singleton (value "memory_mb" _ 4 4 rfl rfl),
    intField_of_singleton (value "disk_gb" _ 5 5 rfl rfl),
    stringField_of_singleton (value "template_id" _ 6 6 rfl rfl),
    stringField_of_nil (noValue "customer_id" (by decide) (by decide)),
    stringsField_of_singleton (value "ssh_keys" _ 8 12 rfl rfl),
    stringField_of_nil (noValue "user_data" (by decide) (by decide)),
    stringField_of_nil (noValue "password" (by decide) (by decide))]
  rfl

lemma decode_vmID_createTaskPayload :
    VMDeletePayload.decode (.obj (createTaskPayload req vm deps ipv4Address)) = .ok ⟨vm.id⟩ := by
  have hkeys : (createdMembers req vm deps).map Prod.fst = createdKeys := rfl
  have hsep : Separate VMDeletePayload.tags createdKeys := by decide
  have hplace : ∀ k ∈ placementKeys, fieldOf VMDeletePayload.tags k = none := by decide
  have hvalue : stored VMDeletePayload.tags (createTaskPayload req vm deps ipv4Address) "vm_id" =
      [.str vm.id] := by
    rw [stored_createTaskPayload req vm deps ipv4Address hplace]
    exact stored_getElem hkeys hsep (by decide) 0 0 rfl rfl
  unfold VMDeletePayload.decode Json.members
  simp only [ok_bind, stringField_of_singleton hvalue]
  rfl

end

def reinstallKeys : List String :=
  ["vm_id", "node_id", "hostname", "template_id", "template_rbd_image",
    "template_rbd_snapshot", "vcpu", "memory_mb", "disk_gb", "mac_address"]

/-- **The handler of a reinstall gets no password.** -/
theorem decode_reinstallTaskPayload (vm : VM) (nodeID : String) (template : Template) :
    VMReinstallPayload.decode (.obj (reinstallTaskPayload vm nodeID template)) =
      .ok { vmID := vm.id, templateID := template.id, sshKeys := [], password := "" } := by
  have hkeys : (reinstallTaskPayload vm nodeID template).map Prod.fst = reinstallKeys := rfl
  have hsep : Separate VMReinstallPayload.tags reinstallKeys := by decide
  have hnd : reinstallKeys.Nodup := by decide
  have noValue : ∀ tag ∈ VMReinstallPayload.tags, tag ∉ reinstallKeys →
      stored VMReinstallPayload.tags (reinstallTaskPayload vm nodeID template) tag = [] :=
    fun tag ht hm => stored_of_notMem hkeys hsep ht hm
  unfold VMReinstallPayload.decode Json.members
  simp only [ok_bind, stringField_of_singleton (stored_getElem hkeys hsep hnd 0 0 rfl rfl),
    stringField_of_singleton (stored_getElem hkeys hsep hnd 1 3 rfl rfl),
    stringsField_of_nil (noValue "ssh_keys" (by decide) (by decide)),
    stringField_of_nil (noValue "password" (by decide) (by decide))]
  rfl

def migrationKeys : List String :=
  ["vm_id", "source_node_id", "target_node_id", "hostname", "vcpu", "memory_mb", "disk_gb",
    "mac_address", "live", "source_ceph_pool", "target_ceph_pool", "initiated_by",
    "pre_migration_state", "storage_backend", "source_storage_path", "target_storage_path",
    "migration_strategy", "source_disk_path", "target_disk_path", "disk_size_gb"]

section
variable (vm : VM) (sourceNodeID : String) (sourceNode targetNode : Node)
  (storageBackend strategy sourceDiskPath targetDiskPath : String) (live : Bool) (adminID : String)
  (preMigrationStatus : VMStatus)

/-- **The handler of a migration gets no storage backend.** -/
theorem decode_buildMigrationPayload :
    VMMigratePayload.decode (.obj (buildMigrationPayload vm sourceNodeID sourceNode targetNode
      storageBackend strategy sourceDiskPath targetDiskPath live adminID preMigrationStatus)) = .ok
      { vmID := vm.id, sourceNodeID := sourceNodeID, targetNodeID := targetNode.id,
        preMigrationState := preMigrationStatus.text, sourceStorageBackend := "",
        targetStorageBackend := "", sourceStoragePath := sourceNode.storagePath,
        targetStoragePath := targetNode.storagePath, sourceCephPool := sourceNode.cephPool,
        targetCephPool := targetNode.cephPool, sourceLVMVolumeGroup := "", sourceLVMThinPool := "",
        targetLVMVolumeGroup := "", targetLVMThinPool := "", migrationStrategy := strategy,
        live := live, sourceDiskPath := sourceDiskPath, targetDiskPath := targetDiskPath,
        diskSizeGB := vm.diskGB, diskTransferProgress := 0 } := by
  have hkeys : (buildMigrationPayload vm sourceNodeID sourceNode targetNode storageBackend strategy
      sourceDiskPath targetDiskPath live adminID preMigrationStatus).map Prod.fst =
      migrationKeys := rfl
  have hsep : Separate VMMigratePayload.tags migrationKeys := by decide
  have hnd : migrationKeys.Nodup := by decide
  have value : ∀ {tag v} (i j : Nat), VMMigratePayload.tags[i]? = some tag → _ →
      stored VMMigratePayload.tags (buildMigrationPayload vm sourceNodeID sourceNode targetNode
        storageBackend strategy sourceDiskPath targetDiskPath live adminID preMigrationStatus) tag =
        [v] :=
    fun i j ht hm => stored_getElem hkeys hsep hnd i j ht hm
  have noValue : ∀ {tag} (i : Nat), VMMigratePayload.tags[i]? = some tag → tag ∉ migrationKeys →
      stored VMMigratePayload.tags (buildMigrationPayload vm sourceNodeID sourceNode targetNode
        storageBackend strategy sourceDiskPath targetDiskPath live adminID preMigrationStatus)
          tag = [] :=
    fun i ht hm => stored_of_notMem hkeys hsep (mem_of_getElem? ht) hm
  have text : ∀ {tag s} (i j : Nat), VMMigratePayload.tags[i]? = some tag → _ →
      stringField VMMigratePayload.tags _ tag = .ok s :=
    fun i j ht hm => stringField_of_singleton (value i j ht hm)
  have noText : ∀ {tag} (i : Nat), VMMigratePayload.tags[i]? = some tag → tag ∉ migrationKeys →
      stringField VMMigratePayload.tags _ tag = .ok "" :=
    fun i ht hm => stringField_of_nil (noValue i ht hm)
  unfold VMMigratePayload.decode Json.members
  simp only [ok_bind, text 0 0 rfl rfl, text 1 1 rfl rfl, text 2 2 rfl rfl, text 3 12 rfl rfl,
    noText 4 rfl (by decide), noText 5 rfl (by decide), text 6 14 rfl rfl, text 7 15 rfl rfl,
    text 8 9 rfl rfl, text 9 10 rfl rfl, noText 10 rfl (by decide), noText 11 rfl (by decide),
    noText 12 rfl (by decide), noText 13 rfl (by decide), text 14 16 rfl rfl,
    boolField_of_singleton (value 15 8 rfl rfl), text 16 17 rfl rfl, text 17 18 rfl rfl,
    intField_of_singleton (value 18 19 rfl rfl), intField_of_nil (noValue 19 rfl (by decide))]
  rfl

end

/-! ## all three -/

section
variable (req : VMCreateRequest) (vm : VM) (deps : VMCreateDeps) (ipv4Address : Option IPAddress)
  (nodeID : String) (template : Template) (password : String)
  (sourceNode targetNode : Node) (live : Bool)
  (adminID : String)

/-- the handler of the creation gets the customer and the password that was asked for -/
def CreationAgrees : Prop :=
  ∃ p, VMCreatePayload.decode (.obj (createTaskPayload req vm deps ipv4Address)) = .ok p ∧
    p.customerID = vm.customerID ∧ p.password = req.password

/-- the handler of the reinstall gets the password that was asked for -/
def ReinstallAgrees : Prop :=
  ∃ p, VMReinstallPayload.decode (.obj (reinstallTaskPayload vm nodeID template)) = .ok p ∧
    p.password = password

/-- the handler of the migration gets the storage backend, and sees that an LVM volume is one -/
def MigrationAgrees : Prop :=
  ∃ p, VMMigratePayload.decode
    (.obj (migrationTaskPayload vm nodeID sourceNode targetNode live adminID)) = .ok p ∧
    p.sourceStorageBackend = vm.storageBackend ∧ p.targetStorageBackend = vm.storageBackend ∧
    (vm.storageBackend = storageBackendLvm → p.sourceIsLVM = true)

lemma creationAgrees_iff : CreationAgrees req vm deps ipv4Address ↔
    vm.customerID = "" ∧ req.password = "" := by
  unfold CreationAgrees
  rw [decode_createTaskPayload]
  constructor
  · rintro ⟨p, hp, hc, hw⟩
    cases hp
    exact ⟨hc.symm, hw.symm⟩
  · rintro ⟨hc, hw⟩
    exact ⟨_, rfl, hc.symm, hw.symm⟩

lemma reinstallAgrees_iff : ReinstallAgrees vm nodeID template password ↔ password = "" := by
  unfold ReinstallAgrees
  rw [decode_reinstallTaskPayload]
  constructor
  · rintro ⟨p, hp, hw⟩
    cases hp
    exact hw.symm
  · intro hw
    exact ⟨_, rfl, hw.symm⟩

lemma migrationAgrees_iff : MigrationAgrees vm nodeID sourceNode targetNode live adminID ↔
    vm.storageBackend = "" := by
  unfold MigrationAgrees migrationTaskPayload
  rw [decode_buildMigrationPayload]
  constructor
  · rintro ⟨p, hp, hs, -⟩
    cases hp
    exact hs.symm
  · intro hb
    refine ⟨_, rfl, hb.symm, hb.symm, fun h => ?_⟩
    rw [hb] at h
    exact absurd h (by decide)

/-- **The payloads agree only where there is nothing to agree on.** The customer, the passwords and
the storage backend are in no payload, so each is read as the empty text. -/
theorem payloads_agree_iff :
    (CreationAgrees req vm deps ipv4Address ∧ ReinstallAgrees vm nodeID template password ∧
      MigrationAgrees vm nodeID sourceNode targetNode live adminID) ↔
    vm.customerID = "" ∧ req.password = "" ∧ password = "" ∧ vm.storageBackend = "" := by
  rw [creationAgrees_iff, reinstallAgrees_iff, migrationAgrees_iff, and_assoc]

end

def lvmVM : VM :=
  { id := "v", customerID := "c", nodeID := some "n", planID := "p", hostname := "h",
    status := .running,
    vcpu := 1, memoryMB := 1024, diskGB := 10, portSpeedMbps := 100, bandwidthLimitGB := 0,
    macAddress := "52:54:00:00:00:01", templateID := some "t", externalServiceID := none,
    storageBackend := storageBackendLvm, diskPath := none, rbdImage := none, deletedAt := none }

def nodeNamed (id : String) : Node :=
  { id := id, hostname := id, locationID := none, status := .online, totalVCPU := 8,
    totalMemoryMB := 8192, allocatedVCPU := 0, allocatedMemoryMB := 0, storageBackend :=
    storageBackendLvm,
    storagePath := "/srv", cephPool := "" }

def lvmPlan : Plan := ⟨"p", 1, 1024, 10, 100, 0, true, storageBackendLvm⟩

def lvmTemplate : Template := ⟨"t", "", "", 10, true, storageBackendLvm⟩

def lvmRequest : VMCreateRequest := ⟨"p", "h", "t", "Correct-Horse-1", [], none, none, ""⟩

/-- **Nothing of it arrives.** The handlers get no customer and no password, and the live disk of an
LVM VM is not taken for an LVM volume. -/
theorem payloads_disagree :
    ¬ CreationAgrees lvmRequest lvmVM ⟨lvmPlan, lvmTemplate, nodeNamed "n", none⟩ none ∧
    ¬ ReinstallAgrees lvmVM "n" lvmTemplate "Correct-Horse-2" ∧
    ¬ MigrationAgrees lvmVM "n" (nodeNamed "n") (nodeNamed "m") true "a" := by
  refine ⟨?_, ?_, ?_⟩
  · rw [creationAgrees_iff]
    decide
  · rw [reinstallAgrees_iff]
    decide
  · rw [migrationAgrees_iff]
    decide

end VirtueStack.Compute
