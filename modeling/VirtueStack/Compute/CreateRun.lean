import VirtueStack.Compute.CreateTask
import VirtueStack.Compute.Addresses

/-!
# The run of vm.create, half by half

* `Prepared` the reads of the first half succeed, with what they find;
* `prepare_eq_ok` the first half finds all of it, or ends with an error and changes nothing.
-/

namespace VirtueStack.Compute
open Txn Call Op
open Billing (VMStatus)

variable {p : Platform} {o : Oracle} {db db' : Db} {doc : Json} {taskID v : String}

/-! ## the first half -/

/-- the address of the row, or a new one -/
def macAddressOf (p : Platform) (o : Oracle) (vm : VM) (vmID : String) : String :=
  if vm.macAddress = "" then
    match o .generateMACAddress with
    | .ok x => x.fresh
    | .fail _ => macPrefix ++ ":" ++ p.macSuffix vmID
  else vm.macAddress

/-- the file of the template on the node, if it needs one -/
def TemplateFile (o : Oracle) (db : Db) (template : Template) (nodeID path : String) : Prop :=
  if needsTemplateFile template then
    served o (.getTemplateCache template.id nodeID) = true ∧
      ∃ entry, db.templateCache.find? (fun e => e.templateID = template.id ∧ e.nodeID = nodeID) =
        some entry ∧ cachedPath template nodeID entry = .ok path
  else path = ""

structure Prepared (p : Platform) (o : Oracle) (db : Db) (doc : Json) (c : CreateContext) :
    Prop where
  decoded : VMCreatePayload.decode doc = .ok c.payload
  password : hashPasswordForCloudInit p c.payload.password = .ok ()
  node : served o (.getNode c.payload.nodeID) = true ∧ db.nodes.find c.payload.nodeID = some c.node
  template : served o (.getTemplate c.payload.templateID) = true ∧
    db.templates.find? (fun t => t.id = c.payload.templateID) = some c.template
  vm : served o (.getVM c.payload.vmID) = true ∧ db.vm c.payload.vmID = some c.vm
  mac : c.macAddress = macAddressOf p o c.vm c.payload.vmID
  file : TemplateFile o db c.template c.payload.nodeID c.templateFilePath

lemma getTemplate_eq_ok {id : String} {template : Template} :
    (TemplateRepository.getByID id).alone o db = (.ok template, db') ↔
      (served o (.getTemplate id) = true ∧
        db.templates.find? (fun t => t.id = id) = some template) ∧ db' = db :=
  found_eq_ok.trans (read_eq_ok (fun _ => rfl) rfl)

lemma getTemplateCache_eq_ok {templateID nodeID : String} {entry : TemplateCacheEntry} :
    (TemplateCacheRepository.get templateID nodeID).alone o db = (.ok entry, db') ↔
      (served o (.getTemplateCache templateID nodeID) = true ∧
        db.templateCache.find? (fun e => e.templateID = templateID ∧ e.nodeID = nodeID) =
          some entry) ∧ db' = db :=
  found_eq_ok.trans (read_eq_ok (fun _ => rfl) rfl)

lemma macAddress_alone (vm : VM) (vmID : String) :
    (macAddressFor p vm vmID).alone o db = (.ok (macAddressOf p o vm vmID), db) := by
  unfold macAddressOf macAddressFor
  by_cases h : vm.macAddress = ""
  · rw [if_pos h, if_pos h]
    unfold generateMACAddress
    rw [alone_attempt, alone_query, answer_of_read rfl]
    cases ho : o .generateMACAddress with
    | ok x => rfl
    | fail e => rfl
  · rw [if_neg h, if_neg h]
    rfl

lemma resolveTemplate_eq_ok {template : Template} {nodeID path : String} :
    (resolveTemplatePathForNode template nodeID).alone o db = (.ok path, db') ↔
      TemplateFile o db template nodeID path ∧ db' = db := by
  unfold resolveTemplatePathForNode TemplateFile
  by_cases hn : needsTemplateFile template = true
  · rw [if_pos hn, if_pos hn, alone_attempt]
    cases hc : (TemplateCacheRepository.get template.id nodeID).alone o db with
    | mk r db1 =>
      cases r with
      | ok entry =>
        obtain ⟨⟨hs, hf⟩, rfl⟩ := getTemplateCache_eq_ok.mp hc
        refine lift_eq_ok.trans (and_congr_left' ⟨fun h => ⟨hs, entry, hf, h⟩, ?_⟩)
        rintro ⟨-, entry', hf', h⟩
        obtain rfl : entry = entry' := Option.mem_unique hf hf'
        exact h
      | error e =>
        constructor
        · intro h
          by_cases hnf : e.is .notFound = true
          · simp only [if_pos hnf] at h
            cases h
          · simp only [if_neg hnf] at h
            cases h
        · rintro ⟨⟨hs, entry, hf, -⟩, -⟩
          have hok := getTemplateCache_eq_ok.mpr ⟨⟨hs, hf⟩, (rfl : db = db)⟩
          rw [hc] at hok
          cases hok
  · rw [if_neg hn, if_neg hn, alone_pure, Prod.mk.injEq, Except.ok.injEq, eq_comm, and_congr_right']
    exact eq_comm

lemma macAddressFor_reads (vm : VM) (vmID : String) : (macAddressFor p vm vmID).All Stmt.Reads := by
  simp [macAddressFor, generateMACAddress, Stmt.Reads, Stmt.table]

lemma prepare_reads : (prepareVMCreate p taskID doc).All Stmt.Reads := by
  simp [prepareVMCreate, resolveTemplatePathForNode, macAddressFor_reads, Stmt.Reads, Stmt.table]

variable {c : CreateContext}

/-- **The first half succeeds exactly when everything it reads is there.** -/
theorem prepare_eq_ok : (prepareVMCreate p taskID doc).alone o db = (.ok c, db) ↔
    Prepared p o db doc c := by
  unfold prepareVMCreate
  constructor
  · intro h
    obtain ⟨payload, _, h1, h⟩ := alone_bind_eq_ok.mp h
    obtain ⟨hdec, rfl⟩ := lift_eq_ok.mp (wrapping_eq_ok.mp h1)
    obtain ⟨_, _, h2, h⟩ := alone_bind_eq_ok.mp h
    obtain ⟨hpw, rfl⟩ := lift_eq_ok.mp (wrapping_eq_ok.mp h2)
    rw [alone_bind_ok (progress_alone _ _ _)] at h
    obtain ⟨node, _, h3, h⟩ := alone_bind_eq_ok.mp h
    obtain ⟨hnode, rfl⟩ := getNode_eq_ok.mp (wrapping_eq_ok.mp h3)
    obtain ⟨template, _, h4, h⟩ := alone_bind_eq_ok.mp h
    obtain ⟨htemplate, rfl⟩ := getTemplate_eq_ok.mp (wrapping_eq_ok.mp h4)
    obtain ⟨vm, _, h5, h⟩ := alone_bind_eq_ok.mp h
    obtain ⟨hvm, rfl⟩ := getVM_eq_ok.mp (wrapping_eq_ok.mp h5)
    rw [alone_bind_ok (macAddress_alone vm payload.vmID), alone_bind_ok (progress_alone _ _ _)] at h
    obtain ⟨path, _, h6, h⟩ := alone_bind_eq_ok.mp h
    obtain ⟨hfile, rfl⟩ := resolveTemplate_eq_ok.mp (wrapping_eq_ok.mp h6)
    rw [alone_bind_ok (progress_alone _ _ _)] at h
    cases h
    exact ⟨hdec, hpw, hnode, htemplate, hvm, rfl, hfile⟩
  · intro h
    rw [alone_bind_ok (wrapping_eq_ok.mpr (lift_eq_ok.mpr ⟨h.decoded, rfl⟩)),
      alone_bind_ok (wrapping_eq_ok.mpr (lift_eq_ok.mpr ⟨h.password, rfl⟩)),
      alone_bind_ok (progress_alone _ _ _),
      alone_bind_ok (wrapping_eq_ok.mpr (getNode_eq_ok.mpr ⟨h.node, rfl⟩)),
      alone_bind_ok (wrapping_eq_ok.mpr (getTemplate_eq_ok.mpr ⟨h.template, rfl⟩)),
      alone_bind_ok (wrapping_eq_ok.mpr (getVM_eq_ok.mpr ⟨h.vm, rfl⟩)),
      alone_bind_ok (macAddress_alone c.vm c.payload.vmID),
      alone_bind_ok (progress_alone _ _ _), ← h.mac,
      alone_bind_ok (wrapping_eq_ok.mpr (resolveTemplate_eq_ok.mpr ⟨h.file, rfl⟩)),
      alone_bind_ok (progress_alone _ _ _)]
    rfl

lemma handleVMCreate_prepared (h : Prepared p o db doc c) :
    (handleVMCreate p taskID doc).alone o db = (provisionVM taskID c).alone o db :=
  alone_bind_ok (prepare_eq_ok.mpr h)

lemma Prepared.unique {c' : CreateContext} (h : Prepared p o db doc c)
    (h' : Prepared p o db doc c') : c = c' := by
  have hc : (prepareVMCreate p "" doc).alone o db = (.ok c, db) := prepare_eq_ok.mpr h
  rw [prepare_eq_ok.mpr h'] at hc
  cases hc
  rfl

lemma handleVMCreate_unprepared (taskID : String) (h : ∀ c, ¬ Prepared p o db doc c) :
    ∃ e, (handleVMCreate p taskID doc).alone o db = (.error e, db) := by
  have hdb : ((prepareVMCreate p taskID doc).alone o db).2 = db := alone_of_reads prepare_reads
  cases hp : (prepareVMCreate p taskID doc).alone o db with
  | mk r db1 =>
    obtain rfl : db1 = db := by rw [hp] at hdb; exact hdb
    cases r with
    | ok c => exact absurd (prepare_eq_ok.mp hp) (h c)
    | error e => exact ⟨e, alone_bind_error hp⟩

/-! ## the second half -/

lemma rollback_alone (steps : List (Op Unit)) :
    (rollback steps).alone o db =
      (.ok (), steps.foldl (fun db step => (step.alone o db).2) db) := by
  induction steps generalizing db with
  | nil => rfl
  | cons step steps ih =>
    unfold rollback
    rw [alone_bind_ok (alone_logged step), ih]
    rfl

/-- what the last statement of a rollback leaves -/
def failedStatus (o : Oracle) (db : Db) (v : String) : Db :=
  ((VMRepository.transitionStatus v VMStatus.provisioning.text .error).alone o db).2

lemma rollbackWithErrorStatus_alone (c : CreateContext) (steps : List (Op Unit)) (cause : GoError) :
    (rollbackWithErrorStatus c steps cause).alone o db = (.error cause, failedStatus o
      (steps.reverse.foldl (fun db step => (step.alone o db).2) db) c.payload.vmID) := by
  unfold rollbackWithErrorStatus
  rw [alone_bind_ok (rollback_alone _), alone_bind_ok (alone_logged _)]
  rfl

lemma rollback_releases (c : CreateContext) (cause : GoError) :
    (rollbackWithErrorStatus c [c.releaseIPs] cause).alone o db =
      (.error cause, failedStatus o (db.released o c.payload.vmID) c.payload.vmID) := by
  rw [rollbackWithErrorStatus_alone, ← releaseIPsByVM_alone]
  rfl

def deletedHosts (o : Oracle) (db : Db) (c : CreateContext) : Hosts :=
  agentHosts o db c.payload.nodeID (.deleteVM c.payload.vmID)

lemma rollback_deletes (c : CreateContext) (cause : GoError) :
    (rollbackWithErrorStatus c [c.releaseIPs, c.deleteVM] cause).alone o db =
      (.error cause, failedStatus o ((db.setHosts (deletedHosts o db c)).released o c.payload.vmID)
        c.payload.vmID) := by
  unfold deletedHosts
  rw [rollbackWithErrorStatus_alone, ← releaseIPsByVM_alone, ← agent_alone_db]
  rfl

def allocated (o : Oracle) (db : Db) (c : CreateContext) : Db :=
  db.addSubnet (newSubnet o db c.payload.vmID c.payload.nodeID)

lemma provision_alone (c : CreateContext) : (provisionVM taskID c).alone o db =
    (Call.attempt c.createVM (vmMaterialized taskID c)).alone o (allocated o db c) := by
  obtain ⟨e, h4⟩ := allocateIPv4_alone o db c.locationID c.payload.vmID c.payload.customerID
  have h4' :
    (logged (IPAM.allocateIPv4 c.locationID c.payload.vmID c.payload.customerID)).alone o db =
      (.ok (), db) := by rw [alone_logged, h4]
  have h6 : (logged (IPAM.allocateIPv6 c.payload.vmID c.payload.nodeID)).alone o db =
      (.ok (), allocated o db c) := by rw [alone_logged, allocateIPv6_alone]; rfl
  unfold provisionVM
  rw [alone_bind_ok h4', alone_bind_ok h6, alone_bind_ok (progress_alone _ _ _)]

end VirtueStack.Compute
