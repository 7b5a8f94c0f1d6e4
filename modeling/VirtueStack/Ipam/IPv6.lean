import VirtueStack.Net.Text
import VirtueStack.Shared.Errors
import VirtueStack.Txn.Log
import VirtueStack.Txn.Table

/-!
# IPv6 subnets (repository/ip_repo.go, services/ipam_service.go)

Each node has a prefix of length 48, each VM gets a subnet of length 64 of it.

* `IPv6Prefix`, `VMIPv6Subnet` the rows, with the networks their columns hold;
* `Stmt` the statements. The client and the database exchange networks as text;
* `Lock` `FOR UPDATE` locks the row of a prefix. An insert needs that row too, for the foreign key,
  and the index entry of its id.

The rows of VMs and nodes are left out: a foreign key that is missing is one of the faults a
statement can end with.
-/

namespace VirtueStack.Ipam.IPv6
open Txn Net Call List

structure IPv6Prefix where
  id : String
  nodeID : String
  /-- the column `prefix` -/
  network : Network
  deriving DecidableEq

structure VMIPv6Subnet where
  id : String
  vmID : String
  ipv6PrefixID : String
  subnet : Network
  subnetIndex : Int
  gateway : Addr
  deriving DecidableEq

inductive SubnetKey where
  | id (id : String)
  /-- `uq_ipv6_subnets_prefix_index` -/
  | index (ipv6PrefixID : String) (subnetIndex : Int)
  deriving DecidableEq

def VMIPv6Subnet.keys (row : VMIPv6Subnet) : List SubnetKey :=
  [.id row.id, .index row.ipv6PrefixID row.subnetIndex]

def SubnetKey.constraint : SubnetKey → String
  | .id _ => "vm_ipv6_subnets_pkey"
  | .index _ _ => "uq_ipv6_subnets_prefix_index"

def IPv6Prefix.keys (p : IPv6Prefix) : List String := [p.id]

/-! ## the store -/

structure Db where
  prefixes : Table IPv6Prefix.keys
  subnets : Table VMIPv6Subnet.keys

inductive Write where
  | insertSubnet (row : VMIPv6Subnet)
  | deleteSubnet (id : String)
  deriving DecidableEq

def Db.apply (db : Db) : Write → Db
  | .insertSubnet row => { db with subnets := db.subnets.insert row }
  | .deleteSubnet id => { db with subnets := db.subnets.filter fun row => row.id ≠ id }

inductive Lock where
  | ofPrefix (id : String)
  | ofSubnet (id : String)
  deriving DecidableEq

def Write.guards : Write → List Lock
  | .insertSubnet row => [.ofPrefix row.ipv6PrefixID, .ofSubnet row.id]
  | .deleteSubnet _ => []

/-- the id the database generates -/
structure Inp where
  fresh : String

inductive Stmt where
  | lockPrefix (id : String)
  | maxSubnetIndex (prefixID : String)
  | insertSubnet (vmID prefixID subnet : String) (subnetIndex : Int) (gateway : String)
  | getPrefixByNode (nodeID : String)
  | getSubnetByID (id : String)
  | deleteSubnetsByVM (vmID : String)
  | deleteSubnetByID (id : String)

@[reducible] def Stmt.Ans : Stmt → Type
  | .lockPrefix _ => Option String
  | .maxSubnetIndex _ => Int
  | .insertSubnet _ _ _ _ _ => VMIPv6Subnet
  | .getPrefixByNode _ => Option IPv6Prefix
  | .getSubnetByID _ => Option VMIPv6Subnet
  | .deleteSubnetsByVM _ => Unit
  -- the number of rows
  | .deleteSubnetByID _ => Nat

/-- `COALESCE(MAX(subnet_index), -1)` -/
def Db.maxSubnetIndex (db : Db) (prefixID : String) : Int :=
  (((db.subnets.rows.filter fun row => row.ipv6PrefixID = prefixID).map (·.subnetIndex)).max?).getD
    (-1)

/-- the input functions of the types CIDR and INET -/
def column (T : Text) (subnet gateway : String) : Except PgError (Network × Addr) :=
  match T.toNetwork subnet, T.toAddr gateway with
  | .ok n, .ok a =>
    if n.HostBitsZero then .ok (n, a) else .error (.fault ("invalid cidr value: " ++ quoted subnet))
  | .error _, _ => .error (.fault ("invalid input syntax for type cidr: " ++ quoted subnet))
  | _, .error _ => .error (.fault ("invalid input syntax for type inet: " ++ quoted gateway))

/-- the `INSERT`, with its unique indexes -/
def Db.insertion (db : Db) (row : VMIPv6Subnet) : Except PgError (VMIPv6Subnet × List Write) :=
  match db.subnets.clash row with
  | some k => .error (.uniqueViolation k.constraint)
  | none => .ok (row, [.insertSubnet row])

def exec (T : Text) : (q : Stmt) → Inp → Inp → Db → Except PgError (q.Ans × List Write)
  | .lockPrefix id, _, _, db => .ok ((db.prefixes.find id).map fun p => T.ofNetwork p.network, [])
  | .maxSubnetIndex prefixID, _, _, db => .ok (db.maxSubnetIndex prefixID, [])
  | .insertSubnet vmID prefixID subnet subnetIndex gateway, _, x, db =>
    match column T subnet gateway with
    | .ok c => db.insertion ⟨x.fresh, vmID, prefixID, c.1, subnetIndex, c.2⟩
    | .error e => .error e
  | .getPrefixByNode nodeID, _, _, db => .ok (db.prefixes.rows.find? fun p => p.nodeID = nodeID, [])
  | .getSubnetByID id, _, _, db => .ok (db.subnets.find (.id id), [])
  | .deleteSubnetsByVM vmID, _, _, db =>
    .ok ((), (db.subnets.rows.filter fun row => row.vmID = vmID).map fun row =>
      .deleteSubnet row.id)
  | .deleteSubnetByID id, _, _, db =>
    match db.subnets.find (.id id) with
    | some _ => .ok (1, [.deleteSubnet id])
    | none => .ok (0, [])

def locks : Stmt → Inp → Db → List Lock
  | .lockPrefix id, _, _ => [.ofPrefix id]
  | .insertSubnet _ prefixID _ _ _, x, _ => [.ofPrefix prefixID, .ofSubnet x.fresh]
  | _, _, _ => []

lemma exec_insertSubnet {T : Text} {vmID prefixID subnet gateway : String}
    {subnetIndex : Int} (x₀ : Inp) {x : Inp} {db : Db} {row : VMIPv6Subnet} {ws : List Write}
    (h : exec T (.insertSubnet vmID prefixID subnet subnetIndex gateway) x₀ x db = .ok (row, ws)) :
    ∃ n a, T.toNetwork subnet = .ok n ∧ T.toAddr gateway = .ok a ∧
      row = ⟨x.fresh, vmID, prefixID, n, subnetIndex, a⟩ ∧ ws = [.insertSubnet row] ∧
        db.subnets.clash row = none := by
  simp only [exec, column] at h
  split at h
  · rename_i c hc
    split at hc
    · rename_i n a hn ha
      split at hc
      · cases hc
        unfold Db.insertion at h
        split at h
        · cases h
        · rename_i hclash
          cases h
          exact ⟨n, a, hn, ha, rfl, rfl, hclash⟩
      · cases hc
    · cases hc
    · cases hc
  · cases h

lemma exec_guarded (T : Text) (q : Stmt) (x₀ x : Inp) (db : Db) (a : q.Ans) (ws : List Write)
    (h : exec T q x₀ x db = .ok (a, ws)) : ∀ w ∈ ws, ∀ l ∈ w.guards, l ∈ locks q x db := by
  intro w hw l hl
  cases q with
  | insertSubnet vmID prefixID subnet subnetIndex gateway =>
    obtain ⟨n, g, -, -, rfl, rfl, -⟩ := exec_insertSubnet x₀ h
    rw [mem_singleton.mp hw] at hl
    exact hl
  | deleteSubnetsByVM vmID =>
    cases h
    obtain ⟨row, -, rfl⟩ := mem_map.mp hw
    cases hl
  | deleteSubnetByID id =>
    simp only [exec] at h
    split at h
    · cases h
      rw [mem_singleton.mp hw] at hl
      cases hl
    · cases h
      cases hw
  | _ => cases h; cases hw

@[reducible] def store (T : Text) : Store where
  Db := Db
  Lock := Lock
  Write := Write
  Stmt := Stmt
  Ans := Stmt.Ans
  Inp := Inp
  Err := PgError
  Fault := String
  fault := PgError.fault
  decLock := inferInstance
  exec := exec T
  locks := locks
  apply := Db.apply
  guards := Write.guards
  exec_guarded := exec_guarded T

abbrev Op (T : Text) (α : Type) : Type := Call (store T) GoError α

/-! ## the repository -/

/-- the /64 subnet with the given index, and its gateway, as text -/
def generateIPv6Subnet (T : Text) (prefix48 : String) (subnetIndex : Int) :
    Except GoError (String × String) :=
  match T.toNetwork prefix48 with
  | .error e => .error (.wrap ("parsing prefix " ++ prefix48) (.new e))
  | .ok net =>
    let byte6 := BitVec.ofInt 8 (subnetIndex >>> (8 : Nat))
    let byte7 := BitVec.ofInt 8 subnetIndex
    let bytes : Addr := Function.update (Function.update net.addr 6 byte6) 7 byte7
    let gatewayBytes : Addr := Function.update bytes 15 1
    .ok (T.ofAddr bytes ++ "/64", T.ofAddr gatewayBytes)

section
variable {T : Text} {α β : Type}

/-- the deferred function: an error that the function returns in `err` rolls back -/
def orRollback (c : Op T α) (f : α → Op T β) : Op T β :=
  c.attempt fun
    | .ok a => f a
    | .error e => Prog.req .rollback fun _ => fail e

variable (T)

/-- `Scan` of a row that may be missing -/
def scanPrefix : Option String → Op T String
  | some text => .pure text
  | none => fail (.wrap "locking IPv6 prefix row" (.sentinel .noRows))

def lockPrefix (prefixID : String) : Op T String :=
  Call.bind (stmt (S := store T) (.lockPrefix prefixID) fun e =>
    .wrap "locking IPv6 prefix row" (.pg e)) (scanPrefix T)

variable (vmID : String)

def insertAndCommit (prefixID : String) (nextIndex : Int) (generated : String × String) :
    Op T VMIPv6Subnet :=
  orRollback (stmt (S := store T) (.insertSubnet vmID prefixID generated.1 nextIndex generated.2)
      fun e => .wrap "creating VM IPv6 subnet" (.pg e)) fun (created : VMIPv6Subnet) =>
    -- the error of the commit is in a variable of its own, which the deferred function does not see
    Call.bind (commit fun e => .wrap "committing transaction" (.pg e)) fun _ => .pure created

def createAt (prefixID text : String) (nextIndex : Int) : Op T VMIPv6Subnet :=
  -- this error is returned while `err` is nil: the transaction stays open
  if 65536 ≤ nextIndex then fail (.new "IPv6 prefix is exhausted (no available /64 subnets)")
  else
    match generateIPv6Subnet T text nextIndex with
    | .error e => Prog.req .rollback fun _ => fail (.wrap "generating IPv6 subnet" e)
    | .ok generated => insertAndCommit T vmID prefixID nextIndex generated

def createInTx (prefixID : String) : Op T VMIPv6Subnet :=
  orRollback (lockPrefix T prefixID) fun text =>
    orRollback (stmt (S := store T) (.maxSubnetIndex prefixID)
        fun e => .wrap "finding max subnet index" (.pg e)) fun (maxIndex : Int) =>
      createAt T vmID prefixID text (maxIndex + 1)

def createVMIPv6SubnetWithIndexCheck (prefixID : String) : Op T VMIPv6Subnet :=
  Prog.req .begin fun
    | .ok _ => createInTx T vmID prefixID
    | .error e => fail (.wrap "beginning transaction" (.pg e))

def foundPrefix (nodeID : String) : Option IPv6Prefix → Op T IPv6Prefix
  | some p => .pure p
  | none => fail (.wrap ("getting IPv6 prefix for node " ++ nodeID) (.sentinel .notFound))

def getIPv6PrefixByNode (nodeID : String) : Op T IPv6Prefix :=
  Call.bind (stmt (S := store T) (.getPrefixByNode nodeID)
    fun e => .wrap ("getting IPv6 prefix for node " ++ nodeID) (.pg e)) (foundPrefix T nodeID)

def foundSubnet (id : String) : Option VMIPv6Subnet → Op T VMIPv6Subnet
  | some row => .pure row
  | none => fail (.wrap ("getting IPv6 subnet " ++ id) (.sentinel .notFound))

def getVMIPv6SubnetByID (id : String) : Op T VMIPv6Subnet :=
  Call.bind (stmt (S := store T) (.getSubnetByID id)
    fun e => .wrap ("getting IPv6 subnet " ++ id) (.pg e)) (foundSubnet T id)

/-- `RowsAffected() == 0` -/
def affected (id : String) : Nat → Op T Unit
  | 0 => fail (.wrap ("deleting IPv6 subnet " ++ id) (.sentinel .noRowsAffected))
  | _ + 1 => .pure ()

def deleteVMIPv6SubnetByID (id : String) : Op T Unit :=
  Call.bind (stmt (S := store T) (.deleteSubnetByID id)
    fun e => .wrap ("deleting IPv6 subnet " ++ id) (.pg e)) (affected T id)

def deleteVMIPv6SubnetsByVM : Op T Unit :=
  stmt (S := store T) (.deleteSubnetsByVM vmID) fun e =>
    .wrap ("deleting IPv6 subnets for VM " ++ vmID) (.pg e)

def allocateIPv6 (nodeID : String) : Op T VMIPv6Subnet :=
  (getIPv6PrefixByNode T nodeID).attempt fun
    | .ok p => (createVMIPv6SubnetWithIndexCheck T vmID p.id).attempt fun
      | .ok row => .pure row
      | .error e => fail (.wrap "allocating IPv6 subnet" e)
    | .error e =>
      if e.is .notFound then fail (.new ("no IPv6 prefix assigned to node " ++ nodeID))
      else fail (.wrap ("getting IPv6 prefix for node " ++ nodeID) e)

def releaseIPv6 (subnetID : String) : Op T Unit :=
  (getVMIPv6SubnetByID T subnetID).attempt fun
    | .ok _ => (deleteVMIPv6SubnetByID T subnetID).attempt fun
      | .ok _ => .pure ()
      | .error e => fail (.wrap ("releasing IPv6 subnet " ++ subnetID) e)
    | .error e =>
      if e.is .notFound then fail (.new ("IPv6 subnet " ++ subnetID ++ " not found"))
      else fail (.wrap ("getting IPv6 subnet " ++ subnetID) e)

end

end VirtueStack.Ipam.IPv6
