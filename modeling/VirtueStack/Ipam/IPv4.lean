import VirtueStack.Compute.Models
import VirtueStack.Shared.Pagination
import VirtueStack.Txn.Does

/-!
# IPv4 addresses (repository/ip_repo.go, services/ipam_service.go)

The sets of addresses, the addresses, and the statements that hand them out and take them back.

* `IPAddress` a row of `ip_addresses`. An address is a number, in the order of the type INET;
* `Stmt` the statements. None of them is sent inside a transaction, so each is atomic and no lock
  outlives its statement;
* `Inp.locked` the rows that are locked when a statement looks for an address:
  `FOR UPDATE SKIP LOCKED` passes over them.

A foreign key that is missing is one of the faults a statement can end with.
-/

namespace VirtueStack.Ipam
open Txn Call
open Compute (IPSet IPStatus)

/-- microseconds -/
def ipCooldownDuration : Int := 5 * 60 * 1000000

structure IPAddress where
  id : String
  ipSetID : String
  address : Nat
  vmID : Option String
  customerID : Option String
  isPrimary : Bool
  status : IPStatus
  assignedAt : Option Int
  releasedAt : Option Int
  cooldownUntil : Option Int
  deriving DecidableEq, Repr

inductive AddressKey where
  | id (id : String)
  | address (address : Nat)
  deriving DecidableEq

namespace IPAddress

/-- the primary key, and `UNIQUE (address)` -/
def keys (ip : IPAddress) : List AddressKey := [.id ip.id, .address ip.address]

def assignTo (ip : IPAddress) (vmID customerID : String) (now : Int) : IPAddress :=
  { ip with
    status := .assigned, vmID := some vmID, customerID := some customerID, assignedAt := some now }

def release (ip : IPAddress) (now : Int) : IPAddress :=
  { ip with
    status := .cooldown
    vmID := none
    customerID := none
    releasedAt := some now
    cooldownUntil := some (now + ipCooldownDuration)
    isPrimary := false }

end IPAddress

/-! ## the store -/

structure Db where
  ipSets : List IPSet
  addresses : Table IPAddress.keys

/-- the row as `AllocateIPv4` or `ReleaseIPv4` leaves it -/
inductive Write where
  | assign (ip : IPAddress)
  | release (ip : IPAddress)
  deriving DecidableEq

def Write.row : Write → IPAddress
  | .assign ip => ip
  | .release ip => ip

def Db.apply (db : Db) (w : Write) : Db := { db with addresses := db.addresses.put w.row }

/-- the clock of the controller, and the rows others have locked -/
structure Inp where
  now : Int
  locked : String → Bool

inductive Stmt where
  | listIPSets (locationID : Option String) (ipVersion : Option Int) (lastID : String) (limit : Nat)
  | allocateIPv4 (ipSetID vmID customerID : String)
  | getIPAddressByID (id : String)
  | releaseIPv4 (ipID : String)

@[reducible] def Stmt.Ans : Stmt → Type
  | .listIPSets _ _ _ _ => List IPSet
  | .allocateIPv4 _ _ _ => Option IPAddress
  | .getIPAddressByID _ => Option IPAddress
  -- the number of rows
  | .releaseIPv4 _ => Nat

/-- `SELECT id ... WHERE ip_set_id = $1 AND status = 'available' ORDER BY address LIMIT 1` -/
def Db.available (db : Db) (ipSetID : String) (locked : String → Bool) : Option IPAddress :=
  ((db.addresses.rows.filter fun ip => ip.ipSetID = ipSetID ∧ ip.status = .available ∧
    ¬ locked ip.id).insertionSort fun a b => a.address ≤ b.address).head?

/-- the partial index `uq_ip_addresses_vm_primary` has an entry for the VM -/
def Db.hasPrimary (db : Db) (vmID : String) : Bool :=
  db.addresses.rows.any fun ip => ip.isPrimary ∧ ip.vmID = some vmID

def Db.ipSetsWhere (db : Db) (locationID : Option String) (ipVersion : Option Int)
    (lastID : String) : List IPSet :=
  (db.ipSets.filter fun set => (locationID = none ∨ set.locationID = locationID) ∧
    (∀ v ∈ ipVersion, set.ipVersion = v) ∧ (lastID = "" ∨ set.id < lastID)).insertionSort fun a b =>
    b.id ≤ a.id

def exec : (q : Stmt) → Inp → Inp → Db → Except PgError (q.Ans × List Write)
  | .listIPSets locationID ipVersion lastID limit, _, _, db =>
    .ok ((db.ipSetsWhere locationID ipVersion lastID).take limit, [])
  | .allocateIPv4 ipSetID vmID customerID, _, x, db =>
    match db.available ipSetID x.locked with
    | some ip =>
      if ip.isPrimary ∧ db.hasPrimary vmID then
        .error (.uniqueViolation "uq_ip_addresses_vm_primary")
      else .ok (some (ip.assignTo vmID customerID x.now),
        [.assign (ip.assignTo vmID customerID x.now)])
    | none => .ok (none, [])
  | .getIPAddressByID id, _, _, db => .ok (db.addresses.find (.id id), [])
  | .releaseIPv4 ipID, _, x, db =>
    match db.addresses.find (.id ipID) with
    | some ip => if ip.status = .assigned then .ok (1, [.release (ip.release x.now)])
        else .ok (0, [])
    | none => .ok (0, [])

@[reducible] def store : Store where
  Db := Db
  Lock := Empty
  Write := Write
  Stmt := Stmt
  Ans := Stmt.Ans
  Inp := Inp
  Err := PgError
  Fault := String
  fault := PgError.fault
  decLock := inferInstance
  exec := exec
  locks := fun _ _ _ => []
  apply := Db.apply
  guards := fun _ => []
  exec_guarded := fun _ _ _ _ _ _ _ _ _ _ hl => hl

abbrev Op (α : Type) : Type := Call store GoError α

/-! ## the repository -/

namespace IPRepository

structure IPSetListFilter where
  page : PaginationParams
  locationID : Option String
  ipVersion : Option Int

/-- for a `perPage` that is not negative -/
def cursorPageLimit (perPage : Nat) : Nat := perPage + 1

/-- the page, whether there is more, and the id to go on from -/
def listIPSets (filter : IPSetListFilter) : Op (List IPSet × Bool × String) :=
  Call.bind (stmt (S := store)
      (.listIPSets filter.locationID filter.ipVersion filter.page.cursor.lastID
        (cursorPageLimit filter.page.perPage))
      fun e => .wrap "listing IP sets" (.pg e)) fun (rows : List IPSet) =>
    .pure ((trimPage filter.page.perPage rows).1, (trimPage filter.page.perPage rows).2,
      ((trimPage filter.page.perPage rows).1.getLast?.map (·.id)).getD "")

/-- `pgx.ErrNoRows` is an error of its own -/
def scanned (ipSetID : String) : Option IPAddress → Op IPAddress
  | some ip => .pure ip
  | none => fail (.new ("no available IPv4 addresses in IP set " ++ ipSetID))

def allocateIPv4 (ipSetID vmID customerID : String) : Op IPAddress :=
  Call.bind (stmt (S := store) (.allocateIPv4 ipSetID vmID customerID)
    fun e => .wrap ("allocating IPv4 address from IP set " ++ ipSetID) (.pg e)) (scanned ipSetID)

/-- `RowsAffected() == 0` -/
def affected (ipID : String) : Nat → Op Unit
  | 0 => fail (.wrap ("releasing IP address " ++ ipID) (.sentinel .noRowsAffected))
  | _ + 1 => .pure ()

def releaseIPv4 (ipID : String) : Op Unit :=
  Call.bind (stmt (S := store) (.releaseIPv4 ipID)
    fun e => .wrap ("releasing IP address " ++ ipID) (.pg e)) (affected ipID)

def found (id : String) : Option IPAddress → Op IPAddress
  | some ip => .pure ip
  | none => fail (.wrap ("getting IP address " ++ id) (.sentinel .notFound))

def getIPAddressByID (id : String) : Op IPAddress :=
  Call.bind (stmt (S := store) (.getIPAddressByID id)
    fun e => .wrap ("getting IP address " ++ id) (.pg e)) (found id)

end IPRepository

/-! ## the service -/

namespace IPAMService
open IPRepository

/-- `fmt.Errorf("all IPv4 sets exhausted for location %s: %w", locationID, lastErr)` -/
def exhausted (locationID : String) : Option GoError → GoError
  | some lastErr => .wrap ("all IPv4 sets exhausted for location " ++ locationID) lastErr
  | none => .new ("all IPv4 sets exhausted for location " ++ locationID ++ ": %!w(<nil>)")

/-- the loop over the sets, with the error of the last one that failed -/
def tryIPSets (locationID vmID customerID : String) : List IPSet → Option GoError → Op IPAddress
  | [], lastErr => fail (exhausted locationID lastErr)
  | ipSet :: rest, _ => (IPRepository.allocateIPv4 ipSet.id vmID customerID).attempt fun
    | .ok ip => .pure ip
    | .error e => tryIPSets locationID vmID customerID rest (some e)

/-- the filter is made without a page size, which is then the zero of its type -/
def ipSetFilter (locationID : String) : IPSetListFilter := ⟨⟨0, .empty⟩, some locationID, some 4⟩

def allocateFrom (locationID vmID customerID : String) (ipSets : List IPSet) : Op IPAddress :=
  if ipSets.length = 0 then fail (.new ("no IPv4 IP set found for location " ++ locationID))
  else tryIPSets locationID vmID customerID ipSets none

def allocateIPv4 (locationID vmID customerID : String) : Op IPAddress :=
  (listIPSets (ipSetFilter locationID)).attempt fun
    | .ok page => allocateFrom locationID vmID customerID page.1
    | .error e => fail (.wrap ("finding IP set for location " ++ locationID) e)

def statusText : IPStatus → String
  | .available => "available"
  | .assigned => "assigned"
  | .reserved => "reserved"
  | .cooldown => "cooldown"

/-- the row is assigned -/
def releaseAssigned (ipID : String) (ip : IPAddress) : Op Unit :=
  if ip.status ≠ .assigned then
    fail (.new ("IP address " ++ ipID ++ " is not currently assigned (status: " ++
      statusText ip.status ++ ")"))
  else (IPRepository.releaseIPv4 ipID).attempt fun
    | .ok _ => .pure ()
    | .error e => fail (.wrap ("releasing IPv4 " ++ ipID) e)

def releaseIPv4 (ipID : String) : Op Unit :=
  (getIPAddressByID ipID).attempt fun
    | .ok ip => releaseAssigned ipID ip
    | .error e =>
      if e.is .notFound then fail (.new ("IP address " ++ ipID ++ " not found"))
      else fail (.wrap ("getting IP address " ++ ipID) e)

end IPAMService

end VirtueStack.Ipam
