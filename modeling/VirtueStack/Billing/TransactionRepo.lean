import VirtueStack.Txn.Rules
import VirtueStack.Billing.Store

/-!
# The credit ledger (repository/billing_transaction_repo.go)

`CreditAccount` and `DebitAccount` open a transaction of their own, `creditAccountTx` and
`debitAccountTx` (repository/billing_payment_repo.go) run in the transaction of the caller; all four
look the idempotency key up, lock the customer row, write the new balance and insert the entry.
-/

namespace VirtueStack.Billing
open Txn Call

/-- a method of a repository or of a service -/
abbrev Op (α : Type) : Type := Call store GoError α

def Op.query (q : Stmt) (context : String) : Op q.Ans :=
  stmt (S := store) q fun e => .wrap context (.pg e)

def Op.commit (context : String) : Op Unit :=
  Call.commit (S := store) fun e => .wrap context (.pg e)

def Op.withTx {α : Type} (context : String) (body : Op α) : Op α :=
  Call.withTx (S := store) (fun e => .wrap context (.pg e)) body

/-- a check as a step of a method -/
def check (r : Except GoError Unit) : Op Unit :=
  match r with
  | .ok _ => .pure ()
  | .error e => fail e

/-- `fmt.Errorf("context: %w", err)` around a call -/
def wrapping {α : Type} (context : String) (c : Op α) : Op α :=
  attempt c fun
    | .ok a => .pure a
    | .error e => fail (.wrap context e)

/-- `ScanRow`: no row is `ErrNotFound` -/
def scanRow {α : Type} (context : String) (row : Op (Option α)) : Op α := do
  match ← row with
  | none => fail (.wrap context (.sentinel .notFound))
  | some a => return a

variable (customerID : String)

def lockAndUpdateBalance (delta : Int64) : Op Int64 := do
  match ← Op.query (.lockBalance customerID) "lock customer balance" with
  | none => fail (.wrap "lock customer balance" (.sentinel .noRows))
  | some currentBalance => do
    let newBalance := currentBalance + delta
    Op.query (.updateBalance customerID newBalance) "update customer balance"
    return newBalance

variable (e : Entry)

def insertTransaction (balanceAfter : Int64) : Op BillingTransaction :=
  Op.query (.insertTx e balanceAfter) ("insert " ++ e.type.text ++ " transaction")

def findByIdempotencyKey (key : String) : Op BillingTransaction := do
  match ← stmt (S := store) (.txByKey customerID key) GoError.pg with
  | none => fail (.sentinel .noRows)
  | some bt => return bt

def billingTxMatches (bt : BillingTransaction) (e : Entry) : Bool :=
  bt.type == e.type && bt.amount == e.amount && bt.referenceType == e.referenceType &&
    bt.referenceID == e.referenceID

def findMatchingIdempotencyKey (key : String) : Op (Option BillingTransaction) :=
  attempt (findByIdempotencyKey e.customerID key) fun
    | .error err =>
      if err.is .noRows then .pure none else fail (.wrap "lookup idempotency key" err)
    | .ok existing =>
      if billingTxMatches existing e then .pure (some existing)
      else fail (.wrap
        ("idempotency key " ++ quoted key ++ " conflicts with existing ledger entry")
        (.sentinel .conflict))

/-- the lookup before an entry; without a key there is none -/
def lookup : Op (Option BillingTransaction) :=
  match e.idempotencyKey with
  | some key => findMatchingIdempotencyKey e key
  | none => return none

def post (delta : Int64) : Op BillingTransaction := do
  let newBalance ← lockAndUpdateBalance e.customerID delta
  insertTransaction e newBalance

/-- an entry with a transaction of its own, which is only committed if the entry is new -/
def postAccount (kind : String) (e : Entry) (delta : Int64) : Op BillingTransaction :=
  Op.withTx ("begin " ++ kind ++ " tx") do
    match ← lookup e with
    | some existing => return existing
    | none => do
      let bt ← post e delta
      Op.commit ("commit " ++ kind ++ " tx")
      return bt

/-- an entry in the transaction of the caller -/
def postTx (delta : Int64) : Op BillingTransaction := do
  match ← lookup e with
  | some existing => return existing
  | none => post e delta

variable (amount : Int64) (description : String)

def creditEntry
    (idempotencyKey : Option String) : Entry :=
  ⟨customerID, .credit, amount, description, none, none, idempotencyKey⟩

variable (referenceType : Option String) (referenceID : Option String)

section
variable (idempotencyKey : Option String)

def debitEntry : Entry :=
  ⟨customerID, .debit, amount, description, referenceType, referenceID, idempotencyKey⟩

def creditAccount : Op BillingTransaction :=
  postAccount "credit" (creditEntry customerID amount description idempotencyKey) amount

def debitAccount : Op BillingTransaction :=
  postAccount "debit"
    (debitEntry customerID amount description referenceType referenceID idempotencyKey) (-amount)

end

def creditAccountTx
    (idempotencyKey : String) : Op BillingTransaction :=
  postTx (creditEntry customerID amount description (some idempotencyKey)) amount

def debitAccountTx (idempotencyKey : String) :
    Op BillingTransaction :=
  postTx (debitEntry customerID amount description referenceType referenceID (some idempotencyKey))
    (-amount)

def getBalance : Op Int64 := do
  match ← Op.query (.balance customerID) "get customer balance" with
  | none => fail (.wrap "get customer balance" (.sentinel .noRows))
  | some balance => return balance

/-- an empty type means no filter -/
def listByCustomerForPeriod (periodStart periodEnd : Int)
    (txType : Option TxType) : Op (List BillingTransaction) :=
  Op.query (.txsForPeriod customerID periodStart periodEnd txType) "list transactions for period"

end VirtueStack.Billing
