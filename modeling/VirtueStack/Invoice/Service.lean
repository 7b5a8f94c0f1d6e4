import VirtueStack.Shared.Format
import VirtueStack.Billing.TransactionRepo

/-!
# Invoices (services/billing_invoice_service.go, repository/billing_invoice_repo.go)

The line items of the VMs come in the order of a Go map, which is any order; here it is that of
their first charges. Logging is left out.
-/

namespace VirtueStack.Invoice
open Txn Billing Call Op

/-! ## line items -/

def absInt64 (n : Int64) : Int64 := if n < 0 then -n else n

/-- the VM a row charges for, the empty text for none -/
def extractVMID (tx : BillingTransaction) : String :=
  match tx.referenceType, tx.referenceID with
  | some t, some id => if t = refTypeVMUsage then id else ""
  | _, _ => ""

structure VMAgg where
  vmName : String
  vmID : String
  hours : Int
  amount : Int64
  deriving DecidableEq, Repr

def VMAgg.charge (vmID description : String) (amount : Int64) : List VMAgg → List VMAgg
  | [] => [⟨description, vmID, 1, amount⟩]
  | agg :: aggs =>
    if agg.vmID = vmID then
      { agg with
        hours := agg.hours + 1
        amount := agg.amount + amount
        vmName := if agg.vmName = "" then description else agg.vmName } :: aggs
    else agg :: VMAgg.charge vmID description amount aggs

def VMAgg.item (agg : VMAgg) : InvoiceLineItem where
  description := "VM Usage — " ++ agg.vmName
  quantity := agg.hours
  unitPrice := if 0 < agg.hours then agg.amount / Int64.ofInt agg.hours else agg.amount
  amount := agg.amount
  vmName := agg.vmName
  vmID := agg.vmID
  planName := ""
  hours := agg.hours

/-- the loop over the rows, with the VMs and the total of the other charges so far -/
def aggregate : List BillingTransaction → List VMAgg × Int64 → List VMAgg × Int64
  | [], acc => acc
  | tx :: txs, (byVM, nonVMTotal) =>
    if extractVMID tx = "" then aggregate txs (byVM, nonVMTotal + absInt64 tx.amount)
    else aggregate txs
      (VMAgg.charge (extractVMID tx) tx.description (absInt64 tx.amount) byVM, nonVMTotal)

def otherCharges (total : Int64) : List InvoiceLineItem :=
  if 0 < total then [⟨"Other charges", 1, total, total, "", "", "", 0⟩] else []

/-- the items, in the order in which the map is walked -/
def itemsInOrder (byVM : List VMAgg) (nonVMTotal : Int64) : List InvoiceLineItem :=
  byVM.map VMAgg.item ++ otherCharges nonVMTotal

def aggregateLineItems (transactions : List BillingTransaction) : List InvoiceLineItem :=
  let acc := aggregate transactions ([], 0)
  itemsInOrder acc.1 acc.2

/-- the amounts of the line items, in `int64` arithmetic -/
def lineItemTotal (items : List InvoiceLineItem) : Int64 :=
  items.foldl (fun total item => total + item.amount) 0

/-! ## the repository -/

/-- `fmt.Sprintf("INV-%06d", n)` -/
def invoiceNumber (n : Int) : String :=
  if n < 0 then "INV-" ++ "-" ++ padded 5 n.natAbs else "INV-" ++ padded 6 n.natAbs

example : invoiceNumber 1 = "INV-000001" := by decide

def nextInvoiceNumber : Op String := do
  return invoiceNumber (← query .nextNumber "next invoice number")

def validateInvoiceTotals (inv : BillingInvoice) : Except GoError Unit :=
  if inv.subtotal ≠ lineItemTotal inv.lineItems then
    .error (.wrap "invoice subtotal does not match line items" (.sentinel .validation))
  else if inv.total ≠ inv.subtotal + inv.taxAmount then
    .error (.wrap "invoice total does not match subtotal plus tax" (.sentinel .validation))
  else .ok ()

def invoicePeriodUniqueConstraint : String := "idx_billing_invoices_customer_period_unique"

/-- a unique violation is a conflict, and for the period a conflict of its own -/
def insertInvoiceError : PgError → GoError
  | .uniqueViolation c =>
    if c = invoicePeriodUniqueConstraint then
      .wrap "create invoice duplicate period"
        (.join (.sentinel .duplicateInvoicePeriod) (.sentinel .conflict))
    else .wrap ("create invoice unique conflict " ++ c) (.sentinel .conflict)
  | e => .wrap "create invoice" (.pg e)

def insertInvoice (inv : BillingInvoice) : Op Unit :=
  stmt (S := store) (.insertInvoice inv) insertInvoiceError

def createWithNextNumber (inv : BillingInvoice) : Op BillingInvoice := do
  check (validateInvoiceTotals inv)
  withTx "begin invoice create tx" do
    let number ← nextInvoiceNumber
    insertInvoice { inv with invoiceNumber := number }
    commit "commit invoice create tx"
    return { inv with invoiceNumber := number }

variable (customerID : String) (periodStart : Int) (periodEnd : Int)

def existsForPeriod : Op Bool :=
  query (.invoiceExists customerID periodStart periodEnd) "check invoice exists for period"

/-! ## the service -/

def newInvoice
    (lineItems : List InvoiceLineItem) (now : Int) (id : String) : BillingInvoice :=
  let subtotal := lineItemTotal lineItems
  { id := id
    customerID := customerID
    invoiceNumber := ""
    periodStart := periodStart
    periodEnd := periodEnd
    subtotal := subtotal
    taxAmount := 0
    total := subtotal
    currency := "USD"
    status := .issued
    lineItems := lineItems
    issuedAt := some now
    createdAt := 0 }

def isDuplicatePeriodInvoiceConflict (e : GoError) : Bool := e.is .duplicateInvoicePeriod

def buildAndCreateInvoice : Op (Option BillingInvoice) := do
  let transactions ← wrapping "list transactions for period"
    (listByCustomerForPeriod customerID periodStart periodEnd (some .debit))
  if transactions = [] then return none
  else do
    let now ← query .timeNow "time"
    let id ← query .uuidNew "uuid"
    attempt
      (createWithNextNumber
        (newInvoice customerID periodStart periodEnd (aggregateLineItems transactions) now id)) fun
      | .ok inv => .pure (some inv)
      | .error e =>
        if isDuplicatePeriodInvoiceConflict e then .pure none
        else fail (.wrap "create invoice" e)

def generateMonthlyInvoice : Op (Option BillingInvoice) := do
  if ← wrapping "check existing invoice" (existsForPeriod customerID periodStart periodEnd) then
    return none
  else buildAndCreateInvoice customerID periodStart periodEnd

/-- an error for one customer is logged; the count goes on with the next -/
def generateInvoices (periodStart periodEnd : Int) (generated : Nat) : List String → Op Nat
  | [] => return generated
  | c :: cs => attempt (generateMonthlyInvoice c periodStart periodEnd) fun
    | .ok (some _) => generateInvoices periodStart periodEnd (generated + 1) cs
    | _ => generateInvoices periodStart periodEnd generated cs

def generateAllMonthlyInvoices (year month : Int) : Op Nat := do
  let customers ← wrapping "list native billing customer IDs"
    (query .nativeCustomers "list native billing customer IDs")
  generateInvoices (monthStart year month) (monthStart year (month + 1)) 0 customers

/-! ## requests -/

inductive InvoiceCall where
  | monthly (customerID : String) (periodStart periodEnd : Int)
  | all (year month : Int)

def InvoiceCall.run : InvoiceCall → Op Unit
  | .monthly c lo hi => do
    let _ ← generateMonthlyInvoice c lo hi
    return ()
  | .all year month => do
    let _ ← generateAllMonthlyInvoices year month
    return ()

end VirtueStack.Invoice
