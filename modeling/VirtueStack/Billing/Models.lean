import VirtueStack.Txn.Table

/-!
# Billing rows (internal/controller/models, migrations 000074 to 000081)

Amounts are `int64` minor units, instants are microseconds, ids are the canonical text of a UUID.
Each row type comes with the index entries it occupies:

* `BillingPayment` primary key. `metadata` is the one member that is read,
  `paypal_capture_id`;
* `BillingVMCheckpoint` primary key (vm, hour);
* `BillingInvoice` primary key, number, and
  `idx_billing_invoices_customer_period_unique`.
-/

namespace VirtueStack.Billing

inductive TxType where
  | credit
  | debit
  | adjustment
  | refund
  deriving DecidableEq, Repr

def TxType.text : TxType → String
  | .credit => "credit"
  | .debit => "debit"
  | .adjustment => "adjustment"
  | .refund => "refund"

def refTypeVMUsage : String := "vm_usage"
def refTypeRefund : String := "refund"

/-- one entry of the ledger, never updated -/
structure BillingTransaction where
  id : String
  customerID : String
  type : TxType
  amount : Int64
  balanceAfter : Int64
  description : String
  referenceType : Option String
  referenceID : Option String
  idempotencyKey : Option String
  createdAt : Int
  deriving DecidableEq, Repr

/-- the columns of an `INSERT INTO billing_transactions` that do not depend on the balance -/
structure Entry where
  customerID : String
  type : TxType
  amount : Int64
  description : String
  referenceType : Option String
  referenceID : Option String
  idempotencyKey : Option String
  deriving DecidableEq, Repr

def Entry.row (e : Entry) (balanceAfter : Int64) (id : String) (createdAt : Int) :
    BillingTransaction :=
  ⟨id, e.customerID, e.type, e.amount, balanceAfter, e.description, e.referenceType, e.referenceID,
    e.idempotencyKey, createdAt⟩

inductive TxIndex where
  | id (id : String)
  | idempotency (customerID key : String)
  deriving DecidableEq, Repr

def TxIndex.constraint : TxIndex → String
  | .id _ => "billing_transactions_pkey"
  | .idempotency _ _ => "idx_billing_tx_idempotency"

def BillingTransaction.keys (bt : BillingTransaction) : List TxIndex :=
  .id bt.id :: (bt.idempotencyKey.map (TxIndex.idempotency bt.customerID)).toList

inductive Gateway where
  | stripe
  | paypal
  | btcpay
  | nowpayments
  | admin
  deriving DecidableEq, Repr

def Gateway.text : Gateway → String
  | .stripe => "stripe"
  | .paypal => "paypal"
  | .btcpay => "btcpay"
  | .nowpayments => "nowpayments"
  | .admin => "admin"

inductive PaymentStatus where
  | pending
  | completed
  | failed
  | refunded
  deriving DecidableEq, Repr

structure BillingPayment where
  id : String
  customerID : String
  gateway : Gateway
  gatewayPaymentID : Option String
  amount : Int64
  currency : String
  status : PaymentStatus
  paypalCaptureID : Option String
  createdAt : Int
  deriving DecidableEq, Repr

namespace BillingPayment

variable (p : BillingPayment)

def keys : List String := [p.id]

/-- `status = $1, gateway_payment_id = COALESCE($2, gateway_payment_id)` -/
def setStatus (status : PaymentStatus) (gid : Option String) :
    BillingPayment :=
  { p with status := status, gatewayPaymentID := gid.or p.gatewayPaymentID }

def complete (gid : String) : BillingPayment :=
  { p with status := .completed, gatewayPaymentID := some gid }

def completeCapture (orderID captureID : String) : BillingPayment :=
  { p with
    status := .completed
    gatewayPaymentID := some orderID
    paypalCaptureID := some captureID }

def refund : BillingPayment := { p with status := .refunded }

end BillingPayment

structure BillingVMCheckpoint where
  vmID : String
  chargeHour : Int
  amount : Int64
  transactionID : Option String
  deriving DecidableEq, Repr

def BillingVMCheckpoint.keys (c : BillingVMCheckpoint) : List (String × Int) :=
  [(c.vmID, c.chargeHour)]

inductive VMStatus where
  | provisioning
  | running
  | stopped
  | suspended
  | deleting
  | migrating
  | reinstalling
  | error
  | deleted
  deriving DecidableEq, Repr

structure VM where
  id : String
  customerID : String
  planID : String
  hostname : String
  status : VMStatus
  deriving DecidableEq, Repr

structure Plan where
  name : String
  priceHourly : Option Int64
  priceHourlyStopped : Option Int64
  deriving DecidableEq, Repr

/-- a stopped VM has a price of its own where one is set; no hourly price means that the plan is
billed elsewhere -/
def Plan.effectiveHourlyRate (p : Plan) (status : VMStatus) : Int64 :=
  match p.priceHourly with
  | none => 0
  | some hourly =>
    match status, p.priceHourlyStopped with
    | .stopped, some stopped => stopped
    | _, _ => hourly

structure InvoiceLineItem where
  description : String
  quantity : Int
  unitPrice : Int64
  amount : Int64
  vmName : String
  vmID : String
  planName : String
  hours : Int
  deriving DecidableEq, Repr

inductive InvoiceStatus where
  | draft
  | issued
  | paid
  | void
  deriving DecidableEq, Repr

structure BillingInvoice where
  id : String
  customerID : String
  invoiceNumber : String
  periodStart : Int
  periodEnd : Int
  subtotal : Int64
  taxAmount : Int64
  total : Int64
  currency : String
  status : InvoiceStatus
  lineItems : List InvoiceLineItem
  issuedAt : Option Int
  createdAt : Int
  deriving DecidableEq, Repr

inductive InvoiceIndex where
  | id (id : String)
  | number (number : String)
  | period (customerID : String) (periodStart periodEnd : Int)
  deriving DecidableEq, Repr

def InvoiceIndex.constraint : InvoiceIndex → String
  | .id _ => "billing_invoices_pkey"
  | .number _ => "billing_invoices_invoice_number_key"
  | .period _ _ _ => "idx_billing_invoices_customer_period_unique"

def BillingInvoice.keys (inv : BillingInvoice) : List InvoiceIndex :=
  [.id inv.id, .number inv.invoiceNumber, .period inv.customerID inv.periodStart inv.periodEnd]

end VirtueStack.Billing
