import VirtueStack.Txn.Prog
import VirtueStack.Shared.Errors
import VirtueStack.Billing.Models
import Mathlib.Data.List.Sort

/-!
# The billing database: its tables, and one constructor for each statement of the repositories

* `Db` the committed tables. The customer of a VM is fixed, and `refunds` is the part of the
  outside world that matters: the refunds the gateways carried out;
* `Write` a row that becomes visible at commit;
* `Stmt` the SQL statements, and the calls to the clock and to remote services, which run on
  their own and change no table;
* `Inp` what the outside decides: ids, clock, which of several rows a query without `ORDER BY`
  returns, VMs and plans at that moment, answers of the gateways.

Locks are as fine as the server's: a row lock for `FOR UPDATE` and `UPDATE`, an index entry for
`INSERT`, and the text under `hashtext` for the advisory lock (two texts with one hash only wait for
each other more often).
-/

namespace VirtueStack.Billing
open Txn

/-- a refund that a gateway carried out -/
structure GatewayRefund where
  gateway : Gateway
  gatewayPaymentID : String
  amount : Int64
  currency : String
  deriving DecidableEq, Repr

structure Db where
  balance : String → Option Int64
  txs : Table BillingTransaction.keys
  payments : Table BillingPayment.keys
  checkpoints : Table BillingVMCheckpoint.keys
  invoices : Table BillingInvoice.keys
  lastNumber : Int
  vmCustomer : String → String
  refunds : List GatewayRefund

def Db.empty : Db :=
  ⟨fun _ => none, .empty, .empty, .empty, .empty, 0, fun _ => "", []⟩

inductive Write where
  | setBalance (customerID : String) (balance : Int64)
  | insertTx (bt : BillingTransaction)
  | insertPayment (p : BillingPayment)
  | putPayment (p : BillingPayment)
  | insertCheckpoint (c : BillingVMCheckpoint)
  | setLastNumber (n : Int)
  | insertInvoice (inv : BillingInvoice)
  | gatewayRefund (r : GatewayRefund)
  deriving DecidableEq

def Db.apply (db : Db) : Write → Db
  | .setBalance c b => { db with balance := fun x => if x = c then some b else db.balance x }
  | .insertTx bt => { db with txs := db.txs.insert bt }
  | .insertPayment p => { db with payments := db.payments.insert p }
  | .putPayment p => { db with payments := db.payments.put p }
  | .insertCheckpoint c => { db with checkpoints := db.checkpoints.insert c }
  | .setLastNumber n => { db with lastNumber := n }
  | .insertInvoice inv => { db with invoices := db.invoices.insert inv }
  | .gatewayRefund r => { db with refunds := db.refunds ++ [r] }

inductive Lock where
  | customer (id : String)
  | tx (k : TxIndex)
  | payment (id : String)
  | advisory (text : String)
  | checkpoint (vmID : String) (chargeHour : Int)
  | counter
  | invoice (k : InvoiceIndex)
  deriving DecidableEq

def Write.guards : Write → List Lock
  | .setBalance c _ => [.customer c]
  | .insertTx bt => bt.keys.map .tx
  | .insertPayment p => [.payment p.id]
  | .putPayment p => [.payment p.id]
  | .insertCheckpoint c => [.checkpoint c.vmID c.chargeHour]
  | .setLastNumber _ => [.counter]
  | .insertInvoice inv => inv.keys.map .invoice
  | .gatewayRefund _ => []

/-! ## statements -/

structure PaymentSession where
  id : String
  gatewaySessionID : String
  paymentURL : String
  deriving DecidableEq, Repr

structure PayPalCaptureResult where
  captureID : String
  status : String
  amountCents : Int64
  currency : String
  deriving DecidableEq, Repr

structure Inp where
  now : Int
  uuid : String
  pick : Nat
  vms : List VM
  plan : Option Plan
  customers : List String
  lockFree : Bool
  session : PaymentSession
  capture : PayPalCaptureResult
  deriving DecidableEq

/-- an outside that supplies a clock and an id, and nothing else -/
def tick (now : Int) (uuid : String) : Inp :=
  ⟨now, uuid, 0, [], none, [], true, ⟨"", "", ""⟩, ⟨"", "", 0, ""⟩⟩

inductive Stmt where
  -- customers and billing_transactions
  | balance (customerID : String)
  | txByKey (customerID key : String)
  | lockBalance (customerID : String)
  | updateBalance (customerID : String) (balance : Int64)
  | insertTx (e : Entry) (balanceAfter : Int64)
  | txsForPeriod (customerID : String) (periodStart periodEnd : Int) (type : Option TxType)
  -- billing_payments
  | insertPayment (p : BillingPayment)
  | payment (id : String)
  | paymentByGateway (gateway : Gateway) (gatewayPaymentID : String)
  | updateStatus (id : String) (status : PaymentStatus) (gatewayPaymentID : Option String)
  | advisoryLock (text : String)
  | lockPayment (id : String) (gateway : Gateway)
  | otherGatewayPayment (id : String) (gateway : Gateway) (gatewayPaymentID : String)
  | otherCapture (id captureID : String)
  | completePayment (id : String) (gateway : Gateway) (gatewayPaymentID : String)
  | completeCapture (id orderID captureID : String)
  | refundPayment (id customerID : String)
  -- billing_vm_checkpoints, vms and plans
  | checkpointExists (vmID : String) (chargeHour : Int)
  | insertCheckpoint (c : BillingVMCheckpoint)
  | tryAdvisoryLock
  | releaseAdvisoryLock
  | billableVMs
  | plan (id : String)
  -- billing_invoices and billing_invoice_counters
  | nextNumber
  | insertInvoice (inv : BillingInvoice)
  | invoiceExists (customerID : String) (periodStart periodEnd : Int)
  | nativeCustomers
  -- outside the database
  | timeNow
  | uuidNew
  | createPaymentSession (gateway : Gateway) (paymentID customerID : String) (amount : Int64)
  | captureOrder (orderID : String)
  | gatewayRefund (r : GatewayRefund)

@[reducible] def Stmt.Ans : Stmt → Type
  | .balance _ => Option Int64
  | .txByKey _ _ => Option BillingTransaction
  | .lockBalance _ => Option Int64
  | .updateBalance _ _ => Unit
  | .insertTx _ _ => BillingTransaction
  | .txsForPeriod _ _ _ _ => List BillingTransaction
  | .insertPayment _ => BillingPayment
  | .payment _ => Option BillingPayment
  | .paymentByGateway _ _ => Option BillingPayment
  | .updateStatus _ _ _ => Bool
  | .advisoryLock _ => Unit
  | .lockPayment _ _ => Option BillingPayment
  | .otherGatewayPayment _ _ _ => Bool
  | .otherCapture _ _ => Bool
  | .completePayment _ _ _ => Bool
  | .completeCapture _ _ _ => Bool
  | .refundPayment _ _ => Bool
  | .checkpointExists _ _ => Bool
  | .insertCheckpoint _ => Unit
  | .tryAdvisoryLock => Bool
  | .releaseAdvisoryLock => Unit
  | .billableVMs => List VM
  | .plan _ => Option Plan
  | .nextNumber => Int
  | .insertInvoice _ => Unit
  | .invoiceExists _ _ _ => Bool
  | .nativeCustomers => List String
  | .timeNow => Int
  | .uuidNew => String
  | .createPaymentSession _ _ _ _ => PaymentSession
  | .captureOrder _ => PayPalCaptureResult
  | .gatewayRefund _ => Unit

/-! ## what a statement reads and writes -/

/-- the row a query without `ORDER BY` happens to return -/
def pick {α : Type} (n : Nat) (l : List α) : Option α := l[n % l.length]?

/-- `WHERE id = $1 AND gateway = $2` -/
def Db.paymentOf (db : Db) (id : String) (g : Gateway) : Option BillingPayment :=
  (db.payments.find id).filter fun p => p.gateway = g

/-- `WHERE gateway = $1 AND gateway_payment_id = $2` -/
def Db.paymentsByGateway (db : Db) (g : Gateway) (x : String) : List BillingPayment :=
  db.payments.rows.filter fun p => p.gateway = g ∧ p.gatewayPaymentID = some x

/-- `WHERE gateway = 'paypal' AND metadata->>'paypal_capture_id' = $1` -/
def Db.paymentsByCapture (db : Db) (x : String) : List BillingPayment :=
  db.payments.rows.filter fun p => p.gateway = .paypal ∧ p.paypalCaptureID = some x

def Db.txsForPeriod (db : Db) (c : String) (lo hi : Int) (type : Option TxType) :
    List BillingTransaction :=
  (db.txs.rows.filter fun bt => bt.customerID = c ∧ lo ≤ bt.createdAt ∧ bt.createdAt < hi ∧
    ∀ t ∈ type, bt.type = t).insertionSort fun a b => a.createdAt ≤ b.createdAt

/-- a billable VM, with the customer the table has for it -/
def Db.billable (db : Db) (vms : List VM) : List VM :=
  (vms.filter fun v => v.status = .running ∨ v.status = .stopped).map fun v =>
    { v with customerID := db.vmCustomer v.id }

/-- the payment after `UPDATE billing_payments`, if there is one -/
def updated (p : Option BillingPayment) (f : BillingPayment → BillingPayment) :
    Except PgError (Bool × List Write) :=
  match p with
  | some p => .ok (true, [.putPayment (f p)])
  | none => .ok (false, [])

def maxInt32 : Int := 2147483647

def exec : (q : Stmt) → Inp → Inp → Db → Except PgError (q.Ans × List Write)
  | .balance c, _, _, db => .ok (db.balance c, [])
  | .txByKey c k, _, _, db => .ok (db.txs.find (.idempotency c k), [])
  | .lockBalance c, _, _, db => .ok (db.balance c, [])
  | .updateBalance c b, _, _, db =>
    .ok ((), if (db.balance c).isSome then [.setBalance c b] else [])
  | .insertTx e b, x₀, x, db =>
    let bt := e.row b x.uuid x₀.now
    match db.txs.clash bt with
    | none => .ok (bt, [.insertTx bt])
    | some k => .error (.uniqueViolation k.constraint)
  | .txsForPeriod c lo hi type, _, _, db => .ok (db.txsForPeriod c lo hi type, [])
  | .insertPayment p, x₀, x, db =>
    let p := { p with id := x.uuid, createdAt := x₀.now }
    match db.payments.clash p with
    | none => .ok (p, [.insertPayment p])
    | some _ => .error (.uniqueViolation "billing_payments_pkey")
  | .payment id, _, _, db => .ok (db.payments.find id, [])
  | .paymentByGateway g gid, _, x, db => .ok (pick x.pick (db.paymentsByGateway g gid), [])
  | .updateStatus id status gid, _, _, db =>
    updated (db.payments.find id) fun p => p.setStatus status gid
  | .advisoryLock _, _, _, _ => .ok ((), [])
  | .lockPayment id g, _, _, db => .ok (db.paymentOf id g, [])
  | .otherGatewayPayment id g gid, _, _, db =>
    .ok ((db.paymentsByGateway g gid).any fun p => p.id ≠ id, [])
  | .otherCapture id cap, _, _, db => .ok ((db.paymentsByCapture cap).any fun p => p.id ≠ id, [])
  | .completePayment id g gid, _, _, db =>
    updated (db.paymentOf id g) fun p => p.complete gid
  | .completeCapture id order cap, _, _, db =>
    updated (db.paymentOf id .paypal) fun p => p.completeCapture order cap
  | .refundPayment id c, _, _, db =>
    updated ((db.payments.find id).filter fun p => p.customerID = c) BillingPayment.refund
  | .checkpointExists vm hour, _, _, db => .ok ((db.checkpoints.find (vm, hour)).isSome, [])
  | .insertCheckpoint c, _, _, db =>
    -- ON CONFLICT (vm_id, charge_hour) DO NOTHING
    .ok ((), if db.checkpoints.clash c = none then [.insertCheckpoint c] else [])
  | .tryAdvisoryLock, _, x, _ => .ok (x.lockFree, [])
  | .releaseAdvisoryLock, _, _, _ => .ok ((), [])
  | .billableVMs, _, x, db => .ok (db.billable x.vms, [])
  | .plan _, _, x, _ => .ok (x.plan, [])
  | .nextNumber, _, _, db =>
    if db.lastNumber < maxInt32 then .ok (db.lastNumber + 1, [.setLastNumber (db.lastNumber + 1)])
    else .error .outOfRange
  | .insertInvoice inv, x₀, _, db =>
    let inv := { inv with createdAt := x₀.now }
    match db.invoices.clash inv with
    | none => .ok ((), [.insertInvoice inv])
    | some k => .error (.uniqueViolation k.constraint)
  | .invoiceExists c lo hi, _, _, db => .ok ((db.invoices.find (.period c lo hi)).isSome, [])
  | .nativeCustomers, _, x, _ => .ok (x.customers, [])
  | .timeNow, _, x, _ => .ok (x.now, [])
  | .uuidNew, _, x, _ => .ok (x.uuid, [])
  | .createPaymentSession _ _ _ _, _, x, _ => .ok (x.session, [])
  | .captureOrder _, _, x, _ => .ok (x.capture, [])
  | .gatewayRefund r, _, _, _ => .ok ((), [.gatewayRefund r])

/-- the lock on a row that a `WHERE` clause found -/
def rowLock (p : Option BillingPayment) : List Lock := p.toList.map fun p => .payment p.id

def locks : Stmt → Inp → Db → List Lock
  | .lockBalance c, _, db => if (db.balance c).isSome then [.customer c] else []
  | .updateBalance c _, _, db => if (db.balance c).isSome then [.customer c] else []
  | .insertTx e b, x, _ => (e.row b x.uuid 0).keys.map .tx
  | .insertPayment _, x, _ => [.payment x.uuid]
  | .updateStatus id _ _, _, db => rowLock (db.payments.find id)
  | .advisoryLock text, _, _ => [.advisory text]
  | .lockPayment id g, _, db => rowLock (db.paymentOf id g)
  | .completePayment id g _, _, db => rowLock (db.paymentOf id g)
  | .completeCapture id _ _, _, db => rowLock (db.paymentOf id .paypal)
  | .refundPayment id c, _, db => rowLock ((db.payments.find id).filter fun p => p.customerID = c)
  | .insertCheckpoint c, _, db =>
    if db.checkpoints.clash c = none then [.checkpoint c.vmID c.chargeHour] else []
  | .nextNumber, _, _ => [.counter]
  | .insertInvoice inv, _, _ => inv.keys.map .invoice
  | _, _, _ => []

section
variable {p : Option BillingPayment} {f : BillingPayment → BillingPayment} {b : Bool}
  {ws : List Write}

lemma updated_ok (h : updated p f = .ok (b, ws)) :
    (∃ p', p = some p' ∧ b = true ∧ ws = [.putPayment (f p')]) ∨
      (p = none ∧ b = false ∧ ws = []) := by
  cases p with
  | none => cases h; exact .inr ⟨rfl, rfl, rfl⟩
  | some p => cases h; exact .inl ⟨p, rfl, rfl, rfl⟩

lemma updated_guarded (hf : ∀ p, (f p).id = p.id) (h : updated p f = .ok (b, ws)) :
    ∀ w ∈ ws, ∀ l ∈ w.guards, l ∈ rowLock p := by
  intro w hw l hl
  obtain ⟨p', rfl, -, rfl⟩ | ⟨-, -, rfl⟩ := updated_ok h
  · rw [List.mem_singleton.mp hw] at hl
    rw [Write.guards, hf] at hl
    exact hl
  · cases hw

end

lemma singleton_guarded {w : Write} {ls : List Lock} (hls : w.guards = ls) :
    ∀ w' ∈ [w], ∀ l ∈ w'.guards, l ∈ ls := by
  intro w' hw l hl
  rw [List.mem_singleton.mp hw] at hl
  exact hls ▸ hl

lemma ite_guarded {p : Prop} [Decidable p] {w : Write} {ls : List Lock} (hls : w.guards = ls) :
    ∀ w' ∈ (if p then [w] else []), ∀ l ∈ w'.guards, l ∈ (if p then ls else []) := by
  by_cases hp : p
  · rw [if_pos hp, if_pos hp]
    exact singleton_guarded hls
  · rw [if_neg hp]
    intro w' hw
    cases hw

lemma exec_guarded (q : Stmt) (x₀ x : Inp) (db : Db) (a : q.Ans) (ws : List Write)
    (h : exec q x₀ x db = .ok (a, ws)) : ∀ w ∈ ws, ∀ l ∈ w.guards, l ∈ locks q x db := by
  cases q with
  | updateBalance c b | insertCheckpoint c => cases h; exact ite_guarded rfl
  | insertTx e b | insertPayment p | nextNumber | insertInvoice inv =>
    simp only [exec] at h
    split at h
    · cases h; exact singleton_guarded rfl
    · cases h
  | updateStatus id status gid =>
    exact updated_guarded (f := (·.setStatus status gid)) (fun _ => rfl) h
  | completePayment id g gid => exact updated_guarded (f := (·.complete gid)) (fun _ => rfl) h
  | completeCapture id order cap =>
    exact updated_guarded (f := (·.completeCapture order cap)) (fun _ => rfl) h
  | refundPayment id c => exact updated_guarded (f := BillingPayment.refund) (fun _ => rfl) h
  | gatewayRefund r => cases h; exact singleton_guarded rfl
  | _ => cases h; intro w hw; cases hw

@[reducible] def store : Store where
  Db := Db
  Lock := Lock
  Write := Write
  Stmt := Stmt
  Ans := Stmt.Ans
  Inp := Inp
  Err := PgError
  Fault := String
  fault := .fault
  decLock := inferInstance
  exec := exec
  locks := locks
  apply := Db.apply
  guards := Write.guards
  exec_guarded := exec_guarded

end VirtueStack.Billing
