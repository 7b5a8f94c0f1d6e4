import VirtueStack.Billing.TransactionRepo

/-!
# Billing payments (repository/billing_payment_repo.go)

A completion claims the local payment for a gateway payment id (or, for PayPal, for a capture id)
under an advisory lock on that id and a row lock on the payment, marks the payment completed and
credits the ledger, all in one transaction. A refund marks the payment and debits the ledger.
`UpdateStatus` is a single statement that looks at nothing.
-/

namespace VirtueStack.Billing
open Txn Call Op

structure PaymentCompletionCredit where
  paymentID : String
  gateway : Gateway
  gatewayPaymentID : String
  customerID : String
  amount : Int64
  description : String
  idempotencyKey : String
  deriving DecidableEq, Repr

structure PayPalCaptureCredit where
  paymentID : String
  orderID : String
  captureID : String
  customerID : String
  amount : Int64
  description : String
  idempotencyKey : String
  deriving DecidableEq, Repr

structure PaymentRefundDebit where
  paymentID : String
  customerID : String
  amount : Int64
  description : String
  idempotencyKey : String
  deriving DecidableEq, Repr

def PaymentCompletionCredit.entry (req : PaymentCompletionCredit) : Entry :=
  creditEntry req.customerID req.amount req.description (some req.idempotencyKey)

def PayPalCaptureCredit.entry (req : PayPalCaptureCredit) : Entry :=
  creditEntry req.customerID req.amount req.description (some req.idempotencyKey)

def PaymentRefundDebit.entry (req : PaymentRefundDebit) : Entry :=
  debitEntry req.customerID req.amount req.description (some refTypeRefund) (some req.paymentID)
    (some req.idempotencyKey)

/-! ## single statements -/

def create (p : BillingPayment) : Op BillingPayment :=
  query (.insertPayment p) "creating billing payment"

variable (id : String)

def getByID : Op BillingPayment :=
  let context := "getting billing payment " ++ id
  scanRow context (query (.payment id) context)

variable (gateway : Gateway) (gatewayPaymentID : String)

def getByGatewayPaymentID : Op BillingPayment :=
  let context := "getting payment by gateway " ++ gateway.text ++ "/" ++ gatewayPaymentID
  scanRow context (query (.paymentByGateway gateway gatewayPaymentID) context)

def updateStatus (id : String) (status : PaymentStatus) (gatewayPaymentID : Option String) :
    Op Unit := do
  if ← query (.updateStatus id status gatewayPaymentID) ("updating payment status " ++ id) then
    return ()
  else fail (.new ("payment " ++ id ++ " not found"))

/-! ## claims -/

def errPaymentNotFound : GoError :=
  .wrap ("payment " ++ id ++ " not found") (.sentinel .notFound)

def gatewayLockText (gateway gatewayPaymentID : String) : String :=
  gateway ++ ":" ++ gatewayPaymentID

def lockGatewayPaymentID (gateway gatewayPaymentID : String) : Op Unit :=
  query (.advisoryLock (gatewayLockText gateway gatewayPaymentID)) "lock gateway payment id"

/-- may a payment in this state be completed for the gateway payment `gid`? -/
def BillingPayment.claimable (p : BillingPayment) (gid : String) : Bool :=
  if p.status = .completed ∧ p.gatewayPaymentID ≠ some gid then false
  else if p.status = .refunded ∨ p.status = .failed then false
  else true

def canClaimLocalPayment : Op Bool := do
  match ← query (.lockPayment id gateway) "lock local payment" with
  | none => fail (errPaymentNotFound id)
  | some p => return p.claimable gatewayPaymentID

/-- may a payment in this state be completed for the order `order` and the capture `cap`? -/
def BillingPayment.capturable (p : BillingPayment) (order cap : String) : Bool :=
  if p.gatewayPaymentID ≠ some order then false
  else if p.status = .completed then p.paypalCaptureID = some cap
  else if p.status = .refunded ∨ p.status = .failed then false
  else p.paypalCaptureID = none ∨ p.paypalCaptureID = some cap

def canClaimPayPalCapture (orderID captureID : String) : Op Bool := do
  match ← query (.lockPayment id .paypal) "lock paypal payment" with
  | none => fail (errPaymentNotFound id)
  | some p => return p.capturable orderID captureID

def hasOtherGatewayPayment :
    Op Bool :=
  query (.otherGatewayPayment id gateway gatewayPaymentID) "check gateway payment claim"

def hasOtherPayPalCapture (captureID : String) : Op Bool :=
  query (.otherCapture id captureID) "check paypal capture claim"

/-- an `UPDATE` that must find its row -/
def updatePaymentTx (update : Op Bool) : Op Unit := do
  if ← update then return () else fail (errPaymentNotFound id)

def updatePaymentCompletedTx :
    Op Unit :=
  updatePaymentTx id
    (query (.completePayment id gateway gatewayPaymentID) ("complete payment " ++ id))

def updatePayPalCaptureCompletedTx (orderID captureID : String) : Op Unit :=
  updatePaymentTx id
    (query (.completeCapture id orderID captureID) ("complete paypal capture " ++ id))

def updatePaymentRefundedTx (customerID : String) : Op Unit :=
  updatePaymentTx id (query (.refundPayment id customerID) ("refund payment " ++ id))

/-- lock the gateway id, look at the local payment, look for another one, complete it -/
def claimTx (lock : Op Unit) (canClaim hasOther : Op Bool) (update : Op Unit) : Op Bool := do
  lock
  if ← canClaim then
    if ← hasOther then return false
    else do
      update
      return true
  else return false

def claimGatewayPaymentTx :
    Op Bool :=
  claimTx (lockGatewayPaymentID gateway.text gatewayPaymentID)
    (canClaimLocalPayment id gateway gatewayPaymentID)
    (hasOtherGatewayPayment id gateway gatewayPaymentID)
    (updatePaymentCompletedTx id gateway gatewayPaymentID)

def claimPayPalCaptureTx (orderID captureID : String) : Op Bool :=
  claimTx (lockGatewayPaymentID "paypal_capture" captureID)
    (canClaimPayPalCapture id orderID captureID) (hasOtherPayPalCapture id captureID)
    (updatePayPalCaptureCompletedTx id orderID captureID)

/-! ## the three transactions -/

def claimAndCredit (kind : String) (claim : Op Bool) (credit : Op BillingTransaction) : Op Bool :=
  withTx ("begin " ++ kind ++ " tx") do
    if ← claim then do
      let _ ← credit
      commit ("commit " ++ kind ++ " tx")
      return true
    else return false

def completeWithGatewayPaymentIDAndCredit (req : PaymentCompletionCredit) : Op Bool :=
  claimAndCredit "payment credit"
    (claimGatewayPaymentTx req.paymentID req.gateway req.gatewayPaymentID)
    (creditAccountTx req.customerID req.amount req.description req.idempotencyKey)

def completePayPalCaptureAndCredit (req : PayPalCaptureCredit) : Op Bool :=
  claimAndCredit "paypal capture credit"
    (claimPayPalCaptureTx req.paymentID req.orderID req.captureID)
    (creditAccountTx req.customerID req.amount req.description req.idempotencyKey)

def markRefundedAndDebit (req : PaymentRefundDebit) : Op Unit :=
  withTx "begin refund debit tx" do
    updatePaymentRefundedTx req.paymentID req.customerID
    let _ ← debitAccountTx req.customerID req.amount req.description (some refTypeRefund)
      (some req.paymentID) req.idempotencyKey
    commit "commit refund debit tx"
    return ()

end VirtueStack.Billing
