import VirtueStack.Billing.PaymentRepo

/-!
# Payments (services/payment_service.go, payments/, api/webhooks/crypto_handler.go)

* `WebhookEvent` the normalised webhook of a gateway. Of its metadata the members `customer_id`
  and `payment_id` are read, the empty text standing for an absent one.

Signatures, HTTP and logging are left out; a gateway that cannot be reached is a statement that
fails.
-/

namespace VirtueStack.Payment
open Txn Billing Call

inductive WebhookEventType where
  | paymentCompleted
  | paymentFailed
  | refundCompleted
  deriving DecidableEq, Repr

structure WebhookEvent where
  type : WebhookEventType
  paymentID : String
  amountCents : Int64
  currency : String
  idempotencyKey : String
  customerID : String
  paymentRef : String
  deriving DecidableEq, Repr

/-! ## the providers -/

/-- `checkout.session.completed` and `payment_intent.succeeded` -/
def stripeEvent (eventID paymentIntentID : String) (amount : Int64)
    (currency customerID paymentRef : String) : WebhookEvent :=
  ⟨.paymentCompleted, paymentIntentID, amount, currency, "stripe:event:" ++ eventID, customerID,
    paymentRef⟩

/-- `PAYMENT.CAPTURE.COMPLETED` -/
def payPalCaptureEvent (captureID : String) (cents : Int64) (currency customID orderID : String) :
    WebhookEvent :=
  ⟨.paymentCompleted, captureID, cents, currency, "paypal:capture:" ++ captureID, customID, orderID⟩

inductive CryptoProvider where
  | btcpay
  | nowpayments
  deriving DecidableEq, Repr

/-- `ProviderName()`, the gateway of the payments -/
def CryptoProvider.gateway : CryptoProvider → Gateway
  | .btcpay => .btcpay
  | .nowpayments => .nowpayments

/-- what a crypto provider hands to the webhook handler -/
structure WebhookResult where
  provider : CryptoProvider
  invoiceID : String
  externalPaymentID : String
  accountID : String
  amountCents : Int64
  currency : String
  idempotencyKey : String
  deriving DecidableEq, Repr

/-- `InvoiceSettled` -/
def btcPayResult (invoiceID accountID : String) (cents : Int64) (currency : String) :
    WebhookResult :=
  ⟨.btcpay, invoiceID, invoiceID, accountID, cents, currency, "btcpay:invoice:" ++ invoiceID⟩

/-- an IPN with status `finished`; the order id is the account and the local payment -/
def nowPaymentsResult (paymentID localPaymentID accountID : String) (cents : Int64)
    (currency : String) : WebhookResult :=
  ⟨.nowpayments, localPaymentID, paymentID, accountID, cents, currency,
    "nowpayments:payment:" ++ paymentID⟩

/-! ## settlement -/

structure PaymentSettlement where
  payment : BillingPayment
  gateway : Gateway
  gatewayPaymentID : String
  payPalOrderID : String
  customerID : String
  amountCents : Int64
  description : String
  idempotencyKey : String

def settlePayment (s : PaymentSettlement) : Op Bool :=
  if s.gateway = .paypal ∧ s.payPalOrderID ≠ "" then
    completePayPalCaptureAndCredit
      ⟨s.payment.id, s.payPalOrderID, s.gatewayPaymentID, s.customerID, s.amountCents,
        s.description, s.idempotencyKey⟩
  else
    completeWithGatewayPaymentIDAndCredit
      ⟨s.payment.id, s.gateway, s.gatewayPaymentID, s.customerID, s.amountCents, s.description,
        s.idempotencyKey⟩

variable (p : BillingPayment)

def validatePayment (customerID : String) (amount : Int64)
    (currency : String) : Except GoError Unit :=
  if p.customerID ≠ customerID then
    .error (.invalid "customer_id" "payment customer mismatch")
  else if p.amount ≠ amount then
    .error (.invalid "amount" "payment amount mismatch")
  else if equalFold p.currency currency then .ok ()
  else .error (.invalid "currency" "payment currency mismatch")

def validatePaymentMatchesEvent (customerID : String) (ev : WebhookEvent) :
    Except GoError Unit :=
  validatePayment p customerID ev.amountCents ev.currency

def validateCryptoPayment (accountID : String) (amountCents : Int64)
    (currency : String) : Except GoError Unit :=
  validatePayment p accountID amountCents currency

def isNotFoundError (e : GoError) : Bool := e.is .notFound

/-- look under the first reference; only if there is none, under the second -/
def getOr (first second : Op BillingPayment) : Op BillingPayment :=
  attempt first fun
    | .ok p => .pure p
    | .error e => if isNotFoundError e then second else fail e

/-! ## webhooks -/

def lookupPayPalWebhookPayment (orderID : String) (ev : WebhookEvent) : Op BillingPayment :=
  if ev.paymentID ≠ "" then
    getOr (getByGatewayPaymentID .paypal ev.paymentID) (getByGatewayPaymentID .paypal orderID)
  else getByGatewayPaymentID .paypal orderID

variable (gateway : Gateway) (ev : WebhookEvent)

def lookupWebhookPayment : Op BillingPayment :=
  if ev.paymentRef = "" then fail (.new "webhook event missing payment_id metadata")
  else if gateway = .paypal then lookupPayPalWebhookPayment ev.paymentRef ev
  else getByID ev.paymentRef

def paymentForCompletedEvent : Op BillingPayment :=
  if ev.customerID = "" then fail (.new "webhook event missing customer_id metadata")
  else do
    let payment ← lookupWebhookPayment gateway ev
    check (validatePaymentMatchesEvent payment ev.customerID ev)
    return payment

def paymentCreditIdempotencyKey : String :=
  if gateway = .paypal ∧ ev.idempotencyKey ≠ "" then ev.idempotencyKey
  else if ev.paymentID ≠ "" then gateway.text ++ ":payment:" ++ ev.paymentID
  else ev.idempotencyKey

/-- a payment that could not be claimed is only logged -/
def handlePaymentCompleted : Op Unit := do
  let payment ← paymentForCompletedEvent gateway ev
  let _ ← wrapping "complete payment" (settlePayment
    { payment := payment
      gateway := gateway
      gatewayPaymentID := ev.paymentID
      payPalOrderID := ev.paymentRef
      customerID := payment.customerID
      amountCents := ev.amountCents
      description := "Top-up via " ++ gateway.text
      idempotencyKey := paymentCreditIdempotencyKey gateway ev })
  return ()

def handlePaymentFailed : Op Unit :=
  if ev.paymentRef ≠ "" then updateStatus ev.paymentRef .failed (some ev.paymentID)
  else return ()

def handleRefundCompleted : Op Unit := do
  let existing ← wrapping "get payment for refund" (getByGatewayPaymentID gateway ev.paymentID)
  markRefundedAndDebit
    ⟨existing.id, existing.customerID, ev.amountCents, "Refund via " ++ gateway.text,
      ev.idempotencyKey⟩

def routeWebhookEvent : Op Unit :=
  match ev.type with
  | .paymentCompleted => handlePaymentCompleted gateway ev
  | .paymentFailed => handlePaymentFailed ev
  | .refundCompleted => handleRefundCompleted gateway ev

/-! ## crypto payments -/

def cryptoPaymentForCredit (gatewayPaymentID : String) : Op BillingPayment :=
  getOr (getByGatewayPaymentID gateway gatewayPaymentID) (getByID gatewayPaymentID)

/-- the handler passes the result on with the name of its provider as the gateway -/
def creditFromPayment (r : WebhookResult) : Op Unit := do
  let gateway := r.provider.gateway
  let existing ← wrapping "get crypto payment" (cryptoPaymentForCredit gateway r.invoiceID)
  check (validateCryptoPayment existing r.accountID r.amountCents r.currency)
  let _ ← wrapping "complete crypto payment" (settlePayment
    { payment := existing
      gateway := gateway
      gatewayPaymentID := if r.externalPaymentID = "" then r.invoiceID else r.externalPaymentID
      payPalOrderID := ""
      customerID := r.accountID
      amountCents := r.amountCents
      description := "Top-up via " ++ gateway.text
      idempotencyKey := r.idempotencyKey })
  return ()

/-! ## PayPal orders -/

/-- `paypalCaptureIDFromMetadata`: an absent member is the empty text -/
def payPalCaptureIDFromMetadata : String := p.paypalCaptureID.getD ""

def completedPayPalCaptureResult : Option PayPalCaptureResult :=
  if p.status = .completed ∧ payPalCaptureIDFromMetadata p ≠ "" then
    some ⟨payPalCaptureIDFromMetadata p, "COMPLETED", p.amount, p.currency⟩
  else none

def validatePayPalCapture (r : PayPalCaptureResult) : Except GoError Unit :=
  if r.status ≠ "COMPLETED" then .error (.invalid "status" "paypal capture not completed")
  else if p.amount ≠ r.amountCents then .error (.invalid "amount" "paypal capture amount mismatch")
  else if equalFold p.currency r.currency then .ok ()
  else .error (.invalid "currency" "paypal capture currency mismatch")

def creditFromCapture (paymentID customerID orderID : String) (r : PayPalCaptureResult) :
    Op PayPalCaptureResult := do
  let claimed ← wrapping "complete paypal capture" (completePayPalCaptureAndCredit
    ⟨paymentID, orderID, r.captureID, customerID, r.amountCents, "Top-up via paypal",
      "paypal:capture:" ++ r.captureID⟩)
  if claimed then return r
  else fail (.wrap "paypal capture already claimed" (.sentinel .conflict))

variable (registry : List Gateway)

def registryGet (gateway : Gateway) : Op Unit :=
  if gateway ∈ registry then .pure ()
  else fail (.wrap ("payment provider " ++ quoted gateway.text) (.sentinel .notFound))

def capturePayPalOrder (customerID orderID : String) :
    Op PayPalCaptureResult :=
  attempt (getByGatewayPaymentID .paypal orderID) fun
    | .error _ => fail (.wrap ("payment for order " ++ orderID) (.sentinel .notFound))
    | .ok payment =>
      if payment.customerID ≠ customerID then
        fail (.wrap "payment ownership mismatch" (.sentinel .forbidden))
      else match completedPayPalCaptureResult payment with
        | some result => creditFromCapture payment.id customerID orderID result
        | none => do
          wrapping "get paypal provider" (registryGet registry .paypal)
          let result ← Op.query (.captureOrder orderID) "capture paypal order"
          check (validatePayPalCapture payment result)
          creditFromCapture payment.id customerID orderID result

/-! ## top-ups and refunds -/

def initiateTopUp (customerID : String) (amountCents : Int64)
    (currency : String) (gateway : Gateway) : Op (PaymentSession × String) := do
  wrapping "get payment provider" (registryGet registry gateway)
  let payment ← wrapping "create payment record"
    (create ⟨"", customerID, gateway, none, amountCents, currency, .pending, none, 0⟩)
  let sess ← Op.query (.createPaymentSession gateway payment.id customerID amountCents)
    "create payment session"
  if sess.gatewaySessionID ≠ "" then
    -- an error of this write is only logged
    attempt (updateStatus payment.id .pending (some sess.gatewaySessionID)) fun _ =>
      .pure (sess, payment.id)
  else return (sess, payment.id)

def refundGatewayPaymentID : String :=
  if p.gateway = .paypal ∧ payPalCaptureIDFromMetadata p ≠ "" then payPalCaptureIDFromMetadata p
  else p.gatewayPaymentID.getD ""

def validateRefund (amountCents : Int64) : Except GoError Unit :=
  if p.status ≠ .completed then .error (.invalid "status" "can only refund completed payments")
  else if refundGatewayPaymentID p = "" then
    .error (.invalid "gateway_payment_id" "payment has no gateway reference for refund")
  else if amountCents ≤ 0 ∨ p.amount < amountCents then
    .error (.invalid "amount" "refund amount must be between 1 and the original payment amount")
  else .ok ()

/-- the crypto gateways refuse refunds -/
def providerRefund (amountCents : Int64) : Op Unit :=
  if p.gateway = .btcpay ∨ p.gateway = .nowpayments then
    fail (.new "refunds are not supported for cryptocurrency payments")
  else
    stmt (S := store)
      (.gatewayRefund ⟨p.gateway, refundGatewayPaymentID p, amountCents, p.currency⟩) GoError.pg

def refundPayment (paymentID : String) (amountCents : Int64) : Op Unit := do
  let payment ← wrapping "get payment for refund" (getByID paymentID)
  check (validateRefund payment amountCents)
  wrapping "get payment provider" (registryGet registry payment.gateway)
  wrapping ("process refund via " ++ payment.gateway.text) (providerRefund payment amountCents)

/-! ## requests -/

inductive PaymentCall where
  | initiateTopUp (customerID : String) (amountCents : Int64) (currency : String)
      (gateway : Gateway)
  | webhook (gateway : Gateway) (ev : WebhookEvent)
  | cryptoWebhook (r : WebhookResult)
  | capturePayPalOrder (customerID orderID : String)
  | refundPayment (paymentID : String) (amountCents : Int64)

def PaymentCall.run : PaymentCall → Op Unit
  | .initiateTopUp c a cur g => do
    let _ ← Payment.initiateTopUp registry c a cur g
    return ()
  | .webhook g ev => routeWebhookEvent g ev
  | .cryptoWebhook r => creditFromPayment r
  | .capturePayPalOrder c order => do
    let _ ← Payment.capturePayPalOrder registry c order
    return ()
  | .refundPayment id a => Payment.refundPayment registry id a

end VirtueStack.Payment
