import VirtueStack.Billing.Specs
import VirtueStack.Payment.Service

/-!
# What the payment service does

* `Cmd.payments` the payments after a step of the abstract machine, row by row in
  `Cmd.Effect.payment`;
* `Stays p db` the payment `p` is still there with its customer, amount and gateway: what
  was checked before a transaction still holds inside it;
* `PaymentCall.Issues` the steps of the abstract machine a request can lead to.
-/

namespace VirtueStack.Billing
open Txn Table

/-! ## payments after a step -/

def Cmd.payments (t : Table BillingPayment.keys) : Cmd → Table BillingPayment.keys
  | .settle c p _ => t.put (c.update p)
  | .refund p _ => t.put p.refund
  | .setStatus p status gid => t.put (p.setStatus status gid)
  | .createPayment p => t.insert p
  | _ => t

variable {ws : List Write} {db : Db} {c : Cmd} {p : BillingPayment}

lemma Enters.view_payments {e : Entry} {db₀ : Db} (h : Enters e db₀ ws) :
    (store.view db ws).payments = db.payments := by
  cases h with
  | new bt _ => rfl
  | old bt _ _ => rfl

lemma Cmd.Effect.view_payments (h : c.Effect db ws) :
    (store.view db ws).payments = c.payments db.payments := by
  cases c with
  | post e => obtain ⟨bt, -, rfl⟩ := h; rfl
  | settle c p e => obtain ⟨-, -, -, ws', hen, rfl⟩ := h; exact hen.view_payments
  | refund p e => obtain ⟨-, ws', hen, rfl⟩ := h; exact hen.view_payments
  | setStatus p status gid | createPayment p | checkpoint c => obtain ⟨-, rfl⟩ := h; rfl
  | invoice inv => obtain ⟨-, -, rfl⟩ := h; rfl
  | gatewayRefund r => rw [show ws = [.gatewayRefund r] from h]; rfl

lemma find_put_payment {t : Table BillingPayment.keys} {q : BillingPayment}
    (h : t.find p.id = some p) (hq : q.id = p.id) (id : String) :
    (t.put q).find id = if id = p.id then some q else t.find id := by
  by_cases hid : id = p.id
  · have hkeys : p.keys = q.keys := congrArg (fun id => [id]) hq.symm
    rw [if_pos hid, hid, find_put_self h hkeys]
  · rw [if_neg hid]
    refine find_put_of_notMem fun hm => hid ?_
    rw [← hq]
    exact List.mem_singleton.mp hm

/-- the step writes `p'` over `p` -/
def Cmd.Rewrites (p p' : BillingPayment) : Cmd → Prop
  | .settle c q _ => q = p ∧ p' = c.update p
  | .refund q _ => q = p ∧ p' = p.refund
  | .setStatus q status gid => q = p ∧ p' = p.setStatus status gid
  | _ => False

/-- **Payments in a step.** The row at `id` stays as it is, or the step rewrites it. -/
theorem Cmd.Effect.payment (h : c.Effect db ws) {id : String} (hp : db.payments.find id = some p) :
    ∃ p', (store.view db ws).payments.find id = some p' ∧ (p' = p ∨ c.Rewrites p p') := by
  have hput : ∀ p0 q : BillingPayment, db.payments.find p0.id = some p0 → q.id = p0.id →
      ∃ p', (db.payments.put q).find id = some p' ∧ (p' = p ∨ p0 = p ∧ p' = q) := by
    intro p0 q h0 hid
    rw [find_put_payment h0 hid]
    by_cases he : id = p0.id
    · rw [if_pos he]
      rw [he, h0] at hp
      exact ⟨q, rfl, .inr ⟨Option.some.inj hp, rfl⟩⟩
    · rw [if_neg he]
      exact ⟨p, hp, .inl rfl⟩
  rw [h.view_payments]
  cases c with
  | settle c p0 e =>
    obtain ⟨p', hp', hc⟩ := hput p0 _ h.1 (c.update_id p0)
    exact ⟨p', hp', hc.imp_right fun ⟨h1, h2⟩ => ⟨h1, h1 ▸ h2⟩⟩
  | refund p0 e =>
    obtain ⟨p', hp', hc⟩ := hput p0 p0.refund h.1 rfl
    exact ⟨p', hp', hc.imp_right fun ⟨h1, h2⟩ => ⟨h1, h1 ▸ h2⟩⟩
  | setStatus p0 status gid =>
    obtain ⟨p', hp', hc⟩ := hput p0 (p0.setStatus status gid) h.1 rfl
    exact ⟨p', hp', hc.imp_right fun ⟨h1, h2⟩ => ⟨h1, h1 ▸ h2⟩⟩
  | createPayment p0 =>
    refine ⟨p, ?_, .inl rfl⟩
    rw [← hp]
    refine find_insert_of_notMem fun hk => ?_
    have := clash_eq_none.mp h.1 id hk
    rw [hp] at this
    cases this
  | _ => exact ⟨p, hp, .inl rfl⟩

lemma Cmd.Rewrites.fixed {p' : BillingPayment} (h : c.Rewrites p p') :
    p'.customerID = p.customerID ∧ p'.amount = p.amount ∧ p'.gateway = p.gateway := by
  cases c with
  | settle c q e =>
    obtain ⟨-, rfl⟩ := h
    cases c <;> exact ⟨rfl, rfl, rfl⟩
  | refund q e | setStatus q status gid => obtain ⟨-, rfl⟩ := h; exact ⟨rfl, rfl, rfl⟩
  | _ => exact h.elim

/-- the payment is still there, with the columns that are never updated -/
def Stays (p : BillingPayment) (db : Db) : Prop :=
  ∃ p', db.payments.find p.id = some p' ∧ p'.customerID = p.customerID ∧ p'.amount = p.amount ∧
    p'.gateway = p.gateway

lemma Stays.step {cmd : Cmd} (hp : Stays p db) (hef : cmd.Effect db ws) :
    Stays p (store.view db ws) := by
  obtain ⟨p', hp', hc, ha, hg⟩ := hp
  obtain ⟨p'', hp'', rfl | hrw⟩ := hef.payment hp'
  · exact ⟨p'', hp'', hc, ha, hg⟩
  · obtain ⟨hc', ha', hg'⟩ := hrw.fixed
    exact ⟨p'', hp'', hc'.trans hc, ha'.trans ha, hg'.trans hg⟩

lemma stays_of_mem (h : p ∈ db.payments.rows) : Stays p db :=
  ⟨p, find_of_mem h, rfl, rfl, rfl⟩

lemma Stays.rely {ι : Type} {init : BMem ι → Prop}
    {ok : ι → Cmd → Set Lock → List Write → BMem ι → Prop}
    {allow : ι → Req store → Loc store → BMem ι → Prop} {i : ι} {H : Set Lock} {m m' : BMem ι}
    (hp : Stays p m.db) (h : (system init ok allow).Rely i H m m') : Stays p m'.db := by
  refine h.stable (I := fun m => Stays p m.db) ?_ hp
  rintro m j H' ws - - - ⟨cmd, -, hef⟩ - hp
  rw [Mem.publish_db]
  exact hp.step hef

end VirtueStack.Billing

namespace VirtueStack.Payment
open Txn Billing

section
variable {ι : Type} {P : Protocol store ι} {i : ι}

/-! ## lookups -/

variable {c d : Op BillingPayment} {Q : BillingPayment → BMem ι → Prop}

lemma reads_getOr (h : Reads P i c Q) (h' : Reads P i d Q) : Reads P i (getOr c d) Q := by
  intro α f R m he hp
  show Idle P i ((Call.attempt c _).attempt f) R m
  rw [Call.attempt_attempt]
  refine h _ _ _ _ (fun e m' hr hR => ?_) hp
  show Idle P i ((if isNotFoundError e = true then d else Call.fail e).attempt f) R m'
  by_cases hn : isNotFoundError e = true
  · rw [if_pos hn]
    exact h' _ _ _ _ (fun e m2 hr2 => he e m2 (hr.trans hr2)) fun p m2 hr2 => hp p m2 (hr.trans hr2)
  · rw [if_neg hn]
    exact he e m' hr hR

lemma reads_check (h : Reads P i c Q) (v : BillingPayment → Except GoError Unit) :
    Reads P i (c.bind fun p => (check (v p)).bind fun _ => .pure p)
    (fun p m => Q p m ∧ v p = .ok ()) := by
  intro α f R m he hp
  rw [Call.bind_eq_attempt, Call.attempt_attempt]
  refine h _ _ _ _ he fun p m' hr hR hq => ?_
  show Idle P i (((check (v p)).bind fun _ => .pure p).attempt f) R m'
  cases hv : v p with
  | ok u => exact hp p m' hr hR ⟨hq, hv⟩
  | error e => exact he e m' hr hR

lemma reads_getByID (id : String) :
    Reads P i (getByID id) (fun p m => p ∈ m.db.payments.rows ∧ p.id = id) := by
  refine (reads_scanRow (Reads.stmt (S := store) (q := .payment id) fun _ _ _ _ _ h => ?_)).mono ?_
  · cases h; exact ⟨rfl, rfl⟩
  · rintro p m ⟨x, hx⟩
    have hp : m.db.payments.find id = some p := (Prod.mk.inj (Except.ok.inj hx)).1
    obtain ⟨hm, hk⟩ := Table.find_some hp
    exact ⟨hm, (List.mem_singleton.mp hk).symm⟩

lemma pick_mem {α : Type} {n : Nat} {l : List α} {a : α} (h : pick n l = some a) : a ∈ l :=
  List.mem_of_getElem? h

lemma reads_getByGatewayPaymentID (g : Gateway) (gid : String) :
    Reads P i (getByGatewayPaymentID g gid) (fun p m => p ∈ m.db.payments.rows ∧
      p.gateway = g ∧ p.gatewayPaymentID = some gid) := by
  refine (reads_scanRow (Reads.stmt (S := store) (q := .paymentByGateway g gid) fun _ _ _ _ _ h =>
    ?_)).mono ?_
  · cases h; exact ⟨rfl, rfl⟩
  · rintro p m ⟨x, hx⟩
    have hp : pick x.pick (m.db.paymentsByGateway g gid) = some p :=
      (Prod.mk.inj (Except.ok.inj hx)).1
    obtain ⟨hm, hk⟩ := List.mem_filter.mp (pick_mem hp)
    exact ⟨hm, of_decide_eq_true hk⟩

lemma reads_lookupWebhookPayment (g : Gateway) (ev : WebhookEvent) :
    Reads P i (lookupWebhookPayment g ev)
      (fun p m => p ∈ m.db.payments.rows ∧ ev.paymentRef ≠ "") := by
  unfold lookupWebhookPayment lookupPayPalWebhookPayment
  by_cases href : ev.paymentRef = ""
  · rw [if_pos href]
    exact Reads.fail _
  rw [if_neg href]
  have hgw : ∀ gid, Reads P i (getByGatewayPaymentID .paypal gid)
      (fun p m => p ∈ m.db.payments.rows ∧ ev.paymentRef ≠ "") := fun gid =>
    (reads_getByGatewayPaymentID .paypal gid).mono fun p m h => ⟨h.1, href⟩
  by_cases hg : g = .paypal
  · rw [if_pos hg]
    by_cases hid : ev.paymentID ≠ ""
    · rw [if_pos hid]
      exact reads_getOr (hgw _) (hgw _)
    · rw [if_neg hid]
      exact hgw _
  · rw [if_neg hg]
    exact (reads_getByID _).mono fun p m h => ⟨h.1, href⟩

lemma reads_paymentForCompletedEvent (g : Gateway) (ev : WebhookEvent) :
    Reads P i (paymentForCompletedEvent g ev) (fun p m => (p ∈ m.db.payments.rows ∧
      ev.paymentRef ≠ "") ∧ validatePaymentMatchesEvent p ev.customerID ev = .ok ()) := by
  unfold paymentForCompletedEvent
  by_cases hc : ev.customerID = ""
  · rw [if_pos hc]
    exact Reads.fail _
  · rw [if_neg hc]
    exact reads_check (reads_lookupWebhookPayment g ev) fun p =>
      validatePaymentMatchesEvent p ev.customerID ev

lemma reads_cryptoPaymentForCredit (g : Gateway) (gid : String) :
    Reads P i (cryptoPaymentForCredit g gid) (fun p m => p ∈ m.db.payments.rows) :=
  reads_getOr ((reads_getByGatewayPaymentID g gid).mono fun _ _ h => h.1)
    ((reads_getByID gid).mono fun _ _ h => h.1)

lemma validatePayment_ok {p : BillingPayment} {customerID currency : String} {amount : Int64}
    (h : validatePayment p customerID amount currency = .ok ()) :
    p.customerID = customerID ∧ p.amount = amount := by
  unfold validatePayment at h
  by_cases hc : p.customerID = customerID
  · by_cases ha : p.amount = amount
    · exact ⟨hc, ha⟩
    · rw [if_neg (not_not.mpr hc), if_pos ha] at h
      cases h
  · rw [if_pos hc] at h
    cases h

end

/-! ## what a request can do -/

def topUp (c : Claim) (p : BillingPayment) (key : String) : Entry :=
  creditEntry p.customerID p.amount ("Top-up via " ++ c.gatewayOf.text) (some key)

def refundDebit (g : Gateway) (ev : WebhookEvent) (p : BillingPayment) : Entry :=
  debitEntry p.customerID ev.amountCents ("Refund via " ++ g.text) (some refTypeRefund) (some p.id)
    (some ev.idempotencyKey)

def webhookClaim (g : Gateway) (ev : WebhookEvent) : Claim :=
  if g = .paypal then .capture ev.paymentRef ev.paymentID else .gateway g ev.paymentID

def cryptoClaim (r : WebhookResult) : Claim :=
  .gateway r.provider.gateway (if r.externalPaymentID = "" then r.invoiceID
    else r.externalPaymentID)

/-- what a request can claim, and the key of its credit -/
inductive PaymentCall.Claims : PaymentCall → Claim → String → Prop
  | webhook {g : Gateway} {ev : WebhookEvent} : ev.type = .paymentCompleted →
      Claims (.webhook g ev) (webhookClaim g ev) (paymentCreditIdempotencyKey g ev)
  | crypto {r : WebhookResult} : Claims (.cryptoWebhook r) (cryptoClaim r) r.idempotencyKey
  | capture {customerID order cap : String} :
      Claims (.capturePayPalOrder customerID order) (.capture order cap) ("paypal:capture:" ++ cap)

inductive PaymentCall.Issues : PaymentCall → Cmd → Prop
  | settle {call : PaymentCall} {c : Claim} {p : BillingPayment} {key : String} :
      call.Claims c key → Issues call (.settle c p (topUp c p key))
  | failed {g : Gateway} {ev : WebhookEvent} {p : BillingPayment} :
      ev.type = .paymentFailed → Issues (.webhook g ev) (.setStatus p .failed (some ev.paymentID))
  | refund {g : Gateway} {ev : WebhookEvent} {p : BillingPayment} :
      ev.type = .refundCompleted → Issues (.webhook g ev) (.refund p (refundDebit g ev p))
  | create {customerID currency id : String} {amount : Int64} {g : Gateway} {now : Int} :
      Issues (.initiateTopUp customerID amount currency g)
        (.createPayment ⟨id, customerID, g, none, amount, currency, .pending, none, now⟩)
  | session {customerID currency sid : String} {amount : Int64} {g : Gateway} {p : BillingPayment} :
      Issues (.initiateTopUp customerID amount currency g) (.setStatus p .pending (some sid))
  | gatewayRefund {a : Int64} {p : BillingPayment} : validateRefund p a = .ok () →
      Issues (.refundPayment p.id a)
        (.gatewayRefund ⟨p.gateway, refundGatewayPaymentID p, a, p.currency⟩)

section
variable {ι : Type}

/-- the statement with which the step is taken meets the condition of the run -/
def Permitted (allow : ι → Req store → Loc store → BMem ι → Prop) (i : ι) (m : BMem ι) : Cmd → Prop
  | .setStatus p status gid => allow i (.run (.updateStatus p.id status gid)) .idle m
  | _ => True

/-- what is known at the moment a step is taken -/
def Evidence (P : Protocol store ι) (i : ι) (H : Set Lock) (m : BMem ι) : Cmd → Prop
  | .settle c p _ => Claimed P i c p H m
  | cmd => Permitted P.allow i m cmd

end

lemma settlePayment_eq (s : PaymentSettlement) {c : Claim}
    (hc : c = if s.gateway = .paypal ∧ s.payPalOrderID ≠ "" then
      .capture s.payPalOrderID s.gatewayPaymentID else .gateway s.gateway s.gatewayPaymentID) :
    ∃ kind, settlePayment s = claimAndCredit kind (c.tx s.payment.id) (creditAccountTx s.customerID
      s.amountCents s.description s.idempotencyKey) := by
  unfold settlePayment
  by_cases h : s.gateway = .paypal ∧ s.payPalOrderID ≠ ""
  · rw [if_pos h] at hc ⊢
    exact ⟨_, by rw [hc]; rfl⟩
  · rw [if_neg h] at hc ⊢
    exact ⟨_, by rw [hc]; rfl⟩

section
variable {ι : Type} {init : BMem ι → Prop} {ok : ι → Cmd → Set Lock → List Write → BMem ι → Prop}
  {allow : ι → Req store → Loc store → BMem ι → Prop} {i : ι} {call : PaymentCall}
  (hok : ∀ cmd H ws m, call.Issues cmd → Evidence (system init ok allow) i H m cmd →
    ok i cmd H ws m)

/-! ## the requests keep to the abstract machine -/

include hok

variable {m : BMem ι} {g : Gateway} {customerID : String} {registry : List Gateway}
  {p : BillingPayment}

lemma settle_keeps {kind : String} {c : Claim} {key : String} (hc : call.Claims c key)
    (hp : Stays p m.db) {description : String}
    (hd : description = "Top-up via " ++ c.gatewayOf.text) :
    Keeps (system init ok allow) i (claimAndCredit kind (c.tx p.id)
      (creditAccountTx p.customerID p.amount description key)) m := by
  rw [hd]
  show Idle _ i (claimAndCredit kind (c.tx p.id) (postTx (topUp c p key) (topUp c p key).signed)) _
    m
  refine claimAndCredit_spec (fun _ _ _ _ => trivial) (fun _ _ _ => trivial)
    (fun _ _ _ _ _ => trivial) ?_
  intro m' p' H' ws hr _ hid hcl hen _
  obtain ⟨q, hq, hcust, ham, -⟩ := hp.rely hr
  obtain rfl : p' = q := by
    rw [← hid, hcl.row] at hq
    exact Option.some.inj hq
  have htop : topUp c p key = topUp c p' key := by
    unfold topUp
    rw [hcust, ham]
  exact ⟨.settle c p' (topUp c p' key), hok _ _ _ _ (.settle hc) hcl, hcl.row, hcl.gateway,
    hcl.admits, ws, htop ▸ hen, rfl⟩

lemma updateStatus_keeps {id : String} {status : PaymentStatus} {gid : Option String}
    (h : ∀ p : BillingPayment, p.id = id → call.Issues (.setStatus p status gid)) :
    Keeps (system init ok allow) i (updateStatus id status gid) m := by
  show Idle _ i ((Op.query _ _).bind _) _ m
  rw [Call.bind_eq_attempt]
  refine Idle.stmt (fun e m' _ _ => Keeps.ret _) fun m' x a ws hr _ ha hx => ?_
  obtain ⟨p, hp, rfl, rfl⟩ | ⟨-, rfl, rfl⟩ := updated_ok hx
  · have hid : p.id = id := Table.key_of_find hp
    refine ⟨fun _ => ⟨.setStatus p status gid, hok _ _ _ _ (h p hid) ?_, ?_, rfl⟩, Keeps.ret _⟩
    · show allow i (.run (.updateStatus p.id status gid)) .idle m'
      rw [hid]
      exact ha
    · rw [hid]
      exact hp
  · exact silent (Keeps.ret _)

lemma handlePaymentCompleted_keeps {ev : WebhookEvent}
    (hcall : call = .webhook g ev) (htype : ev.type = .paymentCompleted) :
    Keeps (system init ok allow) i (handlePaymentCompleted g ev) m := by
  refine Keeps.reads (reads_paymentForCompletedEvent g ev) fun p m hp => ?_
  obtain ⟨⟨hmem, href⟩, hv⟩ := hp
  obtain ⟨-, ham⟩ := validatePayment_ok hv
  refine Keeps.bind (keeps_wrapping _ ?_) fun _ _ => Keeps.ret _
  obtain ⟨kind, hk⟩ := settlePayment_eq ⟨p, g, ev.paymentID, ev.paymentRef, p.customerID,
    ev.amountCents, "Top-up via " ++ g.text, paymentCreditIdempotencyKey g ev⟩
    (c := webhookClaim g ev)
    (by unfold webhookClaim; simp only [href, ne_eq, not_false_eq_true, and_true])
  rw [hk, ← ham]
  have hg : (webhookClaim g ev).gatewayOf = g := by
    unfold webhookClaim
    by_cases hg : g = .paypal
    · rw [if_pos hg, hg]; rfl
    · rw [if_neg hg]; rfl
  exact settle_keeps hok (hcall ▸ .webhook htype) (stays_of_mem hmem) (by rw [hg])

lemma handleRefundCompleted_keeps {ev : WebhookEvent}
    (hcall : call = .webhook g ev) (htype : ev.type = .refundCompleted) :
    Keeps (system init ok allow) i (handleRefundCompleted g ev) m := by
  refine Keeps.reads (reads_wrapping _ (reads_getByGatewayPaymentID g ev.paymentID)) fun p m _ => ?_
  refine markRefundedAndDebit_spec (fun _ _ _ _ => trivial) (fun _ _ _ _ _ => trivial) ?_
  intro m' p' H' ws _ _ hid hrow hcust hen _
  have he : refundDebit g ev p' = debitEntry p.customerID ev.amountCents ("Refund via " ++ g.text)
      (some refTypeRefund) (some p.id) (some ev.idempotencyKey) := by
    unfold refundDebit
    rw [hid, hcust]
  exact ⟨.refund p' (refundDebit g ev p'), hok _ _ _ _ (hcall ▸ .refund htype) trivial, hrow, ws,
    he ▸ hen, rfl⟩

lemma creditFromPayment_keeps {r : WebhookResult} (hcall : call = .cryptoWebhook r) :
    Keeps (system init ok allow) i (creditFromPayment r) m := by
  refine Keeps.reads (reads_wrapping _ (reads_cryptoPaymentForCredit _ _)) fun p m hmem => ?_
  show Keeps _ i ((check _).bind _) m
  cases hv : validateCryptoPayment p r.accountID r.amountCents r.currency with
  | error e => exact Keeps.ret _
  | ok u =>
    obtain ⟨hcust, ham⟩ := validatePayment_ok hv
    show Keeps _ i ((wrapping _ (settlePayment _)).bind _) m
    refine Keeps.bind (keeps_wrapping _ ?_) fun _ _ => Keeps.ret _
    obtain ⟨kind, hk⟩ := settlePayment_eq ⟨p, r.provider.gateway,
      if r.externalPaymentID = "" then r.invoiceID else r.externalPaymentID, "", r.accountID,
      r.amountCents, "Top-up via " ++ r.provider.gateway.text, r.idempotencyKey⟩
      (c := cryptoClaim r) (by simp [cryptoClaim])
    rw [hk, ← ham, ← hcust]
    exact settle_keeps hok (hcall ▸ .crypto) (stays_of_mem hmem) rfl

lemma creditFromCapture_keeps {order : String} {result : PayPalCaptureResult}
    (hcall : call = .capturePayPalOrder customerID order)
    (hp : Stays p m.db) (hcust : p.customerID = customerID) (ham : p.amount = result.amountCents) :
    Keeps (system init ok allow) i (creditFromCapture p.id customerID order result) m := by
  refine Keeps.bind (keeps_wrapping _ ?_) fun b _ => ?_
  · rw [← hcust, ← ham]
    exact settle_keeps (c := .capture order result.captureID) hok (hcall ▸ .capture) hp rfl
  · cases b <;> exact Keeps.ret _

lemma capturePayPalOrder_keeps {order : String}
    (hcall : call = .capturePayPalOrder customerID order) :
    Keeps (system init ok allow) i (capturePayPalOrder registry customerID order) m := by
  refine reads_getByGatewayPaymentID .paypal order _ _ _ _ (fun _ _ _ _ => Keeps.ret _) ?_
  intro p m _ _ hp
  show Keeps _ i (if p.customerID ≠ customerID then _ else _) m
  by_cases hcust : p.customerID = customerID
  · rw [if_neg (not_not.mpr hcust)]
    have hs : Stays p m.db := stays_of_mem hp.1
    cases hdone : completedPayPalCaptureResult p with
    | some result =>
      refine creditFromCapture_keeps hok hcall hs hcust ?_
      unfold completedPayPalCaptureResult at hdone
      split at hdone
      · cases hdone; rfl
      · cases hdone
    | none =>
      show Keeps _ i ((wrapping _ (registryGet registry .paypal)).bind _) m
      unfold registryGet
      by_cases hreg : Gateway.paypal ∈ registry
      · rw [if_pos hreg]
        refine Idle.read (fun _ _ _ _ _ h => by cases h; exact ⟨rfl, rfl⟩)
          (fun e m' _ _ => Keeps.ret _) fun m' x result hr _ _ _ => ?_
        show Keeps _ i ((check _).bind _) m'
        cases hv : validatePayPalCapture p result with
        | error e => exact Keeps.ret _
        | ok u =>
          refine creditFromCapture_keeps hok hcall (hs.rely hr) hcust ?_
          unfold validatePayPalCapture at hv
          split at hv
          · cases hv
          · split at hv
            · cases hv
            · rename_i ham
              exact not_not.mp ham
      · rw [if_neg hreg]
        exact Keeps.ret _
  · rw [if_pos hcust]
    exact Keeps.ret _

lemma initiateTopUp_keeps {currency : String}
    {amount : Int64} (hcall : call = .initiateTopUp customerID amount currency g) :
    Keeps (system init ok allow) i (initiateTopUp registry customerID amount currency g) m := by
  show Keeps _ i ((wrapping _ (registryGet registry g)).bind _) m
  unfold registryGet
  by_cases hreg : g ∈ registry
  · rw [if_pos hreg]
    show Keeps _ i ((wrapping _ (create _)).bind _) m
    refine Idle.bind (R := fun _ _ => True) (keeps_wrapping _ ?_)
      (fun p m _ _ => ?_) fun _ _ _ _ _ _ _ => trivial
    · rw [← Call.attempt_ret (create _)]
      refine Idle.stmt (fun _ _ _ _ => Keeps.ret _) fun m' x p ws _ _ _ hx => ?_
      simp only [exec] at hx
      split at hx
      · rename_i hclash
        cases hx
        exact ⟨fun _ => ⟨.createPayment _, hok _ _ _ _ (hcall ▸ .create) trivial, hclash, rfl⟩,
          Keeps.ret _⟩
      · cases hx
    · show Keeps _ i ((Op.query _ _).attempt _) m
      refine Idle.read (fun _ _ _ _ _ h => by cases h; exact ⟨rfl, rfl⟩)
        (fun _ _ _ _ => Keeps.ret _) fun m' x sess _ _ _ _ => ?_
      show Keeps _ i (if sess.gatewaySessionID ≠ "" then _ else _) m'
      by_cases hs : sess.gatewaySessionID ≠ ""
      · rw [if_pos hs]
        exact Idle.attempt (updateStatus_keeps hok fun q _ => hcall ▸ .session) fun r m _ _ =>
          Keeps.ret _
      · rw [if_neg hs]
        exact Keeps.ret _
  · rw [if_neg hreg]
    exact Keeps.ret _

lemma refundPayment_keeps {id : String} {amount : Int64} (hcall : call = .refundPayment id amount) :
    Keeps (system init ok allow) i (refundPayment registry id amount) m := by
  refine Keeps.reads (reads_wrapping _ (reads_getByID id)) fun p m hp => ?_
  show Keeps _ i ((check _).bind _) m
  cases hv : validateRefund p amount with
  | error e => exact Keeps.ret _
  | ok u =>
    show Keeps _ i ((wrapping _ (registryGet registry p.gateway)).bind _) m
    unfold registryGet
    by_cases hreg : p.gateway ∈ registry
    · rw [if_pos hreg]
      show Keeps _ i (wrapping _ (providerRefund p amount)) m
      refine keeps_wrapping _ ?_
      unfold providerRefund
      by_cases hg : p.gateway = .btcpay ∨ p.gateway = .nowpayments
      · rw [if_pos hg]
        exact Keeps.ret _
      · rw [if_neg hg, ← Call.attempt_ret (Call.stmt _ _)]
        refine Idle.stmt (fun _ _ _ _ => Keeps.ret _) ?_
        intro m' x u ws _ _ _ hx
        cases hx
        have hissue : call.Issues
            (.gatewayRefund ⟨p.gateway, refundGatewayPaymentID p, amount, p.currency⟩) := by
          rw [hcall, ← hp.2]
          exact .gatewayRefund hv
        exact ⟨fun _ => ⟨.gatewayRefund _, hok _ _ _ _ hissue trivial, rfl⟩, Keeps.ret _⟩
    · rw [if_neg hreg]
      exact Keeps.ret _

/-- **A request only takes the steps it issues.** -/
theorem PaymentCall.run_spec (registry : List Gateway) (m : BMem ι) :
    Keeps (system init ok allow) i (call.run registry) m := by
  cases hcall : call with
  | initiateTopUp c a cur g =>
    exact Keeps.bind (initiateTopUp_keeps hok hcall) fun _ _ => Keeps.ret _
  | webhook g ev =>
    show Keeps _ i (routeWebhookEvent g ev) m
    unfold routeWebhookEvent
    cases htype : ev.type with
    | paymentCompleted => exact handlePaymentCompleted_keeps hok hcall htype
    | paymentFailed =>
      show Keeps _ i (if ev.paymentRef ≠ "" then _ else _) m
      by_cases href : ev.paymentRef ≠ ""
      · rw [if_pos href]
        exact updateStatus_keeps hok fun p _ => hcall ▸ .failed htype
      · rw [if_neg href]
        exact Keeps.ret _
    | refundCompleted => exact handleRefundCompleted_keeps hok hcall htype
  | cryptoWebhook r => exact creditFromPayment_keeps hok hcall
  | capturePayPalOrder c order =>
    exact Keeps.bind (capturePayPalOrder_keeps hok hcall) fun _ _ => Keeps.ret _
  | refundPayment id a => exact refundPayment_keeps hok hcall

omit hok

variable [DecidableEq ι]

def paymentStart (db₀ : Db) (registry : List Gateway) (calls : ι → PaymentCall) :
    State store ι (Except GoError Unit) :=
  State.init db₀ fun i => (calls i).run registry

/-- the requests as an abstract machine, in the runs that meet `allow` -/
def paymentSystem (db₀ : Db) (calls : ι → PaymentCall)
    (allow : ι → Req store → Loc store → BMem ι → Prop) : Protocol store ι :=
  system (fun m => m = ⟨db₀, []⟩)
    (fun i cmd _ _ m => (calls i).Issues cmd ∧ Permitted allow i m cmd) allow

/-- **The requests refine the abstract machine.** -/
theorem payments_adequate {db₀ : Db} {calls : ι → PaymentCall}
    {s : State store ι (Except GoError Unit)}
    (h : Reaches allow (paymentStart db₀ registry calls) s) :
    (paymentSystem db₀ calls allow).Reach s.mem := by
  refine (Idle.adequate (P := paymentSystem db₀ calls allow) (R := fun _ _ _ => True) rfl
    (fun i => ?_) h).1
  refine PaymentCall.run_spec (fun cmd H ws m hi hev => ⟨hi, ?_⟩) registry _
  cases cmd with
  | settle c p e => trivial
  | _ => exact hev

end

end VirtueStack.Payment
