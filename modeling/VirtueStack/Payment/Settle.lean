import VirtueStack.Billing.Ledger
import VirtueStack.Payment.Specs

/-!
# Settlement happens once

Webhooks and captures that complete payments, interleaved statement by statement. Three things work
together: the advisory lock on what the gateway settled, the row lock on the local payment, and the
key of the credit.

* `settlement p` what the gateway settled: the capture for PayPal, otherwise its payment id;
* `creditKey g x` the key of the credit for `x`; it determines both;
* `Credited m p bt` a committed batch completed `p` and inserted `bt`;
* `Settling` the requests the gateways issue;
* `SettledOnce m` **the invariant**: the completed payments and the credit rows are in one-to-one
  correspondence, and no two of them have one settlement.
-/

namespace VirtueStack.Billing
open Txn

lemma mem_put_payment {t : Table BillingPayment.keys} {p q r : BillingPayment}
    (h : t.find p.id = some p) (hq : q.id = p.id) : r ∈ (t.put q).rows ↔
      r = q ∨ r ∈ t.rows ∧ r.id ≠ p.id := by
  have hmem : ∀ (t : Table BillingPayment.keys) (r : BillingPayment), r ∈ t.rows ↔
    t.find r.id = some r := fun t r =>
    ⟨fun h => Table.find_of_mem h, fun h => (Table.find_some h).1⟩
  rw [hmem, hmem, find_put_payment h hq]
  by_cases hid : r.id = p.id
  · rw [if_pos hid]
    exact ⟨fun e => .inl (Option.some.inj e).symm, fun e => e.elim (fun e => e ▸ rfl) fun e =>
      absurd hid e.2⟩
  · rw [if_neg hid]
    exact ⟨fun e => .inr ⟨e, hid⟩, fun e => e.elim (fun e => absurd (e ▸ hq) hid) fun e => e.1⟩

def settlement (p : BillingPayment) : Option String :=
  if p.gateway = .paypal then p.paypalCaptureID else p.gatewayPaymentID

namespace Claim

def ref : Claim → String
  | .gateway _ gid => gid
  | .capture _ cap => cap

/-- PayPal payments are claimed by capture -/
def Proper : Claim → Prop
  | .gateway g _ => g ≠ .paypal
  | .capture _ _ => True

variable {c c' : Claim} {p : BillingPayment} {db : Db}

lemma update_gateway (c : Claim) (p : BillingPayment) : (c.update p).gateway = p.gateway := by
  cases c <;> rfl

lemma update_status (c : Claim) (p : BillingPayment) : (c.update p).status = .completed := by
  cases c <;> rfl

lemma settlement_update (hc : c.Proper) (hg : p.gateway = c.gatewayOf) :
    settlement (c.update p) = some c.ref := by
  unfold settlement
  rw [update_gateway, hg]
  cases c with
  | gateway g gid => exact if_neg hc
  | capture order cap => rfl

lemma text_eq (hc : c.Proper) (hc' : c'.Proper) (hg : c.gatewayOf = c'.gatewayOf)
    (hr : c.ref = c'.ref) : c.text = c'.text := by
  cases c with
  | gateway g gid =>
    cases c' with
    | gateway g' gid' => cases hg; cases hr; rfl
    | capture order' cap' => exact absurd hg hc
  | capture order cap =>
    cases c' with
    | gateway g' gid' => exact absurd hg.symm hc'
    | capture order' cap' => cases hr; rfl

lemma taken_eq_false (hc : c.Proper) {id : String} : c.taken db id = false ↔
    ∀ q ∈ db.payments.rows, q.gateway = c.gatewayOf → settlement q = some c.ref → q.id = id := by
  unfold settlement
  cases c with
  | gateway g gid =>
    simp only [taken, Db.paymentsByGateway, gatewayOf, ref, List.any_eq_false, List.mem_filter,
      decide_eq_true_eq, ne_eq, not_not]
    constructor
    · intro h q hq hg hs
      rw [if_neg (hg ▸ hc)] at hs
      exact h q ⟨hq, hg, hs⟩
    · rintro h q ⟨hq, hg, hs⟩
      refine h q hq hg ?_
      rwa [if_neg (hg ▸ hc)]
  | capture order cap =>
    simp only [taken, Db.paymentsByCapture, gatewayOf, ref, List.any_eq_false, List.mem_filter,
      decide_eq_true_eq, ne_eq, not_not]
    constructor
    · intro h q hq hg hs
      rw [if_pos hg] at hs
      exact h q ⟨hq, hg, hs⟩
    · rintro h q ⟨hq, hg, hs⟩
      refine h q hq hg ?_
      rwa [if_pos hg]

/-- a completed payment can only be claimed for what it was completed for, and that changes
nothing -/
lemma update_eq_of_completed (ha : c.admits p = true) (hs : p.status = .completed) :
    c.update p = p := by
  obtain ⟨id, cust, g, gid, am, cur, st, cap, t⟩ := p
  cases hs
  cases c with
  | gateway g' gid' =>
    simp [admits, BillingPayment.claimable] at ha
    simp [update, BillingPayment.complete, ha]
  | capture order' cap' =>
    simp [admits, BillingPayment.capturable] at ha
    simp [update, BillingPayment.completeCapture, ha]

end Claim

end VirtueStack.Billing

namespace VirtueStack.Payment
open Txn Billing

/-! ## keys -/

def keyHead : Gateway → String
  | .stripe => "stripe:payment:"
  | .paypal => "paypal:capture:"
  | .btcpay => "btcpay:invoice:"
  | .nowpayments => "nowpayments:payment:"
  | .admin => "admin:payment:"

def creditKey (g : Gateway) (x : String) : String := keyHead g ++ x

lemma creditKey_inj {g g' : Gateway} {x x' : String} (h : creditKey g x = creditKey g' x') :
    g = g' ∧ x = x' := by
  have hl : (keyHead g).toList ++ x.toList = (keyHead g').toList ++ x'.toList := by
    rw [← String.toList_append, ← String.toList_append]
    exact congrArg String.toList h
  have hne : ∀ g, (keyHead g).toList ≠ [] := by
    intro g
    cases g <;> decide
  -- the first letter tells the gateways apart
  have hh : (keyHead g).toList.head? = (keyHead g').toList.head? := by
    rw [← List.head?_append_of_ne_nil _ (hne g), hl, List.head?_append_of_ne_nil _ (hne g')]
  obtain rfl : g = g' := by
    revert hh
    cases g <;> cases g' <;> decide
  exact ⟨rfl, String.toList_inj.mp (List.append_cancel_left hl)⟩

def creditOf (p : BillingPayment) (x : String) : Entry :=
  creditEntry p.customerID p.amount ("Top-up via " ++ p.gateway.text) (some (creditKey p.gateway x))

/-! ## the requests -/

inductive Settling : PaymentCall → Prop
  | stripe {eventID intentID currency customerID paymentRef : String} {amount : Int64} :
      intentID ≠ "" → Settling (.webhook .stripe
        (stripeEvent eventID intentID amount currency customerID paymentRef))
  | paypal {captureID currency customID orderID : String} {cents : Int64} :
      Settling (.webhook .paypal (payPalCaptureEvent captureID cents currency customID orderID))
  | btcpay {invoiceID accountID currency : String} {cents : Int64} :
      Settling (.cryptoWebhook (btcPayResult invoiceID accountID cents currency))
  | nowpayments {paymentID localPaymentID accountID currency : String} {cents : Int64} :
      paymentID ≠ "" → Settling (.cryptoWebhook
        (nowPaymentsResult paymentID localPaymentID accountID cents currency))
  | capture {customerID orderID : String} : Settling (.capturePayPalOrder customerID orderID)

lemma Settling.claims {call : PaymentCall} (h : Settling call) {c : Claim} {key : String}
    (hc : call.Claims c key) : c.Proper ∧ key = creditKey c.gatewayOf c.ref := by
  cases h with
  | stripe hne =>
    cases hc
    refine ⟨(fun h => by cases h), ?_⟩
    exact (if_neg (fun h => by cases h.1)).trans (if_pos hne)
  | paypal =>
    cases hc
    refine ⟨trivial, if_pos ⟨rfl, fun h => ?_⟩⟩
    have := congrArg (fun s : String => s.toList.length) h
    simp [payPalCaptureEvent] at this
  | btcpay =>
    cases hc
    refine ⟨(fun h => by cases h), ?_⟩
    exact congrArg (creditKey .btcpay) (ite_self _).symm
  | nowpayments hne =>
    cases hc
    refine ⟨(fun h => by cases h), ?_⟩
    exact congrArg (creditKey .nowpayments) (if_neg hne).symm
  | capture =>
    cases hc
    exact ⟨trivial, rfl⟩

lemma Settling.issues {call : PaymentCall} (h : Settling call) {cmd : Cmd}
    (hi : call.Issues cmd) : ∃ c p key, call.Claims c key ∧ cmd = .settle c p (topUp c p key) := by
  cases hi with
  | settle hc => exact ⟨_, _, _, hc, rfl⟩
  | failed ht | refund ht => cases h <;> cases ht
  | create | session | gatewayRefund hv => cases h

section
variable {ι : Type}

/-! ## the invariant -/

/-- a committed batch wrote the payment `p` and inserted the credit `bt` -/
def Credited (m : BMem ι) (p : BillingPayment) (bt : BillingTransaction) : Prop :=
  bt.type = .credit ∧ ∃ b ∈ m.wal, Write.putPayment p ∈ b.2 ∧ Write.insertTx bt ∈ b.2

structure SettledOnce (m : BMem ι) : Prop where
  status : ∀ p ∈ m.db.payments.rows, p.status = .pending ∨ p.status = .completed
  credit : ∀ p ∈ m.db.payments.rows, p.status = .completed → ∃ bt, Credited m p bt
  kept : ∀ p bt, Credited m p bt → p ∈ m.db.payments.rows ∧ p.status = .completed ∧
    bt ∈ m.db.txs.rows ∧ ∃ x, settlement p = some x ∧ (creditOf p x).Matches bt
  alone : ∀ p ∈ m.db.payments.rows, ∀ q ∈ m.db.payments.rows, p.status = .completed →
    q.status = .completed → p.gateway = q.gateway → settlement p = settlement q → p.id = q.id
  payer : ∀ bt ∈ m.db.txs.rows, bt.type = .credit → ∃ p, Credited m p bt

variable {p : BillingPayment} {bt : BillingTransaction} {m : BMem ι} {c : Claim}

lemma credited_publish {i : ι} {ws : List Write} (hne : ws ≠ []) : Credited (m.publish i ws) p bt ↔
      Credited m p bt ∨ bt.type = .credit ∧ Write.putPayment p ∈ ws ∧ Write.insertTx bt ∈ ws := by
  unfold Credited
  rw [Mem.publish_wal hne]
  simp only [List.mem_append, List.mem_singleton]
  constructor
  · rintro ⟨ht, b, hb | rfl, hp, hi⟩
    · exact .inl ⟨ht, b, hb, hp, hi⟩
    · exact .inr ⟨ht, hp, hi⟩
  · rintro (⟨ht, b, hb, hp, hi⟩ | ⟨ht, hp, hi⟩)
    · exact ⟨ht, b, .inl hb, hp, hi⟩
    · exact ⟨ht, _, .inr rfl, hp, hi⟩

lemma eq_of_id {db : Db} {q : BillingPayment} (hp : p ∈ db.payments.rows)
    (hq : q ∈ db.payments.rows) (h : p.id = q.id) : p = q :=
  Table.eq_of_key (k := p.id) hp hq (List.mem_singleton_self _) (h ▸ List.mem_singleton_self _)

lemma SettledOnce.congr {m' : BMem ι} (h : SettledOnce m) (hp : ∀ p, p ∈ m'.db.payments.rows ↔
    p ∈ m.db.payments.rows)
    (ht : m'.db.txs = m.db.txs) (hc : ∀ p bt, Credited m' p bt ↔ Credited m p bt) :
    SettledOnce m' where
  status p h₁ := h.status p ((hp p).mp h₁)
  credit p h₁ h2 := by
    obtain ⟨bt, hbt⟩ := h.credit p ((hp p).mp h₁) h2
    exact ⟨bt, (hc p bt).mpr hbt⟩
  kept p bt h₁ := by
    obtain ⟨h2, h3, h4, h5⟩ := h.kept p bt ((hc p bt).mp h₁)
    exact ⟨(hp p).mpr h2, h3, ht ▸ h4, h5⟩
  alone p h₁ q h2 := h.alone p ((hp p).mp h₁) q ((hp q).mp h2)
  payer bt h₁ h2 := by
    obtain ⟨p, hbt⟩ := h.payer bt (ht ▸ h₁) h2
    exact ⟨p, (hc p bt).mpr hbt⟩

/-- a credit under the key of a free settlement is new: its row would belong to a payment that has
the settlement -/
lemma SettledOnce.fresh (h : SettledOnce m) (hc : c.Proper) (hp : p ∈ m.db.payments.rows)
    (hs : p.status = .pending) (hfree : c.taken m.db p.id = false) (hb : bt ∈ m.db.txs.rows)
    (hm : (topUp c p (creditKey c.gatewayOf c.ref)).Matches bt) : False := by
  obtain ⟨q, hq⟩ := h.payer bt hb hm.type
  obtain ⟨hq, hqs, -, x, hx, hqm⟩ := h.kept q bt hq
  have hkey : some (creditKey q.gateway x) = some (creditKey c.gatewayOf c.ref) :=
    hqm.idempotencyKey.symm.trans hm.idempotencyKey
  obtain ⟨hg, hr⟩ := creditKey_inj (Option.some.inj hkey)
  have hid : q.id = p.id := (Claim.taken_eq_false hc).mp hfree q hq hg (hr ▸ hx)
  rw [eq_of_id hq hp hid, hs] at hqs
  cases hqs

section
variable {m : BMem ι} {c : Claim} {p : BillingPayment} {bt : BillingTransaction}
  (hbt : Posts (topUp c p (creditKey c.gatewayOf c.ref)) m.db bt) (i : ι)

include hbt

lemma mem_txs_settle (x : BillingTransaction) :
    x ∈ (m.publish i (.putPayment (c.update p) :: posting bt)).db.txs.rows ↔
      x ∈ m.db.txs.rows ∨ x = bt := by
  show x ∈ (m.db.txs.insert bt).rows ↔ _
  rw [Table.rows_insert hbt.1, List.mem_append, List.mem_singleton]

lemma credited_settle (r : BillingPayment) (x : BillingTransaction) :
    Credited (m.publish i (.putPayment (c.update p) :: posting bt)) r x ↔
      Credited m r x ∨ r = c.update p ∧ x = bt := by
  rw [credited_publish (List.cons_ne_nil _ _)]
  refine or_congr_right ⟨?_, ?_⟩
  · rintro ⟨-, hr, hx⟩
    simpa [posting] using And.intro hr hx
  · rintro ⟨rfl, rfl⟩
    exact ⟨hbt.matches.type, by simp, by simp [posting]⟩

end

lemma creditOf_update (hg : p.gateway = c.gatewayOf) :
    creditOf (c.update p) c.ref = topUp c p (creditKey c.gatewayOf c.ref) := by
  unfold creditOf topUp
  rw [c.update_gateway p, hg]
  cases c <;> rfl

lemma SettledOnce.first (h : SettledOnce m) (hc : c.Proper)
    (hp : m.db.payments.find p.id = some p) (hg : p.gateway = c.gatewayOf)
    (hs : p.status = .pending) (hfree : c.taken m.db p.id = false)
    (hbt : Posts (topUp c p (creditKey c.gatewayOf c.ref)) m.db bt) (i : ι) :
    SettledOnce (m.publish i (.putPayment (c.update p) :: posting bt)) := by
  have hrow : ∀ r, r ∈ (m.publish i (.putPayment (c.update p) :: posting bt)).db.payments.rows ↔
      r = c.update p ∨ r ∈ m.db.payments.rows ∧ r.id ≠ p.id := fun r =>
    mem_put_payment hp (c.update_id p)
  have htx := mem_txs_settle hbt i
  have hcr := credited_settle hbt i
  have hset : settlement (c.update p) = some c.ref := Claim.settlement_update hc hg
  have hgu : (c.update p).gateway = c.gatewayOf := (c.update_gateway p).trans hg
  -- nobody else has the settlement
  have hother : ∀ r, r ∈ m.db.payments.rows → r.gateway = (c.update p).gateway →
      settlement r = settlement (c.update p) → r.id = p.id := fun r hr hrg hrs =>
    (Claim.taken_eq_false hc).mp hfree r hr (hrg.trans hgu) (hrs.trans hset)
  refine ⟨fun r hr => ?_, fun r hr hrs => ?_, fun r x hx => ?_,
    fun r hr r' hr' hs1 hs2 hrg hrs => ?_, fun x hx hxt => ?_⟩
  · rcases (hrow r).mp hr with rfl | ⟨hr, -⟩
    · exact .inr (c.update_status p)
    · exact h.status r hr
  · rcases (hrow r).mp hr with rfl | ⟨hr, -⟩
    · exact ⟨bt, (hcr _ _).mpr (.inr ⟨rfl, rfl⟩)⟩
    · obtain ⟨x, hx⟩ := h.credit r hr hrs
      exact ⟨x, (hcr _ _).mpr (.inl hx)⟩
  · rcases (hcr r x).mp hx with hx | ⟨rfl, rfl⟩
    · obtain ⟨hr, hrs, hxt, hxm⟩ := h.kept r x hx
      refine ⟨(hrow r).mpr (.inr ⟨hr, fun hid => ?_⟩), hrs, (htx x).mpr (.inl hxt), hxm⟩
      rw [eq_of_id hr (Table.find_some hp).1 hid, hs] at hrs
      cases hrs
    · refine ⟨(hrow _).mpr (.inl rfl), c.update_status p, (htx _).mpr (.inr rfl), c.ref, hset, ?_⟩
      exact creditOf_update hg ▸ hbt.matches
  · rcases (hrow r).mp hr with rfl | ⟨hr, hne⟩ <;> rcases (hrow r').mp hr' with rfl | ⟨hr', hne'⟩
    · rfl
    · exact absurd (hother r' hr' hrg.symm hrs.symm) hne'
    · exact absurd (hother r hr hrg hrs) hne
    · exact h.alone r hr r' hr' hs1 hs2 hrg hrs
  · rcases (htx x).mp hx with hx | rfl
    · obtain ⟨r, hr⟩ := h.payer x hx hxt
      exact ⟨r, (hcr _ _).mpr (.inl hr)⟩
    · exact ⟨_, (hcr _ _).mpr (.inr ⟨rfl, rfl⟩)⟩

/-- one settlement keeps the invariant: a payment that is completed already is claimed for what it
has, and its credit is found under its key -/
lemma SettledOnce.step (h : SettledOnce m) (hc : c.Proper) {ws : List Write}
    (hfree : c.taken m.db p.id = false)
    (hef : (Cmd.settle c p (topUp c p (creditKey c.gatewayOf c.ref))).Effect m.db ws) (i : ι) :
    SettledOnce (m.publish i ws) := by
  obtain ⟨hp, hg, hadm, ws', hen, rfl⟩ := hef
  have hmem := (Table.find_some hp).1
  rcases h.status p hmem with hs | hs
  · cases hen with
    | new bt hbt => exact h.first hc hp hg hs hfree hbt i
    | old bt hb hm => exact (h.fresh hc hmem hs hfree hb hm).elim
  · have hupd := Claim.update_eq_of_completed hadm hs
    have hset : settlement p = some c.ref := by
      rw [← hupd]
      exact Claim.settlement_update hc hg
    cases hen with
    | new bt hbt =>
      obtain ⟨x, hx⟩ := h.credit p hmem hs
      obtain ⟨-, -, hxt, y, hy, hxm⟩ := h.kept p x hx
      obtain rfl : y = c.ref := Option.mem_unique hy hset
      have hk : TxIndex.idempotency p.customerID (creditKey p.gateway c.ref) ∈ bt.keys := by
        rw [hg]
        exact hbt.matches.key_mem rfl
      have hnone := Table.clash_eq_none.mp hbt.1 _ hk
      exact absurd (hxm.key_mem rfl) (Table.find_eq_none.mp hnone x hxt)
    | old bt hb hm =>
      rw [hupd]
      refine h.congr (fun r => ?_) rfl fun r x => ?_
      · refine (mem_put_payment hp rfl).trans ⟨fun hr => ?_, fun hr => ?_⟩
        · exact hr.elim (fun e => e ▸ hmem) fun e => e.1
        · by_cases hid : r.id = p.id
          · exact .inl (eq_of_id hr hmem hid)
          · exact .inr ⟨hr, hid⟩
      · rw [credited_publish (List.cons_ne_nil _ _)]
        simp

/-! ## the requests keep the invariant -/

/-- settlements of what no other payment has, under the advisory lock -/
def settleOk (_ : ι) (cmd : Cmd) (H : Set Lock) (_ : List Write) (m : BMem ι) : Prop :=
  ∃ c p, cmd = .settle c p (topUp c p (creditKey c.gatewayOf c.ref)) ∧ c.Proper ∧
    Lock.advisory c.text ∈ H ∧ c.taken m.db p.id = false

def settleSystem (ι : Type) (db₀ : Db) : Protocol store ι :=
  system (fun m => m = ⟨db₀, []⟩) settleOk always

/-- what was free when it was looked up is still free at the commit: whoever takes it holds the same
advisory lock -/
lemma free_of_claimed {db₀ : Db} {i : ι} {H : Set Lock} (hc : c.Proper)
    (h : Claimed (settleSystem ι db₀) i c p H m) : c.taken m.db p.id = false := by
  obtain ⟨m0, -, ht, hr⟩ := h.free
  refine hr.stable (I := fun m => c.taken m.db p.id = false) ?_ ht
  rintro m j H' ws - hd - ⟨cmd, ⟨c', p', rfl, hc', hadv, -⟩, hef⟩ - hI
  rw [Claim.taken_eq_false hc] at hI ⊢
  intro q hq hg hs
  have hrows : (m.publish j ws).db.payments = m.db.payments.put (c'.update p') := by
    rw [Mem.publish_db]
    exact hef.view_payments
  obtain ⟨hp', hg', -⟩ := hef
  rw [hrows] at hq
  rcases Table.mem_rows_put hq with rfl | hq
  · rw [Claim.update_gateway, hg'] at hg
    rw [Claim.settlement_update hc' hg'] at hs
    have htext := Claim.text_eq hc' hc hg (Option.some.inj hs)
    exact absurd (htext ▸ hadv) (Set.disjoint_left.mp hd (Set.mem_insert _ _))
  · exact hI q hq hg hs

lemma settleSystem_reach {db₀ : Db} (hpay : ∀ p ∈ db₀.payments.rows, p.status = .pending)
    (htx : ∀ bt ∈ db₀.txs.rows, bt.type ≠ .credit) (h : (settleSystem ι db₀).Reach m) :
    SettledOnce m := by
  refine Protocol.Reach.invariant (I := SettledOnce) ?_ ?_ h
  · rintro m rfl
    have hno : ∀ p bt, ¬ Credited (⟨db₀, []⟩ : BMem ι) p bt := by
      rintro p bt ⟨-, b, hb, -⟩
      cases hb
    have hnot : ∀ p ∈ db₀.payments.rows, p.status ≠ .completed := by
      intro p hp hs
      rw [hpay p hp] at hs
      cases hs
    exact ⟨fun p hp => .inl (hpay p hp), fun p hp hs => absurd hs (hnot p hp),
      fun p bt hc => absurd hc (hno p bt), fun p hp q hq hs => absurd hs (hnot p hp),
      fun bt hb ht => absurd ht (htx bt hb)⟩
  · rintro m i H ws - hI - - ⟨cmd, ⟨c, p, rfl, hc, -, hfree⟩, hef⟩
    exact hI.step hc hfree hef i

variable [DecidableEq ι]

/-- **Settlement happens once.** From pending payments and no credits, in every state of every
interleaving: a payment has contributed at most one credit row; what a gateway settled has been
credited for at most one payment; a payment is completed exactly when it has contributed a row of
the ledger, with its own amount and customer; and there are no other credits. -/
theorem settlement_exactly_once (db₀ : Db) (registry : List Gateway) (calls : ι → PaymentCall)
    (hpay : ∀ p ∈ db₀.payments.rows, p.status = .pending)
    (htx : ∀ bt ∈ db₀.txs.rows, bt.type ≠ .credit) (hcalls : ∀ i, Settling (calls i))
    {s : State store ι (Except GoError Unit)}
    (h : Reaches always (paymentStart db₀ registry calls) s) :
    (∀ p bt p' bt', Credited s.mem p bt → Credited s.mem p' bt' → p.id = p'.id → bt = bt') ∧
    (∀ p bt p' bt', Credited s.mem p bt → Credited s.mem p' bt' → p.gateway = p'.gateway →
      settlement p = settlement p' → p.id = p'.id) ∧
    (∀ p ∈ s.mem.db.payments.rows, p.status = .completed ↔
      ∃ q, q.id = p.id ∧ ∃ bt ∈ s.mem.db.txs.rows, Credited s.mem q bt ∧
        bt.customerID = p.customerID ∧ bt.amount = p.amount) ∧
    (∀ bt ∈ s.mem.db.txs.rows, bt.type = .credit → ∃ p, Credited s.mem p bt) := by
  have hok : ∀ i cmd H ws m, (calls i).Issues cmd → Evidence (settleSystem ι db₀) i H m cmd →
      settleOk i cmd H ws m := by
    intro i cmd H ws m hi hev
    obtain ⟨c, p, key, hcl, rfl⟩ := (hcalls i).issues hi
    obtain ⟨hc, rfl⟩ := (hcalls i).claims hcl
    exact ⟨c, p, rfl, hc, Claimed.advisory hev, free_of_claimed hc hev⟩
  obtain ⟨hr, -⟩ :=
    Idle.adequate (P := settleSystem ι db₀) rfl (fun i => PaymentCall.run_spec (hok i) registry _) h
  have hI := settleSystem_reach hpay htx hr
  refine ⟨fun p bt p' bt' h1 h2 hid => ?_, fun p bt p' bt' h1 h2 hg hs => ?_, fun p hp =>
    ⟨?_, ?_⟩, hI.payer⟩
  · obtain ⟨hp, -, hb, x, hx, hm⟩ := hI.kept p bt h1
    obtain ⟨hp', -, hb', x', hx', hm'⟩ := hI.kept p' bt' h2
    obtain rfl := eq_of_id hp hp' hid
    obtain rfl : x = x' := Option.mem_unique hx hx'
    exact Table.eq_of_key hb hb' (hm.key_mem rfl) (hm'.key_mem rfl)
  · obtain ⟨hp, hps, -⟩ := hI.kept p bt h1
    obtain ⟨hp', hps', -⟩ := hI.kept p' bt' h2
    exact hI.alone p hp p' hp' hps hps' hg hs
  · intro hs
    obtain ⟨bt, hbt⟩ := hI.credit p hp hs
    obtain ⟨-, -, hb, x, -, hm⟩ := hI.kept p bt hbt
    exact ⟨p, rfl, bt, hb, hbt, hm.customerID, hm.amount⟩
  · rintro ⟨q, hid, bt, -, hq, -⟩
    obtain ⟨hq, hqs, -⟩ := hI.kept q bt hq
    rw [← eq_of_id hq hp hid]
    exact hqs

/-- one pending Stripe payment of a customer -/
def onePayment : Db :=
  { oneCustomer with
    payments := Table.empty.insert ⟨"p", "c", .stripe, none, 500, "USD", .pending, none, 0⟩ }

/-- the webhook for it, delivered twice -/
def deliveredTwice : Bool → PaymentCall := fun _ =>
  .webhook .stripe (stripeEvent "evt" "pi" 500 "usd" "c" "p")

/-- both find the payment pending; the second then waits for the advisory lock -/
def deliveredTwiceMoves : List (Bool × Label store) :=
  ([false, true] ++ List.replicate 11 false ++ List.replicate 8 true).map
    fun i => (i, .ev (.ok (tick 0 (if i then "t1" else "t0"))))

theorem settlement_delivered_twice :
    ∃ s, run (paymentStart onePayment [.stripe] deliveredTwice) deliveredTwiceMoves = some s ∧
      s.mem.db.balance "c" = some 600 ∧
      ∀ p bt p' bt', Credited s.mem p bt → Credited s.mem p' bt' → p.id = p'.id → bt = bt' := by
  have h : (run (paymentStart onePayment [.stripe] deliveredTwice) deliveredTwiceMoves).isSome =
    true := by decide
  refine ⟨_, run_get h, rfl, ?_⟩
  refine (settlement_exactly_once onePayment [.stripe] deliveredTwice ?_ ?_ ?_
    (reaches_run (run_get h))).1
  · decide
  · decide
  · exact fun _ => .stripe (by decide)

end

end VirtueStack.Payment
