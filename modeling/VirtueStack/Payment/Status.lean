import VirtueStack.Payment.Settle

/-!
# The status of a payment

All five kinds of requests together. `UpdateStatus` looks at nothing before it writes: the pending
status of a slow top-up request can land after the payment was completed, and the payment can then
be credited again for another gateway payment id (`status_lost`).

* `Paid db₀ m id x` the payment was completed for `x` at the start, or credited for `x` since;
* `PaidOnce db₀ m` a paid payment is completed or refunded, and was paid for one `x` only.
-/

namespace VirtueStack.Payment
open Txn Billing

def Final (p : BillingPayment) : Prop := p.status = .completed ∨ p.status = .refunded

section
variable {ι : Type}

def Paid (db₀ : Db) (m : BMem ι) (id : String) (x : Option String) : Prop :=
  ∃ p, p.id = id ∧ settlement p = x ∧
    ((p ∈ db₀.payments.rows ∧ Final p) ∨ ∃ bt, Credited m p bt)

def PaidOnce (db₀ : Db) (m : BMem ι) : Prop :=
  ∀ id x, Paid db₀ m id x → (∃ p ∈ m.db.payments.rows, p.id = id ∧ Final p) ∧
    ∀ x', Paid db₀ m id x' → x' = x

/-- the request, if it is an `UpdateStatus`, finds the payment pending or failed -/
def updatesPending (r : Req store) (m : BMem ι) : Bool :=
  match r with
  | .run (.updateStatus id _ _) =>
    (m.db.payments.find id).all fun p => p.status = .pending ∨ p.status = .failed
  | _ => true

variable {cmd : Cmd} {ws : List Write} {db₀ : Db} {m : BMem ι} {p : BillingPayment}

lemma final_kept {db : Db} (hef : cmd.Effect db ws)
    (hst : ∀ p status gid, cmd = .setStatus p status gid → ¬ Final p) (hp : p ∈ db.payments.rows)
    (hf : Final p) : ∃ p' ∈ (store.view db ws).payments.rows, p'.id = p.id ∧ Final p' ∧
      settlement p' = settlement p := by
  have hfind : db.payments.find p.id = some p :=
    Table.find_of_mem hp
  obtain ⟨p', hp', hc⟩ := hef.payment hfind
  obtain ⟨hmem, hid⟩ := Table.find_some hp'
  refine ⟨p', hmem, (List.mem_singleton.mp hid).symm, ?_⟩
  rcases hc with rfl | hc
  · exact ⟨hf, rfl⟩
  cases cmd with
  | settle c q e =>
    obtain ⟨rfl, rfl⟩ := hc
    obtain ⟨-, -, hadm, -⟩ := hef
    rcases hf with hs | hs
    · rw [Claim.update_eq_of_completed hadm hs]
      exact ⟨.inl hs, rfl⟩
    · -- a refunded payment cannot be claimed
      cases c with
      | gateway g gid => simp [Claim.admits, BillingPayment.claimable, hs] at hadm
      | capture order cap => simp [Claim.admits, BillingPayment.capturable, hs] at hadm
  | refund q e =>
    obtain ⟨rfl, rfl⟩ := hc
    exact ⟨.inr rfl, rfl⟩
  | setStatus q status gid =>
    obtain ⟨rfl, rfl⟩ := hc
    exact absurd hf (hst _ _ _ rfl)
  | _ => exact hc.elim

lemma credit_final {call : PaymentCall} (hi : call.Issues cmd) {db : Db}
    (hef : cmd.Effect db ws) {bt : BillingTransaction}
    (ht : bt.type = .credit) (hp : Write.putPayment p ∈ ws) (hb : Write.insertTx bt ∈ ws) :
    p ∈ (store.view db ws).payments.rows ∧ Final p := by
  have hview := hef.view_payments
  cases hi with
  | @settle _ c q key hc =>
    obtain ⟨hq, -, -, ws', hen, rfl⟩ := hef
    have hpq : p = c.update q := by
      cases hen with
      | new bt' hbt => simpa [posting] using hp
      | old bt' _ _ => simpa using hp
    rw [hview, hpq]
    exact ⟨(mem_put_payment hq (c.update_id q)).mpr (.inl rfl), .inl (c.update_status q)⟩
  | refund hr =>
    -- what a refund inserts is a debit
    obtain ⟨-, ws', hen, rfl⟩ := hef
    cases hen with
    | new bt' hbt =>
      obtain rfl : bt = bt' := by simpa [posting] using hb
      rw [hbt.matches.type] at ht
      cases ht
    | old bt' _ _ => simp at hb
  | failed hf | create | session => obtain ⟨-, rfl⟩ := hef; simp at hb
  | gatewayRefund hv => rw [show ws = [_] from hef] at hb; simp at hb

/-! ## whole runs -/

/-- the row of a paid payment has a final status, and what it was paid for -/
def PaidKept (db₀ : Db) (m : BMem ι) : Prop :=
  ∀ id x, Paid db₀ m id x → ∃ p ∈ m.db.payments.rows, p.id = id ∧ Final p ∧ settlement p = x

lemma PaidKept.once (h : PaidKept db₀ m) : PaidOnce db₀ m := by
  intro id x hx
  obtain ⟨p, hp, hid, hf, hs⟩ := h id x hx
  refine ⟨⟨p, hp, hid, hf⟩, fun x' hx' => ?_⟩
  obtain ⟨p', hp', hid', -, hs'⟩ := h id x' hx'
  rw [← hs, ← hs', eq_of_id hp hp' (hid.trans hid'.symm)]

lemma PaidKept.step (h : PaidKept db₀ m) {call : PaymentCall}
    (hi : call.Issues cmd) (hst : ∀ p status gid, cmd = .setStatus p status gid → ¬ Final p)
    (hne : ws ≠ []) (hef : cmd.Effect m.db ws) (i : ι) : PaidKept db₀ (m.publish i ws) := by
  rintro id x ⟨p, hid, hs, hp⟩
  rw [Mem.publish_db]
  have hcase : (∃ p' ∈ m.db.payments.rows, p'.id = id ∧ Final p' ∧ settlement p' = x) ∨
      p ∈ (store.view m.db ws).payments.rows ∧ Final p := by
    rcases hp with hp | ⟨bt, hbt⟩
    · exact .inl (h id x ⟨p, hid, hs, .inl hp⟩)
    · rcases (credited_publish hne).mp hbt with hbt | ⟨ht, hput, hins⟩
      · exact .inl (h id x ⟨p, hid, hs, .inr ⟨bt, hbt⟩⟩)
      · exact .inr (credit_final hi hef ht hput hins)
  rcases hcase with ⟨p', hp', hid', hf', hs'⟩ | ⟨hmem, hf⟩
  · obtain ⟨q, hq, hqid, hqf, hqs⟩ := final_kept hef hst hp' hf'
    exact ⟨q, hq, hqid.trans hid', hqf, hqs.trans hs'⟩
  · exact ⟨p, hmem, hid, hf, hs⟩

lemma paidKept_reach {calls : ι → PaymentCall}
    (h : (paymentSystem db₀ calls fun _ r _ m => updatesPending r m = true).Reach m) :
    PaidKept db₀ m := by
  refine Protocol.Reach.invariant (I := PaidKept db₀) ?_ ?_ h
  · rintro m rfl id x ⟨p, hid, hs, ⟨hp, hf⟩ | ⟨bt, -, b, hb, -⟩⟩
    · exact ⟨p, hp, hid, hf, hs⟩
    · cases hb
  · rintro m i H ws - hI hne - ⟨cmd, ⟨hi, hperm⟩, hef⟩
    refine hI.step hi (fun p status gid hcmd hf => ?_) hne hef i
    subst hcmd
    have hst : (m.db.payments.find p.id).all
        (fun p => decide (p.status = .pending ∨ p.status = .failed)) = true := hperm
    rw [hef.1] at hst
    rcases hf with hf | hf <;> simp [hf] at hst

variable [DecidableEq ι]

/-- **A paid payment stays paid.** In every interleaving in which `UpdateStatus` only runs while the
payment is pending or failed, a payment that was completed and credited stays completed or refunded,
and is never credited for anything else. -/
theorem status_monotone (db₀ : Db) (registry : List Gateway) (calls : ι → PaymentCall)
    {s : State store ι (Except GoError Unit)}
    (h : Reaches (fun _ r _ m => updatesPending r m = true) (paymentStart db₀ registry calls) s) :
    PaidOnce db₀ s.mem :=
  (paidKept_reach (payments_adequate h)).once

end

/-! ## the late top-up -/

/-- a top-up, and two payments to its address -/
def lateTopUp : Fin 3 → PaymentCall
  | 0 => .initiateTopUp "c" 500 "USD" .nowpayments
  | 1 => .cryptoWebhook (nowPaymentsResult "X" "p" "c" 500 "USD")
  | 2 => .cryptoWebhook (nowPaymentsResult "Y" "p" "c" 500 "USD")

/-- the request ends before the first payment arrives -/
def topUpMoves : List (Fin 3 × Label store) :=
  [(0, .ev (.ok (tick 0 "p"))),
    (0, .ev (.ok { tick 0 "" with session := ⟨"s", "inv", "url"⟩ })),
    (0, .ev (.ok (tick 0 "")))] ++
  List.replicate 13 (1, .ev (.ok (tick 0 "t1")))

theorem status_monotone_topUp :
    ∃ s, run (paymentStart oneCustomer [.nowpayments] lateTopUp) topUpMoves = some s ∧
      s.mem.db.balance "c" = some 600 ∧ PaidOnce oneCustomer s.mem := by
  have h : (run (paymentStart oneCustomer [.nowpayments] lateTopUp) topUpMoves).isSome = true := by
    decide
  refine ⟨_, run_get h, rfl, ?_⟩
  exact status_monotone oneCustomer [.nowpayments] lateTopUp
    (reaches_checked (run_get h) (by decide))

/-- the first payment is credited between the answer of the gateway and the pending status of the
top-up request, the second one after it -/
def lateTopUpMoves : List (Fin 3 × Label store) :=
  [(0, .ev (.ok (tick 0 "p"))),
    (0, .ev (.ok { tick 0 "" with session := ⟨"s", "inv", "url"⟩ }))] ++
  List.replicate 13 (1, .ev (.ok (tick 0 "t1"))) ++ [(0, .ev (.ok (tick 0 "")))] ++
  List.replicate 13 (2, .ev (.ok (tick 0 "t2")))

/-- the payment as the webhook for `x` leaves it -/
def latePaid (x : String) : BillingPayment :=
  ⟨"p", "c", .nowpayments, some x, 500, "USD", .completed, none, 0⟩

def lateCredit (x id : String) (balanceAfter : Int64) : BillingTransaction :=
  (creditOf (latePaid x) x).row balanceAfter id 0

/-- **A late `UpdateStatus` takes a completion back.** The payment is credited for two gateway
payments. -/
theorem status_lost : ¬ ∀ s, Reaches always (paymentStart oneCustomer [.nowpayments] lateTopUp) s →
    PaidOnce oneCustomer s.mem := by
  intro hall
  have hrun : (run (paymentStart oneCustomer [.nowpayments] lateTopUp) lateTopUpMoves).any
    (fun s => decide
        ((∃ b ∈ s.mem.wal, Write.putPayment (latePaid "X") ∈ b.2 ∧
          Write.insertTx (lateCredit "X" "t1" 600) ∈ b.2) ∧
        ∃ b ∈ s.mem.wal, Write.putPayment (latePaid "Y") ∈ b.2 ∧
          Write.insertTx (lateCredit "Y" "t2" 1100) ∈ b.2)) = true := by decide
  obtain ⟨s, hs, hp⟩ := exists_reaches hrun
  obtain ⟨hx, hy⟩ := of_decide_eq_true hp
  have hone := (hall s hs "p" (some "X") ⟨latePaid "X", rfl, rfl, .inr ⟨_, rfl, hx⟩⟩).2 (some "Y")
    ⟨latePaid "Y", rfl, rfl, .inr ⟨_, rfl, hy⟩⟩
  exact absurd hone (by decide)

end VirtueStack.Payment
