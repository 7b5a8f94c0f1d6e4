import VirtueStack.Payment.Status

/-!
# Every entry of the payment service belongs to a payment

All five kinds of requests together, in any order.
-/

namespace VirtueStack.Payment
open Txn Billing List

/-- the entry is the credit of the payment, or a debit that names it -/
def Backs (p : BillingPayment) (bt : BillingTransaction) : Prop :=
  bt.customerID = p.customerID ∧
    (bt.type = .credit ∧ bt.amount = p.amount ∨ bt.type = .debit ∧ bt.referenceID = some p.id)

structure Backed (db₀ db : Db) : Prop where
  payments : ∀ p ∈ db₀.payments.rows, Stays p db
  books : Balanced db₀ db
  entries : ∀ bt ∈ newRows db₀ db, ∃ p ∈ db.payments.rows, Backs p bt

variable {db₀ db : Db} {ws : List Write} {cmd : Cmd}

lemma Backs.step {p : BillingPayment} {bt : BillingTransaction} (h : Backs p bt)
    (hp : p ∈ db.payments.rows)
    (hef : cmd.Effect db ws) : ∃ p' ∈ (store.view db ws).payments.rows, Backs p' bt := by
  obtain ⟨p', hfind, hcustomer, hamount, -⟩ := (stays_of_mem hp).step hef
  have hid : p'.id = p.id := Table.key_of_find (f := BillingPayment.id) hfind
  refine ⟨p', (Table.find_some hfind).1, ?_⟩
  unfold Backs
  rw [hcustomer, hamount, hid]
  exact h

/-- the entry of a settlement or of a refund, beside the write to its payment -/
lemma backs_enters {e : Entry} {p w : BillingPayment} {ws' : List Write} (hen : Enters e db ws')
    (hfind : db.payments.find p.id = some p) (hback : ∀ bt, e.Matches bt → Backs p bt) :
    ∀ bt ∈ inserted (.putPayment w :: ws'), ∃ p ∈ db.payments.rows, Backs p bt := by
  intro bt hbt
  cases hen with
  | old => cases hbt
  | new bt' hposts =>
    rw [show bt = bt' from mem_singleton.mp hbt]
    exact ⟨p, (Table.find_some hfind).1, hback bt' hposts.matches⟩

lemma PaymentCall.Issues.backs {call : PaymentCall} (hi : call.Issues cmd) (hef : cmd.Effect db ws)
    (h : Balanced db₀ db) :
    Balanced db₀ (store.view db ws) ∧ ∀ bt ∈ inserted ws, ∃ p ∈ db.payments.rows, Backs p bt := by
  cases hi with
  | settle =>
    obtain ⟨hfind, -, -, ws', hen, rfl⟩ := hef
    exact ⟨h.step (.of_enters hen), backs_enters hen hfind fun bt hm =>
      ⟨hm.customerID, .inl ⟨hm.type, hm.amount⟩⟩⟩
  | refund =>
    obtain ⟨hfind, ws', hen, rfl⟩ := hef
    exact ⟨h.step (.of_enters hen), backs_enters hen hfind fun bt hm =>
      ⟨hm.customerID, .inr ⟨hm.type, hm.referenceID⟩⟩⟩
  | failed | create | session =>
    obtain ⟨-, rfl⟩ := hef
    exact ⟨h.congr rfl fun _ => rfl, forall_mem_nil _⟩
  | gatewayRefund =>
    cases show ws = _ from hef
    exact ⟨h.congr rfl fun _ => rfl, forall_mem_nil _⟩

lemma Backed.step {call : PaymentCall} (h : Backed db₀ db) (hi : call.Issues cmd)
    (hef : cmd.Effect db ws) : Backed db₀ (store.view db ws) := by
  obtain ⟨hbooks, hback⟩ := hi.backs hef h.books
  refine ⟨fun p hp => (h.payments p hp).step hef, hbooks, fun bt hbt => ?_⟩
  have hrows : newRows db₀ (store.view db ws) = newRows db₀ db ++ inserted ws := by
    unfold newRows
    rw [rows_of_effect hef, drop_append_of_le_length h.books.append.length_le]
  rw [hrows] at hbt
  rcases mem_append.mp hbt with hold | hnew
  · obtain ⟨p, hp, hb⟩ := h.entries bt hold
    exact hb.step hp hef
  · obtain ⟨p, hp, hb⟩ := hback bt hnew
    exact hb.step hp hef

/-- **Money moves only between a payment and its customer.** In every interleaving a payment keeps
its customer, its amount and its gateway, the books are in order, and every new entry is the credit
of a payment, or a debit for it. -/
theorem entries_backed {ι : Type} [DecidableEq ι] (registry : List Gateway)
    (calls : ι → PaymentCall) {s : State store ι (Except GoError Unit)}
    (h : Reaches always (paymentStart db₀ registry calls) s) : Backed db₀ s.mem.db := by
  refine (payments_adequate h).invariant (I := fun m => Backed db₀ m.db) ?_ ?_
  · rintro m rfl
    refine ⟨fun p hp => stays_of_mem hp, .refl _, fun bt hbt => ?_⟩
    rw [newRows, drop_length] at hbt
    cases hbt
  · rintro m i H ws - hI - - ⟨cmd, ⟨hi, -⟩, hef⟩
    rw [Mem.publish_db]
    exact hI.step hi hef

theorem entries_backed_topUp :
    ∃ s, run (paymentStart oneCustomer [.nowpayments] lateTopUp) lateTopUpMoves = some s ∧
    s.mem.db.balance "c" = some 1100 ∧ Backed oneCustomer s.mem.db := by
  have h : (run (paymentStart oneCustomer [.nowpayments] lateTopUp) lateTopUpMoves).isSome =
    true := by decide
  exact ⟨_, run_get h, rfl, entries_backed [.nowpayments] lateTopUp (reaches_run (run_get h))⟩

end VirtueStack.Payment
