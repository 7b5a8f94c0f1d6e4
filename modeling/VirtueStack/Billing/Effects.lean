import VirtueStack.Billing.PaymentRepo

/-!
# Billing as an abstract machine: one step for each transaction

What a transaction of the repositories does, taken as ONE step on the committed tables.

* `Posts e db bt` the entry `e` becomes the row `bt`: its key is free, and its balance is the
  customer's balance plus or minus the amount;
* `Enters e db ws` `e` is posted, or the ledger already has its row;
* `Claim` what a completion claims: a gateway payment id, or a PayPal capture;
* `system` the protocol in which session `i` takes the steps that `ok` gives it.
-/

namespace VirtueStack.Billing
open Txn Table List

/-- the change of the balance: a credit adds, a debit subtracts -/
def TxType.signed : TxType → Int64 → Int64
  | .credit, a => a
  | .debit, a => -a
  | .adjustment, _ => 0
  | .refund, _ => 0

def Entry.signed (e : Entry) : Int64 := e.type.signed e.amount
def BillingTransaction.signed (bt : BillingTransaction) : Int64 := bt.type.signed bt.amount

/-- the row is what the entry asks for -/
structure Entry.Matches (e : Entry) (bt : BillingTransaction) : Prop where
  customerID : bt.customerID = e.customerID
  type : bt.type = e.type
  amount : bt.amount = e.amount
  referenceType : bt.referenceType = e.referenceType
  referenceID : bt.referenceID = e.referenceID
  idempotencyKey : bt.idempotencyKey = e.idempotencyKey

lemma Entry.matches_row (e : Entry) (b : Int64) (id : String) (t : Int) :
    e.Matches (e.row b id t) := ⟨rfl, rfl, rfl, rfl, rfl, rfl⟩

variable {bt : BillingTransaction}

lemma Entry.Matches.key_mem {e : Entry} (h : e.Matches bt) {k : String}
    (hk : e.idempotencyKey = some k) : TxIndex.idempotency e.customerID k ∈ bt.keys := by
  unfold BillingTransaction.keys
  rw [h.idempotencyKey, hk, h.customerID]
  simp

def Posts (e : Entry) (db : Db) (bt : BillingTransaction) : Prop :=
  db.txs.clash bt = none ∧
    ∃ b id t, db.balance e.customerID = some b ∧ bt = e.row (b + e.signed) id t

lemma Posts.matches {e : Entry} {db : Db} (h : Posts e db bt) : e.Matches bt := by
  obtain ⟨_, b, id, t, _, rfl⟩ := h
  exact e.matches_row _ _ _

def posting (bt : BillingTransaction) : List Write :=
  [.setBalance bt.customerID bt.balanceAfter, .insertTx bt]

inductive Enters (e : Entry) (db : Db) : List Write → Prop
  | new (bt : BillingTransaction) : Posts e db bt → Enters e db (posting bt)
  | old (bt : BillingTransaction) : bt ∈ db.txs.rows → e.Matches bt → Enters e db []

inductive Claim where
  | gateway (g : Gateway) (gid : String)
  | capture (orderID captureID : String)

namespace Claim

def gatewayOf : Claim → Gateway
  | .gateway g _ => g
  | .capture _ _ => .paypal

/-- the text under the advisory lock -/
def text : Claim → String
  | .gateway g gid => gatewayLockText g.text gid
  | .capture _ cap => gatewayLockText "paypal_capture" cap

def admits : Claim → BillingPayment → Bool
  | .gateway _ gid, p => p.claimable gid
  | .capture order cap, p => p.capturable order cap

/-- another payment has the id already -/
def taken (db : Db) (id : String) : Claim → Bool
  | .gateway g gid => (db.paymentsByGateway g gid).any fun p => p.id ≠ id
  | .capture _ cap => (db.paymentsByCapture cap).any fun p => p.id ≠ id

def update : Claim → BillingPayment → BillingPayment
  | .gateway _ gid, p => p.complete gid
  | .capture order cap, p => p.completeCapture order cap

lemma update_id (c : Claim) (p : BillingPayment) : (c.update p).id = p.id := by
  cases c <;> rfl

end Claim

inductive Cmd where
  | post (e : Entry)
  | settle (c : Claim) (p : BillingPayment) (e : Entry)
  | refund (p : BillingPayment) (e : Entry)
  | setStatus (p : BillingPayment) (status : PaymentStatus) (gid : Option String)
  | createPayment (p : BillingPayment)
  | checkpoint (c : BillingVMCheckpoint)
  | invoice (inv : BillingInvoice)
  | gatewayRefund (r : GatewayRefund)

/-- `ws` is what the step writes in the state `db` -/
def Cmd.Effect (db : Db) (ws : List Write) : Cmd → Prop
  | .post e => ∃ bt, Posts e db bt ∧ ws = posting bt
  | .settle c p e => db.payments.find p.id = some p ∧ p.gateway = c.gatewayOf ∧
      c.admits p = true ∧ ∃ ws', Enters e db ws' ∧ ws = .putPayment (c.update p) :: ws'
  | .refund p e => db.payments.find p.id = some p ∧
      ∃ ws', Enters e db ws' ∧ ws = .putPayment p.refund :: ws'
  | .setStatus p status gid => db.payments.find p.id = some p ∧
      ws = [.putPayment (p.setStatus status gid)]
  | .createPayment p => db.payments.clash p = none ∧ ws = [.insertPayment p]
  | .checkpoint c => db.checkpoints.clash c = none ∧ ws = [.insertCheckpoint c]
  | .invoice inv => db.invoices.clash inv = none ∧ db.lastNumber < maxInt32 ∧
      ws = [.setLastNumber (db.lastNumber + 1), .insertInvoice inv]
  | .gatewayRefund r => ws = [.gatewayRefund r]

/-- the committed part of a run over the billing store -/
abbrev BMem (ι : Type) : Type := Mem store ι

def system {ι : Type} (init : BMem ι → Prop)
    (ok : ι → Cmd → Set Lock → List Write → BMem ι → Prop)
    (allow : ι → Req store → Loc store → BMem ι → Prop) : Protocol store ι where
  init := init
  may i H ws m := ∃ c, ok i c H ws m ∧ c.Effect m.db ws
  allow := allow

/-! ## what a write leaves alone -/

lemma apply_balance {c : String} (db : Db) (w : Write) (h : Lock.customer c ∉ w.guards) :
    (db.apply w).balance c = db.balance c := by
  cases w with
  | setBalance c' b =>
    have hc : c ≠ c' := fun e => h (e ▸ mem_singleton_self _)
    show (if c = c' then some b else db.balance c) = db.balance c
    rw [if_neg hc]
  | _ => rfl

lemma apply_find_tx {k : TxIndex} (db : Db) (w : Write) (h : Lock.tx k ∉ w.guards) :
    (db.apply w).txs.find k = db.txs.find k := by
  cases w with
  | insertTx bt =>
    exact find_insert_of_notMem fun hk => h (mem_map_of_mem hk)
  | _ => rfl

lemma apply_find_payment {id : String} (db : Db) (w : Write) (h : Lock.payment id ∉ w.guards) :
    (db.apply w).payments.find id = db.payments.find id := by
  have hne : ∀ p : BillingPayment, w.guards = [.payment p.id] → id ∉ p.keys := by
    intro p hw hid
    rw [hw, mem_singleton.mp hid] at h
    exact h (mem_singleton_self _)
  cases w with
  | insertPayment p => exact find_insert_of_notMem (hne p rfl)
  | putPayment p => exact find_put_of_notMem (hne p rfl)
  | _ => rfl

lemma apply_lastNumber (db : Db) (w : Write) (h : Lock.counter ∉ w.guards) :
    (db.apply w).lastNumber = db.lastNumber := by
  cases w with
  | setLastNumber n => exact absurd (mem_singleton_self _) h
  | _ => rfl

lemma apply_find_invoice {k : InvoiceIndex} (db : Db) (w : Write) (h : Lock.invoice k ∉ w.guards) :
    (db.apply w).invoices.find k = db.invoices.find k := by
  cases w with
  | insertInvoice inv =>
    exact find_insert_of_notMem fun hk => h (mem_map_of_mem hk)
  | _ => rfl

lemma apply_txs_prefix (db : Db) (w : Write) : db.txs.rows <+: (db.apply w).txs.rows := by
  cases w with
  | insertTx bt => exact rows_prefix_insert _ _
  | _ => exact prefix_rfl

section
variable {ι : Type} {P : Protocol store ι} {i : ι} {H : Set Lock} {m m' : BMem ι}

lemma rely_txs (h : P.Rely i H m m') : m.db.txs.rows <+: m'.db.txs.rows :=
  h.rel (r := fun a b : Db => a.txs.rows <+: b.txs.rows) (fun _ => prefix_rfl)
    (fun _ _ _ hab hbc => hab.trans hbc) apply_txs_prefix

lemma publish_txs (m : BMem ι) (i : ι) (ws : List Write) :
    m.db.txs.rows <+: (m.publish i ws).db.txs.rows := by
  rw [Mem.publish_db]
  exact store.view_rel (r := fun a b : Db => a.txs.rows <+: b.txs.rows) (fun _ => prefix_rfl)
    (fun _ _ _ hab hbc => hab.trans hbc) apply_txs_prefix m.db ws

/-- a session that holds the customer row and the index entries of `bt` can still post it -/
structure Ready (e : Entry) (bt : BillingTransaction) (H : Set Lock) (db : Db) : Prop where
  customer : Lock.customer e.customerID ∈ H
  entries : ∀ k ∈ bt.keys, Lock.tx k ∈ H
  posts : Posts e db bt

lemma Ready.stable {e : Entry} (hr : Ready e bt H m.db)
    (h : P.Rely i H m m') : Ready e bt H m'.db := by
  obtain ⟨hc, hk, hclash, b, id, t, hb, hbt⟩ := hr
  refine ⟨hc, hk, ?_, b, id, t, ?_, hbt⟩
  · rw [clash_eq_none] at hclash ⊢
    intro k hk'
    rw [h.frame (f := fun db : Db => db.txs.find k) (hk k hk') apply_find_tx]
    exact hclash k hk'
  · rw [h.frame (f := fun db : Db => db.balance e.customerID) hc apply_balance]
    exact hb

end

end VirtueStack.Billing
