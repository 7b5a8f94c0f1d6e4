import VirtueStack.Billing.Specs

/-!
# The credit ledger under concurrency

Any number of calls of the five functions that move money, interleaved statement by statement, each
free to fail anywhere.

* `Balanced db₀ db` the books are in order: every balance is the initial one plus the credits minus
  the debits since then, and every row carries the balance at its place;
* `Attributed` where the rows come from: each new row was inserted by one committed batch, of a
  call that asked for exactly this row.

The lookup of the idempotency key takes no lock, so two calls with one key may both miss it. Both
then update the balance in their own transaction, but only one of them gets the index entry.
-/

namespace VirtueStack.Billing
open Txn Table Mem List

inductive LedgerCall where
  | creditAccount (customerID : String) (amount : Int64) (description : String)
      (idempotencyKey : Option String)
  | debitAccount (customerID : String) (amount : Int64) (description : String)
      (referenceType referenceID idempotencyKey : Option String)
  | completeWithGatewayPaymentIDAndCredit (req : PaymentCompletionCredit)
  | completePayPalCaptureAndCredit (req : PayPalCaptureCredit)
  | markRefundedAndDebit (req : PaymentRefundDebit)

inductive Reply where
  | tx (bt : BillingTransaction)
  | claimed (b : Bool)
  | done

namespace LedgerCall

def run : LedgerCall → Op Reply
  | .creditAccount c a d k => do return .tx (← Billing.creditAccount c a d k)
  | .debitAccount c a d rt ri k => do return .tx (← Billing.debitAccount c a d rt ri k)
  | .completeWithGatewayPaymentIDAndCredit req => do
    return .claimed (← Billing.completeWithGatewayPaymentIDAndCredit req)
  | .completePayPalCaptureAndCredit req => do
    return .claimed (← Billing.completePayPalCaptureAndCredit req)
  | .markRefundedAndDebit req => do
    Billing.markRefundedAndDebit req
    return .done

/-- the entry the call wants in the ledger -/
def entry : LedgerCall → Entry
  | .creditAccount c a d k => creditEntry c a d k
  | .debitAccount c a d rt ri k => debitEntry c a d rt ri k
  | .completeWithGatewayPaymentIDAndCredit req => req.entry
  | .completePayPalCaptureAndCredit req => req.entry
  | .markRefundedAndDebit req => req.entry

/-- the steps of the abstract machine the call can take -/
def may (call : LedgerCall) (cmd : Cmd) : Prop :=
  cmd = .post call.entry ∨ (∃ c p, cmd = .settle c p call.entry) ∨ ∃ p, cmd = .refund p call.entry

end LedgerCall

/-! ## the rows and the balance after a step -/

def Write.tx? : Write → Option BillingTransaction
  | .insertTx bt => some bt
  | _ => none

def Write.setsBalance : Write → Bool
  | .setBalance _ _ => true
  | _ => false

def inserted (ws : List Write) : List BillingTransaction := ws.filterMap Write.tx?

variable {ws : List Write} {db db₀ db' : Db} {e : Entry}

lemma rows_of_effect {cmd : Cmd} (h : cmd.Effect db ws) :
    (store.view db ws).txs.rows = db.txs.rows ++ inserted ws := by
  have hen : ∀ {e : Entry} {w : BillingPayment} {ws' : List Write}, Enters e db ws' →
      (store.view db (.putPayment w :: ws')).txs.rows = db.txs.rows ++
      inserted (.putPayment w :: ws') := by
    intro e w ws' hen
    cases hen with
    | new bt hbt => exact rows_insert hbt.1
    | old bt _ _ => exact (append_nil _).symm
  cases cmd with
  | post e => obtain ⟨bt, hbt, rfl⟩ := h; exact rows_insert hbt.1
  | settle c p e => obtain ⟨-, -, -, ws', he, rfl⟩ := h; exact hen he
  | refund p e => obtain ⟨-, ws', he, rfl⟩ := h; exact hen he
  | setStatus p status gid | createPayment p | checkpoint c =>
    obtain ⟨-, rfl⟩ := h; exact (append_nil _).symm
  | invoice inv => obtain ⟨-, -, rfl⟩ := h; exact (append_nil _).symm
  | gatewayRefund r => rw [show ws = [.gatewayRefund r] from h]; exact (append_nil _).symm

/-- what a step means for the ledger: one row at the end and the balance with it, or nothing -/
inductive LedgerStep (e : Entry) (db : Db) (ws : List Write) : Prop
  | post (bt : BillingTransaction) (hp : Posts e db bt) (hi : inserted ws = [bt])
      (hr : (store.view db ws).txs.rows = db.txs.rows ++ [bt])
      (hb : ∀ c, (store.view db ws).balance c =
        if c = e.customerID then some bt.balanceAfter else db.balance c)
  | skip (hi : inserted ws = []) (hn : ws.any Write.setsBalance = false)
      (hr : (store.view db ws).txs.rows = db.txs.rows)
      (hb : ∀ c, (store.view db ws).balance c = db.balance c)

variable {bt : BillingTransaction}

lemma LedgerStep.of_posts (h : Posts e db bt)
    (ws : List Write) (hi : inserted ws = []) (ht : (store.view db ws).txs = db.txs)
    (hb : (store.view db ws).balance = db.balance) : LedgerStep e db (ws ++ posting bt) := by
  refine .post bt h ?_ ?_ fun c => ?_
  · show (ws ++ posting bt).filterMap Write.tx? = [bt]
    rw [filterMap_append, show ws.filterMap Write.tx? = [] from hi]
    rfl
  · rw [Store.view_append]
    show ((store.view db ws).txs.insert bt).rows = db.txs.rows ++ [bt]
    rw [ht, rows_insert h.1]
  · rw [Store.view_append]
    show (if c = bt.customerID then some bt.balanceAfter else (store.view db ws).balance c) = _
    rw [h.matches.customerID, hb]

lemma LedgerStep.of_enters {w : BillingPayment} (h : Enters e db ws) :
    LedgerStep e db (.putPayment w :: ws) := by
  cases h with
  | new bt hp => exact LedgerStep.of_posts hp [.putPayment w] rfl rfl rfl
  | old bt _ _ => exact .skip rfl rfl rfl fun _ => rfl

lemma LedgerCall.may_step {call : LedgerCall} {cmd : Cmd}
    (hm : call.may cmd) (h : cmd.Effect db ws) : LedgerStep call.entry db ws := by
  obtain rfl | ⟨c, p, rfl⟩ | ⟨p, rfl⟩ := hm
  · obtain ⟨bt, hp, rfl⟩ := h
    exact LedgerStep.of_posts hp [] rfl rfl rfl
  · obtain ⟨-, -, -, ws', hen, rfl⟩ := h
    exact .of_enters hen
  · obtain ⟨-, ws', hen, rfl⟩ := h
    exact .of_enters hen

/-! ## the books -/

/-- the amounts of one type for one customer, in `int64` arithmetic -/
def total (type : TxType) (customerID : String) (rows : List BillingTransaction) : Int64 :=
  ((rows.filter fun bt => bt.customerID = customerID ∧ bt.type = type).map
    BillingTransaction.amount).foldl (· + ·) 0

def net (customerID : String) (rows : List BillingTransaction) : Int64 :=
  total .credit customerID rows - total .debit customerID rows

lemma total_concat (type : TxType) (c : String) (rows : List BillingTransaction)
    (bt : BillingTransaction) : total type c (rows ++ [bt]) =
      if bt.customerID = c ∧ bt.type = type then total type c rows + bt.amount
      else total type c rows := by
  unfold total
  by_cases h : bt.customerID = c ∧ bt.type = type
  · rw [if_pos h, filter_append, filter_cons_of_pos (by simpa using h), filter_nil,
      map_append, foldl_append]
    rfl
  · rw [if_neg h, filter_append, filter_cons_of_neg (by simpa using h), filter_nil, append_nil]

lemma net_concat_self (rows : List BillingTransaction) (bt : BillingTransaction) :
    net bt.customerID (rows ++ [bt]) = net bt.customerID rows + bt.signed := by
  unfold net BillingTransaction.signed
  rw [total_concat, total_concat]
  cases bt.type <;> simp [TxType.signed] <;> grind

lemma net_concat_of_ne {c : String} (rows : List BillingTransaction) (bt : BillingTransaction)
    (h : bt.customerID ≠ c) : net c (rows ++ [bt]) = net c rows := by
  unfold net
  rw [total_concat, total_concat]
  simp [h]

/-- the rows that were committed since `db₀`, in commit order -/
def newRows (db₀ db : Db) : List BillingTransaction := db.txs.rows.drop db₀.txs.rows.length

structure Balanced (db₀ db : Db) : Prop where
  append : db₀.txs.rows <+: db.txs.rows
  balance : ∀ c, db.balance c = (db₀.balance c).map (· + net c (newRows db₀ db))
  after : ∀ pre bt post, newRows db₀ db = pre ++ bt :: post →
    ∃ b₀, db₀.balance bt.customerID = some b₀ ∧
      bt.balanceAfter = b₀ + net bt.customerID (pre ++ [bt])

lemma Balanced.refl (db : Db) : Balanced db db := by
  have hnil : newRows db db = [] := drop_length
  refine ⟨prefix_rfl, fun c => ?_, fun pre bt post h => ?_⟩
  · rw [hnil]
    have h0 : net c [] = 0 := Int64.sub_self (total .credit c [])
    rw [h0]
    cases db.balance c with
    | none => rfl
    | some b => simp
  · rw [hnil] at h
    cases pre <;> cases h

lemma newRows_concat (h : db₀.txs.rows <+: db.txs.rows) (hr : db'.txs.rows = db.txs.rows ++ [bt]) :
    newRows db₀ db' = newRows db₀ db ++ [bt] := by
  unfold newRows
  rw [hr, drop_append_of_le_length h.length_le]

lemma newRows_congr (hr : db'.txs.rows = db.txs.rows) : newRows db₀ db' = newRows db₀ db := by
  unfold newRows
  rw [hr]

lemma Balanced.congr (hB : Balanced db₀ db) (hr : db'.txs.rows = db.txs.rows)
    (hb : ∀ c, db'.balance c = db.balance c) : Balanced db₀ db' := by
  have hn : newRows db₀ db' = newRows db₀ db := newRows_congr hr
  refine ⟨?_, fun c => ?_, ?_⟩
  · rw [hr]; exact hB.append
  · rw [hb, hn]; exact hB.balance c
  · rw [hn]; exact hB.after

lemma Balanced.step (hB : Balanced db₀ db) (h : LedgerStep e db ws) :
    Balanced db₀ (store.view db ws) := by
  cases h with
  | skip _ _ hr hb => exact hB.congr hr hb
  | post bt hp _ hr hb =>
    have hn := newRows_concat hB.append hr
    have hcust : bt.customerID = e.customerID := hp.matches.customerID
    obtain ⟨_, b, id, t, hbal, hbt⟩ := hp
    have hafter : bt.balanceAfter = b + bt.signed := by rw [hbt]; rfl
    -- the balance the row was computed from is the initial one plus the rows before it
    obtain ⟨b₀, hb0, hb1⟩ : ∃ b₀, db₀.balance e.customerID = some b₀ ∧
        b₀ + net e.customerID (newRows db₀ db) = b := by
      have := hB.balance e.customerID
      rw [hbal] at this
      obtain ⟨b₀, h1, h2⟩ := Option.map_eq_some_iff.mp this.symm
      exact ⟨b₀, h1, h2⟩
    have hnew : bt.balanceAfter = b₀ + net bt.customerID (newRows db₀ db ++ [bt]) := by
      rw [net_concat_self, hafter, ← hb1, hcust, Int64.add_assoc]
    refine ⟨?_, fun c => ?_, ?_⟩
    · rw [hr]; exact hB.append.trans (prefix_append _ _)
    · rw [hb, hn]
      by_cases hc : c = e.customerID
      · rw [if_pos hc, hc, hb0, hnew, hcust]
        rfl
      · rw [if_neg hc, net_concat_of_ne _ _ (hcust ▸ Ne.symm hc)]
        exact hB.balance c
    · rw [hn]
      exact forall_split_concat.mpr ⟨hB.after, b₀, hcust ▸ hb0, hnew⟩

/-! ## where the rows come from -/

section
variable {ι : Type}

structure Attributed (db₀ : Db) (calls : ι → LedgerCall) (m : BMem ι) : Prop where
  rows : m.db.txs.rows = db₀.txs.rows ++ m.wal.flatMap fun b => inserted b.2
  batch : ∀ b ∈ m.wal, (∃ bt, inserted b.2 = [bt] ∧ (calls b.1).entry.Matches bt) ∨
    (inserted b.2 = [] ∧ b.2.any Write.setsBalance = false)

variable {db₀ : Db} {calls : ι → LedgerCall} {m : BMem ι}

lemma Attributed.step {i : ι} {ws : List Write}
    (hA : Attributed db₀ calls m) (hne : ws ≠ []) (h : LedgerStep (calls i).entry m.db ws) :
    Attributed db₀ calls (m.publish i ws) := by
  have hrows : (store.view m.db ws).txs.rows = m.db.txs.rows ++ inserted ws := by
    cases h with
    | post bt _ hi hr _ => rw [hr, hi]
    | skip hi _ hr _ => rw [hr, hi, append_nil]
  have hbatch : (∃ bt, inserted ws = [bt] ∧ (calls i).entry.Matches bt) ∨
      (inserted ws = [] ∧ ws.any Write.setsBalance = false) := by
    cases h with
    | post bt hp hi _ _ => exact .inl ⟨bt, hi, hp.matches⟩
    | skip hi hn _ _ => exact .inr ⟨hi, hn⟩
  constructor
  · rw [publish_db, publish_wal hne, hrows, hA.rows, flatMap_append, append_assoc]
    simp
  · intro b hb
    rw [publish_wal hne] at hb
    rcases mem_append.mp hb with hb | hb
    · exact hA.batch b hb
    · rw [mem_singleton.mp hb]; exact hbatch

/-- the batches with which the calls for (`c`, `k`) changed a balance -/
def balanceChanges (calls : ι → LedgerCall) (c k : String) (m : BMem ι) :
    List (ι × List Write) :=
  m.wal.filter fun b => (calls b.1).entry.customerID = c ∧
    (calls b.1).entry.idempotencyKey = some k ∧ b.2.any Write.setsBalance = true

/-- each change of a balance comes with a row under the key, and the index has room for one -/
lemma Attributed.once (hA : Attributed db₀ calls m) (c k : String) :
    (balanceChanges calls c k m).length ≤ 1 := by
  have hu : (m.wal.flatMap fun b => inserted b.2).Pairwise fun a b => ∀ x ∈ a.keys, x ∉ b.keys := by
    have := m.db.txs.unique
    rw [hA.rows] at this
    exact (pairwise_append.mp this).2.1
  have hkey : ∀ b ∈ balanceChanges calls c k m, ∃ bt ∈ inserted b.2, TxIndex.idempotency c k ∈
      bt.keys := by
    intro b hb
    obtain ⟨hb, hp⟩ := mem_filter.mp hb
    obtain ⟨hc, hk, hs⟩ := of_decide_eq_true hp
    rcases hA.batch b hb with ⟨bt, hi, hm⟩ | ⟨-, hn⟩
    · exact ⟨bt, hi ▸ mem_singleton_self bt, hc ▸ hm.key_mem hk⟩
    · rw [hs] at hn; cases hn
  -- two such batches would hold two rows under one index entry
  refine length_le_one_of_pairwise (List.Pairwise.imp_of_mem (fun {a b} ha hb hab => ?_)
    (((pairwise_flatMap.mp hu).2).filter _))
  obtain ⟨x, hx, hkx⟩ := hkey a ha
  obtain ⟨y, hy, hky⟩ := hkey b hb
  exact hab x hx y hy _ hkx hky

/-! ## the calls keep to the abstract machine -/

def ledgerSystem (db₀ : Db) (calls : ι → LedgerCall) : Protocol store ι :=
  system (fun m => m = ⟨db₀, []⟩) (fun i cmd _ _ _ => (calls i).may cmd) always

lemma ledgerSystem_reach (h : (ledgerSystem db₀ calls).Reach m) :
    Balanced db₀ m.db ∧ Attributed db₀ calls m := by
  refine Protocol.Reach.invariant (I := fun m => Balanced db₀ m.db ∧ Attributed db₀ calls m) ?_ ?_ h
  · rintro m rfl
    exact ⟨Balanced.refl db₀, (append_nil _).symm, fun b hb => by cases hb⟩
  · rintro m i H ws _ ⟨hB, hA⟩ hne _ ⟨cmd, hcmd, hef⟩
    have hstep := LedgerCall.may_step hcmd hef
    refine ⟨?_, hA.step hne hstep⟩
    rw [publish_db]
    exact hB.step hstep

/-- the calls with a transaction of their own -/
def LedgerCall.own : LedgerCall → Bool
  | .creditAccount _ _ _ _ => true
  | .debitAccount _ _ _ _ _ _ => true
  | _ => false

/-- what is known when a call has ended -/
def LedgerCall.Post (call : LedgerCall) (i : ι) (r : Except GoError Reply) (m : BMem ι) : Prop :=
  match r with
  | .error _ => m.Silent i
  | .ok (.tx bt) => bt ∈ m.db.txs.rows ∧ call.entry.Matches bt
  | .ok (.claimed false) => call.own = false ∧ m.Silent i
  | .ok _ => call.own = false ∧ ∃ bt ∈ m.db.txs.rows, call.entry.Matches bt

/-- `Q` of the value; a call that fails has written nothing -/
def OrSilent {α : Type} (i : ι) (Q : α → BMem ι → Prop) : Except GoError α → BMem ι → Prop
  | .ok a, m => Q a m
  | .error _, m => m.Silent i

section
variable {P : Protocol store ι} {call : LedgerCall} {i : ι} {m : BMem ι}
  (hmay : ∀ m' cmd ws H, P.Reach m' → call.may cmd → cmd.Effect m'.db ws →
    (∃ x₀, P.allow i .commit ⟨.active x₀, ws⟩ m') → P.may i H ws m')
  (hm : m.Silent i)

include hmay hm

lemma postAccount_call (kind : String) :
    Idle P i ((postAccount kind call.entry call.entry.signed).bind fun bt =>
      .pure (Reply.tx bt)) (call.Post i) m := by
  refine Idle.bind (R := OrSilent i fun bt m => bt ∈ m.db.txs.rows ∧ call.entry.Matches bt) ?_
    (fun bt m _ hs => Idle.pure hs) fun e m _ hs => hs
  exact postAccount_spec (fun _ => settled_silent hm) (fun bt m _ h1 h2 => ⟨h1, h2⟩)
    fun m' bt H' _ hR hp ha => hmay m' (.post call.entry) _ H' hR (.inl rfl) ⟨bt, hp, rfl⟩ ha

lemma claimAndCredit_call (kind : String) (c : Claim) (id : String) (ho : call.own = false) :
    Idle P i ((claimAndCredit kind (c.tx id) (postTx call.entry call.entry.signed)).bind
      fun b => .pure (Reply.claimed b)) (call.Post i) m := by
  refine Idle.bind (R := OrSilent i fun b m =>
      if b then ∃ bt ∈ m.db.txs.rows, call.entry.Matches bt else m.Silent i) ?_
    (fun b m _ hs => Idle.pure ?_) fun e m _ hs => hs
  · refine claimAndCredit_spec (fun _ => settled_silent hm) (settled_silent hm)
      (fun bt m _ h1 h2 => ⟨bt, h1, h2⟩) ?_
    intro m' p H' ws _ hR _ hcl hen ha
    exact hmay m' (.settle c p call.entry) _ H' hR (.inr (.inl ⟨c, p, rfl⟩))
      ⟨hcl.row, hcl.gateway, hcl.admits, ws, hen, rfl⟩ ha
  · cases b with
    | true | false => exact hs.mono fun m _ h => ⟨ho, h⟩

omit hmay in
lemma markRefundedAndDebit_call {req : PaymentRefundDebit}
    (hmay : ∀ m' cmd ws H, P.Reach m' → (LedgerCall.markRefundedAndDebit req).may cmd →
      cmd.Effect m'.db ws → (∃ x₀, P.allow i .commit ⟨.active x₀, ws⟩ m') → P.may i H ws m') :
    Idle P i ((markRefundedAndDebit req).bind fun _ => .pure Reply.done)
      ((LedgerCall.markRefundedAndDebit req).Post i) m := by
  refine Idle.bind (R := OrSilent i fun _ m => ∃ bt ∈ m.db.txs.rows, req.entry.Matches bt) ?_
    (fun _ m _ hs => Idle.pure ?_) fun e m _ hs => hs
  · refine markRefundedAndDebit_spec (fun _ => settled_silent hm)
      (fun bt m _ h1 h2 => ⟨bt, h1, h2⟩) ?_
    intro m' p H' ws _ hR _ hrow _ hen ha
    exact hmay m' (.refund p req.entry) _ H' hR (.inr (.inr ⟨p, rfl⟩)) ⟨hrow, ws, hen, rfl⟩ ha
  · exact hs.mono fun m _ h => ⟨rfl, h⟩

/-- **A call only takes the steps it `may`.** -/
theorem LedgerCall.run_spec : Idle P i call.run (call.Post i) m := by
  cases call with
  | creditAccount c a d k => exact postAccount_call hmay hm "credit"
  | debitAccount c a d rt ri k => exact postAccount_call hmay hm "debit"
  | completeWithGatewayPaymentIDAndCredit req =>
    exact claimAndCredit_call hmay hm "payment credit" (.gateway req.gateway req.gatewayPaymentID)
      req.paymentID rfl
  | completePayPalCaptureAndCredit req =>
    exact claimAndCredit_call hmay hm "paypal capture credit" (.capture req.orderID req.captureID)
      req.paymentID rfl
  | markRefundedAndDebit req => exact markRefundedAndDebit_call hm hmay

end

/-! ## the two properties -/

variable [DecidableEq ι]

def ledgerStart (db₀ : Db) (calls : ι → LedgerCall) : State store ι (Except GoError Reply) :=
  State.init db₀ fun i => (calls i).run

lemma ledger_adequate {s : State store ι (Except GoError Reply)}
    (h : Reaches always (ledgerStart db₀ calls) s) :
    (ledgerSystem db₀ calls).Reach s.mem ∧ ∀ i r, s.prog i = some (.ret r) →
      (calls i).Post i r s.mem :=
  Idle.adequate (P := ledgerSystem db₀ calls) rfl
    (fun i => LedgerCall.run_spec (fun _ cmd _ _ _ hc hef _ => ⟨cmd, hc, hef⟩) fun b hb =>
      by cases hb) h

/-- **The books are always in order.** In every state of every interleaving each balance is the
initial one plus credits minus debits, each row carries the balance at its place, and a call that
returned an error has changed nothing. -/
theorem ledger_balanced (db₀ : Db) (calls : ι → LedgerCall)
    {s : State store ι (Except GoError Reply)} (h : Reaches always (ledgerStart db₀ calls) s) :
    Balanced db₀ s.mem.db ∧ ∀ i e, s.prog i = some (.ret (.error e)) →
      ChangedNothing (ledgerStart db₀ calls) s i := by
  obtain ⟨hr, hpost⟩ := ledger_adequate h
  refine ⟨(ledgerSystem_reach hr).1, fun i e hi => ?_⟩
  have hs : s.mem.Silent i := hpost i _ hi
  exact hs.changedNothing _

/-- one customer, with a balance of 100 -/
def oneCustomer : Db :=
  { Db.empty with balance := fun c => if c = "c" then some 100 else none }

/-- two credits under one key: both look the key up before either has the customer row -/
def race : Bool → LedgerCall := fun _ => .creditAccount "c" 5 "top-up" (some "k")

def raceMoves : List (Bool × Label store) :=
  [false, true, false, true, false, false, false, false, false, true, true, true, true].map
    fun i => (i, .ev (.ok (tick 0 (if i then "t1" else "t0"))))

theorem ledger_balanced_race : ∃ s, run (ledgerStart oneCustomer race) raceMoves = some s ∧
    s.mem.db.balance "c" = some 105 ∧ Balanced oneCustomer s.mem.db := by
  have h : (run (ledgerStart oneCustomer race) raceMoves).isSome = true := by decide
  refine ⟨_, run_get h, rfl, ?_⟩
  exact (ledger_balanced oneCustomer race (reaches_run (run_get h))).1

/-- the one committed row of customer `c` with key `k` -/
def TheRow (db : Db) (c k : String) (bt : BillingTransaction) : Prop :=
  db.txs.find (.idempotency c k) = some bt ∧
    ∀ bt' ∈ db.txs.rows, bt'.customerID = c → bt'.idempotencyKey = some k → bt' = bt

lemma theRow_of_matches {db : Db} {e : Entry} {k : String} (hb : bt ∈ db.txs.rows)
    (hm : e.Matches bt) (hk : e.idempotencyKey = some k) : TheRow db e.customerID k bt := by
  have hkey := hm.key_mem hk
  refine ⟨find_eq_some.mpr ⟨hb, hkey⟩, fun bt' hb' hc' hk' => ?_⟩
  refine eq_of_key (k := .idempotency e.customerID k) hb' hb ?_ hkey
  unfold BillingTransaction.keys
  rw [hk', hc']
  simp

/-- **One key, one effect.** The calls for one customer and key change the balance at most once
together; a call that succeeds has the one committed row with that key, which is what it asked for;
a call that asked for something else fails and has changed nothing. (`claimed false` is the answer
of a completion that did not get as far as the ledger.) -/
theorem ledger_idempotent (db₀ : Db) (calls : ι → LedgerCall)
    {s : State store ι (Except GoError Reply)} (h : Reaches always (ledgerStart db₀ calls) s)
    (c k : String) : (balanceChanges calls c k s.mem).length ≤ 1 ∧
    ∀ i, (calls i).entry.customerID = c → (calls i).entry.idempotencyKey = some k →
      (∀ bt, s.prog i = some (.ret (.ok (.tx bt))) → TheRow s.mem.db c k bt ∧
        (calls i).entry.Matches bt) ∧
      (s.prog i = some (.ret (.ok (.claimed true))) ∨ s.prog i = some (.ret (.ok .done)) →
        ∃ bt, TheRow s.mem.db c k bt ∧ (calls i).entry.Matches bt) ∧
      (∀ bt r, TheRow s.mem.db c k bt → ¬ (calls i).entry.Matches bt → s.prog i = some (.ret r) →
        ((∃ e, r = .error e) ∨ (calls i).own = false ∧ r = .ok (.claimed false)) ∧
          ChangedNothing (ledgerStart db₀ calls) s i) := by
  obtain ⟨hr, hpost⟩ := ledger_adequate h
  refine ⟨(ledgerSystem_reach hr).2.once c k, ?_⟩
  rintro i rfl hk
  have hrow : ∀ bt, bt ∈ s.mem.db.txs.rows → (calls i).entry.Matches bt →
      TheRow s.mem.db (calls i).entry.customerID k bt := fun bt hb hm => theRow_of_matches hb hm hk
  refine ⟨fun bt hi => ?_, fun hi => ?_, fun bt r hbt hne hi => ?_⟩
  · obtain ⟨hb, hm⟩ := hpost i _ hi
    exact ⟨hrow bt hb hm, hm⟩
  · obtain ⟨-, bt, hb, hm⟩ : (calls i).own = false ∧
        ∃ bt ∈ s.mem.db.txs.rows, (calls i).entry.Matches bt := by
      rcases hi with hi | hi
      · exact hpost i _ hi
      · exact hpost i _ hi
    exact ⟨bt, hrow bt hb hm, hm⟩
  · -- a success would have the row under the key, and that row is `bt`
    have hcon : ∀ bt' ∈ s.mem.db.txs.rows, ¬ (calls i).entry.Matches bt' := fun bt' hb' hm' =>
      hne (Option.some.inj (hbt.1.symm.trans (hrow bt' hb' hm').1) ▸ hm')
    have hp := hpost i r hi
    match r, hp with
    | .error e, hp => exact ⟨.inl ⟨e, rfl⟩, Mem.Silent.changedNothing hp _⟩
    | .ok (.tx bt'), hp => exact absurd hp.2 (hcon bt' hp.1)
    | .ok (.claimed false), hp => exact ⟨.inr ⟨hp.1, rfl⟩, Mem.Silent.changedNothing hp.2 _⟩
    | .ok (.claimed true), hp =>
      obtain ⟨-, bt', hb', hm'⟩ := hp
      exact absurd hm' (hcon bt' hb')
    | .ok .done, hp =>
      obtain ⟨-, bt', hb', hm'⟩ := hp
      exact absurd hm' (hcon bt' hb')

theorem ledger_idempotent_race : ∃ s, run (ledgerStart oneCustomer race) raceMoves = some s ∧
    (∃ e, s.prog true = some (.ret (.error e))) ∧
    (balanceChanges race "c" "k" s.mem).length ≤ 1 := by
  have h : (run (ledgerStart oneCustomer race) raceMoves).isSome = true := by decide
  refine ⟨_, run_get h, ⟨_, rfl⟩, ?_⟩
  exact (ledger_idempotent oneCustomer race (reaches_run (run_get h)) "c" "k").1

end

end VirtueStack.Billing
