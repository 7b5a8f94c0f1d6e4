import VirtueStack.Billing.Effects

/-!
# What the repositories do, in any protocol

One rule for each function of the two repositories, in the form of the rules for calls: the function
followed by what comes after it. The protocol is arbitrary; a rule asks for the right to make the
writes of its step public at the moment of the commit.
-/

namespace VirtueStack.Billing
open Txn Call Op Table List

section
variable {ι α : Type} {P : Protocol store ι} {i : ι} {R : Except GoError α → BMem ι → Prop}
  {x₀ : Inp} {log : List Write} {H : Set Lock} {m : BMem ι}

variable {bt : BillingTransaction} {e : Entry} {f : BillingTransaction → Op α} {context : String}
variable {p : BillingPayment} {c : Claim}

lemma billingTxMatches_iff {k : String}
    (hk : e.idempotencyKey = some k) (hb : TxIndex.idempotency e.customerID k ∈ bt.keys) :
    billingTxMatches bt e = true ↔ e.Matches bt := by
  have hck : bt.customerID = e.customerID ∧ bt.idempotencyKey = some k := by
    obtain ⟨id, c, ty, am, ba, de, rt, ri, key, t⟩ := bt
    cases key with
    | none => simp [BillingTransaction.keys] at hb
    | some k' =>
      simp [BillingTransaction.keys] at hb
      exact ⟨hb.1.symm, congrArg some hb.2.symm⟩
  unfold billingTxMatches
  simp only [Bool.and_eq_true, beq_iff_eq]
  constructor
  · rintro ⟨⟨⟨h1, h2⟩, h3⟩, h4⟩
    exact ⟨hck.1, h1, h2, h3, h4, hck.2.trans hk.symm⟩
  · rintro ⟨-, h1, h2, h3, h4, -⟩
    exact ⟨⟨⟨h1, h2⟩, h3⟩, h4⟩

/-- the lookup is one statement: only the error of the driver is turned into an error -/
lemma findMatchingIdempotencyKey_eq (e : Entry) (key : String) : findMatchingIdempotencyKey e key =
      (stmt (S := store) (.txByKey e.customerID key)
        (fun err => GoError.wrap "lookup idempotency key" (.pg err))).bind fun
      | none => .pure none
      | some existing =>
        if billingTxMatches existing e then .pure (some existing)
        else fail (.wrap
          ("idempotency key " ++ quoted key ++ " conflicts with existing ledger entry")
          (.sentinel .conflict)) := by
  refine congrArg (Prog.req (S := store) (.run (.txByKey e.customerID key))) ?_
  funext r
  cases r with
  | error err => rfl
  | ok a =>
    cases a with
    | none => rfl
    | some bt => rfl

lemma lookup_spec {f : Option BillingTransaction → Op α}
    (hlog : ∀ db : Db, (store.view db log).txs = db.txs)
    (he : Fails P i R m) (hold : ∀ m' bt, P.Rely i H m m' → P.Reach m' → bt ∈ m'.db.txs.rows →
      e.Matches bt → InTx P i (f (some bt)) R ⟨.active x₀, log⟩ H m')
    (hnew : ∀ m', P.Rely i H m m' → P.Reach m' → InTx P i (f none) R ⟨.active x₀, log⟩ H m') :
    InTx P i ((lookup e).bind f) R ⟨.active x₀, log⟩ H m := by
  unfold lookup
  cases hk : e.idempotencyKey with
  | none => exact WP.of_rely hnew
  | some key =>
    show InTx P i ((findMatchingIdempotencyKey e key).bind f) R ⟨.active x₀, log⟩ H m
    rw [findMatchingIdempotencyKey_eq, bind_assoc]
    refine InTx.read (fun _ _ _ _ _ h => by cases h; exact ⟨rfl, rfl⟩) he ?_
    intro m' x a hr hR _ hx
    have ha : m'.db.txs.find (.idempotency e.customerID key) = a := by
      rw [← hlog m'.db]; cases hx; rfl
    cases a with
    | none => exact hnew m' hr hR
    | some bt =>
      obtain ⟨hmem, hkey⟩ := find_some ha
      show InTx P i (Call.bind (if billingTxMatches bt e = true then _ else _) f) R _ H m'
      rw [bind_ite]
      by_cases hb : billingTxMatches bt e = true
      · rw [if_pos hb]
        exact hold m' bt hr hR hmem ((billingTxMatches_iff hk hkey).mp hb)
      · rw [if_neg hb]
        exact InTx.fail ((he _).stable hr)

lemma lockAndUpdateBalance_spec {c : String} {delta : Int64} {f : Int64 → Op α}
    (hb : ∀ db : Db, (store.view db log).balance c = db.balance c) (he : Fails P i R m)
    (h : ∀ m' b H', H ⊆ H' → Lock.customer c ∈ H' → P.Rely i H m m' → P.Reach m' →
      m'.db.balance c = some b →
      InTx P i (f (b + delta)) R ⟨.active x₀, log ++ [.setBalance c (b + delta)]⟩ H' m') :
    InTx P i ((lockAndUpdateBalance c delta).bind f) R ⟨.active x₀, log⟩ H m := by
  refine InTx.assoc ?_
  refine InTx.stmt he fun m1 x1 a ws1 hr1 hR1 _ hx1 => ?_
  have ha : m1.db.balance c = a := by rw [← hb m1.db]; cases hx1; rfl
  have hw1 : ws1 = [] := by cases hx1; rfl
  have he1 := he.stable hr1
  rw [hw1, append_nil]
  cases a with
  | none => exact InTx.fail (he1 _)
  | some b =>
    have hl1 : store.locks (.lockBalance c) x1 (store.view m1.db log) = [.customer c] := by
      show (if ((store.view m1.db log).balance c).isSome then _ else _) = _
      rw [hb m1.db, ha]; rfl
    refine InTx.assoc ?_
    rw [hl1]
    have hc : Lock.customer c ∈ H ∪ {l | l ∈ [Lock.customer c]} := .inr (mem_singleton_self _)
    refine InTx.stmt he1 fun m2 x2 u ws2 hr2 hR2 _ hx2 => ?_
    -- the row is locked, so the balance is still the one that was read
    have hb2 : m2.db.balance c = some b := by
      rw [hr2.frame (f := fun db : Db => db.balance c) hc apply_balance, ha]
    have hw2 : ws2 = [.setBalance c (b + delta)] := by
      cases hx2
      rw [hb m2.db, hb2]; rfl
    rw [hw2]
    refine h m2 b _ (fun l hl => .inl (.inl hl)) (.inl hc) ?_ hR2 hb2
    exact hr1.trans (hr2.mono Set.subset_union_left)

lemma insertTransaction_spec {b : Int64} (ht : ∀ db : Db, (store.view db log).txs = db.txs)
    (he : Fails P i R m)
    (h : ∀ m' bt id H', H ⊆ H' → (∀ k ∈ bt.keys, Lock.tx k ∈ H') → P.Rely i H m m' → P.Reach m' →
      bt = e.row b id x₀.now → m'.db.txs.clash bt = none →
      InTx P i (f bt) R ⟨.active x₀, log ++ [.insertTx bt]⟩ H' m') :
    InTx P i ((insertTransaction e b).bind f) R ⟨.active x₀, log⟩ H m := by
  refine InTx.stmt he fun m' x bt ws hr hR _ hx => ?_
  simp only [exec, ht m'.db] at hx
  split at hx
  · rename_i hclash
    cases hx
    refine h m' _ x.uuid _ Set.subset_union_left (fun k hk => .inr ?_) hr hR rfl hclash
    exact mem_map_of_mem hk
  · cases hx

section
variable (hb : ∀ db : Db, (store.view db log).balance e.customerID = db.balance e.customerID)
  (ht : ∀ db : Db, (store.view db log).txs = db.txs) (he : Fails P i R m)
include hb ht he

lemma post_spec (h : ∀ m' bt H', H ⊆ H' → P.Rely i H m m' → P.Reach m' → Ready e bt H' m'.db →
      InTx P i (f bt) R ⟨.active x₀, log ++ posting bt⟩ H' m') :
    InTx P i ((post e e.signed).bind f) R ⟨.active x₀, log⟩ H m := by
  refine InTx.assoc ?_
  refine lockAndUpdateBalance_spec hb he fun m1 b H1 hH1 hc hr1 hR1 hb1 => ?_
  refine insertTransaction_spec (fun db => ?_) (he.stable hr1) ?_
  · rw [Store.view_append]; exact ht db
  intro m2 bt id H2 hH2 hk hr2 hR2 hbt hclash
  have hb2 : m2.db.balance e.customerID = some b := by
    rw [hr2.frame (f := fun db : Db => db.balance e.customerID) hc apply_balance, hb1]
  have hlog : (log ++ [Write.setBalance e.customerID (b + e.signed)]) ++ [Write.insertTx bt] =
      log ++ posting bt := by
    rw [hbt, append_assoc]; rfl
  rw [hlog]
  exact h m2 bt H2 (hH1.trans hH2) (hr1.trans (hr2.mono hH1)) hR2
    ⟨hH2 hc, hk, hclash, b, id, x₀.now, hb2, hbt⟩

/-- **An entry in an open transaction.** Its row is in the ledger already, or it is ready to be
posted. -/
theorem postTx_spec (hold : ∀ m' bt, P.Rely i H m m' → P.Reach m' → bt ∈ m'.db.txs.rows →
    e.Matches bt → InTx P i (f bt) R ⟨.active x₀, log⟩ H m')
    (hnew : ∀ m' bt H', H ⊆ H' → P.Rely i H m m' → P.Reach m' → Ready e bt H' m'.db →
      InTx P i (f bt) R ⟨.active x₀, log ++ posting bt⟩ H' m') :
    InTx P i ((postTx e e.signed).bind f) R ⟨.active x₀, log⟩ H m := by
  refine InTx.assoc ?_
  refine lookup_spec ht he hold fun m1 hr1 hR1 => ?_
  exact post_spec hb ht (he.stable hr1) fun m' bt H' hH hr hR hrdy =>
    hnew m' bt H' hH (hr1.trans hr) hR hrdy

end

lemma settled_row {Q : BMem ι → Prop}
    (hQ : ∀ m, P.Reach m → bt ∈ m.db.txs.rows → e.Matches bt → Q m)
    (hbt : bt ∈ m.db.txs.rows) (hm : e.Matches bt) : Settled P i Q m :=
  fun m' hr hR => hQ m' hR ((rely_txs hr).subset hbt) hm

lemma mem_publish_posting (h : Posts e m.db bt) (ws : List Write)
    (hws : ∀ db : Db, (store.view db ws).txs = db.txs) :
    bt ∈ (m.publish i (ws ++ posting bt)).db.txs.rows := by
  rw [Mem.publish_db, Store.view_append]
  show bt ∈ ((store.view m.db ws).txs.insert bt).rows
  rw [hws, rows_insert h.1]
  exact mem_append_right _ (mem_singleton_self bt)

/-- **`CreditAccount` and `DebitAccount`.** A result is a row of the ledger that matches the
entry. -/
theorem postAccount_spec {kind : String} {R : Except GoError BillingTransaction → BMem ι → Prop}
    (he : Fails P i R m) (hR : ∀ bt m, P.Reach m → bt ∈ m.db.txs.rows → e.Matches bt → R (.ok bt) m)
    (hmay : ∀ m' bt H', P.Rely i ∅ m m' → P.Reach m' → Posts e m'.db bt →
      (∃ x₀, P.allow i .commit ⟨.active x₀, posting bt⟩ m') → P.may i H' (posting bt) m') :
    Idle P i (postAccount kind e e.signed) R m := by
  refine Idle.withTx he fun m1 x hr1 hR1 => ?_
  have he1 := he.stable hr1
  refine lookup_spec (fun _ => rfl) he1 (fun m2 bt _ _ hbt hm => ?_) fun m2 hr2 hR2 => ?_
  · exact InTx.pure (settled_row (hR bt) hbt hm)
  refine post_spec (fun _ => rfl) (fun _ => rfl) (he1.stable hr2) ?_
  intro m3 bt H' hH hr3 hR3 hrdy
  refine InTx.commit ((he1.stable hr2).stable hr3) fun m4 hr4 hR4 ha => ?_
  have hp : Posts e m4.db bt := (hrdy.stable hr4).posts
  have hr : P.Rely i ∅ m m4 :=
    ((hr1.trans hr2).trans hr3).trans (hr4.mono (Set.empty_subset H'))
  exact ⟨fun _ => hmay m4 bt H' hr hR4 hp ⟨x, ha⟩,
    settled_row (hR bt) (mem_publish_posting hp [] fun _ => rfl) hp.matches⟩

lemma idle_wrapping {c : Op α} (context : String) (h : Idle P i c R m)
    (he : ∀ e m, R (.error e) m → R (.error (.wrap context e)) m) :
    Idle P i (wrapping context c) R m := by
  refine Idle.attempt h fun r m _ hs => ?_
  cases r with
  | ok a => exact Idle.pure hs
  | error e => exact Idle.fail (hs.mono fun m _ => he e m)

lemma keeps_wrapping {c : Op α} (context : String) (h : Keeps P i c m) :
    Keeps P i (wrapping context c) m := idle_wrapping context h fun _ _ _ => trivial

lemma reads_wrapping {c : Op α} {Q : α → BMem ι → Prop} (context : String) (h : Reads P i c Q) :
    Reads P i (wrapping context c) Q := by
  intro α f R m he hp
  show Idle P i ((attempt c _).attempt f) R m
  rw [attempt_attempt]
  exact h _ _ _ _ (fun e m' hr hR => he _ m' hr hR) hp

lemma reads_scanRow {β : Type} {row : Op (Option β)} {Q : Option β → BMem ι → Prop}
    (h : Reads P i row Q) : Reads P i (scanRow context row) (fun b m => Q (some b) m) := by
  intro α f R m he hb
  show Idle P i ((Call.bind row _).attempt f) R m
  rw [bind_eq_attempt, attempt_attempt]
  refine h _ _ _ _ he fun a m' hr hR ha => ?_
  cases a with
  | none => exact he _ m' hr hR
  | some b => exact hb b m' hr hR ha

/-! ## claims -/

namespace Claim

def canClaim (id : String) : Claim → Op Bool
  | .gateway g gid => canClaimLocalPayment id g gid
  | .capture order cap => canClaimPayPalCapture id order cap

def hasOther (id : String) : Claim → Op Bool
  | .gateway g gid => hasOtherGatewayPayment id g gid
  | .capture _ cap => hasOtherPayPalCapture id cap

def completeTx (id : String) : Claim → Op Unit
  | .gateway g gid => updatePaymentCompletedTx id g gid
  | .capture order cap => updatePayPalCaptureCompletedTx id order cap

/-- the claim as a function of the repository -/
def tx (id : String) : Claim → Op Bool
  | .gateway g gid => claimGatewayPaymentTx id g gid
  | .capture order cap => claimPayPalCaptureTx id order cap

lemma tx_eq (c : Claim) (id : String) :
    c.tx id = claimTx (query (.advisoryLock c.text) "lock gateway payment id") (c.canClaim id)
      (c.hasOther id) (c.completeTx id) := by
  cases c <;> rfl

end Claim

lemma paymentOf_some {db : Db} {id : String} {g : Gateway} (h : db.paymentOf id g = some p) :
    p.id = id ∧ db.payments.find p.id = some p ∧ p.gateway = g := by
  obtain ⟨hf, hg⟩ := Option.filter_eq_some_iff.mp h
  have hid : p.id = id := key_of_find hf
  rw [hid]
  exact ⟨rfl, hf, by simpa using hg⟩

section
variable {id : String} {f : Bool → Op α} (he : Fails P i R m)
include he

/-- the row lock on the payment is taken whether or not it can be claimed -/
lemma canClaim_spec (h : ∀ m' p H', H ⊆ H' → Lock.payment p.id ∈ H' → P.Rely i H m m' →
    P.Reach m' → p.id = id → m'.db.payments.find p.id = some p → p.gateway = c.gatewayOf →
      InTx P i (f (c.admits p)) R ⟨.active x₀, []⟩ H' m') :
    InTx P i ((c.canClaim id).bind f) R ⟨.active x₀, []⟩ H m := by
  have hlock : ∀ (context : String) (k : Option BillingPayment → Op α),
      k none = fail (errPaymentNotFound id) → (∀ p, k (some p) = f (c.admits p)) →
      InTx P i ((query (.lockPayment id c.gatewayOf) context).bind k) R ⟨.active x₀, []⟩ H m := by
    intro context k hnone hsome
    refine InTx.stmt he fun m' x a ws hr hR _ hx => ?_
    have ha : m'.db.paymentOf id c.gatewayOf = a := by cases hx; rfl
    have hw : ws = [] := by cases hx; rfl
    rw [hw]
    cases a with
    | none =>
      rw [hnone]
      exact InTx.fail ((he _).stable hr)
    | some p =>
      obtain ⟨hid, hf, hg⟩ := paymentOf_some ha
      rw [hsome]
      refine h m' p _ Set.subset_union_left (.inr ?_) hr hR hid hf hg
      show Lock.payment p.id ∈ rowLock (m'.db.paymentOf id c.gatewayOf)
      rw [ha]
      exact mem_singleton_self _
  cases c with
  | gateway g gid | capture order cap =>
    refine InTx.assoc ?_
    exact hlock _ _ rfl fun p => rfl

lemma hasOther_spec (h : ∀ m', P.Rely i H m m' → P.Reach m' →
      InTx P i (f (c.taken m'.db id)) R ⟨.active x₀, []⟩ H m') :
    InTx P i ((c.hasOther id).bind f) R ⟨.active x₀, []⟩ H m := by
  cases c with
  | gateway g gid | capture order cap =>
    refine InTx.read (fun _ _ _ _ _ h => by cases h; exact ⟨rfl, rfl⟩) he ?_
    intro m' x a hr hR _ hx
    cases hx
    exact h m' hr hR

end

/-- an `UPDATE billing_payments` that is the first write of its transaction and must find its row -/
lemma update_spec {q : Stmt} {k : q.Ans → Op α} {g : Op α}
    {row : Db → Option BillingPayment} {u : BillingPayment → BillingPayment}
    (hq : ∀ x₀ x db a ws, exec q x₀ x db = .ok (a, ws) →
      (∃ p, row db = some p ∧ ws = [.putPayment (u p)] ∧ k a = g) ∨ ∃ e, k a = fail e)
    (hl : ∀ x db, locks q x db = rowLock (row db)) (he : Fails P i R m)
    (h : ∀ m' p H', H ⊆ H' → Lock.payment p.id ∈ H' → P.Rely i H m m' → P.Reach m' →
      row m'.db = some p → InTx P i g R ⟨.active x₀, [.putPayment (u p)]⟩ H' m') :
    InTx P i ((query q context).bind k) R ⟨.active x₀, []⟩ H m := by
  refine InTx.stmt he fun m' x a ws hr hR _ hx => ?_
  obtain ⟨p, hp, rfl, hk⟩ | ⟨e, hk⟩ := hq _ _ m'.db _ _ hx
  · rw [hk]
    refine h m' p _ Set.subset_union_left (.inr ?_) hr hR hp
    show Lock.payment p.id ∈ locks q x m'.db
    rw [hl, hp]
    exact mem_singleton_self _
  · rw [hk]
    exact InTx.fail ((he e).stable hr)

lemma completeTx_spec {f : Unit → Op α} (hH : Lock.payment p.id ∈ H)
    (hp : m.db.payments.find p.id = some p) (hg : p.gateway = c.gatewayOf) (he : Fails P i R m)
    (h : ∀ m' H', H ⊆ H' → P.Rely i H m m' → P.Reach m' →
      InTx P i (f ()) R ⟨.active x₀, [.putPayment (c.update p)]⟩ H' m') :
    InTx P i ((c.completeTx p.id).bind f) R ⟨.active x₀, []⟩ H m := by
  -- the row is locked, so the update finds the payment as it was claimed
  have hrow : ∀ m', P.Rely i H m m' → m'.db.paymentOf p.id c.gatewayOf = some p := by
    intro m' hr
    unfold Db.paymentOf
    rw [hr.frame (f := fun db : Db => db.payments.find p.id) hH apply_find_payment, hp,
      Option.filter_some, if_pos (by simpa using hg)]
  have key : ∀ m' p' H', H ⊆ H' → Lock.payment p'.id ∈ H' → P.Rely i H m m' → P.Reach m' →
      m'.db.paymentOf p.id c.gatewayOf = some p' →
      InTx P i (f ()) R ⟨.active x₀, [.putPayment (c.update p')]⟩ H' m' := by
    intro m' p' H' hHH _ hr hR hp'
    rw [hrow m' hr] at hp'
    rw [← Option.some.inj hp']
    exact h m' H' hHH hr hR
  cases c with
  | gateway g gid | capture order cap =>
    refine InTx.assoc ?_
    refine update_spec (fun x₀ x db a ws hx => ?_) (fun _ _ => rfl) he key
    obtain ⟨p', hp', rfl, rfl⟩ | ⟨-, rfl, -⟩ := updated_ok hx
    · exact .inl ⟨p', hp', rfl, rfl⟩
    · exact .inr ⟨_, rfl⟩

/-- the payment `p` is claimed: its row is as it was checked, and at some moment since the two locks
were taken no other payment had the id -/
structure Claimed (P : Protocol store ι) (i : ι) (c : Claim) (p : BillingPayment) (H : Set Lock)
    (m : BMem ι) : Prop where
  row : m.db.payments.find p.id = some p
  gateway : p.gateway = c.gatewayOf
  admits : c.admits p = true
  payment : Lock.payment p.id ∈ H
  advisory : Lock.advisory c.text ∈ H
  free : ∃ m₀, P.Reach m₀ ∧ c.taken m₀.db p.id = false ∧
    P.Rely i {Lock.advisory c.text, Lock.payment p.id} m₀ m

lemma Claimed.stable {m' : BMem ι} (h : Claimed P i c p H m) (hr : P.Rely i H m m') :
    Claimed P i c p H m' := by
  obtain ⟨m₀, h0, ht, hr0⟩ := h.free
  refine ⟨?_, h.gateway, h.admits, h.payment, h.advisory, m₀, h0, ht, hr0.trans (hr.mono ?_)⟩
  · rw [hr.frame (f := fun db : Db => db.payments.find p.id) h.payment apply_find_payment, h.row]
  · rintro l (rfl | rfl)
    · exact h.advisory
    · exact h.payment

/-- **Claims.** Either nothing is written, or the payment is claimed and its update pending. -/
theorem claim_spec {id : String} {f : Bool → Op α} (he : Fails P i R m)
    (hno : ∀ m' H', P.Rely i ∅ m m' → P.Reach m' → InTx P i (f false) R ⟨.active x₀, []⟩ H' m')
    (hyes : ∀ m' p H', P.Rely i ∅ m m' → P.Reach m' → p.id = id → Claimed P i c p H' m' →
      InTx P i (f true) R ⟨.active x₀, [.putPayment (c.update p)]⟩ H' m') :
    InTx P i ((c.tx id).bind f) R ⟨.active x₀, []⟩ ∅ m := by
  rw [c.tx_eq]
  refine InTx.assoc ?_
  refine InTx.stmt he fun m1 x1 _ ws1 hr1 hR1 _ hx1 => ?_
  have hw1 : ws1 = [] := by cases hx1; rfl
  rw [hw1]
  have he1 := he.stable hr1
  refine InTx.assoc ?_
  refine canClaim_spec he1 fun m2 p H2 hH2 hpay hr2 hR2 hid hp hg => ?_
  have hadv : Lock.advisory c.text ∈ H2 := hH2 (.inr (mem_singleton_self _))
  have hr2' : P.Rely i ∅ m m2 := hr1.trans (hr2.mono (Set.empty_subset _))
  rw [bind_ite]
  by_cases hadm : c.admits p = true
  · rw [if_pos hadm]
    refine InTx.assoc ?_
    refine hasOther_spec (he1.stable hr2) fun m3 hr3 hR3 => ?_
    have hr3' : P.Rely i ∅ m m3 := hr2'.trans (hr3.mono (Set.empty_subset _))
    rw [bind_ite]
    by_cases ht : c.taken m3.db id = true
    · rw [if_pos ht]
      exact hno m3 H2 hr3' hR3
    · rw [if_neg ht]
      have hp3 : m3.db.payments.find p.id = some p := by
        rw [hr3.frame (f := fun db : Db => db.payments.find p.id) hpay apply_find_payment, hp]
      refine InTx.assoc ?_
      rw [← hid]
      refine completeTx_spec hpay hp3 hg ((he1.stable hr2).stable hr3) ?_
      intro m4 H4 hH4 hr4 hR4
      have hcl : Claimed P i c p H2 m3 := by
        refine ⟨hp3, hg, hadm, hpay, hadv, m3, hR3, ?_, .refl m3⟩
        rw [hid]
        exact Bool.not_eq_true _ ▸ ht
      have hcl4 := hcl.stable hr4
      exact hyes m4 p H4 (hr3'.trans (hr4.mono (Set.empty_subset _))) hR4 hid
        ⟨hcl4.row, hg, hadm, hH4 hpay, hH4 hadv, hcl4.free⟩
  · rw [if_neg hadm]
    exact hno m2 H2 hr2' hR2

/-! ## whole transactions -/

lemma postTx_commit {w : BillingPayment} {a : α} (he : Fails P i R m)
    (hR : ∀ bt m, P.Reach m → bt ∈ m.db.txs.rows → e.Matches bt → R (.ok a) m)
    (hmay : ∀ m' H' ws, H ⊆ H' → P.Rely i H m m' → P.Reach m' → Enters e m'.db ws →
      P.allow i .commit ⟨.active x₀, .putPayment w :: ws⟩ m' → P.may i H'
        (.putPayment w :: ws) m') :
    InTx P i ((postTx e e.signed).bind fun _ => (commit context).bind fun _ => .pure a) R
      ⟨.active x₀, [.putPayment w]⟩ H m := by
  refine postTx_spec (fun _ => rfl) (fun _ => rfl) he ?_ ?_
  · intro m1 bt hr1 hR1 hbt hm
    refine InTx.commit (he.stable hr1) fun m2 hr2 hR2 ha => ?_
    have hbt2 : bt ∈ m2.db.txs.rows := (rely_txs hr2).subset hbt
    refine ⟨fun _ => hmay m2 H [] subset_rfl (hr1.trans hr2) hR2 (.old bt hbt2 hm) ha, ?_⟩
    exact settled_row (hR bt) ((publish_txs m2 i _).subset hbt2) hm
  · intro m1 bt H' hH hr1 hR1 hrdy
    refine InTx.commit (he.stable hr1) fun m2 hr2 hR2 ha => ?_
    have hp : Posts e m2.db bt := (hrdy.stable hr2).posts
    refine ⟨fun _ => hmay m2 H' (posting bt) hH (hr1.trans (hr2.mono hH)) hR2 (.new bt hp) ha, ?_⟩
    exact settled_row (hR bt) (mem_publish_posting hp [.putPayment w] fun _ => rfl) hp.matches

/-- **`CompleteWithGatewayPaymentIDAndCredit` and `CompletePayPalCaptureAndCredit`.** -/
theorem claimAndCredit_spec {kind : String} {id : String} {R : Except GoError Bool → BMem ι → Prop}
    (he : Fails P i R m) (hno : Settled P i (R (.ok false)) m)
    (hR : ∀ bt m, P.Reach m → bt ∈ m.db.txs.rows → e.Matches bt → R (.ok true) m)
    (hmay : ∀ m' p H' ws, P.Rely i ∅ m m' → P.Reach m' → p.id = id → Claimed P i c p H' m' →
      Enters e m'.db ws →
      (∃ x₀, P.allow i .commit ⟨.active x₀, .putPayment (c.update p) :: ws⟩ m') →
      P.may i H' (.putPayment (c.update p) :: ws) m') :
    Idle P i (claimAndCredit kind (c.tx id) (postTx e e.signed)) R m := by
  refine Idle.withTx he fun m1 x hr1 hR1 => ?_
  refine claim_spec (he.stable hr1) (fun m2 H2 hr2 _ => ?_) ?_
  · exact InTx.pure (hno.stable (hr1.trans hr2))
  · intro m2 p H2 hr2 hR2 hid hcl
    refine postTx_commit ((he.stable hr1).stable hr2) hR ?_
    intro m3 H3 ws hH hr3 hR3 hen ha
    have hcl3 := hcl.stable hr3
    have hr : P.Rely i ∅ m m3 := (hr1.trans hr2).trans (hr3.mono (Set.empty_subset H2))
    exact hmay m3 p H3 ws hr hR3 hid
      ⟨hcl3.row, hcl3.gateway, hcl3.admits, hH hcl3.payment, hH hcl3.advisory, hcl3.free⟩ hen
      ⟨x, ha⟩

lemma markRefundedAndDebit_spec {req : PaymentRefundDebit}
    {R : Except GoError Unit → BMem ι → Prop} (he : Fails P i R m)
    (hR : ∀ bt m, P.Reach m → bt ∈ m.db.txs.rows → req.entry.Matches bt → R (.ok ()) m)
    (hmay : ∀ m' p H' ws, P.Rely i ∅ m m' → P.Reach m' → p.id = req.paymentID →
      m'.db.payments.find p.id = some p → p.customerID = req.customerID →
        Enters req.entry m'.db ws →
      (∃ x₀, P.allow i .commit ⟨.active x₀, .putPayment p.refund :: ws⟩ m') →
      P.may i H' (.putPayment p.refund :: ws) m') : Idle P i (markRefundedAndDebit req) R m := by
  refine Idle.withTx he fun m1 x hr1 hR1 => ?_
  refine InTx.assoc ?_
  refine update_spec (u := BillingPayment.refund)
    (g := (postTx req.entry req.entry.signed).bind fun _ =>
      (commit "commit refund debit tx").bind fun _ => .pure ())
    (fun x₀ x db a ws hx => ?_) (fun _ _ => rfl) (he.stable hr1) ?_
  · obtain ⟨p', hp', rfl, rfl⟩ | ⟨-, rfl, -⟩ := updated_ok hx
    · exact .inl ⟨p', hp', rfl, rfl⟩
    · exact .inr ⟨_, rfl⟩
  · intro m2 p H2 _ hpay hr2 hR2 hrow
    obtain ⟨hf, hc⟩ := Option.filter_eq_some_iff.mp hrow
    have hid : p.id = req.paymentID := key_of_find hf
    refine postTx_commit (e := req.entry) ((he.stable hr1).stable hr2) hR ?_
    intro m3 H3 ws hH hr3 hR3 hen ha
    have hr : P.Rely i ∅ m m3 := (hr1.trans hr2).trans (hr3.mono (Set.empty_subset H2))
    refine hmay m3 p H3 ws hr hR3 hid ?_ (by simpa using hc) hen ⟨x, ha⟩
    rw [hr3.frame (f := fun db : Db => db.payments.find p.id) hpay apply_find_payment, hid]
    exact hf

end

end VirtueStack.Billing
