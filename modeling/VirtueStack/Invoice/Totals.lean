import VirtueStack.Billing.Ledger
import VirtueStack.Invoice.Conservation
import VirtueStack.Invoice.Numbers

/-!
# What an invoice covers

Any number of ledger calls and of invoice runs. A debit carries the time at which its transaction
began, and may be committed after the invoice of its month was made.

* `charged db c lo hi` the debits of a customer in a period, `billed db c lo hi` the invoices;
* `inTime F` the condition: when a run lists the debits of a period, they are all there. `Closing`
  says what they are in the end;
* `Processed F s c lo hi` the period has been invoiced, or a run finds nothing to invoice.
-/

namespace VirtueStack.Invoice
open Txn Billing List

variable {db : Db} {ws : List Write}

/-! ## the charges of a period -/

/-- the row charges the customer in the period `lo ≤ t < hi` -/
def chargesIn (c : String) (lo hi : Int) (bt : BillingTransaction) : Bool :=
  bt.customerID = c ∧ bt.type = .debit ∧ lo ≤ bt.createdAt ∧ bt.createdAt < hi

section
variable (db : Db) (c : String) (lo hi : Int)

def debitsIn : List BillingTransaction := db.txs.rows.filter (chargesIn c lo hi)

def charged : ℤ := amountSum (debitsIn db c lo hi)

def billed : ℤ := ((invoicesFor db c lo hi).map fun inv => inv.total.toInt).sum

lemma txsForPeriod_perm : (db.txsForPeriod c lo hi (some .debit)).Perm (debitsIn db c lo hi) := by
  have h : (fun bt : BillingTransaction => decide (bt.customerID = c ∧ lo ≤ bt.createdAt ∧
      bt.createdAt < hi ∧ ∀ t ∈ some TxType.debit, bt.type = t)) = chargesIn c lo hi := by
    funext bt
    unfold chargesIn
    rw [decide_eq_decide]
    simp only [Option.mem_some_iff, forall_eq']
    tauto
  unfold Db.txsForPeriod
  rw [h]
  exact perm_insertionSort _ _

end

/-! ## runs that list what is there in the end -/

/-- the periods that are invoiced, and what their debits are in the end -/
structure Closing where
  periods : List (Int × Int)
  debits : String → Int → Int → List BillingTransaction

variable {F : Closing}

/-- the write adds no debit to a period that is complete -/
def timely (F : Closing) (db : Db) : Write → Bool
  | .insertTx bt => F.periods.all fun p => chargesIn bt.customerID p.1 p.2 bt →
      debitsIn db bt.customerID p.1 p.2 ≠ F.debits bt.customerID p.1 p.2
  | _ => true

def inTime {ι : Type} (F : Closing) (_ : ι) (r : Req store) (l : Loc store) (m : BMem ι) : Bool :=
  match r with
  | .commit => l.log.all (timely F m.db)
  | .run (.txsForPeriod c lo hi _) =>
    (lo, hi) ∈ F.periods → debitsIn m.db c lo hi = F.debits c lo hi
  | _ => true

/-- an invoice of a complete period, with its total -/
def Right (F : Closing) (db : Db) (inv : BillingInvoice) : Prop :=
  (inv.periodStart, inv.periodEnd) ∈ F.periods →
    debitsIn db inv.customerID inv.periodStart inv.periodEnd =
      F.debits inv.customerID inv.periodStart inv.periodEnd ∧
    inv.total.toInt = amountSum (F.debits inv.customerID inv.periodStart inv.periodEnd)

/-! ## a step -/

lemma mem_inserted {bt : BillingTransaction} (h : bt ∈ inserted ws) : .insertTx bt ∈ ws := by
  obtain ⟨w, hw, he⟩ := mem_filterMap.mp h
  cases w with
  | insertTx bt' => cases he; exact hw
  | _ => cases he

lemma invoices_of_effect {cmd : Cmd} (h : cmd.Effect db ws) :
    (∃ inv, cmd = .invoice inv) ∨ (store.view db ws).invoices = db.invoices := by
  have hen : ∀ {e : Entry} {w : BillingPayment} {ws' : List Write}, Enters e db ws' →
      (store.view db (.putPayment w :: ws')).invoices = db.invoices := by
    intro e w ws' hen
    cases hen <;> rfl
  cases cmd with
  | post e => obtain ⟨bt, -, rfl⟩ := h; exact .inr rfl
  | settle c p e => obtain ⟨-, -, -, ws', he, rfl⟩ := h; exact .inr (hen he)
  | refund p e => obtain ⟨-, ws', he, rfl⟩ := h; exact .inr (hen he)
  | setStatus p status gid | createPayment p | checkpoint c => obtain ⟨-, rfl⟩ := h; exact .inr rfl
  | invoice inv => exact .inl ⟨inv, rfl⟩
  | gatewayRefund r => rw [show ws = [.gatewayRefund r] from h]; exact .inr rfl

section
variable {cmd : Cmd} (hef : cmd.Effect db ws)
include hef

lemma invoices_step : ∃ new, (store.view db ws).invoices.rows = db.invoices.rows ++ new ∧
    ∀ inv ∈ new, cmd = .invoice inv := by
  rcases invoices_of_effect hef with ⟨inv', rfl⟩ | hsame
  · obtain ⟨hc, -, rfl⟩ := hef
    exact ⟨[inv'], Table.rows_insert hc, fun inv h => by rw [mem_singleton.mp h]⟩
  · exact ⟨[], by rw [hsame, append_nil], fun _ h => by cases h⟩

variable (hw : ∀ w ∈ ws, timely F db w = true)
include hw

lemma debitsIn_step {c : String} {lo hi : Int} (hp : (lo, hi) ∈ F.periods)
    (h : debitsIn db c lo hi = F.debits c lo hi) :
    debitsIn (store.view db ws) c lo hi = F.debits c lo hi := by
  have hnone : (inserted ws).filter (chargesIn c lo hi) = [] := by
    refine filter_eq_nil_iff.mpr fun bt hbt hin => ?_
    obtain rfl : bt.customerID = c := (of_decide_eq_true hin).1
    exact of_decide_eq_true (all_eq_true.mp (hw _ (mem_inserted hbt)) _ hp) hin h
  unfold debitsIn
  rw [rows_of_effect hef, filter_append, hnone, append_nil]
  exact h

lemma right_step (hI : ∀ inv ∈ db.invoices.rows, Right F db inv)
    (hnew : ∀ inv, cmd = .invoice inv → Right F db inv) :
    ∀ inv ∈ (store.view db ws).invoices.rows, Right F (store.view db ws) inv := by
  intro inv hinv
  obtain ⟨new, hrows, hcmd⟩ := invoices_step hef
  have hold : Right F db inv := by
    rw [hrows] at hinv
    rcases mem_append.mp hinv with hinv | hinv
    · exact hI inv hinv
    · exact hnew inv (hcmd inv hinv)
  exact fun hp => ⟨debitsIn_step hef hw hp (hold hp).1, (hold hp).2⟩

end

section
variable {c : String} {p : Int × Int} (h : ∀ inv ∈ db.invoices.rows, Right F db inv)
  (hp : p ∈ F.periods)
include h hp

lemma right_of_mem {inv : BillingInvoice} (hinv : inv ∈ invoicesFor db c p.1 p.2) :
    debitsIn db c p.1 p.2 = F.debits c p.1 p.2 ∧
      inv.total.toInt = amountSum (F.debits c p.1 p.2) := by
  obtain ⟨hmem, hof⟩ := mem_filter.mp hinv
  obtain ⟨rfl, hlo, hhi⟩ := of_decide_eq_true hof
  have hright := h inv hmem
  unfold Right at hright
  rw [hlo, hhi] at hright
  exact hright hp

lemma billed_eq_charged (hall : debitsIn db c p.1 p.2 = F.debits c p.1 p.2)
    (hnone : invoicesFor db c p.1 p.2 = [] → debitsIn db c p.1 p.2 = []) :
    billed db c p.1 p.2 = charged db c p.1 p.2 := by
  unfold billed charged
  cases hinv : invoicesFor db c p.1 p.2 with
  | nil =>
    rw [hnone hinv]
    rfl
  | cons inv rest =>
    have hlen := length_invoicesFor db c p.1 p.2
    rw [hinv, length_cons] at hlen
    obtain rfl : rest = [] := length_eq_zero_iff.mp (by omega)
    obtain ⟨-, htotal⟩ := right_of_mem h hp (hinv ▸ mem_singleton_self inv)
    rw [hall, ← htotal]
    exact Int.add_zero _

end

/-! ## ledger calls and invoice runs -/

inductive MonthlyJob where
  | ledger (call : LedgerCall)
  | invoices (year month : Int)

def MonthlyJob.run : MonthlyJob → Op Unit
  | .ledger call => do
    let _ ← call.run
    return ()
  | .invoices year month => (InvoiceCall.all year month).run

section
variable {ι : Type}

/-- any step whose writes are timely, with invoices that are right -/
def totalsOk (F : Closing) (_ : ι) (cmd : Cmd) (_ : Set Lock) (ws : List Write) (m : BMem ι) :
    Prop :=
  (∀ w ∈ ws, timely F m.db w = true) ∧ ∀ inv, cmd = .invoice inv → Right F m.db inv

def totalsSystem (ι : Type) (F : Closing) (db₀ : Db) : Protocol store ι :=
  system (fun m => m = ⟨db₀, []⟩) (totalsOk F) fun i r l m => inTime F i r l m = true

variable {m : BMem ι} {db₀ : Db} {i : ι}

lemma totalsSystem_reach (h₀ : ∀ inv ∈ db₀.invoices.rows, Right F db₀ inv)
    (h : (totalsSystem ι F db₀).Reach m) : ∀ inv ∈ m.db.invoices.rows, Right F m.db inv := by
  refine h.invariant (I := fun m : BMem ι => ∀ inv ∈ m.db.invoices.rows, Right F m.db inv) ?_ ?_
  · rintro m rfl
    exact h₀
  · rintro m i H ws - hI - - ⟨cmd, ⟨hw, hnew⟩, hef⟩
    rw [Mem.publish_db]
    exact right_step hef hw hI hnew

/-- the invoices stay, and so does what a complete period comes to -/
def GrownOf (F : Closing) (c : String) (lo hi : Int) (m m' : BMem ι) : Prop :=
  m.db.invoices.rows <+: m'.db.invoices.rows ∧
    (debitsIn m.db c lo hi = F.debits c lo hi → debitsIn m'.db c lo hi = F.debits c lo hi)

lemma grownOf_step {c : String} {lo hi : Int} {H : Set Lock} (hp : (lo, hi) ∈ F.periods)
    (hmay : (totalsSystem ι F db₀).may i H ws m) : GrownOf F c lo hi m (m.publish i ws) := by
  obtain ⟨cmd, ⟨hw, -⟩, hef⟩ := hmay
  obtain ⟨new, hrows, -⟩ := invoices_step hef
  unfold GrownOf
  rw [Mem.publish_db]
  exact ⟨⟨new, hrows.symm⟩, debitsIn_step hef hw hp⟩

/-- the debits that a session has listed are all that there will be -/
def Listed (F : Closing) (c : String) (lo hi : Int) (txs : List BillingTransaction)
    (m : BMem ι) : Prop :=
  (lo, hi) ∈ F.periods → debitsIn m.db c lo hi = F.debits c lo hi ∧ txs.Perm (F.debits c lo hi)

lemma settled_listed {c : String} {lo hi : Int}
    (ha : inTime F i (.run (.txsForPeriod c lo hi (some .debit))) .idle m = true) :
    Settled (totalsSystem ι F db₀) i
      (Listed F c lo hi (m.db.txsForPeriod c lo hi (some .debit))) m := by
  intro m' hr _ hp
  have hall : debitsIn m.db c lo hi = F.debits c lo hi := of_decide_eq_true ha hp
  refine ⟨hr.stable (I := fun m => debitsIn m.db c lo hi = F.debits c lo hi) ?_ hall,
    hall ▸ txsForPeriod_perm m.db c lo hi⟩
  exact fun m j H ws _ _ _ hmay _ => (grownOf_step hp hmay).2

lemma timely_of_commit (h : ∃ x₀, inTime F i .commit ⟨.active x₀, ws⟩ m = true) :
    ∀ w ∈ ws, timely F m.db w = true := by
  obtain ⟨x₀, h⟩ := h
  exact all_eq_true.mp h

lemma MonthlyJob.run_spec (hcharges : ∀ p ∈ F.periods, ∀ c, Charges (F.debits c p.1 p.2))
    (hm : m.Silent i) (job : MonthlyJob) : Keeps (totalsSystem ι F db₀) i job.run m := by
  cases job with
  | ledger call =>
    have hcall : Idle (totalsSystem ι F db₀) i call.run (call.Post i) m := by
      refine LedgerCall.run_spec (fun m' cmd ws H _ hc hef ha =>
        ⟨cmd, ⟨timely_of_commit ha, fun inv he => ?_⟩, hef⟩) hm
      subst he
      obtain hc | ⟨_, _, hc⟩ | ⟨_, hc⟩ := hc <;> cases hc
    exact Keeps.bind (hcall.mono fun _ _ _ _ => trivial) fun _ _ => Keeps.ret _
  | invoices year month =>
    refine InvoiceCall.run_spec (fun c lo hi m _ ha => settled_listed ha)
      (fun m' H ws inv _ hi hef ha => ?_) (.all year month)
    obtain ⟨c, lo, hi, txs, now, id, t, hlisted, rfl⟩ := hi
    refine ⟨_, ⟨timely_of_commit ha, fun inv he => ?_⟩, hef⟩
    cases he
    intro hp
    obtain ⟨hall, hperm⟩ := hlisted hp
    have htotal := ((hcharges _ hp c).perm hperm.symm).toInt_lineItemTotal ⟨_, .refl _, rfl⟩
    exact ⟨hall, htotal.trans (amountSum_perm hperm)⟩

variable [DecidableEq ι]

def monthlyStart (db₀ : Db) (jobs : ι → MonthlyJob) : State store ι (Except GoError Unit) :=
  State.init db₀ fun i => (jobs i).run

/-- an invoice of the period is there, or a session lists its debits and there are none -/
def Processed (F : Closing) (s : State store ι (Except GoError Unit)) (c : String) (lo hi : Int) :
    Prop :=
  invoicesFor s.mem.db c lo hi ≠ [] ∨ debitsIn s.mem.db c lo hi = [] ∧ ∃ i k,
    s.prog i = some (.req (.run (.txsForPeriod c lo hi (some .debit))) k) ∧
    Allowed (fun i r l m => inTime F i r l m = true) s i

/-- **Every charge is invoiced, if no run lists the debits of a period before they are all there.**
From the state on in which a customer is invoiced for a period, or in which a run finds nothing to
invoice, what is billed is what is charged. -/
theorem charges_invoiced (db₀ : Db) (F : Closing)
    (hcharges : ∀ p ∈ F.periods, ∀ c, Charges (F.debits c p.1 p.2))
    (h₀ : ∀ inv ∈ db₀.invoices.rows, Right F db₀ inv) (jobs : ι → MonthlyJob)
    {s₁ s : State store ι (Except GoError Unit)}
    (h₁ : Reaches (fun i r l m => inTime F i r l m = true) (monthlyStart db₀ jobs) s₁)
    (h : Reaches (fun i r l m => inTime F i r l m = true) s₁ s) :
    ∀ p ∈ F.periods, ∀ c, Processed F s₁ c p.1 p.2 →
      billed s.mem.db c p.1 p.2 = charged s.mem.db c p.1 p.2 := by
  intro p hp c hc
  have hjobs : ∀ i, Keeps (totalsSystem ι F db₀) i (jobs i).run ⟨db₀, []⟩ :=
    fun i => (jobs i).run_spec hcharges fun b hb => by cases hb
  have hright := fun s hs => totalsSystem_reach h₀ (Idle.adequate rfl hjobs hs (s := s)).1
  obtain ⟨hrows, hkept⟩ := Idle.adequate_rel (r := GrownOf F c p.1 p.2) rfl hjobs
    (fun _ => ⟨prefix_rfl, id⟩) (fun _ _ _ h h' => ⟨h.1.trans h'.1, h'.2 ∘ h.2⟩)
    (fun m i H ws _ hmay => grownOf_step hp hmay) h₁ h
  have hall : debitsIn s₁.mem.db c p.1 p.2 = F.debits c p.1 p.2 := by
    rcases hc with hinv | ⟨-, i, k, hk, ha⟩
    · obtain ⟨inv, hinv⟩ := exists_mem_of_ne_nil _ hinv
      exact (right_of_mem (hright s₁ h₁) hp hinv).1
    · exact of_decide_eq_true (ha _ k hk) hp
  refine billed_eq_charged (hright s (h₁.trans h)) hp (hkept hall) fun hnil => ?_
  rcases hc with hinv | ⟨hnone, -⟩
  · have hpre : invoicesFor s₁.mem.db c p.1 p.2 <+: invoicesFor s.mem.db c p.1 p.2 := hrows.filter _
    rw [hnil, prefix_nil] at hpre
    exact absurd hpre hinv
  · rw [hkept hall, ← hall, hnone]

/-- a charge in January 1970 -/
def januaryCharge : BillingTransaction :=
  ⟨"t", "c", .debit, 3, 97, "Small", some refTypeVMUsage, some "v", none, 5⟩

/-- a customer with a charge, who is charged once more -/
def januaryDebit : Db := { oneCustomer with txs := Table.empty.insert januaryCharge }

def debitAndInvoices : Bool → MonthlyJob
  | false => .ledger (.debitAccount "c" 4 "Setup" none none none)
  | true => .invoices 1970 1

/-- the moves of the two sessions, each with the time at which it is made -/
def movesAt (times : List (Bool × Int)) : List (Bool × Label store) :=
  times.map fun p =>
    (p.1, .ev (.ok { tick p.2 (if p.1 then "i" else "t1") with customers := ["c"] }))

/-- the debit is committed in January, and the invoice is made in February -/
def promptDebit : List (Bool × Int) :=
  replicate 5 (false, monthStart 1970 2 - 1) ++ replicate 9 (true, monthStart 1970 2)

def bothCharges : Closing where
  periods := [(monthStart 1970 1, monthStart 1970 2)]
  debits c _ _ := if c = "c" then [januaryCharge,
    ⟨"t1", "c", .debit, 4, 96, "Setup", none, none, none, monthStart 1970 2 - 1⟩] else []

theorem charges_invoiced_prompt :
    ∃ s, run (monthlyStart januaryDebit debitAndInvoices) (movesAt promptDebit) = some s ∧
      s.mem.db.invoices.rows.map (·.total) = [7] ∧
      billed s.mem.db "c" (monthStart 1970 1) (monthStart 1970 2) =
        charged s.mem.db "c" (monthStart 1970 1) (monthStart 1970 2) := by
  have h :
      (run (monthlyStart januaryDebit debitAndInvoices) (movesAt promptDebit)).isSome = true := by
    decide
  have hcharges : ∀ p ∈ bothCharges.periods, ∀ c, Charges (bothCharges.debits c p.1 p.2) := by
    intro p _ c
    show Charges (if c = "c" then _ else [])
    split <;> exact ⟨by decide, by decide⟩
  refine ⟨_, run_get h, rfl, ?_⟩
  exact charges_invoiced januaryDebit bothCharges hcharges (fun _ h => by cases h) debitAndInvoices
    (reaches_checked (run_get h) (by decide)) .refl _ (mem_singleton_self _) "c"
    (.inl (by decide +revert))

/-- the transaction of the debit begins in January and is committed in February, after the
invoice -/
def lateDebit : List (Bool × Int) :=
  replicate 4 (false, monthStart 1970 2 - 1) ++ replicate 9 (true, monthStart 1970 2) ++
    [(false, monthStart 1970 2 + 1)]

/-- **A charge is lost.** The clock never goes back and the invoice run starts after the end of the
month, but the debit that is committed last is in no invoice. -/
theorem charge_not_invoiced : lateDebit.Pairwise (fun p q => p.2 ≤ q.2) ∧
    (∀ p ∈ lateDebit, p.1 = true → monthStart 1970 2 ≤ p.2) ∧
    ∃ s, Reaches always (monthlyStart januaryDebit debitAndInvoices) s ∧
      run (monthlyStart januaryDebit debitAndInvoices) (movesAt lateDebit) = some s ∧
      s.mem.db.invoices.rows.map (fun inv => (inv.customerID, inv.total.toInt)) = [("c", 3)] ∧
      billed s.mem.db "c" (monthStart 1970 1) (monthStart 1970 2) = 3 ∧
      charged s.mem.db "c" (monthStart 1970 1) (monthStart 1970 2) = 7 := by
  have h :
    (run (monthlyStart januaryDebit debitAndInvoices) (movesAt lateDebit)).isSome = true := by
    decide
  exact ⟨by decide, by decide, _, reaches_run (run_get h), run_get h, rfl, rfl, rfl⟩

end

end VirtueStack.Invoice
