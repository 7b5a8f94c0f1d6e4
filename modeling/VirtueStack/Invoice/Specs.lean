import VirtueStack.Billing.Specs
import VirtueStack.Invoice.Service

/-!
# What the invoice service does, in any protocol

* `Issued K m inv` the invoice carries the next number of the counter, and the line items
  of the debits that were listed. `K` is what is known of these since then.
-/

namespace VirtueStack.Invoice
open Txn Billing

/-- the invoice as it stands in the table -/
def numbered (inv : BillingInvoice) (n : Int) (createdAt : Int) : BillingInvoice :=
  { inv with invoiceNumber := invoiceNumber n, createdAt := createdAt }

section
variable {ι : Type}

def Issued (K : String → Int → Int → List BillingTransaction → BMem ι → Prop) (m : BMem ι)
    (inv : BillingInvoice) : Prop :=
  ∃ c lo hi txs now id t, K c lo hi txs m ∧
    inv = numbered (newInvoice c lo hi (aggregateLineItems txs) now id) (m.db.lastNumber + 1) t

variable {α : Type} {P : Protocol store ι} {i : ι} {R : Except GoError α → BMem ι → Prop}
  {x₀ : Inp} {H : Set Lock} {m : BMem ι}

lemma nextInvoiceNumber_spec {f : String → Op α} (he : Fails P i R m)
    (h : ∀ m' H', H ⊆ H' → Lock.counter ∈ H' → P.Rely i H m m' → P.Reach m' →
      m'.db.lastNumber < maxInt32 → InTx P i (f (invoiceNumber (m'.db.lastNumber + 1))) R
        ⟨.active x₀, [.setLastNumber (m'.db.lastNumber + 1)]⟩ H' m') :
    InTx P i (nextInvoiceNumber.bind f) R ⟨.active x₀, []⟩ H m := by
  refine InTx.assoc (InTx.stmt he fun m' x n ws hr hR _ hx => ?_)
  simp only [exec] at hx
  split at hx
  · rename_i hlast
    cases hx
    exact h m' _ Set.subset_union_left (.inr (List.mem_singleton_self _)) hr hR hlast
  · cases hx

lemma insertInvoice_spec {inv : BillingInvoice} {n : Int} {f : Unit → Op α} (he : Fails P i R m)
    (h : ∀ m' H', H ⊆ H' → (∀ k ∈ inv.keys, Lock.invoice k ∈ H') → P.Rely i H m m' → P.Reach m' →
      m'.db.invoices.clash { inv with createdAt := x₀.now } = none →
      InTx P i (f ()) R
      ⟨.active x₀, [.setLastNumber n, .insertInvoice { inv with createdAt := x₀.now }]⟩ H' m') :
    InTx P i ((insertInvoice inv).bind f) R ⟨.active x₀, [.setLastNumber n]⟩ H m := by
  refine InTx.stmt he fun m' x a ws hr hR _ hx => ?_
  simp only [exec] at hx
  split at hx
  · rename_i hclash
    cases hx
    exact h m' _ Set.subset_union_left (fun k hk => .inr (List.mem_map_of_mem hk)) hr hR hclash
  · cases hx

/-- **An invoice is one step.** The counter is locked since its update and the index entries since
the insert, so at the commit both are as they were read. -/
theorem createWithNextNumber_spec {inv : BillingInvoice} {K : BMem ι → Prop} (hK : Settled P i K m)
    (hmay : ∀ m' H ws t, P.Reach m' → K m' →
      (Cmd.invoice (numbered inv (m'.db.lastNumber + 1) t)).Effect m'.db ws →
      (∃ x₀, P.allow i .commit ⟨.active x₀, ws⟩ m') → P.may i H ws m') :
    Keeps P i (createWithNextNumber inv) m := by
  show Keeps P i ((check _).bind _) m
  cases hv : validateInvoiceTotals inv with
  | error e => exact Keeps.ret _
  | ok u =>
    refine Idle.withTx (fun _ _ _ _ => trivial) fun m1 x₀ hr1 _ => ?_
    refine nextInvoiceNumber_spec (fun _ _ _ _ => trivial) fun m2 H2 _ hcounter hr2 _ hlast => ?_
    refine insertInvoice_spec (fun _ _ _ _ => trivial) fun m3 H3 hH hkeys hr3 _ hclash => ?_
    refine InTx.commit (fun _ _ _ _ => trivial) fun m4 hr4 hR4 ha =>
      ⟨fun _ => ?_, fun _ _ _ => trivial⟩
    have hn : m4.db.lastNumber = m2.db.lastNumber :=
      (hr4.frame (f := fun db : Db => db.lastNumber) (hH hcounter) apply_lastNumber).trans
        (hr3.frame (f := fun db : Db => db.lastNumber) hcounter apply_lastNumber)
    have hK4 : K m4 := ((((hK.stable hr1).stable hr2).stable hr3).stable hr4) m4 (.refl m4) hR4
    refine hmay m4 H3 _ x₀.now hR4 hK4 ⟨?_, hn ▸ hlast, ?_⟩ ⟨x₀, ha⟩
    · rw [hn, Table.clash_eq_none]
      intro k hk
      rw [hr4.frame (f := fun db : Db => db.invoices.find k) (hkeys k hk) apply_find_invoice]
      exact Table.clash_eq_none.mp hclash k hk
    · rw [hn]
      rfl

/-! ## the requests -/

variable {K : String → Int → Int → List BillingTransaction → BMem ι → Prop}
  (hK : ∀ c lo hi m, P.Reach m → P.allow i (.run (.txsForPeriod c lo hi (some .debit))) .idle m →
    Settled P i (K c lo hi (m.db.txsForPeriod c lo hi (some .debit))) m)
  (hmay : ∀ m' H ws inv, P.Reach m' → Issued K m' inv → (Cmd.invoice inv).Effect m'.db ws →
    (∃ x₀, P.allow i .commit ⟨.active x₀, ws⟩ m') → P.may i H ws m')

include hK hmay

lemma generateMonthlyInvoice_spec (c : String) (lo hi : Int) :
    Keeps P i (generateMonthlyInvoice c lo hi) m := by
  refine Keeps.reads (reads_wrapping _ (Reads.stmt fun _ _ _ _ _ h => ?_)) fun b m _ => ?_
  · cases h; exact ⟨rfl, rfl⟩
  cases b with
  | true => exact Keeps.ret _
  | false =>
    refine Keeps.reads_rely (reads_wrapping _ (Reads.allowed fun _ _ _ _ _ h => ?_)) ?_
    · cases h; exact ⟨rfl, rfl⟩
    rintro txs m - hR ⟨ha, x, hx⟩
    have hlisted : Settled P i (K c lo hi txs) m := by
      cases hx
      exact hK c lo hi m hR ha
    show Keeps P i (if txs = [] then _ else _) m
    by_cases htxs : txs = []
    · rw [if_pos htxs]
      exact Keeps.ret _
    rw [if_neg htxs]
    refine Keeps.reads_rely (Reads.stmt fun _ _ _ _ _ h => ?_) fun now m hr _ _ => ?_
    · cases h; exact ⟨rfl, rfl⟩
    replace hlisted := hlisted.stable hr
    refine Keeps.reads_rely (Reads.stmt fun _ _ _ _ _ h => ?_) fun id m hr _ _ => ?_
    · cases h; exact ⟨rfl, rfl⟩
    refine Keeps.attempt (createWithNextNumber_spec (hlisted.stable hr)
      fun m' H ws t hR hK' hef ha => ?_) fun r m => ?_
    · exact hmay m' H ws _ hR ⟨c, lo, hi, txs, now, id, t, hK', rfl⟩ hef ha
    · cases r with
      | ok inv => exact Keeps.ret _
      | error e =>
        show Keeps P i (if isDuplicatePeriodInvoiceConflict e = true then _ else _) m
        by_cases hd : isDuplicatePeriodInvoiceConflict e = true
        · rw [if_pos hd]; exact Keeps.ret _
        · rw [if_neg hd]; exact Keeps.ret _

lemma generateInvoices_spec (lo hi : Int) (generated : Nat) (cs : List String) :
    Keeps P i (generateInvoices lo hi generated cs) m := by
  induction cs generalizing m generated with
  | nil => exact Keeps.ret _
  | cons c cs ih =>
    refine Keeps.attempt (generateMonthlyInvoice_spec hK hmay c lo hi) fun r m => ?_
    match r with
    | .ok (some inv) => exact ih (generated + 1)
    | .ok none => exact ih generated
    | .error e => exact ih generated

/-- **A request only creates invoices that are `Issued`.** -/
theorem InvoiceCall.run_spec (call : InvoiceCall) : Keeps P i call.run m := by
  cases call with
  | monthly c lo hi =>
    exact Keeps.bind (generateMonthlyInvoice_spec hK hmay c lo hi) fun _ _ => Keeps.ret _
  | all year month =>
    refine Keeps.bind (Keeps.reads (reads_wrapping _ (Reads.stmt fun _ _ _ _ _ h => ?_))
      fun cs m _ => generateInvoices_spec hK hmay _ _ 0 cs) fun _ _ => Keeps.ret _
    cases h; exact ⟨rfl, rfl⟩

end

end VirtueStack.Invoice
