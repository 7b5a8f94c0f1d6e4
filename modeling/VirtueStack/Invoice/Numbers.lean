import VirtueStack.Invoice.Specs

/-!
# Invoice numbers have no gap

Any number of invoice runs on several controllers, interleaved statement by statement, each free to
fail or crash anywhere. The counter is raised in the transaction that inserts the invoice, so a
duplicate or a crash takes its number back.

* `Numbered db₀ db new` **the invariant**: `new` are the invoices since `db₀`, and they carry the
  numbers after that of `db₀`, in turn.
-/

namespace VirtueStack.Invoice
open Txn Billing Table List

lemma invoiceNumber_inj {n n' : Int} (h : invoiceNumber n = invoiceNumber n') : n = n' := by
  -- a sign is not a digit, so the texts of numbers of different signs differ
  have hsign : ∀ a b : Nat, "INV-" ++ "-" ++ padded 5 a ≠ "INV-" ++ padded 6 b := by
    intro a b h
    have hl := congrArg String.toList h
    simp only [String.toList_append, append_assoc] at hl
    have hmem : '-' ∈ (padded 6 b).toList := by
      rw [← append_cancel_left hl]
      exact mem_cons_self
    exact absurd (isDigit_of_mem_padded hmem) (by decide)
  have hcancel : ∀ {p : String} {w a b : Nat}, p ++ padded w a = p ++ padded w b → a = b :=
    fun h => padded_inj ((String.append_right_inj _).mp h)
  unfold invoiceNumber at h
  split at h <;> split at h
  · have := hcancel h
    omega
  · exact absurd h (hsign _ _)
  · exact absurd h.symm (hsign _ _)
  · have := hcancel h
    omega

/-! ## the invariant -/

structure Numbered (db₀ db : Db) (new : List BillingInvoice) : Prop where
  rows : db.invoices.rows = db₀.invoices.rows ++ new
  last : db.lastNumber = db₀.lastNumber + new.length
  numbers : new.map (·.invoiceNumber) =
    (List.range new.length).map fun k : Nat => invoiceNumber (db₀.lastNumber + 1 + k)

lemma Numbered.refl (db : Db) : Numbered db db [] :=
  ⟨(append_nil _).symm, (Int.add_zero _).symm, rfl⟩

section
variable {db₀ db : Db} {new : List BillingInvoice} (h : Numbered db₀ db new)
include h

lemma Numbered.issue {inv : BillingInvoice} (hc : db.invoices.clash inv = none)
    (hn : inv.invoiceNumber = invoiceNumber (db.lastNumber + 1)) :
    Numbered db₀ (store.view db [.setLastNumber (db.lastNumber + 1), .insertInvoice inv])
    (new ++ [inv]) := by
  refine ⟨?_, ?_, ?_⟩
  · show (db.invoices.insert inv).rows = _
    rw [rows_insert hc, h.rows, append_assoc]
  · show db.lastNumber + 1 = _
    rw [h.last, length_append]
    push_cast
    simp [Int.add_assoc]
  · rw [map_append, h.numbers, length_append, length_singleton, range_succ, map_append]
    congr 1
    show [inv.invoiceNumber] = _
    rw [hn, h.last]
    congr 2
    omega

lemma Numbered.mem (k : Int) :
    invoiceNumber k ∈ new.map (·.invoiceNumber) ↔ db₀.lastNumber < k ∧ k ≤ db.lastNumber := by
  rw [h.numbers, h.last, mem_map]
  constructor
  · rintro ⟨j, hj, he⟩
    have hj := mem_range.mp hj
    obtain rfl := invoiceNumber_inj he
    omega
  · rintro ⟨h1, h2⟩
    refine ⟨(k - db₀.lastNumber - 1).toNat, mem_range.mpr (by omega), ?_⟩
    congr 1
    omega

end

lemma nodup_numbers (db : Db) : (db.invoices.rows.map (·.invoiceNumber)).Nodup := by
  refine nodup_map fun a b hab => ⟨.number a.invoiceNumber, ?_, ?_⟩
  · simp [BillingInvoice.keys]
  · simp [BillingInvoice.keys, hab]

def invoicesFor (db : Db) (customerID : String) (periodStart periodEnd : Int) :
    List BillingInvoice :=
  db.invoices.rows.filter fun inv => inv.customerID = customerID ∧
    inv.periodStart = periodStart ∧ inv.periodEnd = periodEnd

lemma length_invoicesFor (db : Db) (c : String) (lo hi : Int) :
    (invoicesFor db c lo hi).length ≤ 1 := by
  refine length_filter_le_one (k := .period c lo hi) fun inv _ h => ?_
  obtain ⟨rfl, rfl, rfl⟩ := of_decide_eq_true h
  simp [BillingInvoice.keys]

section
variable {ι : Type}

/-- invoices with the next number -/
def numberOk (_ : ι) (cmd : Cmd) (_ : Set Lock) (_ : List Write) (m : BMem ι) : Prop :=
  ∃ inv, cmd = .invoice inv ∧ inv.invoiceNumber = invoiceNumber (m.db.lastNumber + 1)

def numberSystem (ι : Type) (db₀ : Db) : Protocol store ι :=
  system (fun m => m = ⟨db₀, []⟩) numberOk always

lemma numberSystem_reach {db₀ : Db} {m : BMem ι} (h : (numberSystem ι db₀).Reach m) :
    ∃ new, Numbered db₀ m.db new := by
  refine Protocol.Reach.invariant (I := fun m => ∃ new, Numbered db₀ m.db new) ?_ ?_ h
  · rintro m rfl
    exact ⟨[], Numbered.refl db₀⟩
  · rintro m i H ws - ⟨new, hI⟩ - - ⟨cmd, ⟨inv, rfl, hn⟩, hc, -, rfl⟩
    rw [Mem.publish_db]
    exact ⟨new ++ [inv], hI.issue hc hn⟩

variable [DecidableEq ι]

def invoiceStart (db₀ : Db) (calls : ι → InvoiceCall) : State store ι (Except GoError Unit) :=
  State.init db₀ fun i => (calls i).run

/-- **One invoice for a period, and numbers without a gap.** In every state of every interleaving
of invoice runs: a customer has at most one invoice for a period, no number is used twice, and the
invoices since the start carry the numbers after the first value of the counter up to the present
one, each once and in the order of the commits. -/
theorem invoice_numbers (db₀ : Db) (calls : ι → InvoiceCall)
    {s : State store ι (Except GoError Unit)} (h : Reaches always (invoiceStart db₀ calls) s) :
    (∀ c lo hi, (invoicesFor s.mem.db c lo hi).length ≤ 1) ∧
    (s.mem.db.invoices.rows.map (·.invoiceNumber)).Nodup ∧
    ∃ new, Numbered db₀ s.mem.db new ∧ ∀ k, invoiceNumber k ∈ new.map (·.invoiceNumber) ↔
        db₀.lastNumber < k ∧ k ≤ s.mem.db.lastNumber := by
  have hspec : ∀ i m, Keeps (numberSystem ι db₀) i (calls i).run m := by
    refine fun i m => (calls i).run_spec (K := fun _ _ _ _ _ => True)
      (fun _ _ _ _ _ _ _ _ _ => trivial) ?_
    rintro m H ws inv - ⟨c, lo, hi, txs, now, id, t, -, rfl⟩ hef -
    exact ⟨_, ⟨_, rfl, rfl⟩, hef⟩
  obtain ⟨hr, -⟩ := Idle.adequate (R := fun _ _ _ => True) rfl (fun i => hspec i _) h
  obtain ⟨new, hnew⟩ := numberSystem_reach hr
  exact ⟨length_invoicesFor _, nodup_numbers _, new, hnew, hnew.mem⟩

/-- a customer who was charged in January 1970 -/
def oneDebit : Db :=
  { Db.empty with
    txs := empty.insert ⟨"t", "c", .debit, 3, 97, "Small", some refTypeVMUsage, some "v", none, 5⟩ }

def bothControllers : Bool → InvoiceCall := fun _ => .all 1970 1

/-- both controllers find no invoice; the second one to insert gives its number back -/
def bothControllersMoves : List (Bool × Label store) :=
  ([false, true].flatMap (List.replicate 5) ++ [false, true].flatMap (List.replicate 4)).map
    fun i => (i, .ev (.ok { tick 0 (if i then "i1" else "i0") with customers := ["c"] }))

theorem invoice_numbers_race :
    ∃ s, run (invoiceStart oneDebit bothControllers) bothControllersMoves = some s ∧
      s.prog true = some (.ret (.ok ())) ∧
      s.mem.db.invoices.rows.map (·.invoiceNumber) = ["INV-000001"] ∧
      ∃ new, Numbered oneDebit s.mem.db new := by
  have h : (run (invoiceStart oneDebit bothControllers) bothControllersMoves).isSome = true := by
    decide
  refine ⟨_, run_get h, rfl, rfl, ?_⟩
  obtain ⟨-, -, new, hnew, -⟩ :=
    invoice_numbers oneDebit bothControllers (reaches_run (run_get h))
  exact ⟨new, hnew⟩

end

end VirtueStack.Invoice
