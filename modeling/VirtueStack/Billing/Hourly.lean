import VirtueStack.Billing.Scheduler
import VirtueStack.Billing.Ledger

/-!
# A VM is charged once an hour

Any number of billing cycles, interleaved statement by statement, each free to fail or crash
anywhere, with VMs and plans that change all the time. The debit and the checkpoint are two
transactions, so a crash between them leaves a debit without a checkpoint; the next cycle then finds
the debit under its key.

* `HourlyOnce` **the invariant**: every new row is such a debit, and every checkpoint has one.
-/

namespace VirtueStack.Billing
open Txn List

lemma eq_of_append_cons {α : Type} {a : α} {x y u v : List α} (hu : a ∉ u) (hv : a ∉ v)
    (h : x ++ a :: u = y ++ a :: v) : x = y := by
  obtain ⟨w, rfl, hw⟩ | ⟨w, rfl, hw⟩ := append_eq_append_iff.mp h
  · cases w with
    | nil => simp
    | cons b w =>
      obtain ⟨-, rfl⟩ := List.cons.inj hw
      exact absurd (mem_append_right w mem_cons_self) hu
  · cases w with
    | nil => simp
    | cons b w =>
      obtain ⟨-, rfl⟩ := List.cons.inj hw
      exact absurd (mem_append_right w mem_cons_self) hv

/-- the text of the hour has no colon, so the last colon ends the VM -/
lemma hourlyKey_inj {vm vm' : String} {t t' : Int} (h : hourlyKey vm t = hourlyKey vm' t') :
    vm = vm' := by
  have hl := congrArg String.toList h
  simp only [hourlyKey, String.toList_append, append_assoc] at hl
  exact String.toList_inj.mp (eq_of_append_cons (colon_notMem_hourText t)
    (colon_notMem_hourText t') (append_cancel_left hl))

/-! ## the invariant -/

/-- the debit of the owner of `vm` for the hour -/
structure HourlyDebit (owner : String → String) (vm : String) (chargeHour : Int)
    (bt : BillingTransaction) : Prop where
  customerID : bt.customerID = owner vm
  type : bt.type = .debit
  idempotencyKey : bt.idempotencyKey = some (hourlyKey vm chargeHour)

/-- the checkpoint names the row of its debit and its amount -/
def Recorded (owner : String → String) (db : Db) (c : BillingVMCheckpoint) : Prop :=
  ∃ bt ∈ db.txs.rows, HourlyDebit owner c.vmID c.chargeHour bt ∧ c.transactionID = some bt.id ∧
    c.amount = bt.amount

structure HourlyOnce (db₀ db : Db) : Prop where
  owner : db.vmCustomer = db₀.vmCustomer
  books : Balanced db₀ db
  charges : ∀ bt ∈ db.txs.rows, bt ∈ db₀.txs.rows ∨
    ∃ vm chargeHour, HourlyDebit db₀.vmCustomer vm chargeHour bt
  checkpoints : ∀ c ∈ db.checkpoints.rows, Recorded db₀.vmCustomer db c

def hourlyEntry (owner : String → String) (vm : String) (chargeHour : Int) (amount : Int64)
    (description : String) : Entry :=
  debitEntry (owner vm) amount description (some refTypeVMUsage) (some vm)
    (some (hourlyKey vm chargeHour))

variable {chargeHour : Int} {amount : Int64} {vm description : String} {bt : BillingTransaction}

lemma hourlyDebit_of_matches {owner : String → String}
    (h : (hourlyEntry owner vm chargeHour amount description).Matches bt) :
    HourlyDebit owner vm chargeHour bt := ⟨h.customerID, h.type, h.idempotencyKey⟩

section
variable {ι : Type}

/-- debits of the owner, and checkpoints of debits that are in the ledger -/
def hourlyOk (owner : String → String) (_ : ι) (cmd : Cmd) (_ : Set Lock) (_ : List Write)
    (m : BMem ι) : Prop :=
  (∃ vm chargeHour amount description,
    cmd = .post (hourlyEntry owner vm chargeHour amount description)) ∨
  ∃ c, cmd = .checkpoint c ∧ Recorded owner m.db c

def hourlySystem (ι : Type) (db₀ : Db) : Protocol store ι :=
  system (fun m => m = ⟨db₀, []⟩) (hourlyOk db₀.vmCustomer) always

variable {db₀ db : Db}

lemma HourlyOnce.post (h : HourlyOnce db₀ db)
    (hbt : Posts (hourlyEntry db₀.vmCustomer vm chargeHour amount description) db bt) :
    HourlyOnce db₀ (store.view db (posting bt)) := by
  have hrows : (store.view db (posting bt)).txs.rows = db.txs.rows ++ [bt] :=
    Table.rows_insert hbt.1
  refine ⟨h.owner, h.books.step (LedgerStep.of_posts hbt [] rfl rfl rfl), fun x hx => ?_,
    fun c hc => ?_⟩
  · rw [hrows, mem_append, mem_singleton] at hx
    rcases hx with hx | rfl
    · exact h.charges x hx
    · exact .inr ⟨vm, chargeHour, hourlyDebit_of_matches hbt.matches⟩
  · obtain ⟨x, hx, hd⟩ := h.checkpoints c hc
    exact ⟨x, hrows ▸ mem_append_left _ hx, hd⟩

lemma HourlyOnce.checkpoint (h : HourlyOnce db₀ db) {c : BillingVMCheckpoint}
    (hc : db.checkpoints.clash c = none) (hr : Recorded db₀.vmCustomer db c) :
    HourlyOnce db₀ (store.view db [.insertCheckpoint c]) := by
  refine ⟨h.owner, h.books.congr rfl fun _ => rfl, h.charges, fun c' hc' => ?_⟩
  have hrows : (store.view db [.insertCheckpoint c]).checkpoints.rows =
    db.checkpoints.rows ++ [c] :=
    Table.rows_insert hc
  rw [hrows, mem_append, mem_singleton] at hc'
  rcases hc' with hc' | rfl
  · exact h.checkpoints c' hc'
  · exact hr

lemma hourlySystem_reach (hc : db₀.checkpoints.rows = []) {m : BMem ι}
    (h : (hourlySystem ι db₀).Reach m) : HourlyOnce db₀ m.db := by
  refine Protocol.Reach.invariant (I := fun m => HourlyOnce db₀ m.db) ?_ ?_ h
  · rintro m rfl
    refine ⟨rfl, Balanced.refl db₀, fun bt hb => .inl hb, fun c h => ?_⟩
    rw [hc] at h
    cases h
  · rintro m i H ws - hI - - ⟨cmd, ⟨vm, t, a, d, rfl⟩ | ⟨c, rfl, hr⟩, hef⟩
    · obtain ⟨bt, hbt, rfl⟩ := hef
      rw [Mem.publish_db]
      exact hI.post hbt
    · obtain ⟨hclash, rfl⟩ := hef
      rw [Mem.publish_db]
      exact hI.checkpoint hclash hr

/-! ## the cycles keep the invariant -/

section
variable {db₀ : Db} {i : ι}

variable {m : BMem ι}

lemma ledgerDebitAccount_hourly (vm : String) (chargeHour : Int) (amount : Int64)
    (description : String) :
    Idle (hourlySystem ι db₀) i (ledgerDebitAccount (db₀.vmCustomer vm) amount description
      (some refTypeVMUsage) (some vm) (some (hourlyKey vm chargeHour)))
      (fun r m => ∀ bt, r = .ok bt → bt ∈ m.db.txs.rows ∧
        HourlyDebit db₀.vmCustomer vm chargeHour bt ∧ bt.amount = amount) m := by
  unfold ledgerDebitAccount
  by_cases ha : amount ≤ 0
  · rw [if_pos ha]
    exact Idle.fail fun _ _ _ _ h => by cases h
  · rw [if_neg ha]
    refine idle_wrapping _ ?_ fun _ _ _ _ h => by cases h
    refine postAccount_spec (e := hourlyEntry db₀.vmCustomer vm chargeHour amount description)
      (fun _ _ _ _ _ h => by cases h) ?_ fun m' bt H' _ _ hp _ => ?_
    · rintro bt m - hb hm bt' hbt'
      cases hbt'
      exact ⟨hb, hourlyDebit_of_matches hm, hm.amount⟩
    · exact ⟨.post _, .inl ⟨vm, chargeHour, amount, description, rfl⟩, bt, hp, rfl⟩

lemma recordCheckpoint_hourly {vm : String} {id : Option String}
    (h : Recorded db₀.vmCustomer m.db ⟨vm, chargeHour, amount, id⟩) :
    Keeps (hourlySystem ι db₀) i (recordCheckpoint vm chargeHour amount id) m := by
  rw [← Call.attempt_ret (recordCheckpoint _ _ _ _)]
  refine Idle.stmt (fun _ _ _ _ => Keeps.ret _) fun m' x a ws hr _ _ hx =>
    ⟨fun hne => ?_, Keeps.ret _⟩
  by_cases hclash : m'.db.checkpoints.clash ⟨vm, chargeHour, amount, id⟩ = none
  · cases hx
    refine ⟨.checkpoint ⟨vm, chargeHour, amount, id⟩, .inr ⟨_, rfl, ?_⟩, hclash, if_pos hclash⟩
    obtain ⟨bt, hb, hd⟩ := h
    exact ⟨bt, (rely_txs hr).subset hb, hd⟩
  · cases hx
    exact absurd (if_neg hclash) hne

lemma chargeVM_hourly {vm : VM} (hvm : vm.customerID = db₀.vmCustomer vm.id)
    (chargeHour : Int) : Keeps (hourlySystem ι db₀) i (chargeVM vm chargeHour) m := by
  refine Keeps.reads (reads_wrapping _ (Reads.stmt fun _ _ _ _ _ h => ?_)) fun b m _ => ?_
  · cases h; exact ⟨rfl, rfl⟩
  cases b with
  | true => exact Keeps.ret _
  | false =>
    show Keeps _ i (if vm.status ≠ .running ∧ vm.status ≠ .stopped then _ else _) m
    by_cases hs : vm.status ≠ .running ∧ vm.status ≠ .stopped
    · rw [if_pos hs]
      exact Keeps.ret _
    rw [if_neg hs]
    refine Keeps.reads (reads_wrapping _ (reads_scanRow (Reads.stmt fun _ _ _ _ _ h => ?_)))
      fun plan m _ => ?_
    · cases h; exact ⟨rfl, rfl⟩
    show Keeps _ i (if plan.effectiveHourlyRate vm.status = 0 then _ else _) m
    by_cases hz : plan.effectiveHourlyRate vm.status = 0
    · rw [if_pos hz]
      exact Keeps.ret _
    rw [if_neg hz, hvm]
    refine Idle.bind (idle_wrapping _ (ledgerDebitAccount_hourly vm.id chargeHour _ _) ?_) ?_
      fun _ _ _ _ _ _ _ => trivial
    · exact fun _ _ _ _ h => by cases h
    · intro bt m hR hs
      obtain ⟨hb, hd, ha⟩ := hs m (.refl m) hR bt rfl
      refine Keeps.bind (keeps_wrapping _ (recordCheckpoint_hourly ⟨bt, hb, hd, rfl, ha.symm⟩)) ?_
      exact fun _ _ => Keeps.ret _

lemma chargeVMs_hourly {vms : List VM} (hvms : ∀ vm ∈ vms, vm.customerID = db₀.vmCustomer vm.id)
    (chargeHour : Int) : Keeps (hourlySystem ι db₀) i (chargeVMs chargeHour vms) m := by
  induction vms generalizing m with
  | nil => exact Keeps.ret _
  | cons vm vms ih =>
    exact Keeps.attempt (chargeVM_hourly (hvms vm mem_cons_self) chargeHour) fun _ m =>
      ih fun v hv => hvms v (mem_cons_of_mem vm hv)

lemma checkLowBalances_hourly (checked : List String) (vms : List VM) :
    Keeps (hourlySystem ι db₀) i (checkLowBalances checked vms) m := by
  have hread : ∀ c m, Keeps (hourlySystem ι db₀) i (ledgerGetBalance c) m := by
    intro c m
    refine keeps_wrapping _ (Keeps.reads (Reads.stmt fun _ _ _ _ _ h => ?_) fun a m _ => ?_)
    · cases h; exact ⟨rfl, rfl⟩
    · cases a <;> exact Keeps.ret _
  induction vms generalizing m checked with
  | nil => exact Keeps.ret _
  | cons vm vms ih =>
    show Keeps _ i (if vm.customerID ∈ checked then _ else _) m
    by_cases hc : vm.customerID ∈ checked
    · rw [if_pos hc]
      exact ih checked
    · rw [if_neg hc]
      exact Keeps.attempt (hread _ m) fun _ m => ih _

lemma billable_customer {db : Db} {vms : List VM} :
    ∀ vm ∈ db.billable vms, vm.customerID = db.vmCustomer vm.id := by
  intro vm hvm
  obtain ⟨v, -, rfl⟩ := mem_map.mp hvm
  rfl

lemma billingCycle_hourly (hc : db₀.checkpoints.rows = []) :
    Keeps (hourlySystem ι db₀) i billingCycle m := by
  refine Keeps.reads (Reads.stmt fun _ _ _ _ _ h => ?_) fun now m _ => ?_
  · cases h; exact ⟨rfl, rfl⟩
  refine Idle.read (fun _ _ _ _ _ h => ?_) (fun _ _ _ _ => Keeps.ret _) fun m' x vms _ hR _ hx => ?_
  · cases h; exact ⟨rfl, rfl⟩
  cases hx
  refine Keeps.bind (chargeVMs_hourly (fun vm hvm => ?_) _) fun _ _ => checkLowBalances_hourly _ _
  rw [← (hourlySystem_reach hc hR).owner]
  exact billable_customer vm hvm

lemma runBillingCycle_hourly (hc : db₀.checkpoints.rows = []) :
    Keeps (hourlySystem ι db₀) i runBillingCycle m := by
  refine Keeps.attempt (Reads.keeps (Reads.stmt fun _ _ _ _ _ h => ?_)) fun r m => ?_
  · cases h; exact ⟨rfl, rfl⟩
  match r with
  | .ok true =>
    refine Keeps.attempt (billingCycle_hourly hc) fun _ m => ?_
    refine Keeps.attempt (Reads.keeps (Reads.stmt fun _ _ _ _ _ h => ?_)) fun _ _ => Keeps.ret _
    cases h; exact ⟨rfl, rfl⟩
  | .ok false => exact Keeps.ret _
  | .error _ => exact Keeps.ret _

end

def rowsWithKey (db : Db) (key : String) : List BillingTransaction :=
  db.txs.rows.filter fun bt => bt.idempotencyKey = some key

lemma HourlyOnce.rows (h : HourlyOnce db₀ db)
    (hk : ∀ bt ∈ db₀.txs.rows, ∀ vm t, bt.idempotencyKey ≠ some (hourlyKey vm t)) (vm : String)
    (t : Int) : (rowsWithKey db (hourlyKey vm t)).length ≤ 1 ∧
      ∀ bt ∈ rowsWithKey db (hourlyKey vm t), HourlyDebit db₀.vmCustomer vm t bt := by
  have hdebit : ∀ bt ∈ db.txs.rows, bt.idempotencyKey = some (hourlyKey vm t) →
      HourlyDebit db₀.vmCustomer vm t bt := by
    intro bt hb hkey
    rcases h.charges bt hb with h0 | ⟨vm', t', hd⟩
    · exact absurd hkey (hk bt h0 vm t)
    · obtain rfl := hourlyKey_inj (Option.mem_unique hkey hd.idempotencyKey)
      exact ⟨hd.customerID, hd.type, hkey⟩
  refine ⟨?_, fun bt hbt => ?_⟩
  · refine Table.length_filter_le_one (k := .idempotency (db₀.vmCustomer vm) (hourlyKey vm t)) ?_
    intro bt hb hkey
    have hd := hdebit bt hb (of_decide_eq_true hkey)
    unfold BillingTransaction.keys
    rw [hd.idempotencyKey, hd.customerID]
    simp
  · obtain ⟨hb, hkey⟩ := mem_filter.mp hbt
    exact hdebit bt hb (of_decide_eq_true hkey)

variable [DecidableEq ι]

/-- **A VM is charged at most once for an hour.** In every state of every interleaving of billing
cycles: a key has at most one row, a debit of the owner; a checkpoint has exactly one, with the id
and the amount of the checkpoint; and nothing else was taken from a balance. -/
theorem hourly_once (db₀ : Db) (hc : db₀.checkpoints.rows = [])
    (hk : ∀ bt ∈ db₀.txs.rows, ∀ vm t, bt.idempotencyKey ≠ some (hourlyKey vm t))
    {s : State store ι (Except GoError Unit)}
    (h : Reaches always (State.init db₀ fun _ => runBillingCycle) s) :
    (∀ vm t, (rowsWithKey s.mem.db (hourlyKey vm t)).length ≤ 1 ∧
      ∀ bt ∈ rowsWithKey s.mem.db (hourlyKey vm t), HourlyDebit db₀.vmCustomer vm t bt) ∧
    (∀ c ∈ s.mem.db.checkpoints.rows, ∃ bt, rowsWithKey s.mem.db (hourlyKey c.vmID c.chargeHour) =
      [bt] ∧ HourlyDebit db₀.vmCustomer c.vmID c.chargeHour bt ∧ c.transactionID = some bt.id ∧
      c.amount = bt.amount) ∧
    Balanced db₀ s.mem.db ∧
    (∀ bt ∈ s.mem.db.txs.rows, bt ∈ db₀.txs.rows ∨ ∃ vm t, HourlyDebit db₀.vmCustomer vm t bt) := by
  obtain ⟨hr, -⟩ :=
    Idle.adequate (P := hourlySystem ι db₀) rfl (fun _ => runBillingCycle_hourly hc) h
  have hI := hourlySystem_reach hc hr
  refine ⟨hI.rows hk, fun c hcm => ?_, hI.books, hI.charges⟩
  obtain ⟨bt, hb, hd, hid, ha⟩ := hI.checkpoints c hcm
  have hmem : bt ∈ rowsWithKey s.mem.db (hourlyKey c.vmID c.chargeHour) :=
    mem_filter.mpr ⟨hb, decide_eq_true hd.idempotencyKey⟩
  obtain ⟨x, hx⟩ := length_eq_one_iff.mp (Nat.le_antisymm
    (hI.rows hk c.vmID c.chargeHour).1 (length_pos_of_mem hmem))
  rw [hx, mem_singleton] at hmem
  exact ⟨x, hx, hmem ▸ hd, hmem ▸ hid, hmem ▸ ha⟩

/-- one running VM of a customer, on a plan of 3 cents an hour -/
def oneVM : Db := { oneCustomer with vmCustomer := fun _ => "c" }

def oneVMInp : Inp :=
  { tick 0 "t" with
    vms := [⟨"v", "c", "small", "host", .running⟩]
    plan := some ⟨"Small", some 3, none⟩ }

/-- the first cycle crashes between the debit and the checkpoint, the second one finds the debit and
records the checkpoint -/
def crashedCycle : List (Bool × Label store) :=
  List.replicate 12 (false, .ev (.ok oneVMInp)) ++ [(false, .crash)] ++
    List.replicate 11 (true, .ev (.ok oneVMInp))

theorem hourly_once_crashed :
    ∃ s, run (State.init oneVM fun _ : Bool => runBillingCycle) crashedCycle = some s ∧
      s.mem.db.balance "c" = some 97 ∧ s.mem.db.checkpoints.rows.length = 1 ∧
      (rowsWithKey s.mem.db (hourlyKey "v" 0)).length ≤ 1 := by
  have h : (run (State.init oneVM fun _ : Bool => runBillingCycle) crashedCycle).isSome = true := by
    decide
  refine ⟨_, run_get h, rfl, rfl, ?_⟩
  refine ((hourly_once oneVM rfl ?_ (reaches_run (run_get h))).1 "v" 0).1
  exact fun bt hb => by cases hb

end

end VirtueStack.Billing
