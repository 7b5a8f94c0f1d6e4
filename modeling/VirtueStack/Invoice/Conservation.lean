import VirtueStack.Invoice.Service
import Mathlib.Algebra.BigOperators.Group.List.Basic
import Mathlib.Algebra.Ring.Int.Defs
import Mathlib.Data.List.Induction
import Mathlib.Data.List.Nodup

/-!
# The line items of an invoice

The loop of `aggregateLineItems` counts by VM in a map of Go, which is then walked in any order.
-/

namespace VirtueStack.Invoice
open Billing List Int64

def amountSum (txs : List BillingTransaction) : ℤ := (txs.map fun bt => bt.amount.toInt).sum

lemma amountSum_append (a b : List BillingTransaction) :
    amountSum (a ++ b) = amountSum a + amountSum b := by
  unfold amountSum
  rw [map_append, sum_append]

lemma amountSum_perm {a b : List BillingTransaction} (h : a.Perm b) : amountSum a = amountSum b :=
  (h.map _).sum_eq

/-- the rows that charge for a VM; those for none have the empty text -/
def usage (v : String) (txs : List BillingTransaction) : List BillingTransaction :=
  txs.filter fun bt => extractVMID bt = v

/-- the map is walked in some order -/
def ItemsOf (txs : List BillingTransaction) (items : List InvoiceLineItem) : Prop :=
  ∃ order : List VMAgg, order.Perm (aggregate txs ([], 0)).1 ∧
    items = itemsInOrder order (aggregate txs ([], 0)).2

/-- what of a line item does not depend on the names -/
def figures (item : InvoiceLineItem) : String × Int × Int64 × Int64 :=
  (item.vmID, item.quantity, item.unitPrice, item.amount)

variable {txs txs' : List BillingTransaction} {bt : BillingTransaction}
  {items items' : List InvoiceLineItem} {aggs : List VMAgg} {v : String}

/-! ## the sums -/

lemma amountSum_nonneg (h : ∀ bt ∈ txs, 0 ≤ bt.amount.toInt) : 0 ≤ amountSum txs := by
  induction txs with
  | nil => exact Int.le_refl 0
  | cons bt txs ih =>
    have h1 := h bt mem_cons_self
    have h2 := ih fun b hb => h b (mem_cons_of_mem bt hb)
    show 0 ≤ bt.amount.toInt + amountSum txs
    omega

lemma absInt64_of_nonneg {n : Int64} (h : 0 ≤ n.toInt) : absInt64 n = n := by
  have hn : ¬n < 0 := fun hlt => by
    have := lt_iff_toInt_lt.mp hlt
    rw [toInt_zero] at this
    omega
  exact if_neg hn

lemma lineItemTotal_eq (items : List InvoiceLineItem) :
    lineItemTotal items = (items.map (·.amount)).sum := by
  have h : ∀ t : Int64, items.foldl (fun total item => total + item.amount) t =
      t + (items.map (·.amount)).sum := by
    induction items with
    | nil => exact fun t => (Int64.add_zero t).symm
    | cons item items ih =>
      intro t
      rw [foldl_cons, ih, map_cons, sum_cons, Int64.add_assoc]
  exact (h 0).trans (Int64.zero_add _)

/-! ## the loop -/

lemma charge_ids (description : String) (amount : Int64) (aggs : List VMAgg) :
    (VMAgg.charge v description amount aggs).map (·.vmID) =
      if v ∈ aggs.map (·.vmID) then aggs.map (·.vmID) else aggs.map (·.vmID) ++ [v] := by
  induction aggs with
  | nil => rfl
  | cons agg aggs ih =>
    unfold VMAgg.charge
    by_cases hv : agg.vmID = v
    · simp [hv]
    · rw [if_neg hv, map_cons, ih]
      by_cases hmem : v ∈ aggs.map (·.vmID) <;> simp [Ne.symm hv, hmem]

lemma mem_charge {description : String} {amount : Int64} {agg : VMAgg}
    (hnodup : (aggs.map (·.vmID)).Nodup)
    (h : agg ∈ VMAgg.charge v description amount aggs) : agg ∈ aggs ∧ agg.vmID ≠ v ∨ agg.vmID = v ∧
      ((∃ old ∈ aggs, old.vmID = v ∧ agg.hours = old.hours + 1 ∧ agg.amount = old.amount + amount) ∨
        v ∉ aggs.map (·.vmID) ∧ agg.hours = 1 ∧ agg.amount = amount) := by
  induction aggs with
  | nil =>
    rw [mem_singleton.mp h]
    exact .inr ⟨rfl, .inr ⟨not_mem_nil, rfl, rfl⟩⟩
  | cons head aggs ih =>
    obtain ⟨hnew, hrest⟩ := nodup_cons.mp hnodup
    unfold VMAgg.charge at h
    by_cases hv : head.vmID = v
    · rw [if_pos hv] at h
      rcases mem_cons.mp h with rfl | h
      · exact .inr ⟨hv, .inl ⟨head, mem_cons_self, hv, rfl, rfl⟩⟩
      · refine .inl ⟨mem_cons_of_mem _ h, fun heq => hnew ?_⟩
        exact mem_map.mpr ⟨agg, h, heq.trans hv.symm⟩
    · rw [if_neg hv] at h
      rcases mem_cons.mp h with rfl | h
      · exact .inl ⟨mem_cons_self, hv⟩
      · rcases ih hrest h with ⟨hmem, hne⟩ | ⟨heq, ⟨old, hold, htally⟩ | ⟨hnot, htally⟩⟩
        · exact .inl ⟨mem_cons_of_mem _ hmem, hne⟩
        · exact .inr ⟨heq, .inl ⟨old, mem_cons_of_mem _ hold, htally⟩⟩
        · exact .inr ⟨heq, .inr ⟨by simpa [Ne.symm hv] using hnot, htally⟩⟩

/-- the entries of the map, and the sum of the other rows -/
structure Tallied (txs : List BillingTransaction) (acc : List VMAgg × Int64) : Prop where
  nodup : (acc.1.map (·.vmID)).Nodup
  mem : ∀ v, v ∈ acc.1.map (·.vmID) ↔ v ≠ "" ∧ usage v txs ≠ []
  tally : ∀ agg ∈ acc.1, agg.hours = (usage agg.vmID txs).length ∧
    agg.amount = Int64.ofInt (amountSum (usage agg.vmID txs))
  other : acc.2 = Int64.ofInt (amountSum (usage "" txs))

lemma aggregate_concat (txs : List BillingTransaction) (bt : BillingTransaction)
    (acc : List VMAgg × Int64) :
    aggregate (txs ++ [bt]) acc = aggregate [bt] (aggregate txs acc) := by
  induction txs generalizing acc with
  | nil => rfl
  | cons tx txs ih =>
    obtain ⟨byVM, other⟩ := acc
    rw [cons_append, aggregate]
    conv => rhs; rw [aggregate.eq_def (tx :: txs)]
    dsimp only
    split <;> exact ih _

lemma usage_concat (v : String) (txs : List BillingTransaction) (bt : BillingTransaction) :
    usage v (txs ++ [bt]) = if extractVMID bt = v then usage v txs ++ [bt] else usage v txs := by
  unfold usage
  rw [filter_append]
  split <;> simp [*]

lemma ofInt_amountSum_concat (txs : List BillingTransaction) (bt : BillingTransaction) :
    Int64.ofInt (amountSum (txs ++ [bt])) = Int64.ofInt (amountSum txs) + bt.amount := by
  rw [amountSum_append, ofInt_add]
  simp [amountSum]

lemma Tallied.step {acc : List VMAgg × Int64} (h : Tallied txs acc) (hbt : 0 ≤ bt.amount.toInt) :
    Tallied (txs ++ [bt]) (aggregate [bt] acc) := by
  obtain ⟨aggs, other⟩ := acc
  simp only [aggregate, absInt64_of_nonneg hbt]
  by_cases hv : extractVMID bt = ""
  · have hsame : ∀ v, v ≠ "" → usage v (txs ++ [bt]) = usage v txs := fun v hne => by
      rw [usage_concat, if_neg fun h => hne (h.symm.trans hv)]
    rw [if_pos hv]
    refine ⟨h.nodup, fun v => (h.mem v).trans (and_congr_right fun hne => by rw [hsame v hne]),
      fun agg hagg => ?_, ?_⟩
    · rw [hsame _ ((h.mem _).mp (mem_map_of_mem hagg)).1]
      exact h.tally agg hagg
    · rw [usage_concat, if_pos hv, ofInt_amountSum_concat, ← h.other]
  · have hnew : usage (extractVMID bt) (txs ++ [bt]) = usage (extractVMID bt) txs ++ [bt] := by
      rw [usage_concat, if_pos rfl]
    have hsame : ∀ v, v ≠ extractVMID bt → usage v (txs ++ [bt]) = usage v txs := fun v hne => by
      rw [usage_concat, if_neg fun h => hne h.symm]
    rw [if_neg hv]
    refine ⟨?_, fun v => ?_, fun agg hagg => ?_, ?_⟩
    · rw [charge_ids]
      split
      · exact h.nodup
      · rename_i hmem
        exact nodup_append_comm.mp (nodup_cons.mpr ⟨hmem, h.nodup⟩)
    · rw [charge_ids]
      by_cases hvv : v = extractVMID bt
      · subst hvv
        refine iff_of_true ?_ ⟨hv, by simp [hnew]⟩
        split
        · assumption
        · exact mem_append_right _ (mem_singleton_self _)
      · rw [hsame v hvv, ← h.mem v]
        split <;> simp [hvv]
    · rcases mem_charge h.nodup hagg with ⟨hmem, hne⟩ | ⟨heq,
        ⟨old, hold, hid, hhours, hamount⟩ | ⟨hnot, hhours, hamount⟩⟩
      · rw [hsame _ hne]
        exact h.tally agg hmem
      · obtain ⟨holdHours, holdAmount⟩ := h.tally old hold
        rw [heq, hnew, hhours, hamount, holdHours, holdAmount, hid, ofInt_amountSum_concat,
          length_append]
        exact ⟨rfl, rfl⟩
      · have hnone : usage (extractVMID bt) txs = [] := by
          by_contra hne
          exact hnot ((h.mem _).mpr ⟨hv, hne⟩)
        rw [heq, hnew, hhours, hamount, hnone]
        exact ⟨rfl, by simp [amountSum]⟩
    · rw [hsame "" (Ne.symm hv)]
      exact h.other

lemma tallied (h : ∀ bt ∈ txs, 0 ≤ bt.amount.toInt) : Tallied txs (aggregate txs ([], 0)) := by
  induction txs using reverseRecOn with
  | nil =>
      exact ⟨nodup_nil, fun v => by simp [aggregate, usage], (fun agg hagg => nomatch hagg), rfl⟩
  | append_singleton txs bt ih =>
    rw [aggregate_concat]
    refine (ih fun b hb => h b (mem_append_left _ hb)).step (h bt ?_)
    exact mem_append_right _ (mem_singleton_self bt)

/-! ## the sums by VM -/

lemma amountSum_usage_add (v : String) (txs : List BillingTransaction) :
    amountSum (usage v txs) + amountSum (txs.filter fun bt => !decide (extractVMID bt = v)) =
      amountSum txs := by
  rw [← amountSum_append]
  exact amountSum_perm (filter_append_perm _ txs)

lemma amountSum_usage_bounds (h : ∀ bt ∈ txs, 0 ≤ bt.amount.toInt) (v : String) :
    0 ≤ amountSum (usage v txs) ∧ amountSum (usage v txs) ≤ amountSum txs := by
  have hall : ∀ p : BillingTransaction → Bool, 0 ≤ amountSum (txs.filter p) := fun p =>
    amountSum_nonneg fun bt hbt => h bt (mem_of_mem_filter hbt)
  have hrest := hall fun bt => !decide (extractVMID bt = v)
  have hadd := amountSum_usage_add v txs
  exact ⟨hall _, by omega⟩

lemma sum_usage {vms : List String} (hvms : vms.Nodup) (h : ∀ bt ∈ txs, extractVMID bt ∈ vms) :
    (vms.map fun v => amountSum (usage v txs)).sum = amountSum txs := by
  induction vms generalizing txs with
  | nil =>
    cases txs with
    | nil => rfl
    | cons bt txs => exact nomatch h bt mem_cons_self
  | cons v vms ih =>
    obtain ⟨hv, hrest⟩ := nodup_cons.mp hvms
    -- the rows of the other VMs are among those not of this one
    have hsame : ∀ w ∈ vms, usage w (txs.filter fun bt => !decide (extractVMID bt = v)) =
        usage w txs := by
      intro w hw
      unfold usage
      rw [filter_filter]
      refine filter_congr fun bt _ => ?_
      have : w ≠ v := fun heq => hv (heq ▸ hw)
      grind
    have hmem : ∀ bt ∈ txs.filter fun bt => !decide (extractVMID bt = v), extractVMID bt ∈ vms := by
      intro bt hbt
      have := h bt (mem_of_mem_filter hbt)
      grind
    rw [map_cons, sum_cons, ← amountSum_usage_add v txs, ← ih hrest hmem]
    congr 2
    exact map_congr_left fun w hw => by rw [hsame w hw]

/-! ## the line items -/

def vmFigures (txs : List BillingTransaction) (v : String) : String × Int × Int64 × Int64 :=
  let amount := Int64.ofInt (amountSum (usage v txs))
  (v, (usage v txs).length, amount / Int64.ofInt (usage v txs).length, amount)

lemma Tallied.figures_item {acc : List VMAgg × Int64} (h : Tallied txs acc) {agg : VMAgg}
    (hagg : agg ∈ acc.1) : figures agg.item = vmFigures txs agg.vmID := by
  obtain ⟨hhours, hamount⟩ := h.tally agg hagg
  have hused := ((h.mem _).mp (mem_map_of_mem hagg)).2
  simp [figures, VMAgg.item, vmFigures, hhours, hamount, hused]

lemma unitPrice_bounds {amount : Int64} {n : ℤ} (ha : 0 ≤ amount.toInt) (hn : 0 < n)
    (hlt : n < 2 ^ 63) : (amount / Int64.ofInt n).toInt * n ≤ amount.toInt ∧
      amount.toInt < (amount / Int64.ofInt n).toInt * n + n := by
  have htoInt : (Int64.ofInt n).toInt = n := toInt_ofInt_of_le (by omega) (by omega)
  have hne : Int64.ofInt n ≠ -1 := fun heq => by
    rw [heq] at htoInt
    have : (-1 : Int64).toInt = -1 := by decide
    omega
  rw [toInt_div_of_ne_right _ _ hne, htoInt, Int.tdiv_eq_ediv_of_nonneg ha]
  have := Int.lt_ediv_add_one_mul_self amount.toInt hn
  exact ⟨Int.ediv_mul_le _ (by omega), by rwa [Int.add_mul, Int.one_mul] at this⟩

lemma mem_otherCharges {total : Int64} {item : InvoiceLineItem} (h : item ∈ otherCharges total) :
    item.vmID = "" := by
  unfold otherCharges at h
  split at h
  · rw [mem_singleton.mp h]
  · exact nomatch h

lemma toInt_otherCharges {total : Int64} (h : 0 ≤ total.toInt) :
    ((otherCharges total).map fun item => item.amount.toInt).sum = total.toInt := by
  have hpos : 0 < total ↔ 0 < total.toInt := by simp [lt_iff_toInt_lt]
  unfold otherCharges
  split
  · simp
  · rename_i hnot
    have : total.toInt = 0 := by have := mt hpos.mpr hnot; omega
    simp [this]

/-- the rows of one customer for one month, as the code is given them -/
structure Charges (txs : List BillingTransaction) : Prop where
  nonneg : ∀ bt ∈ txs, 0 ≤ bt.amount.toInt
  fits : amountSum txs < 2 ^ 63

section
variable (h : Charges txs)
include h

lemma Charges.toInt_usage (v : String) :
    (Int64.ofInt (amountSum (usage v txs))).toInt = amountSum (usage v txs) := by
  have := amountSum_usage_bounds h.nonneg v
  have := h.fits
  exact toInt_ofInt_of_le (by omega) (by omega)

lemma Charges.perm (hp : txs.Perm txs') : Charges txs' :=
  ⟨fun bt hbt => h.nonneg bt (hp.mem_iff.mpr hbt), amountSum_perm hp ▸ h.fits⟩

lemma Charges.sum_items (hitems : ItemsOf txs items) :
    (items.map fun item => item.amount.toInt).sum = amountSum txs := by
  obtain ⟨order, horder, rfl⟩ := hitems
  have ht := tallied h.nonneg
  generalize aggregate txs ([], 0) = acc at *
  have hvms : ("" :: acc.1.map (·.vmID)).Nodup :=
    nodup_cons.mpr ⟨fun hm => ((ht.mem "").mp hm).1 rfl, ht.nodup⟩
  have hall : ∀ bt ∈ txs, extractVMID bt ∈ "" :: acc.1.map (·.vmID) := by
    intro bt hbt
    refine mem_cons.mpr (or_iff_not_imp_left.mpr fun hne => (ht.mem _).mpr ⟨hne, ?_⟩)
    exact ne_nil_of_mem (mem_filter.mpr ⟨hbt, decide_eq_true rfl⟩)
  have hvm : ∀ agg ∈ acc.1, agg.item.amount.toInt = amountSum (usage agg.vmID txs) :=
    fun agg hagg => by
    rw [← h.toInt_usage, ← (ht.tally agg hagg).2]
    rfl
  have hother : acc.2.toInt = amountSum (usage "" txs) := by rw [ht.other, h.toInt_usage]
  have hnonneg := (amountSum_usage_bounds h.nonneg "").1
  rw [← sum_usage hvms hall, itemsInOrder, map_append, sum_append, map_map,
    (horder.map _).sum_eq, map_cons,
    sum_cons, map_map, Int.add_comm, ← hother, toInt_otherCharges (hother ▸ hnonneg)]
  congr 2
  exact map_congr_left hvm

lemma Charges.figures_perm (hitems : ItemsOf txs items) (hp : txs.Perm txs')
    (hitems' : ItemsOf txs' items') : (items.map figures).Perm (items'.map figures) := by
  obtain ⟨order, horder, rfl⟩ := hitems
  obtain ⟨order', horder', rfl⟩ := hitems'
  have ht := tallied h.nonneg
  have ht' := tallied (h.perm hp).nonneg
  generalize aggregate txs ([], 0) = acc at *
  generalize aggregate txs' ([], 0) = acc' at *
  have husage : ∀ v, (usage v txs).Perm (usage v txs') := fun v => hp.filter _
  have hother : acc.2 = acc'.2 := by rw [ht.other, ht'.other, amountSum_perm (husage "")]
  have hvms : (acc.1.map (·.vmID)).Perm (acc'.1.map (·.vmID)) := by
    refine (perm_ext_iff_of_nodup ht.nodup ht'.nodup).mpr fun v => ?_
    rw [ht.mem, ht'.mem, Ne, Ne, Ne, ← length_eq_zero_iff, (husage v).length_eq, length_eq_zero_iff]
  have hfigures : vmFigures txs = vmFigures txs' := funext fun v => by
    unfold vmFigures
    rw [amountSum_perm (husage v), (husage v).length_eq]
  have hmap : acc.1.map (fun agg => figures agg.item) = (acc.1.map (·.vmID)).map
      (vmFigures txs) := by
    rw [map_map]
    exact map_congr_left fun agg => ht.figures_item
  have hmap' : acc'.1.map (fun agg => figures agg.item) = (acc'.1.map (·.vmID)).map
      (vmFigures txs) := by
    rw [map_map, hfigures]
    exact map_congr_left fun agg => ht'.figures_item
  rw [itemsInOrder, itemsInOrder, map_append, map_append, map_map, map_map, hother]
  refine List.Perm.append_right _ ?_
  calc order.map (fun agg => figures agg.item)
      _ |>.Perm (acc.1.map fun agg => figures agg.item) := horder.map _
      _ |>.Perm (acc'.1.map fun agg => figures agg.item) := hmap ▸ hmap' ▸ hvms.map _
      _ |>.Perm (order'.map fun agg => figures agg.item) := (horder'.map _).symm

lemma Charges.toInt_lineItemTotal (hitems : ItemsOf txs items) :
    (lineItemTotal items).toInt = amountSum txs := by
  have hsum : ∀ l : List InvoiceLineItem,
      Int64.ofInt (l.map fun item => item.amount.toInt).sum = (l.map (·.amount)).sum := by
    intro l
    induction l with
    | nil => rfl
    | cons item l ih => rw [map_cons, sum_cons, ofInt_add, ofInt_toInt, ih]; rfl
  have h0 := amountSum_nonneg h.nonneg
  have h1 := h.fits
  rw [lineItemTotal_eq, ← hsum, h.sum_items hitems]
  exact toInt_ofInt_of_le (by omega) (by omega)

end

/-- the item has the rows of the VM and their sum, and the price of one, rounded down -/
structure About (v : String) (txs : List BillingTransaction) (item : InvoiceLineItem) : Prop where
  quantity : item.quantity = (usage v txs).length
  hours : item.hours = (usage v txs).length
  amount : item.amount.toInt = amountSum (usage v txs)
  unitPrice_le : item.unitPrice.toInt * item.quantity ≤ item.amount.toInt
  lt_unitPrice : item.amount.toInt < item.unitPrice.toInt * item.quantity + item.quantity

lemma Charges.item_of_vm (h : Charges txs) (hlen : txs.length < 2 ^ 63) (hitems : ItemsOf txs items)
    (hv : v ≠ "") (hused : usage v txs ≠ []) :
    (items.map (·.vmID)).count v = 1 ∧ ∀ item ∈ items, item.vmID = v → About v txs item := by
  obtain ⟨order, horder, rfl⟩ := hitems
  have ht := tallied h.nonneg
  generalize aggregate txs ([], 0) = acc at *
  refine ⟨?_, fun item hitem hid => ?_⟩
  · have hnone : ((otherCharges acc.2).map (·.vmID)).count v = 0 := by
      refine count_eq_zero.mpr fun hmem => ?_
      obtain ⟨item, hitem, hid⟩ := mem_map.mp hmem
      exact hv (hid.symm.trans (mem_otherCharges hitem))
    have hone := count_eq_one_of_mem ht.nodup ((ht.mem v).mpr ⟨hv, hused⟩)
    rw [itemsInOrder, map_append, count_append, hnone, map_map]
    exact ((horder.map _).count_eq v).trans hone
  · rcases mem_append.mp hitem with hitem | hitem
    · obtain ⟨agg, hagg, rfl⟩ := mem_map.mp hitem
      have hfigures := ht.figures_item (horder.mem_iff.mp hagg)
      have hle : (usage v txs).length ≤ txs.length := length_filter_le _ txs
      have hpos := length_pos_of_ne_nil hused
      obtain rfl : agg.vmID = v := hid
      simp only [figures, vmFigures, Prod.mk.injEq] at hfigures
      obtain ⟨-, hquantity, hprice, hamount⟩ := hfigures
      have htoInt := h.toInt_usage agg.vmID
      have hprices := unitPrice_bounds (htoInt ▸ (amountSum_usage_bounds h.nonneg agg.vmID).1)
        (Int.natCast_pos.mpr hpos) (by omega)
      refine ⟨hquantity, hquantity, hamount ▸ htoInt, ?_, ?_⟩ <;> rw [hquantity, hprice, hamount]
      exacts [hprices.1, hprices.2]
    · exact absurd (hid.symm.trans (mem_otherCharges hitem)) hv

/-! ## the result -/

/-- **An invoice keeps the charges**, in whatever order the rows and the map are walked: its items
have the sum of the rows, one of them is about each VM, and the check of the repository lets the
invoice pass with that total. -/
theorem invoice_conserved (h : Charges txs) (hlen : txs.length < 2 ^ 63)
    (hitems : ItemsOf txs items) : (items.map fun item => item.amount.toInt).sum = amountSum txs ∧
    (∀ v, v ≠ "" → usage v txs ≠ [] → (items.map (·.vmID)).count v = 1 ∧ ∀ item ∈ items, item.vmID =
      v → About v txs item) ∧
    (∀ txs' items', txs.Perm txs' → ItemsOf txs' items' →
      (items.map figures).Perm (items'.map figures) ∧ lineItemTotal items = lineItemTotal items') ∧
    ∀ c lo hi now id, validateInvoiceTotals (newInvoice c lo hi items now id) = .ok () ∧
      (newInvoice c lo hi items now id).total.toInt = amountSum txs := by
  refine ⟨h.sum_items hitems, fun v => h.item_of_vm hlen hitems, fun txs' items' hp hitems' => ?_,
    fun c lo hi now id => ?_⟩
  · refine ⟨h.figures_perm hitems hp hitems', toInt_inj.mp ?_⟩
    rw [h.toInt_lineItemTotal hitems, (h.perm hp).toInt_lineItemTotal hitems', amountSum_perm hp]
  · refine ⟨?_, h.toInt_lineItemTotal hitems⟩
    simp [validateInvoiceTotals, newInvoice]

/-- two hours of one VM, one of another, and a setup fee -/
def twoVMs : List BillingTransaction :=
  [⟨"t1", "c", .debit, 3, 97, "Small", some refTypeVMUsage, some "v", none, 5⟩,
    ⟨"t2", "c", .debit, 9, 88, "Large", some refTypeVMUsage, some "w", none, 5⟩,
    ⟨"t3", "c", .debit, 4, 84, "Small", some refTypeVMUsage, some "v", none, 6⟩,
    ⟨"t4", "c", .debit, 2, 82, "Setup", none, none, none, 7⟩]

theorem invoice_conserved_twoVMs : ∃ items, ItemsOf twoVMs items ∧ items.map figures =
      [("w", 1, 9, 9), ("v", 2, 3, 7), ("", 1, 2, 2)] ∧
      (items.map fun item => item.amount.toInt).sum = 18 := by
  refine ⟨_, ⟨_, reverse_perm _, rfl⟩, by decide +kernel, ?_⟩
  exact (invoice_conserved ⟨by decide, by decide⟩ (by decide) ⟨_, reverse_perm _, rfl⟩).1.trans
    (by decide)

end VirtueStack.Invoice
