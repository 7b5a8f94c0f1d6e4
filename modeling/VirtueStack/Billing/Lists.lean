import VirtueStack.Paging.Walk
import VirtueStack.Shared.Pagination
import VirtueStack.Billing.Store

/-!
# The lists of transactions, payments and invoices

The five queries behind the billing pages (`ListByCustomer` and `ListAll` of the repositories of
transactions, payments and invoices). All of them are ordered by `created_at` and then by `id`, with
a cursor that only knows the `id`.
-/

namespace VirtueStack.Billing
open Txn Paging Table

/-! ## the five functions -/

section
variable {α : Type}

/-- the rows of a page, whether there is more, and the last id -/
def listPage (context : String) (id : α → String) (createdAt : α → Int)
    (params : PaginationParams) (matching : Except PgError (List α)) :
    Except GoError (List α × Bool × String) :=
  match matching with
  | .error e => .error (.wrap context (.pg e))
  | .ok rows =>
    let (items, hasMore) :=
      trimPage params.perPage (selectPage id createdAt params.perPage params.cursor rows)
    .ok (items, hasMore, (items.getLast?.map id).getD "")

end

variable (customerID : String) (params : PaginationParams) (answer : Except PgError Db)

def listByCustomer :
    Except GoError (List BillingTransaction × Bool × String) :=
  listPage "listing billing transactions" (·.id) (·.createdAt) params
    (answer.map fun db => db.txs.rows.filter fun bt => bt.customerID = customerID)

def listPaymentsByCustomer : Except GoError (List BillingPayment × Bool × String) :=
  listPage "listing billing payments" (·.id) (·.createdAt) params
    (answer.map fun db => db.payments.rows.filter fun p => p.customerID = customerID)

structure BillingPaymentListFilter where
  customerID : Option String
  gateway : Option Gateway
  status : Option PaymentStatus

/-- the conditions of the filters that are given -/
def BillingPaymentListFilter.admits (f : BillingPaymentListFilter) (p : BillingPayment) : Bool :=
  (∀ c ∈ f.customerID, p.customerID = c) ∧ (∀ g ∈ f.gateway, p.gateway = g) ∧
    ∀ s ∈ f.status, p.status = s

def listAllPayments (filter : BillingPaymentListFilter) (params : PaginationParams)
    (answer : Except PgError Db) : Except GoError (List BillingPayment × Bool × String) :=
  listPage "list all payments" (·.id) (·.createdAt) params
    (answer.map fun db => db.payments.rows.filter filter.admits)

/-- the rows of a page and the cursor of the next, empty when there is no more -/
def collectInvoices (perPage : Nat) (rows : List BillingInvoice) :
    List BillingInvoice × CursorPagination :=
  if perPage < rows.length then
    let invoices := rows.take perPage
    (invoices, encodeCursor ((invoices[perPage - 1]?.map (·.id)).getD "") "next")
  else (rows, .empty)

def listInvoices (context : String) (params : PaginationParams)
    (matching : Except PgError (List BillingInvoice)) :
    Except GoError (List BillingInvoice × CursorPagination) :=
  match matching with
  | .error e => .error (.wrap context (.pg e))
  | .ok rows => .ok (collectInvoices params.perPage
      (selectPage (·.id) (·.createdAt) params.perPage params.cursor rows))

def listInvoicesByCustomer : Except GoError (List BillingInvoice × CursorPagination) :=
  listInvoices "list invoices by customer" params
    (answer.map fun db => db.invoices.rows.filter fun inv => inv.customerID = customerID)

structure InvoiceListFilter where
  customerID : Option String
  status : Option InvoiceStatus
  startDate : Option Int
  endDate : Option Int

def InvoiceListFilter.admits (f : InvoiceListFilter) (inv : BillingInvoice) : Bool :=
  (∀ c ∈ f.customerID, inv.customerID = c) ∧ (∀ s ∈ f.status, inv.status = s) ∧
    (∀ t ∈ f.startDate, t ≤ inv.periodStart) ∧ ∀ t ∈ f.endDate, inv.periodEnd ≤ t

def listAllInvoices (filter : InvoiceListFilter) (params : PaginationParams)
    (answer : Except PgError Db) : Except GoError (List BillingInvoice × CursorPagination) :=
  listInvoices "list all invoices" params
    (answer.map fun db => db.invoices.rows.filter filter.admits)

/-! ## a list and its rows -/

inductive BillingList where
  | transactions (customerID : String)
  | payments (customerID : String)
  | allPayments (filter : BillingPaymentListFilter)
  | invoices (customerID : String)
  | allInvoices (filter : InvoiceListFilter)

namespace BillingList

@[reducible] def Row : BillingList → Type
  | .transactions _ => BillingTransaction
  | .payments _ => BillingPayment
  | .allPayments _ => BillingPayment
  | .invoices _ => BillingInvoice
  | .allInvoices _ => BillingInvoice

def id : (q : BillingList) → q.Row → String
  | .transactions _ => BillingTransaction.id
  | .payments _ => BillingPayment.id
  | .allPayments _ => BillingPayment.id
  | .invoices _ => BillingInvoice.id
  | .allInvoices _ => BillingInvoice.id

def createdAt : (q : BillingList) → q.Row → Int
  | .transactions _ => BillingTransaction.createdAt
  | .payments _ => BillingPayment.createdAt
  | .allPayments _ => BillingPayment.createdAt
  | .invoices _ => BillingInvoice.createdAt
  | .allInvoices _ => BillingInvoice.createdAt

def matching (db : Db) : (q : BillingList) → List q.Row
  | .transactions c => db.txs.rows.filter fun bt => bt.customerID = c
  | .payments c => db.payments.rows.filter fun p => p.customerID = c
  | .allPayments f => db.payments.rows.filter f.admits
  | .invoices c => db.invoices.rows.filter fun inv => inv.customerID = c
  | .allInvoices f => db.invoices.rows.filter f.admits

def inOrder (q : BillingList) (db : Db) : List q.Row := newestFirst q.id q.createdAt (q.matching db)

/-- the rows and the last id as the next cursor, for the functions that return these -/
def lastIDCursor {α : Type} (perPage : Nat) (page : List α × Bool × String) :
    List α × CursorPagination :=
  (page.1, (newCursorPaginationMeta perPage page.2.1 page.2.2).nextCursor)

/-- one page and the cursor of the next -/
def page (answer : Except PgError Db) (params : PaginationParams) :
    (q : BillingList) → Except GoError (List q.Row × CursorPagination)
  | .transactions c => (listByCustomer c params answer).map (lastIDCursor params.perPage)
  | .payments c => (listPaymentsByCustomer c params answer).map (lastIDCursor params.perPage)
  | .allPayments f => (listAllPayments f params answer).map (lastIDCursor params.perPage)
  | .invoices c => listInvoicesByCustomer c params answer
  | .allInvoices f => listAllInvoices f params answer

/-- the pages of a client, from the cursor on; `none` for an error and for want of fuel -/
def followPages (q : BillingList) (answer : Except PgError Db) (perPage : Nat) :
    Nat → CursorPagination → Option (List q.Row)
  | 0, _ => none
  | fuel + 1, cp =>
    match q.page answer ⟨perPage, cp⟩ with
    | .error _ => none
    | .ok (rows, next) =>
      if next.lastID = "" then some rows
      else (followPages q answer perPage fuel next).map (rows ++ ·)

/-! ## a page in the terms of the library -/

def cursorOf (cp : CursorPagination) : Option String :=
  if cp.lastID = "" then none else some cp.lastID

section
variable {α : Type} {key : α → String} {createdAt : α → Int} {perPage : Nat}

/-- the one row more that is read tells whether there is a next page -/
lemma lt_length_take_succ (rest : List α) : perPage < (rest.take (perPage + 1)).length ↔
    perPage < rest.length := by
  rw [List.length_take]
  omega

lemma take_take_succ (rest : List α) :
    (rest.take (perPage + 1)).take perPage = rest.take perPage := by
  rw [List.take_take, Nat.min_eq_left (Nat.le_succ _)]

variable {rest : List α}

lemma take_succ_of_not_lt (h : ¬ perPage < rest.length) :
    rest.take (perPage + 1) = rest.take perPage := by
  rw [List.take_of_length_le (by omega), List.take_of_length_le (by omega)]

lemma getLast?_take_ne (hid : ∀ a ∈ rest, key a ≠ "") {x : α}
    (hx : (rest.take perPage).getLast? = some x) : key x ≠ "" :=
  hid x (List.mem_of_mem_take (List.mem_of_getLast? hx))

lemma trimPage_take (rest : List α) : trimPage perPage (rest.take (perPage + 1)) =
      (rest.take perPage, decide (perPage < rest.length)) := by
  unfold trimPage
  by_cases h : perPage < rest.length
  · rw [if_pos ((lt_length_take_succ rest).mpr h), decide_eq_true h, take_take_succ]
  · rw [if_neg (mt (lt_length_take_succ rest).mp h), decide_eq_false h, take_succ_of_not_lt h]

lemma cursorOf_lastID (hid : ∀ a ∈ rest, key a ≠ "") :
    cursorOf (newCursorPaginationMeta perPage (decide (perPage < rest.length))
      (((rest.take perPage).getLast?.map key).getD "")).nextCursor = next key perPage rest := by
  unfold newCursorPaginationMeta next
  by_cases h : perPage < rest.length
  · cases hx : (rest.take perPage).getLast? with
    | none => simp [cursorOf, CursorPagination.empty]
    | some x => simp [h, getLast?_take_ne hid hx, cursorOf, encodeCursor]
  · simp [h, cursorOf, CursorPagination.empty]

lemma collectInvoices_take (perPage : Nat) {rest : List BillingInvoice}
    (hid : ∀ inv ∈ rest, inv.id ≠ "") :
    ∃ next, collectInvoices perPage (rest.take (perPage + 1)) = (rest.take perPage, next) ∧
      cursorOf next = Paging.next (·.id) perPage rest := by
  unfold collectInvoices next
  by_cases h : perPage < rest.length
  · rw [if_pos ((lt_length_take_succ rest).mpr h), if_pos h, take_take_succ]
    refine ⟨_, rfl, ?_⟩
    have hlast : (rest.take perPage).getLast? = (rest.take perPage)[perPage - 1]? := by
      rw [List.getLast?_eq_getElem?, List.length_take, Nat.min_eq_left h.le]
    rw [← hlast]
    cases hx : (rest.take perPage).getLast? with
    | none => rfl
    | some x => simp [cursorOf, encodeCursor, getLast?_take_ne hid hx]
  · rw [if_neg (mt (lt_length_take_succ rest).mp h), if_neg h, take_succ_of_not_lt h]
    exact ⟨.empty, rfl, rfl⟩

end

lemma nodup_matching (q : BillingList) (db : Db) : ((q.matching db).map q.id).Nodup := by
  have htx : (db.txs.rows.map BillingTransaction.id).Nodup :=
    nodup_map fun a b h => ⟨.id a.id, by simp [BillingTransaction.keys],
      by simp [BillingTransaction.keys, h]⟩
  have hpay : (db.payments.rows.map BillingPayment.id).Nodup :=
    nodup_map fun a b h => ⟨a.id, by simp [BillingPayment.keys],
      by simp [BillingPayment.keys, h]⟩
  have hinv : (db.invoices.rows.map BillingInvoice.id).Nodup :=
    nodup_map fun a b h => ⟨.id a.id, by simp [BillingInvoice.keys],
      by simp [BillingInvoice.keys, h]⟩
  cases q with
  | transactions c => exact htx.sublist (List.filter_sublist.map _)
  | payments c | allPayments f => exact hpay.sublist (List.filter_sublist.map _)
  | invoices c | allInvoices f => exact hinv.sublist (List.filter_sublist.map _)

def rest (q : BillingList) (db : Db) (cp : CursorPagination) : List q.Row :=
  Paging.after q.id (q.inOrder db) (cursorOf cp)

section
variable {q : BillingList} {db : Db} (hid : ∀ r ∈ q.matching db, q.id r ≠ "") (perPage : Nat)
include hid

lemma page_spec (cp : CursorPagination) :
    ∃ next, q.page (.ok db) ⟨perPage, cp⟩ = .ok ((q.rest db cp).take perPage, next) ∧
      cursorOf next = Paging.next q.id perPage (q.rest db cp) := by
  have hmem : ∀ r ∈ q.rest db cp, q.id r ≠ "" := by
    intro r hr
    have hin : r ∈ q.inOrder db := by
      unfold rest at hr
      cases hc : cursorOf cp with
      | none => rwa [hc] at hr
      | some c => rw [hc] at hr; exact (mem_after.mp hr).1
    exact hid r ((newestFirst_perm _).mem_iff.mp hin)
  have hsel : selectPage q.id q.createdAt perPage cp (q.matching db) = (q.rest db cp).take
      (perPage + 1) := by
    unfold selectPage rest cursorOf
    rw [newestFirst_filter (q.nodup_matching db)]
    by_cases h : cp.lastID = ""
    · simp [h, after, inOrder]
    · simp [h, after, inOrder]
  have hlist : ∀ context, ∃ next, (listPage context q.id q.createdAt ⟨perPage, cp⟩
      (.ok (q.matching db))).map (lastIDCursor perPage) = .ok ((q.rest db cp).take perPage, next) ∧
        cursorOf next = Paging.next q.id perPage (q.rest db cp) := by
    intro context
    refine ⟨_, ?_, cursorOf_lastID hmem⟩
    unfold listPage
    simp only [hsel, trimPage_take]
    rfl
  cases q with
  | transactions c => exact hlist "listing billing transactions"
  | payments c => exact hlist "listing billing payments"
  | allPayments f => exact hlist "list all payments"
  | invoices _ | allInvoices _ =>
    obtain ⟨next, hnext, hc⟩ := collectInvoices_take perPage hmem
    exact ⟨next, congrArg Except.ok ((congrArg _ hsel).trans hnext), hc⟩

lemma followPages_eq (hp : 0 < perPage) (fuel : Nat) (cp : CursorPagination) :
    q.followPages (.ok db) perPage fuel cp = walk q.id perPage (q.inOrder db) fuel
      (cursorOf cp) := by
  induction fuel generalizing cp with
  | zero => rfl
  | succ fuel ih =>
    obtain ⟨next, hpage, hnext⟩ := page_spec hid perPage cp
    have hstep : q.followPages (.ok db) perPage (fuel + 1) cp =
        if next.lastID = "" then some ((q.rest db cp).take perPage)
        else (q.followPages (.ok db) perPage fuel next).map ((q.rest db cp).take perPage ++ ·) := by
      rw [followPages, hpage]
    rw [hstep]
    by_cases h : next.lastID = ""
    · have hnone : Paging.next q.id perPage (q.rest db cp) = none := hnext ▸ if_pos h
      rw [if_pos h, walk_none _ fuel hnone]
      exact congrArg some (List.take_of_length_le ((next_eq_none hp).mp hnone))
    · have hsome : cursorOf next = some next.lastID := if_neg h
      rw [if_neg h, ih, hsome, walk_some _ fuel (hnext ▸ hsome)]
      rfl

end

/-- **The pages are complete exactly when every page boundary separates the ids.** A client that
starts without a cursor and passes the last id until there is no more sees every row of the list
once, in the order of the list, if and only if each row at the end of a full page that is not the
last has the smallest id so far and a larger one than all later rows. -/
theorem pages_complete_iff (q : BillingList) (db : Db) (perPage : Nat) (hp : 0 < perPage)
    (hid : ∀ r ∈ q.matching db, q.id r ≠ "") :
    q.followPages (.ok db) perPage ((q.matching db).length + 1) .empty = some (q.inOrder db) ↔
      Paging.Aligned q.id perPage (q.inOrder db) := by
  have hperm : (q.inOrder db).Perm (q.matching db) := newestFirst_perm _
  have hnodup : (q.inOrder db).Nodup := hperm.nodup_iff.mpr (q.nodup_matching db).of_map
  rw [followPages_eq hid perPage hp, ← hperm.length_eq]
  exact walk_eq_iff hp hnodup

def charge (id : String) (createdAt : Int) : BillingTransaction :=
  ⟨id, "c", .debit, 3, 0, "Small", none, none, none, createdAt⟩

def ledgerOf (a b : BillingTransaction) : Db :=
  { Db.empty with txs := (empty.insert a).insert b }

/-- the newer row has the smaller id -/
def olderFirst : Db :=
  ledgerOf (charge "2f1c0a4e-7d3b-4e55-9c1a-5b0f6f2d8e10" 1)
    (charge "0b7e3d92-4a1f-4c68-8f2e-1d9c5a7b3e64" 2)

def newerFirst : Db :=
  ledgerOf (charge "0b7e3d92-4a1f-4c68-8f2e-1d9c5a7b3e64" 1)
    (charge "2f1c0a4e-7d3b-4e55-9c1a-5b0f6f2d8e10" 2)

theorem pages_complete_newerFirst :
    Paging.Aligned BillingTransaction.id 1 ((transactions "c").inOrder newerFirst) :=
  (pages_complete_iff (.transactions "c") newerFirst 1 (by decide) (by decide)).mp (by decide)

/-- **A row is never shown.** The second page of size 1 is empty, because the older row has the
larger id. -/
theorem row_never_shown : (transactions "c").followPages (.ok olderFirst) 1 3 .empty =
      some [charge "0b7e3d92-4a1f-4c68-8f2e-1d9c5a7b3e64" 2] ∧
    (transactions "c").matching olderFirst = [charge "2f1c0a4e-7d3b-4e55-9c1a-5b0f6f2d8e10" 1,
        charge "0b7e3d92-4a1f-4c68-8f2e-1d9c5a7b3e64" 2] ∧
    (transactions "c").followPages (.ok olderFirst) 1 3 .empty ≠
      some ((transactions "c").inOrder olderFirst) := by
  refine ⟨?_, ?_, ?_⟩ <;> decide

end BillingList

end VirtueStack.Billing
