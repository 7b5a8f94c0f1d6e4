import VirtueStack.Billing.Models
import VirtueStack.Shared.Errors
import VirtueStack.Txn.Schedule
import VirtueStack.Txn.Table

/-!
# Voiding and paying an invoice (services/billing_invoice_service.go,
repository/billing_invoice_repo.go)

Both calls read the status, and later write without a condition on it.

* `Stmt`, `store` the statements on `billing_invoices`. Of a row there are the status and the time
  of the payment;
* `Apart` the schedule: no call writes while another one stands between its read and its write;
* `Stage` how far a call is: before its read, between its read and its write with the invoice as it
  was read, or at its end.
-/

namespace VirtueStack.Invoice.Settlement
open Txn Call List Option
open Billing (InvoiceStatus)

structure Row where
  id : String
  status : InvoiceStatus
  paidAt : Option Int
  deriving DecidableEq

def Row.keys (inv : Row) : List String := [inv.id]

structure Db where
  invoices : Table Row.keys

def Db.apply (db : Db) (inv : Row) : Db := ⟨db.invoices.put inv⟩

inductive Stmt where
  | getByID (id : String)
  | updateStatus (id : String) (status : InvoiceStatus)
  /-- with the clock of the controller -/
  | setPaidAt (id : String)

@[reducible] def Stmt.Ans : Stmt → Type
  | .getByID _ => Option Row
  -- the number of rows
  | .updateStatus _ _ => Nat
  | .setPaidAt _ => Nat

/-- `UPDATE ... WHERE id = $1` -/
def update (db : Db) (id : String) (f : Row → Row) : Nat × List Row :=
  match db.invoices.find id with
  | some inv => (1, [f inv])
  | none => (0, [])

def Row.withStatus (status : InvoiceStatus) (inv : Row) : Row := { inv with status := status }

def Row.paid (now : Int) (inv : Row) : Row := { inv with status := .paid, paidAt := some now }

def exec : (q : Stmt) → Int → Int → Db → Except PgError (q.Ans × List Row)
  | .getByID id, _, _, db => .ok (db.invoices.find id, [])
  | .updateStatus id status, _, _, db => .ok (update db id (.withStatus status))
  | .setPaidAt id, _, now, db => .ok (update db id (.paid now))

@[reducible] def store : Store where
  Db := Db
  Lock := Empty
  Write := Row
  Stmt := Stmt
  Ans := Stmt.Ans
  Inp := Int
  Err := PgError
  Fault := String
  fault := PgError.fault
  decLock := inferInstance
  exec := exec
  locks := fun _ _ _ => []
  apply := Db.apply
  guards := fun _ => []
  exec_guarded := fun _ _ _ _ _ _ _ _ _ _ hl => hl

abbrev Op (α : Type) : Type := Call store GoError α

/-! ## the calls -/

def scanInvoice : Option Row → Op Row
  | some inv => .pure inv
  | none => fail (.sentinel .notFound)

def getByID (id : String) : Op Row :=
  Call.bind (stmt (S := store) (.getByID id) fun e => .wrap "scan invoice" (.pg e)) scanInvoice

def voidAfter (id : String) (inv : Row) : Op Unit :=
  if inv.status = .paid then fail (.wrap "cannot void a paid invoice" (.sentinel .conflict))
  else if inv.status = .void then fail (.wrap "invoice is already void" (.sentinel .conflict))
  else (stmt (S := store) (.updateStatus id .void)
      fun e => .wrap "void invoice" (.wrap "update invoice status" (.pg e))).attempt fun
    -- `RowsAffected() == 0`
    | .ok 0 => fail (.wrap "void invoice" (.sentinel .notFound))
    | .ok _ => .pure ()
    | .error e => fail e

def statusText : InvoiceStatus → String
  | .draft => "draft"
  | .issued => "issued"
  | .paid => "paid"
  | .void => "void"

def payAfter (id : String) (inv : Row) : Op Unit :=
  if inv.status ≠ .issued then
    fail (.wrap ("only issued invoices can be marked paid (current: " ++
      statusText inv.status ++ ")") (.sentinel .conflict))
  else (stmt (S := store) (.setPaidAt id)
      fun e => .wrap "mark invoice paid" (.wrap "set invoice paid_at" (.pg e))).attempt fun
    | .ok _ => .pure ()
    | .error e => fail e

def reading (context id : String) (f : Row → Op Unit) : Op Unit :=
  (getByID id).attempt fun
    | .ok inv => f inv
    | .error e => fail (.wrap context e)

def voidInvoice (id : String) : Op Unit := reading "get invoice for void" id (voidAfter id)

def markAsPaid (id : String) : Op Unit := reading "get invoice for payment" id (payAfter id)

inductive InvoiceCall where
  | void
  | pay

def InvoiceCall.run (id : String) : InvoiceCall → Op Unit
  | .void => voidInvoice id
  | .pay => markAsPaid id

/-- what the call does with the invoice that it has read -/
def InvoiceCall.after (id : String) : InvoiceCall → Row → Op Unit
  | .void => voidAfter id
  | .pay => payAfter id

/-! ## what a write does -/

def Row.Final (inv : Row) : Prop := inv.status = .paid ∨ inv.status = .void

/-- there is a time of payment when the invoice is paid -/
def Row.Dated (inv : Row) : Prop := inv.paidAt.isSome ↔ inv.status = .paid

/-- an invoice that is open becomes void or, if it was issued, paid with a time -/
inductive Move : Row → Row → Prop
  | void {inv : Row} : ¬ inv.Final → Move inv (inv.withStatus .void)
  | pay {inv : Row} (now : Int) : inv.status = .issued → Move inv (inv.paid now)

lemma Move.settles {old new : Row} (h : Move old new) :
    old.keys = new.keys ∧ ¬ old.Final ∧ new.Final ∧ (old.Dated → new.Dated) := by
  cases h with
  | void hopen =>
    refine ⟨rfl, hopen, .inr rfl, fun hd => ⟨fun hpaid => ?_, fun hs => by cases hs⟩⟩
    exact absurd (.inl (hd.mp hpaid)) hopen
  | pay now hissued =>
    refine ⟨rfl, ?_, .inl rfl, fun _ => ⟨fun _ => rfl, fun _ => rfl⟩⟩
    rintro (hs | hs) <;> cases hs.symm.trans hissued

section
variable {ι : Type} {id : String} {db₀ : Db}

/-- what holds in every state: the first commit is the last -/
structure Once (id : String) (db₀ : Db) (m : Mem store ι) : Prop where
  first : m.wal = [] ∨ (∃ b, m.wal = [b]) ∧ ∃ inv, m.db.invoices.find id = some inv ∧ inv.Final
  dated : (∀ inv, db₀.invoices.find id = some inv → inv.Dated) →
    ∀ inv, m.db.invoices.find id = some inv → inv.Dated

variable {i : ι} {m : Mem store ι} {old new : Row}

lemma Once.step (h : Once id db₀ m) (hfind : m.db.invoices.find id = some old)
    (hmove : Move old new) : Once id db₀ (m.publish i [new]) := by
  obtain ⟨hkeys, hold, hnew, hdated⟩ := hmove.settles
  have hfind' : (m.publish i [new]).db.invoices.find id = some new :=
    Table.find_put_self hfind hkeys
  refine ⟨.inr ⟨?_, new, hfind', hnew⟩, fun h0 inv hinv => ?_⟩
  · rcases h.first with hwal | ⟨-, inv, hinv, hfinal⟩
    · exact ⟨(i, [new]), by rw [Mem.publish_wal (cons_ne_nil _ _), hwal]; rfl⟩
    · obtain rfl := mem_unique hfind hinv
      exact absurd hfinal hold
  · obtain rfl := mem_unique hfind' hinv
    exact hdated (h.dated h0 old hfind)

/-! ## how far a call is -/

/-- the next statement is the write -/
def writing {ρ : Type} : Option (Prog store ρ) → Bool
  | some (.req (.run (.updateStatus _ _)) _) => true
  | some (.req (.run (.setPaidAt _)) _) => true
  | _ => false

/-- no call writes while another one stands between its read and its write -/
def Apart {ρ : Type} (s : State store ι ρ) (i : ι) : Label store → Prop
  | .ev _ => writing (s.prog i) = true → ∀ j, j ≠ i → writing (s.prog j) = false
  | .crash => True

/-- a call that succeeds has committed a write -/
def Wrote (i : ι) (r : Except GoError Unit) (m : Mem store ι) : Prop :=
  r = .ok () → ∃ inv, (i, [inv]) ∈ m.wal

inductive Stage (id : String) (c : InvoiceCall) (i : ι) (m : Mem store ι) : Op Unit → Prop
  | fresh : Stage id c i m (c.run id)
  | found {inv : Row} : m.db.invoices.find id = some inv → writing (some (c.after id inv)) = true →
      Stage id c i m (c.after id inv)
  | ended {r : Except GoError Unit} : Wrote i r m → Stage id c i m (.ret r)

variable {c : InvoiceCall}

lemma Stage.failed (e : GoError) : Stage id c i m (fail e) := .ended fun h => by cases h

/-- the read, and what follows it -/
lemma run_reads (id : String) (c : InvoiceCall) : ∃ k, c.run id = .req (.run (.getByID id)) k ∧
    (∀ inv, k (.ok (some inv)) = c.after id inv) ∧ (∃ e, k (.ok none) = fail e) ∧
    ∀ e, ∃ e', k (.error e) = fail e' := by
  cases c with
  | void | pay => exact ⟨_, rfl, fun _ => rfl, ⟨_, rfl⟩, fun _ => ⟨_, rfl⟩⟩

/-- the call refuses the invoice, or it writes it -/
lemma after_cases (id : String) (c : InvoiceCall) (inv : Row) : (∃ e, c.after id inv = fail e) ∨
    writing (some (c.after id inv)) = true := by
  cases c with
  | void =>
    show (∃ e, voidAfter id inv = fail e) ∨ writing (some (voidAfter id inv)) = true
    unfold voidAfter
    split
    · exact .inl ⟨_, rfl⟩
    split
    · exact .inl ⟨_, rfl⟩
    exact .inr rfl
  | pay =>
    show (∃ e, payAfter id inv = fail e) ∨ writing (some (payAfter id inv)) = true
    unfold payAfter
    split
    · exact .inl ⟨_, rfl⟩
    exact .inr rfl

lemma stage_after {inv : Row} (hfind : m.db.invoices.find id = some inv) :
    Stage id c i m (c.after id inv) := by
  rcases after_cases id c inv with ⟨e, he⟩ | hw
  · rw [he]
    exact .failed e
  · exact .found hfind hw

lemma Stage.other {p : Op Unit} {j : ι} (h : Stage id c i m p)
    (hp : writing (some p) = false) (row : Row) : Stage id c i (m.publish j [row]) p := by
  cases h with
  | fresh => exact .fresh
  | found _ hw => cases hw.symm.trans hp
  | ended hr =>
    refine .ended fun hok => ?_
    obtain ⟨inv, hinv⟩ := hr hok
    exact ⟨inv, (Mem.wal_prefix_publish m j [row]).subset hinv⟩

/-- what a write of the invoice as it was read comes to -/
lemma update_found (db : Db) (f : Row → Row) (hfind : db.invoices.find id = some old) :
    update db id f = (1, [f old]) := by
  unfold update
  rw [hfind]

lemma stage_wrote : Stage id c i (m.publish i [new]) (.pure ()) := by
  refine .ended fun _ => ⟨new, ?_⟩
  rw [Mem.publish_wal (cons_ne_nil _ _)]
  exact mem_append_right _ (mem_singleton_self _)

/-- **A request of a call**: it leaves the table as it is, or it settles the invoice. -/
lemma Stage.request {r : Req store} {k : r.Ans → Op Unit} (h : Stage id c i m (.req r k))
    {e : Event store} {o : Out store r} (ho : r.exec e .idle m.db = some o) :
    o.loc = .idle ∧ Stage id c i (m.publish i o.ws) (k o.ans) ∧
      (o.ws = [] ∨ writing (some (.req r k)) = true ∧
        ∃ old new, o.ws = [new] ∧ m.db.invoices.find id = some old ∧ Move old new) := by
  generalize hp : Prog.req r k = p at h
  cases h with
  | fresh =>
    obtain ⟨k', hk', hsome, ⟨e₀, hnone⟩, herr⟩ := run_reads id c
    cases hp.trans hk'
    cases e with
    | fail x =>
      cases ho
      obtain ⟨e', he'⟩ := herr (PgError.fault x)
      exact ⟨rfl, he'.symm ▸ .failed e', .inl rfl⟩
    | ok x =>
      cases ho
      refine ⟨rfl, ?_, .inl rfl⟩
      show Stage id c i m (k' (.ok (m.db.invoices.find id)))
      cases hfind : m.db.invoices.find id with
      | none => exact hnone.symm ▸ .failed e₀
      | some inv => exact hsome inv ▸ stage_after hfind
  | @found inv hfind hw =>
    cases c with
    | void =>
      have hp : Prog.req r k = voidAfter id inv := hp
      unfold voidAfter at hp
      split at hp
      · cases hp
      rename_i hpaid
      split at hp
      · cases hp
      rename_i hvoid
      cases hp
      cases e with
      | fail x =>
        cases ho
        exact ⟨rfl, .failed _, .inl rfl⟩
      | ok x =>
        have hupdate := update_found m.db (.withStatus .void) hfind
        simp only [Req.exec, Loc.idle, exec, hupdate] at ho
        cases ho
        exact ⟨rfl, stage_wrote, .inr ⟨hw, inv, _, rfl, hfind, .void fun hf => hf.elim hpaid hvoid⟩⟩
    | pay =>
      have hp : Prog.req r k = payAfter id inv := hp
      unfold payAfter at hp
      split at hp
      · cases hp
      rename_i hissued
      cases hp
      cases e with
      | fail x =>
        cases ho
        exact ⟨rfl, .failed _, .inl rfl⟩
      | ok x =>
        have hupdate := update_found m.db (.paid x) hfind
        simp only [Req.exec, Loc.idle, exec, hupdate] at ho
        cases ho
        exact ⟨rfl, stage_wrote, .inr ⟨hw, inv, _, rfl, hfind, .pay x (not_not.mp hissued)⟩⟩
  | ended hr => cases hp

/-! ## every run -/

variable [DecidableEq ι] {calls : ι → InvoiceCall} {s s' : State store ι (Except GoError Unit)}

structure Inv (id : String) (db₀ : Db) (calls : ι → InvoiceCall)
    (s : State store ι (Except GoError Unit)) : Prop where
  once : Once id db₀ s.mem
  idle : ∀ i, s.loc i = .idle
  stage : ∀ i p, s.prog i = some p → Stage id (calls i) i s.mem p

/-- one move: nothing is written, or an open invoice is settled -/
lemma Inv.step {a : Label store} (h : Inv id db₀ calls s) (hturn : Apart s i a)
    (hs : step s i a = some s') : Inv id db₀ calls s' ∧
      (s'.mem = s.mem ∨ ∃ old, s.mem.db.invoices.find id = some old ∧ ¬ old.Final) := by
  cases a with
  | crash =>
    obtain ⟨r, k, hp, rfl⟩ := step_crash hs
    refine ⟨⟨h.once, fun j => ?_, fun j p hj => ?_⟩, .inl rfl⟩
    · by_cases hj : j = i
      · subst hj
        exact Function.update_self ..
      · exact (Function.update_of_ne hj _ _).trans (h.idle j)
    · by_cases hj' : j = i
      · subst hj'
        cases (Function.update_self _ _ _).symm.trans hj
      · exact h.stage j p ((Function.update_of_ne hj' _ _).symm.trans hj)
  | ev e =>
    obtain ⟨r, k, o, hp, ho, -, rfl⟩ := step_ev hs
    rw [h.idle i] at ho
    obtain ⟨hloc, hstage, hws⟩ := (h.stage i _ hp).request ho
    have hidle : ∀ j, Function.update s.loc i o.loc j = .idle := by
      intro j
      by_cases hj : j = i
      · subst hj
        exact (Function.update_self ..).trans hloc
      · exact (Function.update_of_ne hj _ _).trans (h.idle j)
    rcases hws with hws | ⟨hw, old, new, hws, hfind, hmove⟩
    · rw [hws, Mem.publish_nil] at hstage
      refine ⟨⟨?_, hidle, fun j p hj => ?_⟩, .inl (by rw [hws]; rfl)⟩
      · rw [hws]
        exact h.once
      · rw [hws]
        by_cases hji : j = i
        · subst hji
          cases (Function.update_self _ _ _).symm.trans hj
          exact hstage
        · exact h.stage j p ((Function.update_of_ne hji _ _).symm.trans hj)
    · have hapart := hturn (hp ▸ hw)
      rw [hws] at hstage
      refine ⟨⟨?_, hidle, fun j p hj => ?_⟩, .inr ⟨old, hfind, hmove.settles.2.1⟩⟩
      · rw [hws]
        exact h.once.step hfind hmove
      · rw [hws]
        by_cases hji : j = i
        · subst hji
          cases (Function.update_self _ _ _).symm.trans hj
          exact hstage
        · have hj' : s.prog j = some p := (Function.update_of_ne hji _ _).symm.trans hj
          exact (h.stage j p hj').other (hj' ▸ hapart j hji) new

lemma inv_of_reaches (h : ReachesOn Apart (State.init db₀ fun i => (calls i).run id) s) :
    Inv id db₀ calls s := by
  refine h.keeps (I := Inv id db₀ calls) (fun s s' i a hs hturn hstep => (hs.step hturn hstep).1) ?_
  refine ⟨⟨.inl rfl, fun h => h⟩, fun _ => rfl, fun i p hp => ?_⟩
  cases hp
  exact .fresh

/-- **An invoice is settled once.** In a run in which no call writes while another one stands
between its read and its write, one call at most succeeds, an invoice that is paid or void stays as
it is, and there is a time of payment exactly when it is paid. -/
theorem settled_once (h₀ : ∀ inv, db₀.invoices.find id = some inv → inv.Dated)
    (calls : ι → InvoiceCall) {s : State store ι (Except GoError Unit)}
    (h : ReachesOn Apart (State.init db₀ fun i => (calls i).run id) s) :
    (∀ i j, s.prog i = some (.ret (.ok ())) → s.prog j = some (.ret (.ok ())) → i = j) ∧
    (∀ s', ReachesOn Apart s s' → ∀ inv, s.mem.db.invoices.find id = some inv → inv.Final →
      s'.mem.db.invoices.find id = some inv) ∧
    ∀ inv, s.mem.db.invoices.find id = some inv → inv.Dated := by
  have hinv : Inv id db₀ calls s := inv_of_reaches h
  have hwrote : ∀ i, s.prog i = some (.ret (.ok ())) → ∃ inv, (i, [inv]) ∈ s.mem.wal := by
    intro i hi
    have hstage := hinv.stage i _ hi
    generalize hp : (Prog.ret (.ok ()) : Op Unit) = p at hstage
    cases hstage with
    | fresh =>
      obtain ⟨k, hk, -⟩ := run_reads id (calls i)
      cases hp.trans hk
    | found _ hw =>
      rw [← hp] at hw
      cases hw
    | ended hr =>
      cases hp
      exact hr rfl
  refine ⟨fun i j hi hj => ?_, fun s' h' inv hfind hfinal => ?_, hinv.once.dated h₀⟩
  · obtain ⟨a, ha⟩ := hwrote i hi
    obtain ⟨b, hb⟩ := hwrote j hj
    rcases hinv.once.first with hwal | ⟨⟨c, hwal⟩, -⟩
    · rw [hwal] at ha
      cases ha
    · rw [hwal] at ha hb
      exact congrArg Prod.fst ((mem_singleton.mp ha).trans (mem_singleton.mp hb).symm)
  · refine (h'.keeps (I := fun s => Inv id db₀ calls s ∧ s.mem.db.invoices.find id = some inv) ?_
      ⟨hinv, hfind⟩).2
    rintro s s' i a ⟨hs, hf⟩ hturn hstep
    obtain ⟨hs', hsame | ⟨old, hold, hopen⟩⟩ := hs.step hturn hstep
    · exact ⟨hs', hsame.symm ▸ hf⟩
    · obtain rfl := mem_unique hf hold
      exact absurd hfinal hopen

end

def issued : Db := ⟨Table.empty.insert ⟨"inv", .issued, none⟩⟩

def voidAndPay (i : Bool) : InvoiceCall := if i then .pay else .void

instance {ρ : Type} (s : State store Bool ρ) (i : Bool) (a : Label store) :
    Decidable (Apart s i a) :=
  match a with
  | .ev _ => inferInstanceAs (Decidable (_ = true → ∀ j : Bool, j ≠ i → _ = false))
  | .crash => .isTrue trivial

def inTurn (turns : List Bool) : List (Bool × Label store) := turns.map fun i => (i, .ev (.ok 7))

/-- The second call reads the invoice after the first has written: it is refused. -/
theorem settled_once_paid : ∃ s : State store Bool (Except GoError Unit),
    ReachesOn Apart (State.init issued fun i => (voidAndPay i).run "inv") s ∧
    s.prog true = some (.ret (.ok ())) ∧ (∃ e, s.prog false = some (.ret (.error e))) ∧
    s.mem.db.invoices.rows = [⟨"inv", .paid, some 7⟩] ∧
    ∀ inv, s.mem.db.invoices.find "inv" = some inv → inv.Dated := by
  have hrun : (run (State.init issued fun i => (voidAndPay i).run "inv")
      (inTurn [true, true, false])).isSome = true := by
    rfl
  have hreach : ReachesOn Apart _ _ := reachesOn_scheduled (run_get hrun) (by rfl)
  have hdated : ∀ inv, issued.invoices.find "inv" = some inv → inv.Dated := by
    intro inv hinv
    cases hinv
    unfold Row.Dated
    decide
  exact ⟨_, hreach, rfl, ⟨_, rfl⟩, rfl, (settled_once hdated voidAndPay hreach).2.2⟩

/-- Both calls read the invoice before either writes: both succeed, and a paid invoice becomes
void. -/
theorem paid_then_void : ∃ s : State store Bool (Except GoError Unit),
    Reaches always (State.init issued fun i => (voidAndPay i).run "inv") s ∧
    (∀ i, s.prog i = some (.ret (.ok ()))) ∧ s.mem.db.invoices.rows = [⟨"inv", .void, some 7⟩] := by
  have hrun : (run (State.init issued fun i => (voidAndPay i).run "inv")
      (inTurn [true, false, true, false])).isSome = true := by rfl
  refine ⟨_, reaches_run (run_get hrun), fun i => ?_, rfl⟩
  cases i with
  | true => rfl
  | false => rfl

end VirtueStack.Invoice.Settlement
