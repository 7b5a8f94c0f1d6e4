import VirtueStack.Txn.Protocol

/-!
# Transactions: the rules for calls

A call ends with a value or an error, and what is known of the committed state at that point must
survive whatever the other sessions do afterwards: `Settled R m` says that `R` holds now and in all
futures the others can bring about. Two judgements follow, `InTx` and `Idle`.

Each rule takes the call together with its continuation, so that a proof walks through a function
of the source from its first statement to its last.
-/

namespace Txn
open Call

section
variable {S : Store} {ε α β γ : Type}

lemma Prog.bind_assoc (p : Prog S α) (f : α → Prog S β) (g : β → Prog S γ) :
    (p.bind f).bind g = p.bind (fun a => (f a).bind g) := by
  induction p with
  | ret a => rfl
  | req r k ih =>
    show Prog.req r (fun x => ((k x).bind f).bind g) = Prog.req r (fun x => (k x).bind _)
    exact congrArg (Prog.req r) (funext ih)

lemma Prog.bind_ret (p : Prog S α) : p.bind Prog.ret = p := by
  induction p with
  | ret a => rfl
  | req r k ih => exact congrArg (Prog.req r) (funext ih)

section
variable (c : Call S ε α)

lemma Call.bind_assoc (f : α → Call S ε β) (g : β → Call S ε γ) :
    (c.bind f).bind g = c.bind (fun a => (f a).bind g) := by
  refine (Prog.bind_assoc (S := S) c _ _).trans (congrArg (Prog.bind (S := S) c) ?_)
  funext r
  cases r with
  | ok a => rfl
  | error e => rfl

lemma Call.attempt_attempt (f : Except ε α → Call S ε β)
    (g : Except ε β → Call S ε γ) : (c.attempt f).attempt g = c.attempt fun r => (f r).attempt g :=
  Prog.bind_assoc (S := S) c f g

lemma Call.attempt_ret : c.attempt Prog.ret = c := Prog.bind_ret (S := S) c

lemma Call.bind_eq_attempt (f : α → Call S ε β) : c.bind f = c.attempt fun
      | .ok a => f a
      | .error e => Call.fail e := rfl

end

lemma Call.bind_ite (p : Prop) [Decidable p] (c d : Call S ε α) (f : α → Call S ε β) :
    (if p then c else d).bind f = if p then c.bind f else d.bind f := by
  by_cases h : p
  · rw [if_pos h, if_pos h]
  · rw [if_neg h, if_neg h]

end

section
variable {S : Store} {ι : Type} {P : Protocol S ι} {i : ι} {ε α β : Type}

/-- `R` holds now and whatever the other sessions do from now on -/
def Settled (P : Protocol S ι) (i : ι) (R : Mem S ι → Prop) (m : Mem S ι) : Prop :=
  ∀ m', P.Rely i ∅ m m' → P.Reach m' → R m'

lemma Settled.stable {R : Mem S ι → Prop} {H : Set S.Lock} {m m' : Mem S ι}
    (h : Settled P i R m) (hr : P.Rely i H m m') : Settled P i R m' :=
  fun m1 h1 => h m1 ((hr.mono (Set.empty_subset H)).trans h1)

lemma Settled.mono {R R' : Mem S ι → Prop} {m : Mem S ι} (h : Settled P i R m)
    (hR : ∀ m, P.Reach m → R m → R' m) : Settled P i R' m :=
  fun m1 h1 h2 => hR m1 h2 (h m1 h1 h2)

/-- `R` is settled for every error -/
abbrev Fails (P : Protocol S ι) (i : ι) (R : Except ε α → Mem S ι → Prop) (m : Mem S ι) : Prop :=
  ∀ e, Settled P i (R (.error e)) m

lemma Fails.stable {R : Except ε α → Mem S ι → Prop} {H : Set S.Lock} {m m' : Mem S ι}
    (h : Fails P i R m) (hr : P.Rely i H m m') : Fails P i R m' := fun e => Settled.stable (h e) hr

/-! ## inside a transaction -/

/-- the call `c`, inside a transaction, ends with an outcome that settles `R` -/
def InTx (P : Protocol S ι) (i : ι) (c : Call S ε α) (R : Except ε α → Mem S ι → Prop)
    (l : Loc S) (H : Set S.Lock) (m : Mem S ι) : Prop :=
  WP P i c (fun r _ _ m => Settled P i (R r) m) l H m

variable {R : Except ε α → Mem S ι → Prop} {l : Loc S} {H : Set S.Lock} {m : Mem S ι}
  {r : Except ε α}

lemma InTx.ret (h : Settled P i (R r) m) :
    InTx P i (Prog.ret r : Call S ε α) R l H m := fun _ hr _ => h.stable hr

variable {a : α} {q : S.Stmt} {err : S.Err → ε} {log : List S.Write} {x₀ : S.Inp} {c : Call S ε α}
variable {f : Except ε α → Call S ε β} {s : State S ι (Except ε α)} {p : ι → Call S ε α} {db : S.Db}

lemma InTx.pure (h : Settled P i (R (.ok a)) m) :
    InTx P i (Call.pure a : Call S ε α) R l H m := InTx.ret h

lemma InTx.fail {e : ε} (h : Settled P i (R (.error e)) m) :
    InTx P i (Call.fail e : Call S ε α) R l H m := InTx.ret h

lemma InTx.assoc {γ : Type} {c : Call S ε γ} {g : γ → Call S ε β} {f : β → Call S ε α}
    (h : InTx P i (c.bind fun a => (g a).bind f) R l H m) :
    InTx P i ((c.bind g).bind f) R l H m := by
  rw [bind_assoc]
  exact h

/-- a statement either fails, and with it the transaction, or adds its writes to the log and its
locks to those held -/
lemma InTx.stmt {f : S.Ans q → Call S ε α} (he : Fails P i R m)
    (h : ∀ m' x a ws, P.Rely i H m m' → P.Reach m' →
      P.allow i (.run q) ⟨.active x₀, log⟩ m' → S.exec q x₀ x (S.view m'.db log) = .ok (a, ws) →
      InTx P i (f a) R ⟨.active x₀, log ++ ws⟩ (H ∪ {l | l ∈ S.locks q x (S.view m'.db log)}) m') :
    InTx P i ((stmt q err).bind f) R ⟨.active x₀, log⟩ H m := by
  intro m' hr hR ha e o ho
  have hfail : ∀ (e : S.Err) (l : Loc S) (K : Set S.Lock), InTx P i
    (Call.fail (err e) : Call S ε α) R l K m' :=
    fun e l K => InTx.fail ((he (err e)).stable hr)
  cases e with
  | fail e =>
    cases ho
    exact silent (hfail _ _ _)
  | ok x =>
    simp only [Req.exec] at ho
    split at ho
    · rename_i a ws hq
      cases ho
      exact silent (h m' x a ws hr hR ha hq)
    · cases ho
      exact silent (hfail _ _ _)

lemma union_none : H ∪ {l | l ∈ ([] : List S.Lock)} = H := by simp

lemma InTx.read {f : S.Ans q → Call S ε α}
    (hq : ∀ x₀ x v a ws, S.exec q x₀ x v = .ok (a, ws) → ws = [] ∧ S.locks q x v = [])
    (he : Fails P i R m)
    (h : ∀ m' x a, P.Rely i H m m' → P.Reach m' → P.allow i (.run q) ⟨.active x₀, log⟩ m' →
      S.exec q x₀ x (S.view m'.db log) = .ok (a, []) → InTx P i (f a) R ⟨.active x₀, log⟩ H m') :
    InTx P i ((Call.stmt q err).bind f) R ⟨.active x₀, log⟩ H m := by
  refine InTx.stmt he fun m' x a ws hr hR ha hx => ?_
  obtain ⟨rfl, hl⟩ := hq _ _ _ _ _ hx
  rw [hl, union_none, List.append_nil]
  exact h m' x a hr hR ha hx

lemma InTx.commit (he : Fails P i R m)
    (h : ∀ m', P.Rely i H m m' → P.Reach m' → P.allow i .commit ⟨.active x₀, log⟩ m' →
      (log ≠ [] → P.may i H log m') ∧ Settled P i (R (.ok a)) (m'.publish i log)) :
    InTx P i ((commit err).bind fun _ => Call.pure a) R ⟨.active x₀, log⟩ H m := by
  intro m' hr hR ha e o ho
  cases e with
  | fail e =>
    cases ho
    exact silent (InTx.fail ((he _).stable hr))
  | ok x =>
    simp only [Req.exec] at ho
    cases ho
    obtain ⟨hmay, hs⟩ := h m' hr hR ha
    rw [union_none]
    exact ⟨hmay, InTx.pure hs⟩

/-! ## outside a transaction -/

/-- the call `c`, started outside any transaction, ends outside any transaction with an outcome that
settles `R` -/
def Idle (P : Protocol S ι) (i : ι) (c : Call S ε α) (R : Except ε α → Mem S ι → Prop)
    (m : Mem S ι) : Prop :=
  WP P i c (fun r l H m => l = .idle ∧ H = ∅ ∧ Settled P i (R r) m) .idle ∅ m

lemma Idle.ret (h : Settled P i (R r) m) :
    Idle P i (Prog.ret r : Call S ε α) R m := fun _ hr _ => ⟨rfl, rfl, h.stable hr⟩

lemma Idle.pure (h : Settled P i (R (.ok a)) m) :
    Idle P i (Call.pure a : Call S ε α) R m := Idle.ret h

lemma Idle.fail {e : ε} (h : Settled P i (R (.error e)) m) :
    Idle P i (Call.fail e : Call S ε α) R m := Idle.ret h

lemma Idle.mono {R' : Except ε α → Mem S ι → Prop} (h : Idle P i c R m)
    (hR : ∀ r m, P.Reach m → R r m → R' r m) : Idle P i c R' m :=
  WP.mono (fun r _ _ _ _ ⟨h1, h2, h3⟩ => ⟨h1, h2, h3.mono (hR r)⟩) h

variable {R' : Except ε β → Mem S ι → Prop}

/-- a call followed by what becomes of its outcome, value or error -/
lemma Idle.attempt (h : Idle P i c R m)
    (hf : ∀ r m, P.Reach m → Settled P i (R r) m → Idle P i (f r) R' m) :
    Idle P i (c.attempt f) R' m := by
  refine WP.bind (WP.mono ?_ h)
  rintro r l H m hm ⟨rfl, rfl, hr⟩
  exact hf r m hm hr

lemma Idle.bind {f : α → Call S ε β} (h : Idle P i c R m)
    (hf : ∀ a m, P.Reach m → Settled P i (R (.ok a)) m → Idle P i (f a) R' m)
    (he : ∀ e m, P.Reach m → Settled P i (R (.error e)) m → Settled P i (R' (.error e)) m) :
    Idle P i (c.bind f) R' m := by
  refine Idle.attempt h fun r m hm hr => ?_
  cases r with
  | ok a => exact hf a m hm hr
  | error e => exact Idle.fail (he e m hm hr)

section
variable {f : Except ε (S.Ans q) → Call S ε α}

/-- a statement on its own is a transaction of its own -/
lemma Idle.stmt (he : ∀ e m', P.Rely i ∅ m m' → P.Reach m' → Idle P i (f (.error (err e))) R m')
    (h : ∀ m' x a ws, P.Rely i ∅ m m' → P.Reach m' → P.allow i (.run q) .idle m' →
      S.exec q x x m'.db = .ok (a, ws) →
      (ws ≠ [] → P.may i {l | l ∈ S.locks q x m'.db} ws m') ∧ Idle P i (f (.ok a)) R
        (m'.publish i ws)) : Idle P i ((stmt q err).attempt f) R m := by
  intro m' hr hR ha e o ho
  cases e with
  | fail e =>
    cases ho
    exact silent (he _ m' hr hR)
  | ok x =>
    simp only [Req.exec, Loc.idle] at ho
    split at ho
    · rename_i a ws hq
      cases ho
      obtain ⟨hmay, hs⟩ := h m' x a ws hr hR ha hq
      refine ⟨fun hne => ?_, hs⟩
      rw [Set.empty_union]
      exact hmay hne
    · cases ho
      exact silent (he _ m' hr hR)

lemma Idle.read (hq : ∀ x₀ x v a ws, S.exec q x₀ x v = .ok (a, ws) → ws = [] ∧ S.locks q x v = [])
    (he : ∀ e m', P.Rely i ∅ m m' → P.Reach m' → Idle P i (f (.error (err e))) R m')
    (h : ∀ m' x a, P.Rely i ∅ m m' → P.Reach m' → P.allow i (.run q) .idle m' →
      S.exec q x x m'.db = .ok (a, []) → Idle P i (f (.ok a)) R m') :
        Idle P i ((Call.stmt q err).attempt f) R m := by
  refine Idle.stmt he fun m' x a ws hr hR ha hx => ?_
  obtain ⟨rfl, -⟩ := hq _ _ _ _ _ hx
  exact silent (h m' x a hr hR ha hx)

end

/-- **Transactions.** The body runs in a fresh transaction; what it did not commit is dropped. -/
theorem Idle.withTx {body : Call S ε α} (he : Fails P i R m)
    (h : ∀ m' x, P.Rely i ∅ m m' → P.Reach m' → InTx P i body R ⟨.active x, []⟩ ∅ m') :
    Idle P i (withTx err body) R m := by
  intro m' hr hR ha e o ho
  cases e with
  | fail e =>
    cases ho
    exact silent (Idle.fail ((he _).stable hr))
  | ok x =>
    simp only [Req.exec, Loc.idle] at ho
    cases ho
    refine silent (WP.bind (WP.mono ?_ (h m' x hr hR)))
    intro r l K m1 _ hs m2 hr2 hR2 _ e o ho
    cases ho
    exact silent (Idle.ret (hs.stable hr2))

/-! ## calls that only read -/

/-- `c` makes nothing public; it ends with an error, or with a value that is in `Q` at that
moment -/
def Reads (P : Protocol S ι) (i : ι) (c : Call S ε β) (Q : β → Mem S ι → Prop) : Prop :=
  ∀ (α : Type) (f : Except ε β → Call S ε α) (R : Except ε α → Mem S ι → Prop) (m : Mem S ι),
    (∀ e m', P.Rely i ∅ m m' → P.Reach m' → Idle P i (f (.error e)) R m') →
    (∀ b m', P.Rely i ∅ m m' → P.Reach m' → Q b m' → Idle P i (f (.ok b)) R m') →
    Idle P i (c.attempt f) R m

lemma Reads.mono {c : Call S ε β} {Q Q' : β → Mem S ι → Prop} (h : Reads P i c Q)
    (hQ : ∀ b m, Q b m → Q' b m) : Reads P i c Q' :=
  fun α f R m he hb => h α f R m he fun b m' hr hR hq => hb b m' hr hR (hQ b m' hq)

lemma Reads.fail {Q : β → Mem S ι → Prop} (e : ε) : Reads P i (Call.fail e) Q :=
  fun _ _ _ _ he _ => WP.of_rely fun m' hr hR => he e m' hr hR

section
variable (hq : ∀ x₀ x v a ws, S.exec q x₀ x v = .ok (a, ws) → ws = [] ∧ S.locks q x v = [])
include hq

lemma Reads.allowed : Reads P i (stmt q err)
    (fun a m => P.allow i (.run q) .idle m ∧ ∃ x, S.exec q x x m.db = .ok (a, [])) :=
  fun _ _ _ _ he hb => Idle.read hq (fun _ m' hr hR => he _ m' hr hR) fun m' x a hr hR ha hx =>
    hb a m' hr hR ⟨ha, x, hx⟩

lemma Reads.stmt : Reads P i (stmt q err) (fun a m => ∃ x, S.exec q x x m.db = .ok (a, [])) :=
  (Reads.allowed hq).mono fun _ _ h => h.2

end

/-! ## calls of which only the steps matter -/

/-- the call keeps to the protocol -/
abbrev Keeps (P : Protocol S ι) (i : ι) (c : Call S ε α) (m : Mem S ι) : Prop :=
  Idle P i c (fun _ _ => True) m

lemma Keeps.ret (r : Except ε α) : Keeps P i (Prog.ret r : Call S ε α) m :=
  Idle.ret fun _ _ _ => trivial

lemma Keeps.attempt (h : Keeps P i c m) (hf : ∀ r m, Keeps P i (f r) m) :
    Keeps P i (c.attempt f) m :=
  Idle.attempt h fun r m _ _ => hf r m

lemma Keeps.bind {f : α → Call S ε β} (h : Keeps P i c m) (hf : ∀ a m, Keeps P i (f a) m) :
    Keeps P i (c.bind f) m :=
  Idle.bind h (fun a m _ _ => hf a m) fun _ _ _ _ _ _ _ => trivial

lemma Reads.keeps {Q : α → Mem S ι → Prop} (h : Reads P i c Q) : Keeps P i c m := by
  rw [← attempt_ret c]
  exact h _ _ _ _ (fun _ _ _ _ => Keeps.ret _) fun _ _ _ _ _ => Keeps.ret _

section
variable {f : α → Call S ε β} {Q : α → Mem S ι → Prop} (h : Reads P i c Q)
include h

lemma Keeps.reads_rely (hf : ∀ a m', P.Rely i ∅ m m' → P.Reach m' → Q a m' → Keeps P i (f a) m') :
    Keeps P i (c.bind f) m := by
  rw [bind_eq_attempt]
  exact h _ _ _ _ (fun e m _ _ => Keeps.ret _) hf

lemma Keeps.reads (hf : ∀ a m, Q a m → Keeps P i (f a) m) : Keeps P i (c.bind f) m :=
  Keeps.reads_rely h fun a m _ _ => hf a m

end

/-! ## calls that may end anywhere -/

/-- the call keeps to the protocol from the private part `l` and the locks `H` on -/
def Safe (P : Protocol S ι) (i : ι) (c : Call S ε α) (l : Loc S) (H : Set S.Lock) (m : Mem S ι) :
    Prop :=
  WP P i c (fun _ _ _ _ => True) l H m

lemma Safe.ret (r : Except ε α) : Safe P i (Prog.ret r : Call S ε α) l H m := fun _ _ _ => trivial

lemma Keeps.safe (h : Keeps P i c m) : Safe P i c .idle ∅ m :=
  WP.mono (fun _ _ _ _ _ _ => trivial) h

lemma Safe.attempt (h : Safe P i c l H m) (hf : ∀ r l H m, Safe P i (f r) l H m) :
    Safe P i (c.attempt f) l H m :=
  WP.bind (WP.mono (fun r l H m _ _ => hf r l H m) h)

lemma Safe.begin {k : Except S.Err Unit → Call S ε α}
    (he : ∀ e m', Safe P i (k (.error e)) .idle ∅ m')
    (h : ∀ x m', P.Reach m' → Safe P i (k (.ok ())) ⟨.active x, []⟩ ∅ m') :
    Safe P i (Prog.req .begin k : Call S ε α) .idle ∅ m := by
  intro m' _ hR _ e o ho
  cases e with
  | fail e =>
    cases ho
    exact silent (he _ m')
  | ok x =>
    simp only [Req.exec, Loc.idle] at ho
    cases ho
    exact silent (h x m' hR)

lemma Safe.rollback (r : Except ε α) :
    Safe P i (Prog.req .rollback fun _ => Prog.ret r : Call S ε α) l H m := by
  intro m' _ _ _ e o ho
  cases ho
  exact silent (Safe.ret r)

lemma Safe.stmt {f : Except ε (S.Ans q) → Call S ε α}
    (he : ∀ e m', Safe P i (f (.error e)) ⟨.failed, []⟩ ∅ m')
    (h : ∀ m' x a ws, P.Rely i H m m' → P.Reach m' →
      S.exec q x₀ x (S.view m'.db log) = .ok (a, ws) → Safe P i (f (.ok a)) ⟨.active x₀, log ++ ws⟩
        (H ∪ {l | l ∈ S.locks q x (S.view m'.db log)}) m') :
    Safe P i ((stmt q err).attempt f) ⟨.active x₀, log⟩ H m := by
  intro m' hr hR _ e o ho
  cases e with
  | fail e =>
    cases ho
    exact silent (he _ m')
  | ok x =>
    simp only [Req.exec] at ho
    split at ho
    · rename_i a ws hq
      cases ho
      exact silent (h m' x a ws hr hR hq)
    · cases ho
      exact silent (he _ m')

lemma Safe.commit {f : Except ε Unit → Call S ε α} (hf : ∀ r m', Safe P i (f r) .idle ∅ m')
    (h : ∀ m', P.Rely i H m m' → P.Reach m' → log ≠ [] → P.may i H log m') :
    Safe P i ((commit err).attempt f) ⟨.active x₀, log⟩ H m := by
  intro m' hr hR _ e o ho
  cases e with
  | fail e =>
    cases ho
    exact silent (hf _ m')
  | ok x =>
    simp only [Req.exec] at ho
    cases ho
    rw [union_none]
    exact ⟨h m' hr hR, hf _ _⟩

/-! ## whole runs -/

lemma settled_silent (hm : m.Silent i) : Settled P i (fun m => m.Silent i) m :=
  fun _ hr _ => hr.silent hm

variable [DecidableEq ι] {R : ι → Except ε α → Mem S ι → Prop}

/-- **Adequacy.** If every session keeps to the protocol, then in every state of every run the
committed part is a state of the abstract machine, and a session that has ended has its
postcondition. -/
theorem Idle.adequate (h₀ : P.init ⟨db, []⟩) (hp : ∀ i, Idle P i (p i) (R i) ⟨db, []⟩)
    (h : Reaches P.allow (State.init db p) s) :
    P.Reach s.mem ∧ ∀ i r, s.prog i = some (.ret r) → R i r s.mem := by
  have hg := Protocol.sound (good_init h₀ hp) h
  refine ⟨hg.reach, fun i r hr => ?_⟩
  obtain ⟨-, -, hs⟩ := hg.wp i _ hr s.mem (.refl _) hg.reach
  exact hs s.mem (.refl _) hg.reach

/-- what every step of the abstract machine keeps is kept from any reachable state on -/
lemma Idle.adequate_rel {r : Mem S ι → Mem S ι → Prop} (h₀ : P.init ⟨db, []⟩)
    (hp : ∀ i, Idle P i (p i) (R i) ⟨db, []⟩) (hr : ∀ m, r m m)
    (ht : ∀ a b c, r a b → r b c → r a c)
    (hs : ∀ m i H ws, P.Reach m → P.may i H ws m → r m (m.publish i ws))
    {s' : State S ι (Except ε α)} (h : Reaches P.allow (State.init db p) s)
    (h' : Reaches P.allow s s') : r s.mem s'.mem :=
  Protocol.sound_rel hr ht hs (Protocol.sound (good_init h₀ hp) h) h'

end

end Txn
