import VirtueStack.Txn.Machine
import Mathlib.Data.Set.Lattice
import Mathlib.Order.CompletePartialOrder

/-!
# Transactions: protocols, and the weakest precondition of a session

A `Protocol` is the abstract machine behind a set of sessions: it says which batches of writes a
session may make public, in which committed state and under which locks, each batch in ONE step.
The statement-by-statement machine refines it as soon as every program keeps to it.

The rules at the end are one for each kind of request, and one for each combinator of `Call`.
-/

set_option linter.unusedSectionVars false

namespace Txn
open Function

structure Protocol (S : Store) (ι : Type) where
  init : Mem S ι → Prop
  /-- session `i`, holding the locks `H`, may make `ws` public in the state `m` -/
  may : ι → Set S.Lock → List S.Write → Mem S ι → Prop
  /-- the condition on the runs that are looked at -/
  allow : ι → Req S → Loc S → Mem S ι → Prop

/-- what writes nothing has nothing to justify -/
lemma silent {α : Type} {p q : Prop} (h : q) : (([] : List α) ≠ [] → p) ∧ q :=
  ⟨fun hne => absurd rfl hne, h⟩

section
variable {S : Store} {ι : Type}

/-- every write of the batch is made under the locks that guard it -/
def Covered (H : Set S.Lock) (ws : List S.Write) : Prop := ∀ w ∈ ws, ∀ l ∈ S.guards w, l ∈ H

/-- the states of the abstract machine -/
inductive Protocol.Reach (P : Protocol S ι) : Mem S ι → Prop
  | init {m : Mem S ι} : P.init m → P.Reach m
  | publish {m : Mem S ι} {i : ι} {H : Set S.Lock} {ws : List S.Write} :
      P.Reach m → ws ≠ [] → Covered H ws → P.may i H ws m → P.Reach (m.publish i ws)

/-- one batch of another session, none of its locks in `H` -/
def Protocol.Other (P : Protocol S ι) (i : ι) (H : Set S.Lock) (m m' : Mem S ι) : Prop :=
  ∃ j H' ws, j ≠ i ∧ Disjoint H H' ∧ Covered H' ws ∧ ws ≠ [] ∧ P.may j H' ws m ∧
    P.Reach m ∧ m' = m.publish j ws

/-- what the other sessions can do while session `i` holds the locks `H` -/
def Protocol.Rely (P : Protocol S ι) (i : ι) (H : Set S.Lock) : Mem S ι → Mem S ι → Prop :=
  Relation.ReflTransGen (P.Other i H)

variable {P : Protocol S ι} {i : ι} {H H' : Set S.Lock} {m m' : Mem S ι} {I : Mem S ι → Prop}

lemma Protocol.Rely.refl (m : Mem S ι) : P.Rely i H m m := Relation.ReflTransGen.refl

lemma Protocol.Rely.trans {a b c : Mem S ι} (h : P.Rely i H a b) (h' : P.Rely i H b c) :
    P.Rely i H a c :=
  Relation.ReflTransGen.trans h h'

/-- **The invariant rule.** What holds initially and is kept by every allowed batch holds in every
state of the abstract machine. -/
theorem Protocol.Reach.invariant (h₀ : ∀ m, P.init m → I m)
    (hs : ∀ m i H ws, P.Reach m → I m → ws ≠ [] → Covered H ws → P.may i H ws m →
      I (m.publish i ws)) (h : P.Reach m) : I m := by
  induction h with
  | init hi => exact h₀ _ hi
  | publish hr hne hc hm ih => exact hs _ _ _ _ hr ih hne hc hm

/-- **The stability rule.** What every batch of another session keeps is kept by all of them. -/
theorem Protocol.Rely.stable (h : P.Rely i H m m')
    (hs : ∀ m j H' ws, j ≠ i → Disjoint H H' → Covered H' ws → P.may j H' ws m → P.Reach m →
      I m → I (m.publish j ws)) (hm : I m) : I m' := by
  induction h with
  | refl => exact hm
  | tail _ ho ih =>
    obtain ⟨j, H', ws, hj, hd, hc, _, hmay, hr, rfl⟩ := ho
    exact hs _ j H' ws hj hd hc hmay hr ih

lemma Protocol.Rely.silent (h : P.Rely i H m m') (hm : m.Silent i) : m'.Silent i :=
  h.stable (I := fun m => m.Silent i) (fun _ _ _ ws hj _ _ _ _ hi => Mem.silent_publish hi hj ws) hm

lemma Protocol.Rely.rel {r : S.Db → S.Db → Prop} (h : P.Rely i H m m') (hr : ∀ db, r db db)
    (ht : ∀ a b c, r a b → r b c → r a c) (hs : ∀ db w, r db (S.apply db w)) : r m.db m'.db := by
  refine h.stable (I := fun x => r m.db x.db) (fun x j H' ws _ _ _ _ _ hx => ?_) (hr _)
  rw [Mem.publish_db]
  exact ht _ _ _ hx (S.view_rel hr ht hs x.db ws)

/-- **The frame rule.** What only writes under the lock `x` can change stays as it is while the
session holds `x`. -/
theorem Protocol.Rely.frame {β : Type} {f : S.Db → β} {x : S.Lock}
    (h : P.Rely i H m m') (hx : x ∈ H)
    (hf : ∀ db w, x ∉ S.guards w → f (S.apply db w) = f db) : f m'.db = f m.db := by
  refine h.stable (I := fun y => f y.db = f m.db) (fun y j H' ws _ hd hc _ _ hy => ?_) rfl
  have hw : ∀ w ∈ ws, x ∉ S.guards w := fun w hw hg =>
    Set.disjoint_left.mp hd hx (hc w hw x hg)
  rw [Mem.publish_db, Store.view_same fun w hm db => hf db w (hw w hm), hy]

lemma Protocol.Rely.mono (hH : H ⊆ H') (h : P.Rely i H' m m') : P.Rely i H m m' :=
  Relation.ReflTransGen.mono (fun _ _ ⟨j, K, ws, hj, hd, hc⟩ =>
    ⟨j, K, ws, hj, hd.mono_left hH, hc⟩) _ _ h

/-! ## weakest preconditions -/

/-- the locks of a session after a request -/
def LockMode.held (need : List S.Lock) (H : Set S.Lock) : LockMode → Set S.Lock
  | .take => H ∪ {l | l ∈ need}
  | .keep => H
  | .free => ∅

/-- a postcondition: the result, the private part of the session, its locks and the public part -/
abbrev Post (S : Store) (ι α : Type) : Type := α → Loc S → Set S.Lock → Mem S ι → Prop

/-- **Session `i`, at `p` with the private part `l` and the locks `H`, keeps to the protocol from
the state `m` on and ends in `Q`.** -/
def WP (P : Protocol S ι) (i : ι) {α : Type} : Prog S α → Post S ι α → Loc S → Set S.Lock →
    Mem S ι → Prop
  | .ret a, Q, l, H, m => ∀ m', P.Rely i H m m' → P.Reach m' → Q a l H m'
  | .req r k, Q, l, H, m => ∀ m', P.Rely i H m m' → P.Reach m' → P.allow i r l m' →
      ∀ e o, r.exec e l m'.db = some o →
        (o.ws ≠ [] → P.may i (H ∪ {l | l ∈ o.need}) o.ws m') ∧
        WP P i (k o.ans) Q o.loc (o.mode.held o.need H) (m'.publish i o.ws)

variable {α β : Type} {p : Prog S α} {Q Q' : Post S ι α} {l : Loc S}

lemma WP.stable (h : WP P i p Q l H m) (hr : P.Rely i H m m') : WP P i p Q l H m' := by
  cases p with
  | ret a | req r k => exact fun m1 h1 => h m1 (hr.trans h1)

/-- a precondition may be taken after the others have moved -/
lemma WP.of_rely (h : ∀ m', P.Rely i H m m' → P.Reach m' → WP P i p Q l H m') :
    WP P i p Q l H m := by
  cases p with
  | ret a | req r k => exact fun m1 h1 h2 => h m1 h1 h2 m1 (.refl m1) h2

lemma WP.mono (hQ : ∀ a l H m, P.Reach m → Q a l H m → Q' a l H m) (h : WP P i p Q l H m) :
    WP P i p Q' l H m := by
  induction p generalizing l H m with
  | ret a => exact fun m1 h1 h2 => hQ _ _ _ _ h2 (h m1 h1 h2)
  | req r k ih =>
    intro m1 h1 h2 ha e o ho
    obtain ⟨hm, hk⟩ := h m1 h1 h2 ha e o ho
    exact ⟨hm, ih o.ans hk⟩

lemma WP.bind {f : α → Prog S β} {Q : Post S ι β}
    (h : WP P i p (fun a l H m => WP P i (f a) Q l H m) l H m) : WP P i (p.bind f) Q l H m := by
  induction p generalizing l H m with
  | ret a => exact WP.of_rely h
  | req r k ih =>
    intro m1 h1 h2 ha e o ho
    obtain ⟨hm, hk⟩ := h m1 h1 h2 ha e o ho
    exact ⟨hm, ih o.ans hk⟩

/-! ## soundness -/

def State.held {ρ : Type} (s : State S ι ρ) (i : ι) : Set S.Lock := {l | s.owner l = some i}

/-- a state in which every live session keeps to the protocol -/
structure Good {ρ : Type} (P : Protocol S ι) (Q : ι → Post S ι ρ) (s : State S ι ρ) : Prop where
  reach : P.Reach s.mem
  covered : ∀ i, Covered (s.held i) (s.loc i).log
  wp : ∀ i p, s.prog i = some p → WP P i p (Q i) (s.loc i) (s.held i) s.mem

variable {ρ : Type} [DecidableEq ι] {R : ι → Post S ι ρ} {s s' : State S ι ρ} {j : ι}
  {need : List S.Lock} {a : Label S}

lemma held_owner_self (s : State S ι ρ) (i : ι) (need : List S.Lock) (mode : LockMode) :
    {l | mode.owner i need s.owner l = some i} = mode.held need (s.held i) := by
  ext l
  cases mode with
  | take =>
    show (if l ∈ need then some i else s.owner l) = some i ↔ l ∈ s.held i ∪ {l | l ∈ need}
    by_cases h : l ∈ need
    · simp [h]
    · simp [h, State.held]
  | keep => exact Iff.rfl
  | free =>
    show (if s.owner l = some i then none else s.owner l) = some i ↔ l ∈ (∅ : Set S.Lock)
    by_cases h : s.owner l = some i
    · simp [h]
    · simp [h]

lemma held_owner_other (mode : LockMode) (hn : ∀ l ∈ need, s.owner l = none ∨ s.owner l = some i)
    (hij : j ≠ i) : {l | mode.owner i need s.owner l = some j} = s.held j := by
  ext l
  have hji : ¬ (some i = some j) := fun h => hij (Option.some.inj h).symm
  cases mode with
  | take =>
    show (if l ∈ need then some i else s.owner l) = some j ↔ s.owner l = some j
    by_cases h : l ∈ need
    · rw [if_pos h]
      rcases hn l h with h' | h' <;> rw [h']
      · simp [hji]
    · rw [if_neg h]
  | keep => exact Iff.rfl
  | free =>
    show (if s.owner l = some i then none else s.owner l) = some j ↔ s.owner l = some j
    by_cases h : s.owner l = some i
    · rw [if_pos h, h]; simp [hji]
    · rw [if_neg h]

/-- the writes a request makes public are covered by the locks of the session and those it waited
for, and what it leaves in the log by those it keeps -/
lemma exec_covered {r : Req S} {e : Event S} {db : S.Db} {o : Out S r} (h : r.exec e l db = some o)
    (hl : Covered H l.log) :
    Covered (H ∪ {x | x ∈ o.need}) o.ws ∧ Covered (o.mode.held o.need H) o.loc.log := by
  have hnil : ∀ K : Set S.Lock, Covered K ([] : List S.Write) := fun K w hw => by cases hw
  cases r with
  | begin =>
    cases e with
    | ok x =>
      simp only [Req.exec] at h
      split at h
      · cases h; exact ⟨hnil _, hnil _⟩
      · cases h
    | fail e =>
      cases h
      exact ⟨hnil _, hl⟩
  | commit =>
    cases e with
    | ok x =>
      simp only [Req.exec] at h
      split at h
      · cases h; exact ⟨fun w hw y hy => .inl (hl w hw y hy), hnil _⟩
      · cases h
    | fail e =>
      cases h
      exact ⟨hnil _, hnil _⟩
  | rollback =>
    cases h
    exact ⟨hnil _, hnil _⟩
  | run q =>
    cases e with
    | ok x =>
      simp only [Req.exec] at h
      split at h
      · split at h
        · rename_i a ws hq
          cases h
          exact ⟨fun w hw y hy => .inr (S.exec_guarded q x x db a ws hq w hw y hy), hl⟩
        · cases h; exact ⟨hnil _, hl⟩
      · rename_i x0 _
        split at h
        · rename_i a ws hq
          cases h
          refine ⟨hnil _, fun w hw y hy => ?_⟩
          rcases List.mem_append.mp hw with hw | hw
          · exact .inl (hl w hw y hy)
          · exact .inr (S.exec_guarded q x0 x _ a ws hq w hw y hy)
        · cases h; exact ⟨hnil _, hnil _⟩
      · cases h
    | fail e =>
      simp only [Req.exec] at h
      split at h
      · cases h; exact ⟨hnil _, hl⟩
      · cases h; exact ⟨hnil _, hnil _⟩

/-- one allowed move leaves the public part as it is, or is a step of the abstract machine -/
lemma Good.public (hg : Good P R s) (ha : Allowed P.allow s i) (h : step s i a = some s') :
    s'.mem = s.mem ∨
      ∃ H ws, ws ≠ [] ∧ Covered H ws ∧ P.may i H ws s.mem ∧ s'.mem = s.mem.publish i ws := by
  obtain ⟨r, k, e, o, hp, ho, hn, rfl⟩ | ⟨r, k, hp, rfl⟩ := step_cases h
  · by_cases hw : o.ws = []
    · exact .inl (by rw [hw, Mem.publish_nil])
    · exact .inr ⟨_, o.ws, hw, (exec_covered ho (hg.covered i)).1,
        (hg.wp i _ hp s.mem (.refl _) hg.reach (ha r k hp) e o ho).1 hw, rfl⟩
  · exact .inl rfl

/-- a lock has one owner, and what the request waited for was free or its own -/
lemma held_disjoint (hn : ∀ l ∈ need, s.owner l = none ∨ s.owner l = some i) (hij : j ≠ i) :
    Disjoint (s.held j) (s.held i ∪ {l | l ∈ need}) := by
  rw [Set.disjoint_left]
  intro x hx hx'
  have hj : s.owner x = some j := hx
  have hi : s.owner x = none ∨ s.owner x = some i := hx'.elim .inr (hn x)
  rcases hi with hi | hi
  · cases hj.symm.trans hi
  · exact hij (Option.mem_unique hj hi)

section
variable {ws : List S.Write} (hR : P.Reach s.mem)
  (hn : ∀ l ∈ need, s.owner l = none ∨ s.owner l = some i)
  (hws : ws ≠ [] → Covered (s.held i ∪ {l | l ∈ need}) ws ∧
    P.may i (s.held i ∪ {l | l ∈ need}) ws s.mem)

include hR hws

lemma reach_publish : P.Reach (s.mem.publish i ws) := by
  by_cases hw : ws = []
  · rw [hw, Mem.publish_nil]
    exact hR
  · exact .publish hR hw (hws hw).1 (hws hw).2

include hn

/-- to the other sessions the writes are a move of their surroundings -/
lemma rely_publish (hij : j ≠ i) : P.Rely j (s.held j) s.mem (s.mem.publish i ws) := by
  by_cases hw : ws = []
  · rw [hw, Mem.publish_nil]
    exact .refl _
  · obtain ⟨hcov, hmay⟩ := hws hw
    exact Relation.ReflTransGen.single ⟨i, _, ws, hij.symm, held_disjoint hn hij, hcov, hw,
      hmay, hR, rfl⟩

end

/-- a state in which `W` holds of what is left of every live session -/
structure Keeping (P : Protocol S ι) (W : ι → Prog S ρ → Loc S → Set S.Lock → Mem S ι → Prop)
    (s : State S ι ρ) : Prop where
  reach : P.Reach s.mem
  covered : ∀ i, Covered (s.held i) (s.loc i).log
  wp : ∀ i p, s.prog i = some p → W i p (s.loc i) (s.held i) s.mem

section
variable {W : ι → Prog S ρ → Loc S → Set S.Lock → Mem S ι → Prop}
  (hW : ∀ i p l H m m', P.Rely i H m m' → W i p l H m → W i p l H m') (hg : Keeping P W s)
include hW hg

lemma Keeping.move {ws : List S.Write} {mode : LockMode} {p : Option (Prog S ρ)}
    (hn : ∀ l ∈ need, s.owner l = none ∨ s.owner l = some i)
    (hws : ws ≠ [] → Covered (s.held i ∪ {l | l ∈ need}) ws ∧
      P.may i (s.held i ∪ {l | l ∈ need}) ws s.mem)
    (hcov : Covered (mode.held need (s.held i)) l.log)
    (hwp : ∀ q, p = some q → W i q l (mode.held need (s.held i)) (s.mem.publish i ws)) :
    Keeping P W ⟨s.mem.publish i ws, mode.owner i need s.owner, update s.loc i l,
      update s.prog i p⟩ := by
  have hself := held_owner_self s i need mode
  refine ⟨reach_publish hg.reach hws, fun j => ?_, fun j q hq => ?_⟩
  · by_cases hij : j = i
    · subst hij
      show Covered {x | mode.owner j need s.owner x = some j} (update s.loc j l j).log
      rw [hself, update_self]
      exact hcov
    · show Covered {x | mode.owner i need s.owner x = some j} (update s.loc i l j).log
      rw [held_owner_other mode hn hij, update_of_ne hij]
      exact hg.covered j
  · by_cases hij : j = i
    · subst hij
      have hq' : p = some q := (update_self j p s.prog).symm.trans hq
      show W j q (update s.loc j l j) {x | mode.owner j need s.owner x = some j}
        (s.mem.publish j ws)
      rw [hself, update_self]
      exact hwp q hq'
    · have hq' : s.prog j = some q := (update_of_ne hij p s.prog).symm.trans hq
      show W j q (update s.loc i l j) {x | mode.owner i need s.owner x = some j}
        (s.mem.publish i ws)
      rw [held_owner_other mode hn hij, update_of_ne hij]
      exact hW j q _ _ _ _ (rely_publish hg.reach hn hws hij) (hg.wp j q hq')

/-- a crash is a move without writes that gives the locks back -/
lemma Keeping.crash : Keeping P W ⟨s.mem, LockMode.free.owner i [] s.owner,
    update s.loc i .idle, update s.prog i none⟩ := by
  rw [← Mem.publish_nil s.mem i]
  exact hg.move hW (fun l hl => (by cases hl)) (fun hw => absurd rfl hw) (fun w hw => (by cases hw))
    fun q hq => (by cases hq)

end

lemma good_iff : Good P R s ↔ Keeping P (fun i p l H m => WP P i p (R i) l H m) s :=
  ⟨fun h => ⟨h.reach, h.covered, h.wp⟩, fun h => ⟨h.reach, h.covered, h.wp⟩⟩

lemma Good.step (hg : Good P R s) (ha : Allowed P.allow s i) (h : step s i a = some s') :
    Good P R s' := by
  have hstable : ∀ (i : ι) p l H m m', P.Rely i H m m' → WP P i p (R i) l H m →
    WP P i p (R i) l H m' :=
    fun i p l H m m' hr hw => hw.stable hr
  obtain ⟨r, k, e, o, hp, ho, hn, rfl⟩ | ⟨r, k, hp, rfl⟩ := step_cases h
  · obtain ⟨hmay, hwp⟩ := hg.wp i _ hp s.mem (.refl _) hg.reach (ha r k hp) e o ho
    obtain ⟨hcw, hcl⟩ := exec_covered ho (hg.covered i)
    refine good_iff.mpr
      ((good_iff.mp hg).move hstable hn (fun hw => ⟨hcw, hmay hw⟩) hcl fun q hq => ?_)
    rw [← Option.some.inj hq]
    exact hwp
  · exact good_iff.mpr ((good_iff.mp hg).crash hstable)

lemma keeping_init {W : ι → Prog S ρ → Loc S → Set S.Lock → Mem S ι → Prop} {db : S.Db}
    {p : ι → Prog S ρ} (h₀ : P.init ⟨db, []⟩) (hw : ∀ i, W i (p i) .idle ∅ ⟨db, []⟩) :
    Keeping P W (State.init db p) := by
  have hheld : ∀ i, (State.init db p : State S ι ρ).held i = ∅ := by
    intro i
    ext l
    simp [State.held, State.init]
  refine ⟨.init h₀, fun i w hw => (by cases hw), fun i q hq => ?_⟩
  have hq' : p i = q := Option.some.inj hq
  rw [hheld i, ← hq']
  exact hw i

lemma good_init {db : S.Db} {p : ι → Prog S ρ} (h₀ : P.init ⟨db, []⟩)
    (hw : ∀ i, WP P i (p i) (R i) .idle ∅ ⟨db, []⟩) : Good P R (State.init db p) :=
  good_iff.mpr (keeping_init h₀ hw)

/-- **The machine refines its protocol.** If every session keeps to the protocol, then in every
state of every run the committed part is a state of the abstract machine, and every session still
keeps to the protocol. -/
theorem Protocol.sound (hg : Good P R s) (h : Reaches P.allow s s') : Good P R s' := by
  induction h with
  | refl => exact hg
  | tail _ hs ih =>
    obtain ⟨i, a, ha, hs⟩ := hs
    exact ih.step ha hs

/-- **What every step of the abstract machine keeps is kept by a run.** -/
theorem Protocol.sound_rel {r : Mem S ι → Mem S ι → Prop} (hr : ∀ m, r m m)
    (ht : ∀ a b c, r a b → r b c → r a c)
    (hs : ∀ m i H ws, P.Reach m → P.may i H ws m → r m (m.publish i ws)) (hg : Good P R s)
    (h : Reaches P.allow s s') : r s.mem s'.mem := by
  induction h with
  | refl => exact hr _
  | tail h1 hstep ih =>
    obtain ⟨i, a, ha, hstep⟩ := hstep
    have hg' := Protocol.sound hg h1
    obtain he | ⟨H, ws, -, -, hmay, he⟩ := hg'.public ha hstep
    · rw [he]; exact ih
    · rw [he]; exact ht _ _ _ ih (hs _ i H ws hg'.reach hmay)

end

end Txn
