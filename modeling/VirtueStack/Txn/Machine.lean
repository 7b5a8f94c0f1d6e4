import VirtueStack.Txn.Prog
import Mathlib.Logic.Relation

/-!
# Transactions: any number of sessions against one store, statement by statement

* `State` `Mem`, the owner of every lock, and the private part of every session.

The sessions are indexed by an arbitrary type, so their number is not bounded, and a session that
has not moved yet is a call that has not been made yet.
-/

namespace Txn
open List Option Function Mem

/-- the public part of the machine -/
structure Mem (S : Store) (ι : Type) where
  db : S.Db
  wal : List (ι × List S.Write)

/-- session `i` makes the writes `ws` public -/
def Mem.publish {S : Store} {ι : Type} (m : Mem S ι) (i : ι) : List S.Write → Mem S ι
  | [] => m
  | w :: ws => ⟨S.view m.db (w :: ws), m.wal ++ [(i, w :: ws)]⟩

section
variable {S : Store} {ι : Type}

@[simp] lemma Mem.publish_nil (m : Mem S ι) (i : ι) : m.publish i [] = m := rfl

lemma Mem.publish_db (m : Mem S ι) (i : ι) (ws : List S.Write) :
    (m.publish i ws).db = S.view m.db ws := by
  cases ws <;> rfl

variable {i : ι} {m : Mem S ι} {ws : List S.Write}

lemma Mem.publish_wal (h : ws ≠ []) : (m.publish i ws).wal = m.wal ++ [(i, ws)] := by
  cases ws with
  | nil => exact absurd rfl h
  | cons w ws => rfl

lemma Mem.wal_prefix_publish (m : Mem S ι) (i : ι) (ws : List S.Write) :
    m.wal <+: (m.publish i ws).wal := by
  cases ws with
  | nil => exact prefix_rfl
  | cons w ws => exact prefix_append _ _

/-- session `i` has made nothing public -/
def Mem.Silent (m : Mem S ι) (i : ι) : Prop := ∀ b ∈ m.wal, b.1 ≠ i

lemma Mem.silent_publish {j : ι} (h : m.Silent i) (hij : j ≠ i) (ws : List S.Write) :
    (m.publish j ws).Silent i := by
  cases ws with
  | nil => exact h
  | cons w ws =>
    intro b hb
    rcases mem_append.mp hb with hb | hb
    · exact h b hb
    · rw [mem_singleton.mp hb]; exact hij

/-- the sessions that made a write in `p` public, in the order in which they did -/
def Mem.authors (m : Mem S ι) (p : S.Write → Bool) : List ι :=
  (m.wal.filter fun b => b.2.any p).map Prod.fst

lemma Mem.authors_publish_batch (m : Mem S ι) (i : ι) (ws : List S.Write) (p : S.Write → Bool) :
    (m.publish i ws).authors p = m.authors p ++ if ws.any p then [i] else [] := by
  cases ws with
  | nil => exact (append_nil _).symm
  | cons w ws =>
    unfold Mem.authors
    rw [publish_wal (cons_ne_nil _ _), filter_append, map_append]
    refine congrArg _ ?_
    cases h : (w :: ws).any p with
    | true =>
      rw [filter_cons_of_pos (p := fun b : ι × List S.Write => b.2.any p) h]
      rfl
    | false =>
      rw [filter_cons_of_neg (p := fun b : ι × List S.Write => b.2.any p) (ne_true_of_eq_false h)]
      rfl

lemma Mem.authors_publish (m : Mem S ι) (i : ι) (w : S.Write) (p : S.Write → Bool) :
    Mem.authors (no_index (m.publish i [w])) p = m.authors p ++ if p w then [i] else [] := by
  rw [authors_publish_batch, any_cons, any_nil, Bool.or_false]

/-- a silent session that stays silent has made nothing public in between -/
lemma Mem.publish_eq_of_silent (h : (m.publish i ws).Silent i) : ws = [] := by
  cases ws with
  | nil => rfl
  | cons w ws =>
    exact absurd rfl (h (i, w :: ws) (mem_append_right _ (mem_singleton_self _)))

end

/-- what holds of every entry of a log and the entries before it, after one more entry -/
lemma forall_split_concat {α : Type} {l : List α} {a : α} {p : List α → α → Prop} :
    (∀ pre x post, l ++ [a] = pre ++ x :: post → p pre x) ↔
      (∀ pre x post, l = pre ++ x :: post → p pre x) ∧ p l a := by
  constructor
  · refine fun h => ⟨fun pre x post hl => h pre x (post ++ [a]) ?_, h l a [] rfl⟩
    rw [hl, append_assoc, cons_append]
  · rintro ⟨h, ha⟩ pre x post hl
    rcases eq_nil_or_concat post with rfl | ⟨post', y, rfl⟩
    · obtain ⟨rfl, hx⟩ := append_inj' hl rfl
      obtain rfl : a = x := by cases hx; rfl
      exact ha
    · rw [concat_eq_append, ← cons_append, ← append_assoc] at hl
      obtain ⟨hl', -⟩ := append_inj' hl rfl
      exact h pre x post' hl'

/-! ## the machine -/

structure State (S : Store) (ι ρ : Type) where
  mem : Mem S ι
  owner : S.Lock → Option ι
  loc : ι → Loc S
  /-- what is left of the program of each session, `none` for a session that has crashed -/
  prog : ι → Option (Prog S ρ)

def State.init {S : Store} {ι ρ : Type} (db : S.Db) (p : ι → Prog S ρ) : State S ι ρ :=
  ⟨⟨db, []⟩, fun _ => none, fun _ => .idle, fun i => some (p i)⟩

inductive Label (S : Store) where
  | ev (e : Event S)
  | crash

section
variable {S : Store} {ι ρ : Type} [DecidableEq ι]

/-- the owners after a request of session `i` -/
def LockMode.owner (i : ι) (need : List S.Lock) (o : S.Lock → Option ι) :
    LockMode → S.Lock → Option ι
  | .take => fun l => if l ∈ need then some i else o l
  | .keep => o
  | .free => fun l => if o l = some i then none else o l

def step (s : State S ι ρ) (i : ι) : Label S → Option (State S ι ρ)
  | .ev e =>
    match s.prog i with
    | some (.req r k) =>
      match r.exec e (s.loc i) s.mem.db with
      | some o =>
        if ∀ l ∈ o.need, s.owner l = none ∨ s.owner l = some i then
          some ⟨s.mem.publish i o.ws, o.mode.owner i o.need s.owner,
            update s.loc i o.loc, update s.prog i (some (k o.ans))⟩
        else none
      | none => none
    | _ => none
  | .crash =>
    match s.prog i with
    | some (.req _ _) =>
      some ⟨s.mem, LockMode.free.owner i [] s.owner, update s.loc i .idle,
        update s.prog i none⟩
    | _ => none

/-- the moves of a list of labels, the head first -/
def run (s : State S ι ρ) : List (ι × Label S) → Option (State S ι ρ)
  | [] => some s
  | a :: as => (step s a.1 a.2).bind fun s' => run s' as

variable (allow : ι → Req S → Loc S → Mem S ι → Prop)

/-- the request session `i` is about to send, if any, meets the condition `allow` -/
def Allowed (s : State S ι ρ) (i : ι) : Prop :=
  ∀ r k, s.prog i = some (.req r k) → allow i r (s.loc i) s.mem

/-- one move of some session, its request meeting `allow` -/
def Step (s s' : State S ι ρ) : Prop :=
  ∃ i a, Allowed allow s i ∧ step s i a = some s'

/-- the runs in which every request meets `allow` -/
def Reaches : State S ι ρ → State S ι ρ → Prop :=
  Relation.ReflTransGen (Step allow)

def always : ι → Req S → Loc S → Mem S ι → Prop := fun _ _ _ _ => True

/-- every move of the list is made in a state in which its request meets `allow` -/
def checked (allow : ι → Req S → Loc S → Mem S ι → Prop) [∀ i r l m, Decidable (allow i r l m)]
    (s : State S ι ρ) : List (ι × Label S) → Bool
  | [] => true
  | a :: as =>
    (match s.prog a.1 with
      | some (.req r _) => decide (allow a.1 r (s.loc a.1) s.mem)
      | _ => true) &&
    (step s a.1 a.2).all fun s' => checked allow s' as

variable {s s' : State S ι ρ} {as : List (ι × Label S)} {i : ι}
  {allow : ι → Req S → Loc S → Mem S ι → Prop}

lemma reaches_checked [∀ i r l m, Decidable (allow i r l m)]
    (h : run s as = some s') (hc : checked allow s as = true) : Reaches allow s s' := by
  induction as generalizing s with
  | nil =>
    cases h
    exact Relation.ReflTransGen.refl
  | cons a as ih =>
    obtain ⟨s₁, h1, h2⟩ := bind_eq_some_iff.mp h
    obtain ⟨hd, ht⟩ := Bool.and_eq_true_iff.mp hc
    refine Relation.ReflTransGen.head ⟨a.1, a.2, fun r k hp => ?_, h1⟩ (ih h2 ?_)
    · rw [hp] at hd
      exact of_decide_eq_true hd
    · rw [h1] at ht
      exact ht

lemma run_get (h : (run s as).isSome = true) : run s as = some ((run s as).get h) :=
  (some_get h).symm

lemma reaches_run (h : run s as = some s') : Reaches always s s' := by
  induction as generalizing s with
  | nil =>
    cases h
    exact Relation.ReflTransGen.refl
  | cons a as ih =>
    obtain ⟨s₁, h1, h2⟩ := bind_eq_some_iff.mp h
    exact Relation.ReflTransGen.head ⟨a.1, a.2, fun _ _ _ => trivial, h1⟩ (ih h2)

lemma exists_reaches {p : State S ι ρ → Bool}
    (h : (run s as).any p = true) : ∃ s', Reaches always s s' ∧ p s' = true := by
  obtain ⟨s', hs, hp⟩ := (any_eq_true _ _).mp h
  exact ⟨s', reaches_run hs, hp⟩

lemma step_ev {e : Event S} (h : step s i (.ev e) = some s') :
    ∃ r k o, s.prog i = some (.req r k) ∧ r.exec e (s.loc i) s.mem.db = some o ∧
      (∀ l ∈ o.need, s.owner l = none ∨ s.owner l = some i) ∧
        s' = ⟨s.mem.publish i o.ws, o.mode.owner i o.need s.owner,
        update s.loc i o.loc, update s.prog i (some (k o.ans))⟩ := by
  simp only [step] at h
  split at h
  · rename_i r k hp
    split at h
    · rename_i o ho
      split at h
      · rename_i hn
        exact ⟨r, k, o, hp, ho, hn, (Option.some.inj h).symm⟩
      · cases h
    · cases h
  · cases h

lemma step_crash (h : step s i .crash = some s') : ∃ r k, s.prog i = some (.req r k) ∧
      s' = ⟨s.mem, LockMode.free.owner i [] s.owner, update s.loc i .idle,
        update s.prog i none⟩ := by
  simp only [step] at h
  split at h
  · rename_i r k hp
    exact ⟨r, k, hp, (Option.some.inj h).symm⟩
  · cases h

/-- **What one move can do.** -/
theorem step_cases {a : Label S} (h : step s i a = some s') :
    (∃ r k e o, s.prog i = some (.req r k) ∧ r.exec e (s.loc i) s.mem.db = some o ∧
      (∀ l ∈ o.need, s.owner l = none ∨ s.owner l = some i) ∧
      s' = ⟨s.mem.publish i o.ws, o.mode.owner i o.need s.owner,
        update s.loc i o.loc, update s.prog i (some (k o.ans))⟩) ∨
    (∃ r k, s.prog i = some (.req r k) ∧
      s' = ⟨s.mem, LockMode.free.owner i [] s.owner, update s.loc i .idle,
        update s.prog i none⟩) := by
  cases a with
  | ev e =>
    obtain ⟨r, k, o, hp, ho, hn, hs⟩ := step_ev h
    exact .inl ⟨r, k, e, o, hp, ho, hn, hs⟩
  | crash => exact .inr (step_crash h)

lemma step_wal {a : Label S} (h : step s i a = some s') : s.mem.wal <+: s'.mem.wal := by
  obtain ⟨r, k, e, o, _, _, _, rfl⟩ | ⟨r, k, _, rfl⟩ := step_cases h
  · exact Mem.wal_prefix_publish _ _ _
  · exact prefix_rfl

lemma Reaches.wal (h : Reaches allow s s') : s.mem.wal <+: s'.mem.wal := by
  induction h with
  | refl => exact prefix_rfl
  | tail _ hs ih =>
    obtain ⟨i, a, _, hs⟩ := hs
    exact ih.trans (step_wal hs)

/-- no move of session `i` on the way from `s₀` to `s` touched the committed state -/
def ChangedNothing (s₀ s : State S ι ρ) (i : ι) : Prop :=
  ∀ s₁ s₂ a, Reaches always s₀ s₁ → step s₁ i a = some s₂ → Reaches always s₂ s →
    s₂.mem.db = s₁.mem.db

/-- **A session that is silent at the end of a run changed nothing on the way.** -/
theorem Mem.Silent.changedNothing (hi : s.mem.Silent i) (s₀ : State S ι ρ) :
    ChangedNothing s₀ s i := by
  intro s₁ s₂ a _ h h2
  have hs : s₂.mem.Silent i := fun b hb => hi b (h2.wal.subset hb)
  obtain ⟨r, k, e, o, _, _, _, rfl⟩ | ⟨r, k, _, rfl⟩ := step_cases h
  · have hw := publish_eq_of_silent (m := s₁.mem) hs
    show (s₁.mem.publish i o.ws).db = s₁.mem.db
    rw [hw, publish_nil]
  · rfl

end

end Txn
