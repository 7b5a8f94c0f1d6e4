import VirtueStack.Txn.Rules

/-!
# Transactions: runs in which some failures do not happen

`Reaches` restricts the requests of a run. Here the condition is also on what becomes of a request:
the event that answers it, or the crash in its place.
-/

namespace Txn

section
variable {S : Store} {ι ρ : Type} [DecidableEq ι] {ok : ι → Req S → Label S → Mem S ι → Prop}

section
variable (ok : ι → Req S → Label S → Mem S ι → Prop)

/-- one move of some session, its request and what becomes of it meeting `ok` -/
def StepIf (s s' : State S ι ρ) : Prop :=
  ∃ i a, (∀ r k, s.prog i = some (.req r k) → ok i r a s.mem) ∧ step s i a = some s'

def ReachesIf : State S ι ρ → State S ι ρ → Prop :=
  Relation.ReflTransGen (StepIf ok)

end

variable {s : State S ι ρ} {s' : State S ι ρ}

lemma ReachesIf.mono {ok' : ι → Req S → Label S → Mem S ι → Prop} (h : ReachesIf ok s s')
    (hok : ∀ i r a m, ok i r a m → ok' i r a m) : ReachesIf ok' s s' :=
  Relation.ReflTransGen.mono
    (fun _ _ ⟨i, a, ha, hs⟩ => ⟨i, a, fun r k hp => hok i r a _ (ha r k hp), hs⟩) _ _ h

/-- every move of the list meets `ok` where it is made -/
def checkedIf (ok : ι → Req S → Label S → Mem S ι → Prop) [∀ i r a m, Decidable (ok i r a m)]
    (s : State S ι ρ) : List (ι × Label S) → Bool
  | [] => true
  | a :: as =>
    (match s.prog a.1 with
      | some (.req r _) => decide (ok a.1 r a.2 s.mem)
      | _ => true) &&
    (step s a.1 a.2).all fun s' => checkedIf ok s' as

lemma reaches_checkedIf [∀ i r a m, Decidable (ok i r a m)] {as : List (ι × Label S)}
    (h : run s as = some s') (hc : checkedIf ok s as = true) : ReachesIf ok s s' := by
  induction as generalizing s with
  | nil =>
    cases h
    exact Relation.ReflTransGen.refl
  | cons a as ih =>
    obtain ⟨s1, h1, h2⟩ := Option.bind_eq_some_iff.mp h
    obtain ⟨hd, ht⟩ := Bool.and_eq_true_iff.mp hc
    refine Relation.ReflTransGen.head ⟨a.1, a.2, fun r k hp => ?_, h1⟩ (ih h2 ?_)
    · rw [hp] at hd
      exact of_decide_eq_true hd
    · rw [h1] at ht
      exact ht

/-- a session that crashes only while it is silent is silent once it has crashed -/
lemma ReachesIf.silent {db : S.Db} {p : ι → Prog S ρ} {i : ι}
    (hok : ∀ r m, ok i r .crash m → m.Silent i) (h : ReachesIf ok (State.init db p) s)
    (hi : s.prog i = none) : s.mem.Silent i := by
  induction h with
  | refl => cases hi
  | tail _ hs ih =>
    obtain ⟨j, a, ha, hs⟩ := hs
    by_cases hj : i = j
    · subst hj
      cases a with
      | ev e =>
        obtain ⟨r, k, o, _, _, _, rfl⟩ := step_ev hs
        cases (Function.update_self _ _ _).symm.trans hi
      | crash =>
        obtain ⟨r, k, hp, rfl⟩ := step_crash hs
        exact hok r _ (ha r k hp)
    · obtain ⟨r, k, e, o, _, _, _, rfl⟩ | ⟨r, k, _, rfl⟩ := step_cases hs
      · exact Mem.silent_publish (ih ((Function.update_of_ne hj _ _).symm.trans hi)) (Ne.symm hj) _
      · exact ih ((Function.update_of_ne hj _ _).symm.trans hi)

end

/-! ## weakest preconditions -/

section
variable {S : Store} {ι : Type} {P : Protocol S ι}
  {ok : ι → Req S → Label S → Mem S ι → Prop} {i : ι} {ε α β : Type}

/-- as `WP`, for the events that meet `ok` -/
def WPIf (P : Protocol S ι) (ok : ι → Req S → Label S → Mem S ι → Prop) (i : ι) {α : Type} :
    Prog S α → Post S ι α → Loc S → Set S.Lock → Mem S ι → Prop
  | .ret a, Q, l, H, m => ∀ m', P.Rely i H m m' → P.Reach m' → Q a l H m'
  | .req r k, Q, l, H, m => ∀ m', P.Rely i H m m' → P.Reach m' →
      ∀ e o, ok i r (.ev e) m' → r.exec e l m'.db = some o →
        (o.ws ≠ [] → P.may i (H ∪ {l | l ∈ o.need}) o.ws m') ∧
        WPIf P ok i (k o.ans) Q o.loc (o.mode.held o.need H) (m'.publish i o.ws)

variable {p : Prog S α} {l : Loc S} {H : Set S.Lock} {Q : Post S ι α} {c : Call S ε α}
  {m m' : Mem S ι}

lemma WPIf.stable (h : WPIf P ok i p Q l H m) (hr : P.Rely i H m m') : WPIf P ok i p Q l H m' := by
  cases p with
  | ret a | req r k => exact fun m1 h1 => h m1 (hr.trans h1)

lemma WPIf.of_rely (h : ∀ m', P.Rely i H m m' → P.Reach m' → WPIf P ok i p Q l H m') :
    WPIf P ok i p Q l H m := by
  cases p with
  | ret a | req r k => exact fun m1 h1 h2 => h m1 h1 h2 m1 (.refl m1) h2

lemma WPIf.mono {Q' : Post S ι α} (hQ : ∀ a l H m, P.Reach m → Q a l H m → Q' a l H m)
    (h : WPIf P ok i p Q l H m) : WPIf P ok i p Q' l H m := by
  induction p generalizing l H m with
  | ret a => exact fun m1 h1 h2 => hQ _ _ _ _ h2 (h m1 h1 h2)
  | req r k ih =>
    intro m1 h1 h2 e o hok ho
    obtain ⟨hm, hk⟩ := h m1 h1 h2 e o hok ho
    exact ⟨hm, ih o.ans hk⟩

/-- what every batch of every session keeps holds at the end too -/
lemma WPIf.keep {K : Mem S ι → Prop} (hK : ∀ m j H ws, P.may j H ws m → K m → K (m.publish j ws))
    (h : WPIf P ok i p Q l H m) (hm : K m) :
    WPIf P ok i p (fun a l H m => Q a l H m ∧ K m) l H m := by
  have hrely : ∀ (H : Set S.Lock) m m', P.Rely i H m m' → K m → K m' := fun _ _ _ hr hm =>
    hr.stable (I := K) (fun m j H ws _ _ _ hmay _ => hK m j H ws hmay) hm
  induction p generalizing l H m with
  | ret a => exact fun m1 h1 h2 => ⟨h m1 h1 h2, hrely H m m1 h1 hm⟩
  | req r k ih =>
    intro m1 h1 h2 e o hok ho
    obtain ⟨hmay, hk⟩ := h m1 h1 h2 e o hok ho
    refine ⟨hmay, ih o.ans hk ?_⟩
    by_cases hws : o.ws = []
    · rw [hws, Mem.publish_nil]
      exact hrely H m m1 h1 hm
    · exact hK m1 i _ o.ws (hmay hws) (hrely H m m1 h1 hm)

lemma WPIf.bind {f : α → Prog S β} {Q : Post S ι β}
    (h : WPIf P ok i p (fun a l H m => WPIf P ok i (f a) Q l H m) l H m) :
    WPIf P ok i (p.bind f) Q l H m := by
  induction p generalizing l H m with
  | ret a => exact WPIf.of_rely h
  | req r k ih =>
    intro m1 h1 h2 e o hok ho
    obtain ⟨hm, hk⟩ := h m1 h1 h2 e o hok ho
    exact ⟨hm, ih o.ans hk⟩

lemma WP.toIf (hP : ∀ i r l m, P.allow i r l m) (h : WP P i p Q l H m) : WPIf P ok i p Q l H m := by
  induction p generalizing l H m with
  | ret a => exact h
  | req r k ih =>
    intro m1 h1 h2 e o _ ho
    obtain ⟨hm, hk⟩ := h m1 h1 h2 (hP i r l m1) e o ho
    exact ⟨hm, ih o.ans hk⟩

/-! ## calls -/

/-- as `Idle`, for the events that meet `ok` -/
def IdleIf (P : Protocol S ι) (ok : ι → Req S → Label S → Mem S ι → Prop) (i : ι) (c : Call S ε α)
    (R : Except ε α → Mem S ι → Prop) (m : Mem S ι) : Prop :=
  WPIf P ok i c (fun r l H m => l = .idle ∧ H = ∅ ∧ Settled P i (R r) m) .idle ∅ m

variable {R : Except ε α → Mem S ι → Prop} {R' : Except ε β → Mem S ι → Prop}

lemma Idle.toIf (hP : ∀ i r l m, P.allow i r l m) (h : Idle P i c R m) :
    IdleIf P ok i c R m := WP.toIf hP h

lemma IdleIf.ret {r : Except ε α} (h : Settled P i (R r) m) :
    IdleIf P ok i (Prog.ret r : Call S ε α) R m := fun _ hr _ => ⟨rfl, rfl, h.stable hr⟩

lemma IdleIf.mono {R' : Except ε α → Mem S ι → Prop} (h : IdleIf P ok i c R m)
    (hR : ∀ r m, P.Reach m → R r m → R' r m) : IdleIf P ok i c R' m :=
  WPIf.mono (fun r _ _ _ _ ⟨h1, h2, h3⟩ => ⟨h1, h2, h3.mono (hR r)⟩) h

lemma IdleIf.keep {K : Mem S ι → Prop} (hK : ∀ m j H ws, P.may j H ws m → K m → K (m.publish j ws))
    (h : IdleIf P ok i c R m) (hm : K m) : IdleIf P ok i c (fun r m => R r m ∧ K m) m := by
  refine WPIf.mono ?_ (WPIf.keep hK h hm)
  rintro r l H m _ ⟨⟨hl, hH, hr⟩, hm⟩
  refine ⟨hl, hH, fun m' hrely hR => ⟨hr m' hrely hR, ?_⟩⟩
  exact hrely.stable (I := K) (fun m j H ws _ _ _ hmay _ => hK m j H ws hmay) hm

lemma IdleIf.attempt {f : Except ε α → Call S ε β} (h : IdleIf P ok i c R m)
    (hf : ∀ r m, P.Reach m → Settled P i (R r) m → IdleIf P ok i (f r) R' m) :
    IdleIf P ok i (c.attempt f) R' m := by
  refine WPIf.bind (WPIf.mono ?_ h)
  rintro r l H m hm ⟨rfl, rfl, hr⟩
  exact hf r m hm hr

lemma IdleIf.bind {f : α → Call S ε β} (h : IdleIf P ok i c R m)
    (hf : ∀ a m, P.Reach m → Settled P i (R (.ok a)) m → IdleIf P ok i (f a) R' m)
    (he : ∀ e m, P.Reach m → Settled P i (R (.error e)) m → Settled P i (R' (.error e)) m) :
    IdleIf P ok i (c.bind f) R' m := by
  refine IdleIf.attempt h fun r m hm hr => ?_
  cases r with
  | ok a => exact hf a m hm hr
  | error e => exact IdleIf.ret (he e m hm hr)

/-- a statement on its own: a failure that meets `ok`, an error of the store, or its answer -/
lemma IdleIf.stmt {q : S.Stmt} {err : S.Err → ε} {f : Except ε (S.Ans q) → Call S ε α}
    (hfault : ∀ e m', P.Rely i ∅ m m' → P.Reach m' → ok i (.run q) (.ev (.fail e)) m' →
      IdleIf P ok i (f (.error (err (S.fault e)))) R m')
    (herr : ∀ m' x e, P.Rely i ∅ m m' → P.Reach m' → S.exec q x x m'.db = .error e →
      IdleIf P ok i (f (.error (err e))) R m')
    (h : ∀ m' x a ws, P.Rely i ∅ m m' → P.Reach m' → ok i (.run q) (.ev (.ok x)) m' →
      S.exec q x x m'.db = .ok (a, ws) →
      (ws ≠ [] → P.may i {l | l ∈ S.locks q x m'.db} ws m') ∧ IdleIf P ok i (f (.ok a)) R
        (m'.publish i ws)) : IdleIf P ok i ((Call.stmt q err).attempt f) R m := by
  intro m' hr hR e o hok ho
  cases e with
  | fail e =>
    cases ho
    exact silent (hfault e m' hr hR hok)
  | ok x =>
    simp only [Req.exec, Loc.idle] at ho
    split at ho
    · rename_i a ws hq
      cases ho
      obtain ⟨hmay, hs⟩ := h m' x a ws hr hR hok hq
      refine ⟨fun hne => ?_, hs⟩
      rw [Set.empty_union]
      exact hmay hne
    · rename_i e hq
      cases ho
      exact silent (herr m' x e hr hR hq)

end

section
variable {S : Store} {ι ρ : Type} [DecidableEq ι] {P : Protocol S ι}
  {ok : ι → Req S → Label S → Mem S ι → Prop}

/-- one move that meets `ok` keeps every session to the protocol -/
lemma Keeping.stepIf {Q : ι → Post S ι ρ} {s s' : State S ι ρ}
    (hg : Keeping P (fun i p l H m => WPIf P ok i p (Q i) l H m) s) (h : StepIf ok s s') :
    Keeping P (fun i p l H m => WPIf P ok i p (Q i) l H m) s' := by
  have hstable : ∀ (i : ι) p l H m m', P.Rely i H m m' → WPIf P ok i p (Q i) l H m →
      WPIf P ok i p (Q i) l H m' := fun i p l H m m' hr hw => hw.stable hr
  obtain ⟨i, a, ha, hs⟩ := h
  cases a with
  | ev e =>
    obtain ⟨r, k, o, hp, ho, hn, rfl⟩ := step_ev hs
    obtain ⟨hmay, hwp⟩ := hg.wp i _ hp s.mem (.refl _) hg.reach e o (ha r k hp) ho
    obtain ⟨hcw, hcl⟩ := exec_covered ho (hg.covered i)
    refine hg.move hstable hn (fun hw => ⟨hcw, hmay hw⟩) hcl fun q hq => ?_
    rw [← Option.some.inj hq]
    exact hwp
  | crash =>
    obtain ⟨r, k, hp, rfl⟩ := step_crash hs
    exact hg.crash hstable

/-- **Adequacy.** If every session keeps to the protocol under the events that meet `ok`, then in
every state of every run of such events the committed part is a state of the abstract machine, and a
session that has ended has its postcondition. -/
theorem IdleIf.adequate {ε α : Type} {db : S.Db} {p : ι → Call S ε α}
    {R : ι → Except ε α → Mem S ι → Prop} (h₀ : P.init ⟨db, []⟩)
    (hp : ∀ i, IdleIf P ok i (p i) (R i) ⟨db, []⟩) {s : State S ι (Except ε α)}
    (h : ReachesIf ok (State.init db p) s) :
    P.Reach s.mem ∧ ∀ i r, s.prog i = some (.ret r) → R i r s.mem := by
  have hg : Keeping P (fun i p l H m => WPIf P ok i p
      (fun r l H m => l = .idle ∧ H = ∅ ∧ Settled P i (R i r) m) l H m) s := by
    induction h with
    | refl => exact keeping_init h₀ hp
    | tail _ hs ih => exact ih.stepIf hs
  refine ⟨hg.reach, fun i r hr => ?_⟩
  obtain ⟨-, -, hs⟩ := hg.wp i _ hr s.mem (.refl _) hg.reach
  exact hs s.mem (.refl _) hg.reach

end

end Txn
