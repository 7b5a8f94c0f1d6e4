import VirtueStack.Txn.Serial

/-!
# Transactions: calls by what they send

* `Store.Answers` an answer that the store can give to a statement, in some state;
* `Call.Does` every statement the call can send is of a given kind, and every value it can end with
  is in `Q`, given that what it is told are answers of the store. There is no transaction;
* `Prog.Yields bad ok Q` an answer in `bad`, wherever it comes, and the rest of the program is of
  the kind `ok` and ends in `Q`;
* `Does.idle_of` such a call keeps what each of those statements keeps, and `Does.idle`, `All.keeps`
  and `Does.idle_settled` are the cases of it that are used most.
-/

namespace Txn
open Function

section
variable {S : Store} {ε α β : Type}

def Store.Answers (S : Store) (q : S.Stmt) (a : S.Ans q) : Prop :=
  ∃ x db ws, S.exec q x x db = .ok (a, ws)

def Prog.Does (ok : S.Stmt → Prop) (Q : α → Prop) : Prog S α → Prop
  | .ret a => Q a
  | .req (.run q) k => ok q ∧ (∀ e, (k (.error e)).Does ok Q) ∧ ∀ a, S.Answers q a →
    (k (.ok a)).Does ok Q
  | .req .begin _ => False
  | .req .commit _ => False
  | .req .rollback _ => False

variable {p : Prog S α} {ok : S.Stmt → Prop} {Q : α → Prop} {ok' : S.Stmt → Prop} {f : α → Prog S β}
  {Q' : β → Prop}

lemma Prog.Does.bind (h : ∀ q, ok q → ok' q) (hp : p.Does ok Q)
    (hf : ∀ a, Q a → (f a).Does ok' Q') : (p.bind f).Does ok' Q' := by
  induction p with
  | ret a => exact hf a hp
  | req r k ih =>
    cases r with
    | run q => exact ⟨h q hp.1, fun e => ih _ (hp.2.1 e), fun a ha => ih _ (hp.2.2 a ha)⟩
    | begin | commit | rollback => exact hp.elim

lemma Prog.Does.mono {Q Q' : α → Prop} (h : ∀ q, ok q → ok' q)
    (hQ : ∀ a, Q a → Q' a) (hp : p.Does ok Q) : p.Does ok' Q' := by
  rw [← Prog.bind_ret p]
  exact Prog.Does.bind h hp hQ

lemma Prog.All.does (hp : p.All ok) : p.Does ok fun _ => True := by
  induction p, hp using Prog.All.rule with
  | ret a => trivial
  | run q k hq _ ih => exact ⟨hq, fun e => ih _, fun a _ => ih _⟩

def Prog.Yields (bad : (q : S.Stmt) → Except S.Err (S.Ans q) → Prop) (ok : S.Stmt → Prop)
    (Q : α → Prop) : Prog S α → Prop
  | .ret _ => True
  | .req (.run q) k => (∀ a, bad q a → (k a).Does ok Q) ∧ ∀ a, (k a).Yields bad ok Q
  | .req .begin _ => False
  | .req .commit _ => False
  | .req .rollback _ => False

variable {bad : (q : S.Stmt) → Except S.Err (S.Ans q) → Prop}

lemma Prog.Yields.bind (hp : p.Yields bad ok Q)
    (hQ : ∀ a, Q a → (f a).Does ok Q') (hf : ∀ a, p.Returns a → (f a).Yields bad ok Q') :
    (p.bind f).Yields bad ok Q' := by
  induction p with
  | ret a => exact hf a rfl
  | req r k ih =>
    cases r with
    | run q =>
      refine ⟨fun a ha => Prog.Does.bind (fun _ h => h) (hp.1 a ha) hQ, fun a =>
        ih a (hp.2 a) fun b hb => ?_⟩
      exact hf b ⟨a, hb⟩
    | begin | commit | rollback => exact hp

lemma Prog.All.yields (hp : p.All fun q => ∀ a, ¬ bad q a) : p.Yields bad ok Q := by
  induction p, hp using Prog.All.rule with
  | ret a => trivial
  | run q k hq _ ih => exact ⟨fun a ha => absurd ha (hq a), ih⟩

namespace Call
variable {ok ok' : S.Stmt → Prop} {Q : α → Prop} {Q' : β → Prop}

def Does (ok : S.Stmt → Prop) (Q : α → Prop) (c : Call S ε α) : Prop :=
  Prog.Does ok (fun r => ∀ a, r = .ok a → Q a) c

lemma Does.pure {a : α} (h : Q a) : (Call.pure a : Call S ε α).Does ok Q := fun b hb => by
  cases hb
  exact h

lemma Does.fail (e : ε) : (Call.fail e : Call S ε α).Does ok Q := fun b hb => by cases hb

variable {c : Call S ε α}

lemma Does.attempt {f : Except ε α → Call S ε β} (hc : c.Does ok Q)
    (hok : ∀ a, Q a → (f (.ok a)).Does ok Q') (herr : ∀ e, (f (.error e)).Does ok Q') :
    (c.attempt f).Does ok Q' := by
  refine Prog.Does.bind (S := S) (fun _ h => h) hc fun r hr => ?_
  cases r with
  | ok a => exact hok a (hr a rfl)
  | error e => exact herr e

lemma Does.bind {f : α → Call S ε β} (hc : c.Does ok Q) (hf : ∀ a, Q a → (f a).Does ok Q') :
    (c >>= f).Does ok Q' :=
  Does.attempt hc hf fun e => Does.fail e

lemma Does.stmt {q : S.Stmt} {err : S.Err → ε} (hq : ok q) :
    (Call.stmt q err).Does ok (S.Answers q) :=
  ⟨hq, fun _ => Does.fail _, fun _ ha => Does.pure ha⟩

lemma Does.weaken (hc : c.Does ok Q) (h : ∀ q, ok q → ok' q) : c.Does ok' Q :=
  Prog.Does.mono h (fun _ hQ => hQ) hc

lemma Does.ite {p : Prop} [Decidable p] {d : Call S ε α} (hc : p → c.Does ok Q)
    (hd : ¬ p → d.Does ok Q) : Call.Does ok Q (if p then c else d) := by
  by_cases h : p
  · rw [if_pos h]
    exact hc h
  · rw [if_neg h]
    exact hd h

lemma All.does (hc : c.All ok) : c.Does ok fun _ => True :=
  Prog.Does.mono (fun _ h => h) (fun _ _ _ _ => trivial) (Prog.All.does hc)

end Call

end

section
variable {S : Store} {ι ρ : Type} [DecidableEq ι] {i : ι} {ok : S.Stmt → Prop} {Q : ρ → Prop}

lemma Prog.Does.exec {q : S.Stmt} {k : (Req.run q).Ans → Prog S ρ} {e : Event S} {db : S.Db}
    {o : Out S (.run q)} (h : (Prog.req (.run q) k).Does ok Q)
    (ho : (Req.run q).exec e .idle db = some o) : o.loc = .idle ∧ (k o.ans).Does ok Q := by
  cases e with
  | fail e =>
    cases ho
    exact ⟨rfl, h.2.1 _⟩
  | ok x =>
    simp only [Req.exec, Loc.idle] at ho
    split at ho
    · rename_i a ws hx
      cases ho
      exact ⟨rfl, h.2.2 a ⟨x, db, ws, hx⟩⟩
    · cases ho
      exact ⟨rfl, h.2.1 _⟩

/-- **What is left of a program is of the same kind**, whatever the other sessions are. -/
theorem Prog.Does.reaches {p : ι → Prog S ρ} {db : S.Db}
    {allow : ι → Req S → Loc S → Mem S ι → Prop}
    {s : State S ι ρ} (hp : (p i).Does ok Q) (h : Reaches allow (State.init db p) s) :
    s.loc i = .idle ∧ ∀ c, s.prog i = some c → c.Does ok Q := by
  induction h with
  | refl =>
    refine ⟨rfl, fun c hc => ?_⟩
    cases hc
    exact hp
  | tail _ hs ih =>
    obtain ⟨hloc, hprog⟩ := ih
    obtain ⟨j, l, -, hs⟩ := hs
    obtain ⟨r, k, e, o, hr, ho, -, rfl⟩ | ⟨r, k, hr, rfl⟩ := step_cases hs
    · dsimp only
      by_cases hj : i = j
      · subst hj
        have hc := hprog _ hr
        rw [hloc] at ho
        rw [update_self, update_self]
        cases r with
        | run q =>
          obtain ⟨hidle, hnext⟩ := hc.exec ho
          refine ⟨hidle, fun c hc' => ?_⟩
          cases hc'
          exact hnext
        | begin | commit | rollback => exact hc.elim
      · rw [update_of_ne hj, update_of_ne hj]
        exact ⟨hloc, hprog⟩
    · dsimp only
      by_cases hj : i = j
      · subst hj
        rw [update_self, update_self]
        exact ⟨rfl, fun c hc => by cases hc⟩
      · rw [update_of_ne hj, update_of_ne hj]
        exact ⟨hloc, hprog⟩

end

/-! ## such calls keep to protocols -/

section
variable {S : Store} {ι : Type} {P : Protocol S ι} {i : ι} {ε α : Type} {K : Mem S ι → Prop}
  {m : Mem S ι} {ok : S.Stmt → Prop} {Q : α → Prop} {c : Call S ε α}

/-- **A call keeps what each of its statements keeps**, if the other sessions keep it too. -/
theorem Call.Does.idle_of (hc : c.Does ok Q)
    (hrely : ∀ m m', P.Rely i ∅ m m' → P.Reach m' → K m → K m')
    (h : ∀ q, ok q → ∀ m x a ws, P.Reach m → K m → P.allow i (.run q) .idle m →
      S.exec q x x m.db = .ok (a, ws) →
      (ws ≠ [] → P.may i {l | l ∈ S.locks q x m.db} ws m) ∧ K (m.publish i ws))
    (hm : K m) : Idle P i c (fun r m => (∀ a, r = .ok a → Q a) ∧ K m) m := by
  unfold Call.Does at hc
  show WP P i c _ _ _ _
  induction c generalizing m with
  | ret r => exact Idle.ret fun m' hr hR => ⟨hc, hrely m m' hr hR hm⟩
  | req r k ih =>
    cases r with
    | run q =>
      intro m' hr hR ha e o ho
      have hm' : K m' := hrely m m' hr hR hm
      cases e with
      | fail e =>
        cases ho
        exact silent (ih _ (hc.2.1 _) hm')
      | ok x =>
        simp only [Req.exec, Loc.idle] at ho
        split at ho
        · rename_i a ws hx
          cases ho
          rw [Set.empty_union]
          obtain ⟨hmay, hK⟩ := h q hc.1 m' x a ws hR hm' ha hx
          exact ⟨hmay, ih _ (hc.2.2 a ⟨x, m'.db, ws, hx⟩) hK⟩
        · cases ho
          exact silent (ih _ (hc.2.1 _) hm')
    | begin | commit | rollback => exact hc.elim

/-- a call of statements that the protocol allows, in any state with what all sessions keep -/
lemma Call.Does.idle (hK : ∀ m j H ws, P.Reach m → P.may j H ws m → K m → K (m.publish j ws))
    (hc : c.Does ok Q) (h : ∀ q, ok q → ∀ m x a ws, P.Reach m → K m → P.allow i (.run q) .idle m →
      S.exec q x x m.db = .ok (a, ws) → ws ≠ [] → P.may i {l | l ∈ S.locks q x m.db} ws m)
    (hm : K m) : Idle P i c (fun r m => (∀ a, r = .ok a → Q a) ∧ K m) m := by
  refine hc.idle_of (fun m m' hr _ hm => ?_) (fun q hq m x a ws hR hm ha hx => ?_) hm
  · exact hr.stable (I := K) (fun m j H ws _ _ _ hmay hR h => hK m j H ws hR hmay h) hm
  · refine ⟨h q hq m x a ws hR hm ha hx, ?_⟩
    by_cases hws : ws = []
    · rw [hws, Mem.publish_nil]
      exact hm
    · exact hK m i _ ws hR (h q hq m x a ws hR hm ha hx hws) hm

/-- **A call keeps to the protocol if each of its statements does, in any state.** -/
theorem Call.All.keeps (hc : c.All ok)
    (h : ∀ q, ok q → ∀ m x a ws, P.Reach m → P.allow i (.run q) .idle m →
      S.exec q x x m.db = .ok (a, ws) → ws ≠ [] → P.may i {l | l ∈ S.locks q x m.db} ws m) :
    Keeps P i c m :=
  Idle.mono (hc.does.idle (K := fun _ => True) (fun _ _ _ _ _ _ _ => trivial)
    (fun q hq m x a ws hR _ => h q hq m x a ws hR) trivial) fun _ _ _ _ => trivial

lemma Call.Does.idle_settled (hc : c.Does ok Q)
    (h : ∀ q, ok q → ∀ x db a ws, S.exec q x x db = .ok (a, ws) → ws = []) (hK : Settled P i K m) :
    Idle P i c (fun r m => (∀ a, r = .ok a → Q a) ∧ K m) m := by
  refine Idle.mono (hc.idle_of (K := Settled P i K) (fun _ _ hr _ hm => hm.stable hr) ?_ hK)
    fun _ m hR hm => ⟨hm.1, hm.2 m (.refl m) hR⟩
  intro q hq m x a ws _ hm _ hx
  obtain rfl := h q hq x m.db a ws hx
  exact silent hm

end

end Txn
