import VirtueStack.Txn.Does

/-!
# Transactions: protocols with one session

Where there is one session nothing moves between its statements, and what is known of the state
after one of them is known before the next.

* `Solo.bind` a sequence, from its parts.
-/

set_option linter.unusedSectionVars false

namespace Txn

section
variable {S : Store} {ι : Type} [Subsingleton ι] {P : Protocol S ι} {i : ι} {ε α β : Type}

lemma Protocol.Rely.eq_of_subsingleton {H : Set S.Lock} {m m' : Mem S ι} (h : P.Rely i H m m') :
    m' = m := by
  induction h with
  | refl => rfl
  | tail _ ho _ =>
    obtain ⟨j, _, _, hj, _⟩ := ho
    exact absurd (Subsingleton.elim j i) hj

/-- the call keeps to the protocol and ends with an error, or with a value in `Q` -/
def Solo (P : Protocol S ι) (i : ι) (c : Call S ε α) (Q : α → Mem S ι → Prop) (m : Mem S ι) :
    Prop :=
  Idle P i c (fun r m => ∀ a, r = .ok a → Q a m) m

variable {Q : α → Mem S ι → Prop} {Q' : β → Mem S ι → Prop} {m : Mem S ι}

lemma settled_solo {R : Mem S ι → Prop} (h : R m) : Settled P i R m := by
  intro m' hr _
  rw [hr.eq_of_subsingleton]
  exact h

lemma Solo.ret {r : Except ε α} (h : ∀ a, r = .ok a → Q a m) :
    Solo P i (Prog.ret r : Call S ε α) Q m := Idle.ret (settled_solo h)

variable {c : Call S ε α}

lemma Solo.mono {Q₁ : α → Mem S ι → Prop} (h : Solo P i c Q m)
    (hQ : ∀ a m, P.Reach m → Q a m → Q₁ a m) : Solo P i c Q₁ m :=
  Idle.mono h fun _ m hm hr a ha => hQ a m hm (hr a ha)

lemma Solo.attempt {f : Except ε α → Call S ε β} (h : Solo P i c Q m)
    (hok : ∀ a m, P.Reach m → Q a m → Solo P i (f (.ok a)) Q' m)
    (herr : ∀ e m, P.Reach m → Solo P i (f (.error e)) Q' m) : Solo P i (c.attempt f) Q' m := by
  refine Idle.attempt h fun r m hm hr => ?_
  cases r with
  | ok a => exact hok a m hm (hr m (.refl m) hm a rfl)
  | error e => exact herr e m hm

lemma Solo.bind {f : α → Call S ε β} (h : Solo P i c Q m)
    (hf : ∀ a m, P.Reach m → Q a m → Solo P i (f a) Q' m) : Solo P i (c >>= f) Q' m :=
  Solo.attempt h hf fun _ _ _ => Solo.ret fun _ ha => by cases ha

lemma Solo.stmt {q : S.Stmt} {err : S.Err → ε} {Q : S.Ans q → Mem S ι → Prop}
    (h : ∀ x a ws, P.Reach m → P.allow i (.run q) .idle m → S.exec q x x m.db = .ok (a, ws) →
      (ws ≠ [] → P.may i {l | l ∈ S.locks q x m.db} ws m) ∧ Q a (m.publish i ws)) :
        Solo P i (Call.stmt q err) Q m := by
  have hstmt : Idle P i ((Call.stmt q err).attempt Prog.ret)
      (fun r m => ∀ a, r = .ok a → Q a m) m := by
    refine Idle.stmt (fun e m' _ _ => Idle.ret (settled_solo fun a ha => by cases ha)) ?_
    intro m' x a ws hr hR ha hx
    rw [hr.eq_of_subsingleton] at hR ha hx ⊢
    obtain ⟨hmay, hq⟩ := h x a ws hR ha hx
    refine ⟨hmay, Idle.ret (settled_solo fun b hb => ?_)⟩
    cases hb
    exact hq
  rw [Call.attempt_ret] at hstmt
  exact hstmt

section
variable {ok : S.Stmt → Prop} {K : Mem S ι → Prop} {c : Call S ε α} (hc : c.All ok)
  (h : ∀ q, ok q → ∀ m x a ws, P.Reach m → P.allow i (.run q) .idle m → K m →
    S.exec q x x m.db = .ok (a, ws) →
    (ws ≠ [] → P.may i {l | l ∈ S.locks q x m.db} ws m) ∧ K (m.publish i ws)) (hK : K m)
include hc h hK

/-- **A call each of whose statements keeps `K` keeps `K`.** -/
theorem Idle.all : Idle P i c (fun _ m => K m) m := by
  refine Idle.mono
    (hc.does.idle_of (fun m m' hr _ hm => ?_) (fun q hq m x a ws hR hm ha hx => ?_) hK)
    fun _ _ _ hm => hm.2
  · rw [hr.eq_of_subsingleton]
    exact hm
  · exact h q hq m x a ws hR ha hm hx

lemma Solo.all : Solo P i c (fun _ m => K m) m :=
  Idle.mono (Idle.all hc h hK) fun _ _ _ hK _ _ => hK

end

end

end Txn
