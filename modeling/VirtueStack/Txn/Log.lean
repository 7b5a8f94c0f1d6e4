import VirtueStack.Txn.Rules

/-!
# Transactions: what a session has done so far

* `Store.replay` the state a log of batches leads to;
* `Reach.replay` the committed state is the one its log leads to.
-/

namespace Txn
open List Mem

section
variable {S : Store} {ι : Type}

def Store.replay (S : Store) (db : S.Db) (wal : List (ι × List S.Write)) : S.Db :=
  wal.foldl (fun db b => S.view db b.2) db

lemma Store.replay_concat (db : S.Db) (wal : List (ι × List S.Write)) (b : ι × List S.Write) :
    S.replay db (wal ++ [b]) = S.view (S.replay db wal) b.2 := by
  unfold Store.replay
  rw [foldl_append]
  rfl

/-- the last batch of session `i` is `ws`, and `pre` is the log before it -/
def Mem.Last (m : Mem S ι) (i : ι) (pre : List (ι × List S.Write)) (ws : List S.Write) : Prop :=
  ∃ post, m.wal = pre ++ (i, ws) :: post ∧ ∀ b ∈ post, b.1 ≠ i

variable {m : Mem S ι} {i j : ι} {pre : List (ι × List S.Write)} {ws ws' : List S.Write}

lemma Mem.last_publish (h : ws ≠ []) : (m.publish i ws).Last i m.wal ws :=
  ⟨[], publish_wal h, fun _ hb => by cases hb⟩

lemma Mem.Last.publish_of_ne (h : m.Last i pre ws) (hj : j ≠ i) :
    (m.publish j ws').Last i pre ws := by
  by_cases hws : ws' = []
  · rw [hws, publish_nil]
    exact h
  · obtain ⟨post, hwal, hpost⟩ := h
    refine ⟨post ++ [(j, ws')], ?_, fun b hb => ?_⟩
    · rw [publish_wal hws, hwal, append_assoc]
      rfl
    · rcases mem_append.mp hb with hb | hb
      · exact hpost b hb
      · rw [mem_singleton.mp hb]
        exact hj

lemma Mem.last_of_publish (hws : ws' ≠ []) (h : (m.publish j ws').Last i pre ws) :
    i = j ∧ pre = m.wal ∧ ws = ws' ∨ i ≠ j ∧ m.Last i pre ws := by
  obtain ⟨post, hwal, hpost⟩ := h
  rw [publish_wal hws] at hwal
  rcases eq_nil_or_concat post with rfl | ⟨post', b, rfl⟩
  · obtain ⟨hpre, hb⟩ := append_inj' hwal rfl
    cases hb
    exact .inl ⟨rfl, hpre.symm, rfl⟩
  · rw [concat_eq_append, ← cons_append, ← append_assoc] at hwal
    obtain ⟨hpre, hb⟩ := append_inj' hwal rfl
    cases hb
    rw [concat_eq_append] at hpost
    refine .inr ⟨Ne.symm (hpost (j, ws') (by simp)), post', hpre, fun b hb => ?_⟩
    exact hpost b (mem_append_left _ hb)

lemma Protocol.Reach.replay {P : Protocol S ι} {db : S.Db} (h₀ : ∀ m, P.init m → m = ⟨db, []⟩)
    (h : P.Reach m) : m.db = S.replay db m.wal := by
  refine h.invariant (I := fun m => m.db = S.replay db m.wal)
    (fun m hm => ?_) fun m i _ ws _ hm hne _ _ => ?_
  · rw [h₀ m hm]
    rfl
  · rw [publish_db, publish_wal hne, Store.replay_concat, hm]

/-- what a session has done last stays so while the others move -/
lemma settled_last {P : Protocol S ι} (h : m.Last i pre ws) :
    Settled P i (fun m => m.Last i pre ws) m := fun _ hr _ =>
  hr.stable (I := fun m => m.Last i pre ws) (fun _ _ _ _ hj _ _ _ _ h => h.publish_of_ne hj) h

end

end Txn
