import VirtueStack.Compute.Effects
import VirtueStack.Compute.Migration

/-!
# The target of a migration

The columns of the table are 32-bit integers, so that the products are exact.
-/

namespace VirtueStack.Compute.MigrationService
open List

variable (junction : Option Junction) {source best n : Node}

/-- the loop ends with what it began with, or with the first of the candidates with the best
score -/
lemma selectBestCandidate_cases (source : Node) (first : Option Node × Int)
    (candidates : List Node) : (selectBestCandidate source first candidates = first.1 ∧
      ∀ n ∈ candidates, scoreNode n source ≤ first.2) ∨
      ∃ best before after, selectBestCandidate source first candidates = some best ∧
        candidates = before ++ best :: after ∧ first.2 < scoreNode best source ∧
        (∀ n ∈ before, scoreNode n source < scoreNode best source) ∧
          ∀ n ∈ after, scoreNode n source ≤ scoreNode best source := by
  induction candidates generalizing first with
  | nil => exact .inl ⟨rfl, forall_mem_nil _⟩
  | cons node rest ih =>
    unfold selectBestCandidate
    split
    · rename_i hbetter
      rcases ih (some node, scoreNode node source) with ⟨h, hrest⟩ | ⟨best, before, after, h, rfl,
        hlt, hbefore, hafter⟩
      · exact .inr ⟨node, [], rest, h, rfl, hbetter, forall_mem_nil _, hrest⟩
      · exact .inr ⟨best, node :: before, after, h, rfl, hbetter.trans hlt,
          forall_mem_cons.mpr ⟨hlt, hbefore⟩, hafter⟩
    · rename_i hworse
      have hnode : scoreNode node source ≤ first.2 := not_lt.mp hworse
      rcases ih first with ⟨h, hrest⟩ | ⟨best, before, after, h, rfl, hlt, hbefore, hafter⟩
      · exact .inl ⟨h, forall_mem_cons.mpr ⟨hnode, hrest⟩⟩
      · exact .inr ⟨best, node :: before, after, h, rfl, hlt,
          forall_mem_cons.mpr ⟨hnode.trans_lt hlt, hbefore⟩, hafter⟩

/-! ## the score -/

/-- the rows have a location, and it is one -/
def SameLocation (source node : Node) : Prop :=
  source.locationID.isSome ∧ source.locationID = node.locationID

/-- the free memory, in parts of 999 -/
def memoryScore (node : Node) : Int :=
  (node.totalMemoryMB - node.allocatedMemoryMB) * 999 / node.totalMemoryMB

/-- not more is allocated than there is -/
def Sound (node : Node) : Prop :=
  0 < node.totalMemoryMB ∧ 0 ≤ node.allocatedMemoryMB ∧ node.allocatedMemoryMB ≤ node.totalMemoryMB

lemma memoryScore_bounds (h : Sound n) : 0 ≤ memoryScore n ∧ memoryScore n ≤ 999 := by
  obtain ⟨hpos, halloc, hle⟩ := h
  refine ⟨Int.ediv_nonneg (by omega) hpos.le, Int.lt_add_one_iff.mp (Int.ediv_lt_of_lt_mul hpos ?_)⟩
  omega

lemma scoreNode_eq (source : Node) (h : Sound n) :
    (SameLocation source n ∧ scoreNode n source = 1000 + memoryScore n) ∨
    (¬ SameLocation source n ∧ scoreNode n source = memoryScore n) := by
  have hfree : 0 ≤ (n.totalMemoryMB - n.allocatedMemoryMB) * 999 := by
    have := h.2.2
    omega
  unfold scoreNode memoryScore SameLocation
  rw [Int.tdiv_eq_ediv_of_nonneg hfree]
  by_cases hloc : source.locationID.isSome ∧ source.locationID = n.locationID
  · exact .inl ⟨hloc, by rw [if_pos hloc]⟩
  · exact .inr ⟨hloc, by rw [if_neg hloc, Int.zero_add]⟩

lemma location_of_scoreNode_le (hn : Sound n) (hbest : Sound best)
    (h : scoreNode n source ≤ scoreNode best source) (hloc : SameLocation source n) :
    SameLocation source best := by
  have h1 := memoryScore_bounds hn
  have h2 := memoryScore_bounds hbest
  rcases scoreNode_eq source hn with ⟨-, hs⟩ | ⟨hnot, -⟩
  · rcases scoreNode_eq source hbest with ⟨hb, -⟩ | ⟨-, hb⟩
    · exact hb
    · omega
  · exact absurd hloc hnot

lemma scoreNode_sub (hn : Sound n) (hbest : Sound best) (hloc : SameLocation source n ↔
    SameLocation source best) :
    scoreNode best source - scoreNode n source = memoryScore best - memoryScore n := by
  rcases scoreNode_eq source hn with ⟨h1, hs⟩ | ⟨h1, hs⟩
  · rcases scoreNode_eq source hbest with ⟨-, hb⟩ | ⟨h2, -⟩
    · omega
    · exact absurd (hloc.mp h1) h2
  · rcases scoreNode_eq source hbest with ⟨h2, -⟩ | ⟨-, hb⟩
    · exact absurd (hloc.mpr h2) h1
    · omega

/-- **The target of a migration is the best one.** There is none exactly if no node suits. Otherwise
it suits, it is in the location of the source if one of the suitable nodes is, and of those that are
there too, or all elsewhere, it is the first with the most memory free. -/
theorem best_candidate (nodes : List Node) (source : Node) (sourceNodeID : String)
    (vm : VM) (hsound : ∀ n ∈ nodes, Sound n) : (selectBestCandidate source (none, -1)
      (filterCandidateNodesBy junction nodes sourceNodeID vm) = none ↔
      ∀ n ∈ nodes, ¬ Suits junction sourceNodeID vm n) ∧
    ∀ best, selectBestCandidate source (none, -1)
    (filterCandidateNodesBy junction nodes sourceNodeID vm) = some best →
      ∃ before after, nodes = before ++ best :: after ∧ Suits junction sourceNodeID vm best ∧
        (∀ n ∈ nodes, Suits junction sourceNodeID vm n →
          (SameLocation source n → SameLocation source best) ∧
          ((SameLocation source n ↔ SameLocation source best) → memoryScore n ≤ memoryScore best)) ∧
        ∀ n ∈ before, Suits junction sourceNodeID vm n →
          (SameLocation source n ↔ SameLocation source best) →
            memoryScore n < memoryScore best := by
  rcases selectBestCandidate_cases source (none, -1)
    (filterCandidateNodesBy junction nodes sourceNodeID vm) with
    ⟨h, hall⟩ | ⟨best, before, after, h, hsplit, -, hbefore, hafter⟩
  · rw [h]
    refine ⟨⟨fun _ n hn hsuits => ?_, fun _ => rfl⟩, fun best hbest => by cases hbest⟩
    have hscore := hall n (mem_filter.mpr ⟨hn, decide_eq_true hsuits⟩)
    have hbounds := memoryScore_bounds (hsound n hn)
    rcases scoreNode_eq source (hsound n hn) with ⟨-, hs⟩ | ⟨-, hs⟩ <;> omega
  · rw [h]
    obtain ⟨before', rest, rfl, rfl, hrest⟩ := filter_eq_append_iff.mp hsplit
    obtain ⟨skipped, after', rfl, hskip, hbest, rfl⟩ := filter_eq_cons_iff.mp hrest
    have hsuits : Suits junction sourceNodeID vm best := of_decide_eq_true hbest
    have hearlier : ∀ n ∈ before' ++ skipped, Suits junction sourceNodeID vm n →
        scoreNode n source < scoreNode best source := by
      intro n hn hs
      rcases mem_append.mp hn with hn | hn
      · exact hbefore n (mem_filter.mpr ⟨hn, decide_eq_true hs⟩)
      · exact absurd (decide_eq_true hs) (hskip n hn)
    have hnodes : before' ++ (skipped ++ best :: after') = (before' ++ skipped) ++
      best :: after' := by simp
    rw [hnodes] at hsound ⊢
    have hb : Sound best := hsound best (by simp)
    refine ⟨⟨fun hnone => (by cases hnone), fun hnone => absurd hsuits (hnone best (by simp))⟩, ?_⟩
    rintro _ ⟨⟩
    refine ⟨before' ++ skipped, after', rfl, hsuits, fun n hn hs => ?_, fun n hn hs hloc => ?_⟩
    · have hle : scoreNode n source ≤ scoreNode best source := by
        rcases mem_append.mp hn with hn | hn
        · exact (hearlier n hn hs).le
        · rcases mem_cons.mp hn with rfl | hn
          · exact le_refl _
          · exact hafter n (mem_filter.mpr ⟨hn, decide_eq_true hs⟩)
      refine ⟨location_of_scoreNode_le (hsound n hn) hb hle, fun hloc => ?_⟩
      have hsub := scoreNode_sub (hsound n hn) hb hloc
      omega
    · have hlt := hearlier n hn hs
      have hsub := scoreNode_sub (hsound n (mem_append_left _ hn)) hb hloc
      omega

/-- a node with 8 cores and 8 GB, of which some are taken -/
def nodeAt (id locationID : String) (allocatedMemoryMB : Int) : Node :=
  ⟨id, id, some locationID, .online, 8, 8192, 0, allocatedMemoryMB, "ceph", "", ""⟩

/-- the node in the location of the source is taken, with less memory than the other -/
theorem best_candidate_near : Suits none "a" (vmIn "v" .running "ceph") (nodeAt "c" "l" 4096) := by
  have hsound : ∀ n ∈ [nodeAt "b" "m" 0, nodeAt "c" "l" 4096], Sound n := by
    intro n hn
    rcases mem_pair.mp hn with rfl | rfl <;> exact ⟨by decide, by decide, by decide⟩
  obtain ⟨_, _, _, hsuits, -⟩ :=
    (best_candidate none _ (nodeAt "a" "l" 0) "a" (vmIn "v" .running "ceph") hsound).2 _ rfl
  exact hsuits

end VirtueStack.Compute.MigrationService
