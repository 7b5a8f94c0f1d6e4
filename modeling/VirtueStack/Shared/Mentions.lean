import Mathlib.Data.List.Infix

/-!
# Texts that mention a text

`strings.Contains(strings.ToLower(s), sub)`, and which part of a text mentions `sub`. A letter that
is not in `sub` separates what is before it from what is after it; a letter with which `sub` does
not begin adds nothing at the beginning, and one with which it does not end adds nothing at the end.

* `mentions_brackets` a text in brackets with a context before it.
-/

namespace VirtueStack
open List

def Mentions (sub s : String) : Prop := sub.toList <:+: s.toList.map Char.toLower

instance (sub s : String) : Decidable (Mentions sub s) := inferInstanceAs (Decidable (_ <:+: _))

/-! ## letters -/

section
variable {α : Type} {p a b : List α} {c : α}

lemma infix_split (hc : c ∉ p) (h : p <:+: a ++ c :: b) : p <:+: a ∨ p <:+: b := by
  rcases infix_append_iff.mp h with h | h | ⟨l1, l2, rfl, h1, h2⟩
  · exact .inl h
  · rcases infix_cons_iff.mp h with h | h
    · rcases prefix_cons_iff.mp h with rfl | ⟨t, rfl, -⟩
      · exact .inr nil_infix
      · exact absurd mem_cons_self hc
    · exact .inr h
  · rcases prefix_cons_iff.mp h2 with rfl | ⟨t, rfl, -⟩
    · rw [append_nil]
      exact .inl h1.isInfix
    · exact absurd (mem_append_right _ mem_cons_self) hc

lemma infix_of_cons (hc : p.head? ≠ some c) (h : p <:+: c :: a) : p <:+: a := by
  rcases infix_cons_iff.mp h with h | h
  · rcases prefix_cons_iff.mp h with rfl | ⟨t, rfl, -⟩
    · exact nil_infix
    · exact absurd rfl hc
  · exact h

lemma infix_of_concat (hc : p.getLast? ≠ some c) (h : p <:+: a ++ [c]) : p <:+: a := by
  rcases infix_concat_iff.mp h with h | h
  · rcases suffix_concat_iff.mp h with rfl | ⟨t, rfl, -⟩
    · exact nil_infix
    · exact absurd getLast?_concat hc
  · exact h

end

/-! ## texts -/

section
variable {sub : String}

variable {s a b : String}

lemma not_mentions {x : Char} (hx : x ∈ sub.toList) (h : ∀ c ∈ s.toList, c.toLower ≠ x) :
    ¬ Mentions sub s := by
  intro hm
  obtain ⟨c, hc, hcx⟩ := mem_map.mp (hm.subset hx)
  exact h c hc hcx

/-- the text ends in a blank, a letter before it is not in `sub`, and what is before that does not
mention `sub` -/
def opens (sub s : String) : Bool :=
  match s.toList.reverse with
  | ' ' :: c :: l =>
    decide (c.toLower ∉ sub.toList ∧ sub.toList.head? ≠ some ' ' ∧
      ¬ sub.toList <:+: l.reverse.map Char.toLower)
  | _ => false

/-- the text begins with a blank and a letter that is not in `sub`, and the rest does not mention
`sub` -/
def closes (sub s : String) : Bool :=
  match s.toList with
  | ' ' :: c :: l =>
    decide (c.toLower ∉ sub.toList ∧ sub.toList.getLast? ≠ some ' ' ∧
      ¬ sub.toList <:+: l.map Char.toLower)
  | _ => false

lemma mentions_after (ha : opens sub a = true) (h : Mentions sub (a ++ s)) : Mentions sub s := by
  unfold opens at ha
  split at ha
  · rename_i c l hl
    obtain ⟨hc, hb, hn⟩ := of_decide_eq_true ha
    have ha' : a.toList = l.reverse ++ [c, ' '] := by
      rw [← reverse_reverse a.toList, hl]
      simp
    unfold Mentions at h
    rw [String.toList_append, ha', append_assoc, map_append] at h
    rcases infix_split hc h with h | h
    · exact absurd h hn
    · exact infix_of_cons hb h
  · cases ha

lemma mentions_before (hb : closes sub b = true) (h : Mentions sub (s ++ b)) : Mentions sub s := by
  unfold closes at hb
  split at hb
  · rename_i c l hl
    obtain ⟨hc, he, hn⟩ := of_decide_eq_true hb
    have hs : (s ++ b).toList.map Char.toLower =
        (s.toList.map Char.toLower ++ [' ']) ++ c.toLower :: l.map Char.toLower := by
      rw [String.toList_append, hl]
      simp
    unfold Mentions at h
    rw [hs] at h
    rcases infix_split hc h with h | h
    · exact infix_of_concat he h
    · exact absurd h hn
  · cases hb

lemma mentions_wrap (hc : ':' ∉ sub.toList) (hb : sub.toList.head? ≠ some ' ')
    (h : Mentions sub (a ++ ": " ++ b)) : Mentions sub a ∨ Mentions sub b := by
  have hs : (a ++ ": " ++ b).toList.map Char.toLower =
      a.toList.map Char.toLower ++ ':' :: ' ' :: b.toList.map Char.toLower := by
    rw [String.toList_append, String.toList_append]
    simp
  unfold Mentions at h
  rw [hs] at h
  rcases infix_split hc h with h | h
  · exact .inl h
  · exact .inr (infix_of_cons hb h)

lemma mentions_brackets (hc : ':' ∉ sub.toList) (ho : '[' ∉ sub.toList) (he : ']' ∉ sub.toList)
    (h : Mentions sub (a ++ ": [" ++ b ++ "]")) : Mentions sub a ∨ sub.toList <:+: [' '] ∨
      Mentions sub b := by
  have hs : (a ++ ": [" ++ b ++ "]").toList.map Char.toLower =
      a.toList.map Char.toLower ++
      ':' :: ([' '] ++ '[' :: (b.toList.map Char.toLower ++ [']'])) := by
    rw [String.toList_append, String.toList_append, String.toList_append]
    simp
  unfold Mentions at h
  rw [hs] at h
  rcases infix_split hc h with h | h
  · exact .inl h
  rcases infix_split ho h with h | h
  · exact .inr (.inl h)
  · exact .inr (.inr (infix_of_concat (fun h => he (mem_of_getLast? h)) h))

/-- two texts with a blank between them, the second of which begins with a letter that is not in
`sub` -/
lemma mentions_blank {c : Char} (he : sub.toList.getLast? ≠ some ' ') (hc : b.toList.head? = some c)
    (hcs : c.toLower ∉ sub.toList) (h : Mentions sub (a ++ " " ++ b)) :
    Mentions sub a ∨ Mentions sub b := by
  obtain ⟨r, hr⟩ := head?_eq_some_iff.mp hc
  have hs : (a ++ " " ++ b).toList.map Char.toLower =
      (a.toList.map Char.toLower ++ [' ']) ++ c.toLower :: r.map Char.toLower := by
    rw [String.toList_append, String.toList_append, hr]
    simp
  unfold Mentions at h ⊢
  rw [hs] at h
  rcases infix_split hcs h with h | h
  · exact .inl (infix_of_concat he h)
  · rw [hr]
    exact .inr (h.trans (infix_cons (infix_refl _)))

lemma head?_intercalate {c : Char} (h : s.toList.head? = some c) (sep : String) (l : List String) :
    (String.intercalate sep (s :: l)).toList.head? = some c := by
  rw [String.toList_intercalate]
  cases l with
  | nil => simpa using h
  | cons t l =>
    rw [map_cons, map_cons, intercalate_cons_cons, append_assoc, head?_append, h]
    rfl

/-- texts with blanks between them, each of which begins with a letter that is not in `sub` -/
lemma mentions_intercalate {l : List String} (hne : sub.toList ≠ [])
    (he : sub.toList.getLast? ≠ some ' ')
    (hl : ∀ s ∈ l, ∃ c, s.toList.head? = some c ∧ c.toLower ∉ sub.toList)
    (h : Mentions sub (String.intercalate " " l)) : ∃ s ∈ l, Mentions sub s := by
  induction l with
  | nil => exact absurd (infix_nil.mp h) hne
  | cons s l ih =>
    cases l with
    | nil =>
      refine ⟨s, mem_cons_self, ?_⟩
      unfold Mentions at h ⊢
      rw [String.toList_intercalate] at h
      simpa using h
    | cons t l =>
      obtain ⟨c, hc, hcs⟩ := hl t (mem_cons_of_mem s mem_cons_self)
      have hs : String.intercalate " " (s :: t :: l) = s ++ " " ++ String.intercalate " "
          (t :: l) := by
        refine String.toList_injective ?_
        rw [String.toList_intercalate, String.toList_append, String.toList_append,
          String.toList_intercalate, map_cons, map_cons, intercalate_cons_cons]
      rw [hs] at h
      rcases mentions_blank he (head?_intercalate hc " " l) hcs h with h | h
      · exact ⟨s, mem_cons_self, h⟩
      · obtain ⟨u, hu, hm⟩ := ih (fun u hu => hl u (mem_cons_of_mem s hu)) h
        exact ⟨u, mem_cons_of_mem s hu, hm⟩

end

end VirtueStack
