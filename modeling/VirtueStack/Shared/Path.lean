import Mathlib.Data.List.Basic
import Mathlib.Data.String.Basic

/-!
# Paths of files (path/filepath)

A path is split at its slashes, and what the parts say is carried out from left to right.

* `Path` an absolute or relative path without `.` and without a `..` that could be carried out;
* `clean` the path that a text names; its text is `filepath.Clean`;
* `join` `filepath.Join` of two texts that are not empty;
* `clean_append` a text after a slash continues the path before it.
-/

namespace VirtueStack
open List

structure Path where
  isAbs : Bool
  /-- how often a relative path goes back at its beginning -/
  ups : Nat
  /-- the names after that, the last one first -/
  names : List (List Char)
  deriving DecidableEq

namespace Path

def parent : List Char := ['.', '.']

/-- one part of a text: an empty one and `.` say nothing, `..` goes back -/
def push (p : Path) (part : List Char) : Path :=
  if part = [] ∨ part = ['.'] then p
  else if part = parent then
    match p.names with
    | [] => if p.isAbs then p else { p with ups := p.ups + 1 }
    | _ :: rest => { p with names := rest }
  else { p with names := part :: p.names }

def parts (p : Path) : List (List Char) := List.replicate p.ups parent ++ p.names.reverse

def text (p : Path) : String :=
  if p.isAbs then String.ofList ('/' :: ['/'].intercalate p.parts)
  else if p.parts = [] then "." else String.ofList (['/'].intercalate p.parts)

end Path

def isAbs (s : String) : Bool := s.toList.head? = some '/'

def clean (s : String) : Path := (s.toList.splitOn '/').foldl Path.push ⟨isAbs s, 0, []⟩

def join (a b : String) : String := (clean (a ++ "/" ++ b)).text

/-! ## the text of a path -/

namespace Path

def IsName (w : List Char) : Prop := '/' ∉ w ∧ w ≠ [] ∧ w ≠ ['.'] ∧ w ≠ parent

instance (w : List Char) : Decidable (IsName w) := inferInstanceAs (Decidable (_ ∧ _))

/-- what texts name -/
structure Normal (p : Path) : Prop where
  names : ∀ w ∈ p.names, IsName w
  abs : p.isAbs = true → p.ups = 0

variable {p : Path}

lemma push_name {w : List Char} (hw : IsName w) : p.push w = { p with names := w :: p.names } := by
  obtain ⟨_, hne, hdot, hparent⟩ := hw
  unfold push
  rw [if_neg (not_or.mpr ⟨hne, hdot⟩), if_neg hparent]

lemma push_isAbs (p : Path) (w : List Char) : (p.push w).isAbs = p.isAbs := by
  unfold push
  split
  · rfl
  · split
    · split
      · split
        · rfl
        · rfl
      · rfl
    · rfl

lemma push_normal (hp : p.Normal) {w : List Char} (hw : '/' ∉ w) : (p.push w).Normal := by
  unfold push
  split
  · exact hp
  · rename_i hne
    obtain ⟨hne, hdot⟩ := not_or.mp hne
    split
    · cases hnames : p.names with
      | nil =>
        dsimp only
        by_cases habs : p.isAbs = true
        · rw [if_pos habs]
          exact hp
        · rw [if_neg habs]
          exact ⟨fun v hv => (by cases hv), fun h => absurd h habs⟩
      | cons top rest =>
        refine ⟨fun v hv => hp.names v ?_, hp.abs⟩
        rw [hnames]
        exact mem_cons_of_mem top hv
    · rename_i hparent
      refine ⟨fun v hv => ?_, hp.abs⟩
      rcases mem_cons.mp hv with rfl | hv
      · exact ⟨hw, hne, hdot, hparent⟩
      · exact hp.names v hv

lemma foldl_push_normal (hp : p.Normal) {ws : List (List Char)} (hws : ∀ w ∈ ws, '/' ∉ w) :
    (ws.foldl push p).Normal := by
  induction ws generalizing p with
  | nil => exact hp
  | cons w ws ih =>
    exact ih (push_normal hp (hws w mem_cons_self)) fun v hv => hws v (mem_cons_of_mem w hv)

lemma foldl_push_isAbs (p : Path) (ws : List (List Char)) : (ws.foldl push p).isAbs = p.isAbs := by
  induction ws generalizing p with
  | nil => rfl
  | cons w ws ih => exact (ih (p.push w)).trans (push_isAbs p w)

lemma foldl_push_names (p : Path) {ws : List (List Char)} (hws : ∀ w ∈ ws, IsName w) :
    ws.foldl push p = { p with names := ws.reverse ++ p.names } := by
  induction ws generalizing p with
  | nil => rfl
  | cons w ws ih =>
    rw [foldl_cons, push_name (hws w mem_cons_self),
      ih _ fun v hv => hws v (mem_cons_of_mem w hv), reverse_cons, append_assoc]
    rfl

lemma foldl_push_ups (n k : Nat) :
    (List.replicate n parent).foldl push ⟨false, k, []⟩ = ⟨false, k + n, []⟩ := by
  induction n generalizing k with
  | zero => rfl
  | succ n ih =>
    rw [replicate_succ, foldl_cons]
    refine (ih (k + 1)).trans ?_
    rw [Nat.add_right_comm, Nat.add_assoc]

lemma foldl_push_parts (hp : p.Normal) : p.parts.foldl push ⟨p.isAbs, 0, []⟩ = p := by
  have hnames : ∀ w ∈ p.names.reverse, IsName w := fun w hw => hp.names w (mem_reverse.mp hw)
  unfold parts
  rw [foldl_append]
  cases habs : p.isAbs with
  | true =>
    rw [hp.abs habs, replicate_zero, foldl_nil, foldl_push_names _ hnames, reverse_reverse,
      append_nil, ← habs, ← hp.abs habs]
  | false =>
    rw [foldl_push_ups, foldl_push_names _ hnames, reverse_reverse, append_nil,
      Nat.zero_add, ← habs]

lemma not_mem_parts (hp : p.Normal) : ∀ w ∈ p.parts, '/' ∉ w := by
  intro w hw
  rcases mem_append.mp hw with hw | hw
  · rw [eq_of_mem_replicate hw]
    decide
  · exact (hp.names w (mem_reverse.mp hw)).1

end Path

lemma not_mem_of_mem_splitOn {s : List Char} : ∀ w ∈ s.splitOn '/', '/' ∉ w := by
  induction s with
  | nil =>
    intro w hw
    rw [splitOn_nil, mem_singleton] at hw
    rw [hw]
    exact not_mem_nil
  | cons c s ih =>
    intro w hw
    rw [splitOn_cons_eq_if_modifyHead] at hw
    split at hw
    · rcases mem_cons.mp hw with rfl | hw
      · exact not_mem_nil
      · exact ih w hw
    · rename_i hc
      cases hsplit : s.splitOn '/' with
      | nil => exact absurd hsplit (splitOn_ne_nil '/' s)
      | cons v vs =>
        rw [hsplit] at hw ih
        rcases mem_cons.mp hw with rfl | hw
        · intro hmem
          rcases mem_cons.mp hmem with rfl | hmem
          · exact hc (beq_self_eq_true '/')
          · exact ih v mem_cons_self hmem
        · exact ih w (mem_cons_of_mem v hw)

lemma clean_normal (s : String) : (clean s).Normal := by
  refine Path.foldl_push_normal ⟨fun w hw => ?_, fun _ => rfl⟩ not_mem_of_mem_splitOn
  cases hw

lemma clean_isAbs (s : String) : (clean s).isAbs = isAbs s := Path.foldl_push_isAbs _ _

/-- **The text of a path names that path.** -/
theorem clean_text (s : String) : clean (clean s).text = clean s := by
  have hn := clean_normal s
  generalize clean s = p at hn
  have hparts := Path.foldl_push_parts hn
  have hslash := Path.not_mem_parts hn
  unfold Path.text
  by_cases habs : p.isAbs = true
  · rw [if_pos habs]
    unfold clean isAbs
    rw [String.toList_ofList]
    have hsplit : ('/' :: ['/'].intercalate p.parts).splitOn '/' =
      [] :: (['/'].intercalate p.parts).splitOn '/' :=
      splitOn_append_cons_self [] (['/'].intercalate p.parts)
    rw [hsplit]
    rw [habs] at hparts
    by_cases hnil : p.parts = []
    · rw [hnil] at hparts ⊢
      exact hparts
    · rw [splitOn_intercalate '/' hslash hnil]
      exact hparts
  · have hrel : p.isAbs = false := by simpa using habs
    rw [hrel] at hparts
    rw [if_neg habs]
    by_cases hnil : p.parts = []
    · rw [if_pos hnil]
      rw [hnil] at hparts
      exact hparts
    · rw [if_neg hnil]
      have hhead : (['/'].intercalate p.parts).head? ≠ some '/' := by
        cases hp : p.parts with
        | nil => exact absurd hp hnil
        | cons w ws =>
          rw [hp] at hslash
          have hne : w ≠ [] := by
            intro hw
            have hmem : [] ∈ p.parts := by rw [hp, hw]; exact mem_cons_self
            rcases mem_append.mp hmem with h | h
            · exact absurd (eq_of_mem_replicate h) (by decide)
            · exact (hn.names [] (mem_reverse.mp h)).2.1 rfl
          cases hw : w with
          | nil => exact absurd hw hne
          | cons c cs =>
            have hc : c ≠ '/' :=
              fun hc => hslash w mem_cons_self (by rw [hw, hc]; exact mem_cons_self)
            cases ws <;> simpa [List.intercalate] using hc
      unfold clean isAbs
      rw [String.toList_ofList, splitOn_intercalate '/' hslash hnil, decide_eq_false hhead]
      exact hparts

variable {a : String}

lemma isAbs_append (ha : a ≠ "") (b : String) : isAbs (a ++ "/" ++ b) = isAbs a := by
  unfold isAbs
  rw [String.toList_append, String.toList_append]
  cases hl : a.toList with
  | nil => exact absurd (String.toList_eq_nil_iff.mp hl) ha
  | cons c cs => rfl

lemma clean_append (ha : a ≠ "") (b : String) :
    clean (a ++ "/" ++ b) = (b.toList.splitOn '/').foldl Path.push (clean a) := by
  have hlist : (a ++ "/" ++ b).toList = a.toList ++ '/' :: b.toList := by
    rw [String.toList_append, String.toList_append, append_assoc]
    rfl
  unfold clean
  rw [isAbs_append ha, hlist, splitOn_append_cons_self, foldl_append]

/-! ## relative paths -/

lemma Path.push_push_parent (p : Path) {w : List Char} (hw : IsName w) :
    (p.push w).push parent = p := by
  rw [push_name hw]
  rfl

/-- what a relative path adds is what its parts add -/
lemma Path.foldl_push_parts_push (p : Path) {q : Path} (hq : q.Normal) (hrel : q.isAbs = false)
    (w : List Char)
    (hw : '/' ∉ w) : (q.push w).parts.foldl push p = (q.parts.foldl push p).push w := by
  by_cases hempty : w = [] ∨ w = ['.']
  · have hskip : ∀ r : Path, r.push w = r := fun r => by
      unfold push
      rw [if_pos hempty]
    rw [hskip, hskip]
  · by_cases hparent : w = parent
    · subst hparent
      obtain ⟨isAbs, ups, names⟩ := q
      cases names with
      | nil =>
        have hpush : (Path.mk isAbs ups []).push parent = ⟨isAbs, ups + 1, []⟩ := by
          subst hrel
          rfl
        rw [hpush]
        unfold parts
        rw [replicate_succ']
        simp only [reverse_nil, append_nil, foldl_append, foldl_cons, foldl_nil]
      | cons top rest =>
        have htop : IsName top := hq.names top mem_cons_self
        have hpush : (Path.mk isAbs ups (top :: rest)).push parent = ⟨isAbs, ups, rest⟩ := rfl
        rw [hpush]
        unfold parts
        simp only [reverse_cons, foldl_append, foldl_cons, foldl_nil]
        rw [push_push_parent _ htop]
    · obtain ⟨hne, hdot⟩ := not_or.mp hempty
      have hpush : q.push w = { q with names := w :: q.names } := push_name ⟨hw, hne, hdot, hparent⟩
      rw [hpush]
      unfold parts
      simp only [reverse_cons, ← append_assoc, foldl_append, foldl_cons, foldl_nil]

lemma Path.foldl_parts_foldl_push (p : Path) {ws : List (List Char)}
    (hws : ∀ w ∈ ws, '/' ∉ w) {q : Path} (hq : q.Normal) (hrel : q.isAbs = false) :
    (ws.foldl push q).parts.foldl push p = ws.foldl push (q.parts.foldl push p) := by
  induction ws generalizing q with
  | nil => rfl
  | cons w ws ih =>
    have hw : '/' ∉ w := hws w mem_cons_self
    rw [foldl_cons, foldl_cons, ih (fun v hv => hws v (mem_cons_of_mem w hv)) (push_normal hq hw)
      ((push_isAbs q w).trans hrel), foldl_push_parts_push p hq hrel w hw]

lemma isAbs_text (s : String) : isAbs (clean s).text = isAbs s := by
  rw [← clean_isAbs, clean_text, clean_isAbs]

/-- **A relative path may be brought to its normal form first.** -/
theorem clean_append_text {b : String} (ha : a ≠ "") (hb : isAbs b = false) :
    clean (a ++ "/" ++ (clean b).text) = clean (a ++ "/" ++ b) := by
  have hslash := Path.not_mem_parts (clean_normal b)
  have hempty : Path.Normal ⟨false, 0, []⟩ := ⟨fun w hw => (by cases hw), fun _ => rfl⟩
  rw [clean_append ha, clean_append ha]
  have hparts : (clean b).parts.foldl Path.push (clean a) = (b.toList.splitOn '/').foldl Path.push
      (clean a) := by
    have hfold := Path.foldl_parts_foldl_push (clean a)
      (show ∀ w ∈ b.toList.splitOn '/', '/' ∉ w from not_mem_of_mem_splitOn) hempty rfl
    unfold clean
    rw [hb]
    exact hfold
  rw [← hparts]
  unfold Path.text
  rw [clean_isAbs, hb, if_neg Bool.false_ne_true]
  by_cases hnil : (clean b).parts = []
  · rw [if_pos hnil, hnil]
    rfl
  · rw [if_neg hnil, String.toList_ofList, splitOn_intercalate '/' hslash hnil]

lemma clean_append_name {b : String} (ha : a ≠ "") (hb : Path.IsName b.toList) :
    clean (a ++ "/" ++ b) = { clean a with names := b.toList :: (clean a).names } := by
  rw [clean_append ha, splitOn_eq_singleton hb.1]
  exact Path.push_name hb

/-! ## below a directory -/

lemma intercalate_append {l l' : List (List Char)} (hl : l ≠ []) (hl' : l' ≠ []) :
    ['/'].intercalate (l ++ l') = ['/'].intercalate l ++ '/' :: ['/'].intercalate l' := by
  obtain ⟨b, bs, rfl⟩ := exists_cons_of_ne_nil hl'
  induction l with
  | nil => exact absurd rfl hl
  | cons a l ih =>
    cases l with
    | nil => simp [intercalate_cons_cons]
    | cons c l =>
      have hrest := ih (cons_ne_nil c l)
      simp only [cons_append, intercalate_cons_cons, append_assoc] at hrest ⊢
      rw [hrest]

/-- the path itself, or one that continues it -/
def Path.Within (base p : Path) : Prop :=
  p.isAbs = base.isAbs ∧ p.ups = base.ups ∧ base.names <:+ p.names

lemma Path.text_abs {p : Path} (habs : p.isAbs = true) :
    p.text.toList = '/' :: ['/'].intercalate p.parts := by
  unfold text
  rw [if_pos habs, String.toList_ofList]

lemma Path.splitOn_text {p : Path} (hp : p.Normal) (habs : p.isAbs = true) (hne : p.text ≠ "/") :
    p.parts ≠ [] ∧ p.text.toList.splitOn '/' = [] :: p.parts := by
  have hparts : p.parts ≠ [] := by
    intro hnil
    refine hne (String.toList_inj.mp ?_)
    rw [text_abs habs, hnil]
    rfl
  refine ⟨hparts, ?_⟩
  rw [text_abs habs]
  refine (splitOn_append_cons_self [] _).trans ?_
  rw [splitOn_intercalate '/' (not_mem_parts hp) hparts]
  rfl

lemma Path.parts_abs {p : Path} (hp : p.Normal) (habs : p.isAbs = true) :
    p.parts = p.names.reverse := by
  unfold parts
  rw [hp.abs habs]
  rfl

/-- **A directory is a text before a slash.** -/
theorem within_iff {d : String} (hd : (clean d).text = d) (habs : isAbs d = true) (hne : d ≠ "/")
    (s : String) : (clean d).Within (clean s) ↔ (d ++ "/").toList <+: (clean s).text.toList ∨
      (clean s).text = d := by
  have hdabs : (clean d).isAbs = true := (clean_isAbs d).trans habs
  obtain ⟨hdne, hdsplit⟩ := Path.splitOn_text (clean_normal d) hdabs (by rw [hd]; exact hne)
  rw [hd] at hdsplit
  constructor
  · rintro ⟨hsabs, hups, t, ht⟩
    by_cases hnil : t = []
    · right
      rw [hnil, nil_append] at ht
      have hsame : clean s = clean d := by
        cases hcs : clean s
        cases hcd : clean d
        simp_all
      rw [hsame, hd]
    · left
      have hparts : (clean s).parts = (clean d).parts ++ t.reverse := by
        unfold Path.parts
        rw [hups, ← ht, reverse_append, append_assoc]
      refine ⟨['/'].intercalate t.reverse, ?_⟩
      rw [Path.text_abs (hsabs.trans hdabs), hparts, intercalate_append hdne (by simpa using hnil)]
      nth_rewrite 1 [← hd]
      rw [String.toList_append, Path.text_abs hdabs]
      simp
  · rintro (⟨r, hr⟩ | htext)
    · rw [String.toList_append, append_assoc] at hr
      have hsabs : (clean s).isAbs = true := by
        rw [clean_isAbs, ← isAbs_text]
        unfold isAbs at habs ⊢
        rw [← hr, head?_append, of_decide_eq_true habs]
        rfl
      have hsne : (clean s).text ≠ "/" := by
        intro h
        rw [h] at hr
        cases hl : d.toList with
        | nil =>
          unfold isAbs at habs
          rw [hl] at habs
          cases habs
        | cons c cs =>
          have := congrArg List.length hr
          simp [hl] at this
      have hssplit := (Path.splitOn_text (clean_normal s) hsabs hsne).2
      rw [← hr] at hssplit
      have hparts : (clean d).parts ++ r.splitOn '/' = (clean s).parts := by
        have hboth := (splitOn_append_cons_self d.toList r).symm.trans hssplit
        rw [hdsplit] at hboth
        exact (List.cons.inj hboth).2
      rw [Path.parts_abs (clean_normal d) hdabs, Path.parts_abs (clean_normal s) hsabs] at hparts
      refine ⟨hsabs.trans hdabs.symm, ?_, (r.splitOn '/').reverse, ?_⟩
      · rw [(clean_normal s).abs hsabs, (clean_normal d).abs hdabs]
      · rw [← reverse_inj, reverse_append, reverse_reverse, hparts]
    · have hsame : clean s = clean d := by rw [← clean_text, htext]
      rw [hsame]
      exact ⟨rfl, rfl, suffix_rfl⟩

end VirtueStack
