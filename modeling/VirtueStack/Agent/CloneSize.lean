import VirtueStack.Agent.Runs
import Mathlib.Data.List.TakeWhile

/-!
# The size of a disk that was cloned with LVM

* `getLVSize_fails` the size of a template is never read: the unit is left in the text, which is
  then no number.
-/

namespace VirtueStack.Agent
open Txn Call Host List String

/-! ## the text -/

variable {c : Char}

lemma mem_signed {cs : List Char} (hc : c ∈ cs) (hminus : c ≠ '-') (hplus : c ≠ '+') :
    c ∈ (signed cs).2 := by
  unfold signed
  split
  · exact (mem_cons.mp hc).resolve_left hminus
  · exact (mem_cons.mp hc).resolve_left hplus
  · exact hc

variable {s : String}

lemma parseInt_fails (hc : c ∈ s.toList) (hdigit : c.isDigit = false) (hminus : c ≠ '-')
    (hplus : c ≠ '+') : ∃ e, parseInt s = .error e := by
  have hall : (signed s.toList).2.all Char.isDigit = false :=
    all_eq_false.mpr ⟨c, mem_signed hc hminus hplus, by rw [hdigit]; decide⟩
  unfold parseInt
  exact ⟨_, if_pos (.inr hall)⟩

lemma mem_dropWhile {α : Type} {p : α → Bool} {a : α} {l : List α} (ha : a ∈ l) (hp : p a = false) :
    a ∈ l.dropWhile p := by
  induction l with
  | nil => cases ha
  | cons b l ih =>
    by_cases hb : p b = true
    · rw [dropWhile_cons_of_pos hb]
      refine ih ((mem_cons.mp ha).resolve_left ?_)
      rintro rfl
      cases hp.symm.trans hb
    · rw [dropWhile_cons_of_neg hb]
      exact ha

lemma mem_trimSpace (hc : c ∈ s.toList) (hspace : c.isWhitespace = false) :
    c ∈ (trimSpace s).toList := by
  unfold trimSpace
  rw [toList_ofList]
  exact mem_reverse.mpr (mem_dropWhile (mem_reverse.mpr (mem_dropWhile hc hspace)) hspace)

lemma of_mem_trimSpace (hc : c ∈ (trimSpace s).toList) : c ∈ s.toList := by
  unfold trimSpace at hc
  rw [toList_ofList, mem_reverse] at hc
  have hrev := mem_reverse.mp ((dropWhile_suffix _).subset hc)
  exact (dropWhile_suffix _).subset hrev

lemma ne_dot_of_mem_lvsOutput {size : Int} (hc : c ∈ (lvsOutput size).toList) : c ≠ '.' := by
  unfold lvsOutput at hc
  rw [toList_append, toList_append] at hc
  rintro rfl
  rcases mem_append.mp hc with hc | hc
  · rcases mem_append.mp hc with hc | hc
    · revert hc
      decide
    · cases isDigit_of_mem_padded hc
  · revert hc
    decide

/-! ## a clone -/

section
variable {m : LVMTemplateManager} {templateRef vmID path : String} {sizeGB : Int}
  {o : Cmd → Event store} {h h' : Host}

/-- **The size of a volume is never known.** -/
theorem LVMTemplateManager.getLVSize_fails (m : LVMTemplateManager) (lvName : String)
    (o : Cmd → Event store) (h : Host) : ∃ e, (m.getLVSize lvName).alone o h = (.error e, h) := by
  rcases alone_cmd_cases (.lvsSize (m.lvPath lvName)) with ⟨e, he⟩ | ⟨x, output, ws, hx, he⟩
  · exact ⟨e, alone_bind_error he⟩
  · obtain ⟨im, -, hf⟩ := withObject_eq_ok hx
    cases hf
    have hunit : 'B' ∈ (trimSpace (lvsOutput im.size)).toList :=
      mem_trimSpace (by unfold lvsOutput; rw [toList_append]; simp) rfl
    have hcut : (trimSpace (lvsOutput im.size)).toList.takeWhile (fun c => c ≠ '.') =
        (trimSpace (lvsOutput im.size)).toList :=
      takeWhile_eq_self_iff.mpr fun c hc =>
        decide_eq_true (ne_dot_of_mem_lvsOutput (of_mem_trimSpace hc))
    obtain ⟨e, hparse⟩ := parseInt_fails hunit rfl (by decide) (by decide)
    refine ⟨.wrap ("parsing LV size " ++ quoted (trimSpace (lvsOutput im.size))) e,
      (alone_bind_ok he).trans ?_⟩
    dsimp only
    rw [hcut, ofList_toList, hparse]
    rfl

/-- **A clone is a copy of its template, of the same size.** -/
theorem LVMTemplateManager.alone_cloneForVM_eq_ok
    (hrun : (m.cloneForVM templateRef vmID sizeGB).alone o h = (.ok path, h')) :
    ∃ template disk, h.objects (.device (m.lvPath (templateLVName templateRef))) = some template ∧
      h'.objects (.device path) = some disk ∧ disk.size = template.size := by
  obtain ⟨_, h1, href, hrun1⟩ := alone_bind_eq_ok.mp hrun
  obtain ⟨-, rfl⟩ := Job.alone_lift_ok (alone_wrapping_eq_ok.mp href)
  obtain ⟨_, h2, hvm, hrun2⟩ := alone_bind_eq_ok.mp hrun1
  obtain ⟨-, rfl⟩ := Job.alone_lift_ok (alone_wrapping_eq_ok.mp hvm)
  obtain ⟨_, h3, hclone, hrun3⟩ := alone_bind_eq_ok.mp hrun2
  obtain ⟨x, ws, -, hx, rfl⟩ := alone_stmt_eq_ok.mp (alone_wrapping_eq_ok.mp hclone)
  obtain ⟨template, htemplate, hf⟩ := withObject_eq_ok hx
  obtain ⟨e, hsize⟩ := m.getLVSize_fails (templateLVName templateRef) o (store.view h2 ws)
  obtain ⟨_, h4, hresize, hend⟩ := alone_bind_eq_ok.mp hrun3
  cases (alone_attempt_of hsize).symm.trans hresize
  cases hend
  refine ⟨template, template.copy template.content (some (m.lvPath (templateLVName templateRef))),
    htemplate, ?_, rfl⟩
  unfold clone at hf
  split at hf
  · cases hf
  · cases hf
    exact objects_put _ _

/-- **The disk has the size that was asked for exactly if its template has.** -/
theorem cloneForVM_size_iff (m : LVMTemplateManager) (templateRef vmID path : String) (sizeGB : Int)
    (o : Cmd → Event store) (h h' : Host)
    (hrun : (m.cloneForVM templateRef vmID sizeGB).alone o h = (.ok path, h')) :
    ∃ template disk, h.objects
      (.device (m.lvPath (LVMTemplateManager.templateLVName templateRef))) = some template ∧
      h'.objects (.device path) = some disk ∧
      (sizeGB * 2 ^ 30 ≤ disk.size ∧ template.size ≤ disk.size ↔
        sizeGB * 2 ^ 30 ≤ template.size) := by
  obtain ⟨template, disk, htemplate, hdisk, hsize⟩ := LVMTemplateManager.alone_cloneForVM_eq_ok hrun
  refine ⟨template, disk, htemplate, hdisk, ?_⟩
  rw [hsize]
  constructor
  · exact fun hlarge => hlarge.1
  · exact fun hlarge => ⟨hlarge, Int.le_refl _⟩

end

/-- a template of 2 GiB and nothing else -/
def templateOnly : Host where
  domains _ := none
  objects obj :=
    if obj = .device "/dev/vg/debian-base" then some ⟨[], 2 * 2 ^ 30, [], none⟩ else none
  warnings := []

theorem cloneForVM_size_two :
    ∃ template disk, templateOnly.objects (.device "/dev/vg/debian-base") = some template ∧
    ((LVMTemplateManager.cloneForVM ⟨"vg"⟩ "debian" "v" 2).alone quietly templateOnly).2.objects
      (.device "/dev/vg/vs-v-disk0") = some disk ∧
    (2 * 2 ^ 30 ≤ disk.size ∧ template.size ≤ disk.size ↔ 2 * 2 ^ 30 ≤ template.size) :=
  cloneForVM_size_iff ⟨"vg"⟩ "debian" "v" "/dev/vg/vs-v-disk0" 2 quietly templateOnly _ rfl

theorem cloneForVM_too_small :
    ∃ h' disk, (LVMTemplateManager.cloneForVM ⟨"vg"⟩ "debian" "v" 3).alone quietly
    templateOnly = (.ok "/dev/vg/vs-v-disk0", h') ∧
      h'.objects (.device "/dev/vg/vs-v-disk0") = some disk ∧
      disk.size < 3 * 2 ^ 30 := ⟨_, _, rfl, rfl, by decide⟩

end VirtueStack.Agent
