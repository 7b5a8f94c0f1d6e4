import VirtueStack.Shared.Errors
import Mathlib.Data.List.Basic

/-!
# JSON documents and tagged structs (encoding/json)

A task travels as a `map[string]any` that is marshalled by its publisher and unmarshalled into a
tagged struct by its handler.

* `Json` a document; the numbers are integers;
* `fieldOf` the field of a struct a key is stored in: the field of that tag, and without one the
  first field whose tag is equal up to case;
* `stored` the values that are stored in a field, in the order of the document. The last one
  stays, and a field without a value keeps its zero value.

A map is written with its keys sorted. No key is there twice, so what the fields get does not depend
on that order, and the members stand here as the source lists them.
-/

namespace VirtueStack
open List

inductive Json where
  | null
  | bool (b : Bool)
  | num (n : Int)
  | str (s : String)
  | arr (elems : List Json)
  | obj (members : List (String × Json))

def typeMismatch : GoError := .new "json: cannot unmarshal value into Go struct field"

/-- the members of the document of a struct -/
def Json.members : Json → Except GoError (List (String × Json))
  | .obj members => .ok members
  | .null => .ok []
  | _ => .error typeMismatch

def fieldOf (tags : List String) (key : String) : Option String :=
  if key ∈ tags then some key else tags.find? fun tag => equalFold tag key

def stored (tags : List String) (members : List (String × Json)) (tag : String) : List Json :=
  (members.filter fun member => fieldOf tags member.1 = some tag).map Prod.snd

/-! ## one value -/

def setString (s : String) : Json → Except GoError String
  | .str t => .ok t
  | .null => .ok s
  | _ => .error typeMismatch

def setInt (n : Int) : Json → Except GoError Int
  | .num k => .ok k
  | .null => .ok n
  | _ => .error typeMismatch

def setBool (b : Bool) : Json → Except GoError Bool
  | .bool c => .ok c
  | .null => .ok b
  | _ => .error typeMismatch

def setStrings (_ : List String) : Json → Except GoError (List String)
  | .arr elems => elems.mapM (setString "")
  | .null => .ok []
  | _ => .error typeMismatch

/-! ## the fields of a struct -/

section
variable (tags : List String) (members : List (String × Json)) (tag : String)

def stringField : Except GoError String := (stored tags members tag).foldlM setString ""
def intField : Except GoError Int := (stored tags members tag).foldlM setInt 0
def boolField : Except GoError Bool := (stored tags members tag).foldlM setBool false
def stringsField : Except GoError (List String) := (stored tags members tag).foldlM setStrings []

end

lemma ok_bind {α β : Type} (a : α) (f : α → Except GoError β) : (Except.ok a >>= f) = f a := rfl

section
variable {tags : List String} {members : List (String × Json)} {tag : String}

/-- no key is taken for a tag it differs from -/
def Separate (tags keys : List String) : Prop :=
  ∀ key ∈ keys, key ∈ tags ∨ ∀ tag ∈ tags, equalFold tag key = false

instance (tags keys : List String) : Decidable (Separate tags keys) :=
  inferInstanceAs (Decidable (∀ key ∈ keys, _))

section
variable (h : Separate tags (members.map Prod.fst)) (ht : tag ∈ tags)
include h ht

lemma fieldOf_eq_some {key : String} (hk : key ∈ members.map Prod.fst) :
    fieldOf tags key = some tag ↔ key = tag := by
  unfold fieldOf
  by_cases hkt : key ∈ tags
  · rw [if_pos hkt]
    exact Option.some_inj
  · have hfold := (h key hk).resolve_left hkt
    have hnone : tags.find? (fun tag => equalFold tag key) = none :=
      find?_eq_none.mpr fun tag htag => by rw [hfold tag htag]; exact Bool.false_ne_true
    rw [if_neg hkt, hnone]
    constructor
    · intro h
      cases h
    · rintro rfl
      exact absurd ht hkt

lemma stored_eq :
    stored tags members tag = (members.filter fun member => member.1 = tag).map Prod.snd := by
  unfold stored
  refine congrArg (List.map Prod.snd) (filter_congr fun member hm => ?_)
  exact decide_eq_decide.mpr (fieldOf_eq_some h ht (mem_map_of_mem hm))

end

lemma filter_key_of_mem {value : Json} (hnd : (members.map Prod.fst).Nodup)
    (hm : (tag, value) ∈ members) :
    members.filter (fun member => member.1 = tag) = [(tag, value)] := by
  induction members with
  | nil => cases hm
  | cons member members ih =>
    rw [map_cons, nodup_cons] at hnd
    rcases mem_cons.mp hm with rfl | hm
    · have hnil : members.filter (fun member => member.1 = tag) = [] := by
        rw [filter_eq_nil_iff]
        intro other ho he
        have hkey : other.1 = tag := of_decide_eq_true he
        exact hnd.1 (mem_map.mpr ⟨other, ho, hkey⟩)
      rw [filter_cons_of_pos (by simp), hnil]
    · have hne : ¬ member.1 = tag := fun he => hnd.1 (he ▸ mem_map_of_mem (f := Prod.fst) hm)
      rw [filter_cons_of_neg (by simpa using hne)]
      exact ih hnd.2 hm

/-- the value of a key that is there once; `i` is the place of its field and `j` that of the
member -/
lemma stored_getElem {keys : List String} {value : Json} (hk : members.map Prod.fst = keys)
    (h : Separate tags keys) (hnd : keys.Nodup) (i j : Nat) (ht : tags[i]? = some tag)
    (hm : members[j]? = some (tag, value)) : stored tags members tag = [value] := by
  subst hk
  rw [stored_eq h (mem_of_getElem? ht), filter_key_of_mem hnd (mem_of_getElem? hm)]
  rfl

lemma stored_of_notMem {keys : List String} (hk : members.map Prod.fst = keys)
    (h : Separate tags keys) (ht : tag ∈ tags) (hm : tag ∉ keys) :
    stored tags members tag = [] := by
  subst hk
  rw [stored_eq h ht, map_eq_nil_iff, filter_eq_nil_iff]
  intro member hmem he
  exact hm (of_decide_eq_true he ▸ mem_map_of_mem hmem)

lemma stored_append (a b : List (String × Json)) :
    stored tags (a ++ b) tag = stored tags a tag ++ stored tags b tag := by
  unfold stored
  rw [filter_append, map_append]

lemma stored_eq_nil (h : ∀ key ∈ members.map Prod.fst, fieldOf tags key = none) :
    stored tags members tag = [] := by
  unfold stored
  rw [map_eq_nil_iff, filter_eq_nil_iff]
  intro member hm hf
  have hnone := h member.1 (mem_map_of_mem hm)
  rw [of_decide_eq_true hf] at hnone
  cases hnone

lemma stringField_of_nil (h : stored tags members tag = []) :
    stringField tags members tag = .ok "" := by
  unfold stringField
  rw [h]
  rfl

lemma stringField_of_singleton {s : String} (h : stored tags members tag = [.str s]) :
    stringField tags members tag = .ok s := by
  unfold stringField
  rw [h]
  rfl

lemma intField_of_nil (h : stored tags members tag = []) : intField tags members tag = .ok 0 := by
  unfold intField
  rw [h]
  rfl

lemma intField_of_singleton {n : Int} (h : stored tags members tag = [.num n]) :
    intField tags members tag = .ok n := by
  unfold intField
  rw [h]
  rfl

lemma boolField_of_singleton {b : Bool} (h : stored tags members tag = [.bool b]) :
    boolField tags members tag = .ok b := by
  unfold boolField
  rw [h]
  rfl

lemma stringsField_of_nil (h : stored tags members tag = []) :
    stringsField tags members tag = .ok [] := by
  unfold stringsField
  rw [h]
  rfl

lemma mapM_setString (texts : List String) :
    (texts.map Json.str).mapM (setString "") = .ok texts := by
  induction texts with
  | nil => rfl
  | cons s texts ih =>
    rw [map_cons, mapM_cons, ih]
    rfl

lemma stringsField_of_singleton {texts : List String}
    (h : stored tags members tag = [.arr (texts.map .str)]) :
    stringsField tags members tag = .ok texts := by
  unfold stringsField
  rw [h]
  show ((texts.map Json.str).mapM (setString "") >>= fun r => Except.ok r) = .ok texts
  rw [mapM_setString]
  rfl

end

end VirtueStack
