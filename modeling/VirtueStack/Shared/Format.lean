import Mathlib.Data.List.Basic

/-!
# Numbers and instants as text

* `padded w n` the decimal digits of `n`, with leading zeros up to the width `w`;
* `monthStart y m` the instant at which a month starts, in microseconds; the month may be out of
  range, as for `time.Date`;
* `hourText t` `t.Format("2006-01-02T15")`.
-/

namespace VirtueStack
open String

/-! ## digits -/

def padded (width n : Nat) : String :=
  String.ofList (List.replicate (width - (Nat.toDigits 10 n).length) '0' ++ Nat.toDigits 10 n)

lemma ofDigitChars_zeros (k : Nat) (ds : List Char) :
    Nat.ofDigitChars 10 (List.replicate k '0' ++ ds) 0 = Nat.ofDigitChars 10 ds 0 := by
  induction k with
  | zero => rfl
  | succ k ih => exact ih

lemma padded_inj {width n n' : Nat} (h : padded width n = padded width n') : n = n' := by
  have hl := congrArg (fun s => Nat.ofDigitChars 10 (String.toList s) 0) h
  simp only [padded, toList_ofList, ofDigitChars_zeros] at hl
  rwa [Nat.ofDigitChars_toDigits (by decide) (by decide), Nat.ofDigitChars_toDigits (by decide)
    (by decide)] at hl

lemma isDigit_of_mem_padded {width n : Nat} {c : Char} (h : c ∈ (padded width n).toList) :
    c.isDigit = true := by
  rw [padded, toList_ofList] at h
  rcases List.mem_append.mp h with h | h
  · rw [List.eq_of_mem_replicate h]
    rfl
  · exact Nat.isDigit_of_mem_toDigits (by decide) (by decide) h

/-- `strings.HasSuffix` and `strings.TrimSuffix` -/
def hasSuffix (s suffix : String) : Bool := suffix.toList.isSuffixOf s.toList
def trimSuffix (s suffix : String) : String :=
  if hasSuffix s suffix then String.ofList
    (s.toList.take (s.toList.length - suffix.toList.length)) else s

/-! ## instants -/

def usPerHour : Int := 3600000000
def usPerDay : Int := 86400000000

/-- years start in March, so that the leap day is the last one; `era` counts 400 years -/
def civil (days : Int) : Int × Int × Int :=
  let z := days + 719468
  let era := z / 146097
  let doe := z % 146097
  let yoe := (doe - doe / 1460 + doe / 36524 - doe / 146096) / 365
  let doy := doe - (365 * yoe + yoe / 4 - yoe / 100)
  let mp := (5 * doy + 2) / 153
  let m := if mp < 10 then mp + 3 else mp - 9
  (yoe + era * 400 + (if m ≤ 2 then 1 else 0), m, doy - (153 * mp + 2) / 5 + 1)

/-- the day on which a month starts -/
def monthDay (year month : Int) : Int :=
  let y := year + (month - 1) / 12
  let m := (month - 1) % 12 + 1
  let y := if m ≤ 2 then y - 1 else y
  let yoe := y % 400
  let doy := (153 * (if 2 < m then m - 3 else m + 9) + 2) / 5
  y / 400 * 146097 + (yoe * 365 + yoe / 4 - yoe / 100 + doy) - 719468

def monthStart (year month : Int) : Int := monthDay year month * usPerDay

example : monthStart 2024 3 = monthStart 2024 2 + 29 * usPerDay := by decide
example : monthStart 2024 13 = monthStart 2025 1 := by decide
example : civil (monthDay 2024 3 - 1) = (2024, 2, 29) := by decide

/-- a year before 0 has a sign in front of its digits -/
def yearText (y : Int) : String :=
  if y < 0 then "-" ++ padded 4 y.natAbs else padded 4 y.natAbs

def hourText (t : Int) : String :=
  let date := civil (t / usPerDay)
  yearText date.1 ++ "-" ++ padded 2 date.2.1.natAbs ++ "-" ++ padded 2 date.2.2.natAbs ++ "T" ++
    padded 2 (t % usPerDay / usPerHour).natAbs

example : hourText (monthStart 2024 3 - 1) = "2024-02-29T23" := by decide

lemma colon_notMem_hourText (t : Int) : ':' ∉ (hourText t).toList := by
  have hpad : ∀ w n, ':' ∉ (padded w n).toList := fun w n h =>
    absurd (isDigit_of_mem_padded h) (by decide)
  have hyear : ∀ y, ':' ∉ (yearText y).toList := by
    intro y
    unfold yearText
    by_cases hy : y < 0
    · rw [if_pos hy, toList_append]
      simp [hpad]
    · rw [if_neg hy]
      exact hpad _ _
  simp [hourText, toList_append, hpad, hyear]

end VirtueStack
