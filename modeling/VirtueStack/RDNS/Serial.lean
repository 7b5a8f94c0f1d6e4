import VirtueStack.Shared.Errors
import Mathlib

/-!
# The serial of a zone (services/rdns_service.go)

The content of a record is a list of characters. A run of `updateSOASerial` is given its day and
what its two statements meet.
-/

namespace VirtueStack.RDNS
open List

structure SerialUpdate where
  year : Nat
  month : Nat
  day : Nat
  select : Except GoError Unit
  /-- what `fmt.Sscanf` says of a text that is no int64 -/
  scanError : GoError
  update : Except GoError Unit

def SerialUpdate.todayBase (e : SerialUpdate) : Int :=
  e.year * 1000000 + e.month * 10000 + e.day * 100

def generateSOASerial (todayBase currentSerial : Int) : Int :=
  if todayBase ≤ currentSerial ∧ currentSerial < todayBase + 99 then currentSerial + 1
  else todayBase + 1

/-- `fmt.Sscanf` with `%d`: a sign and the digits that follow, as an int64 -/
def scanInt (text : List Char) : Option Int :=
  let digits := (if text.head? = some '-' ∨ text.head? = some '+' then text.tail
    else text).takeWhile Char.isDigit
  let value : Int := Nat.ofDigitChars 10 digits 0
  let value := if text.head? = some '-' then -value else value
  if digits ≠ [] ∧ -2 ^ 63 ≤ value ∧ value < 2 ^ 63 then some value else none

/-- the content that the run writes -/
def updateSOASerial (e : SerialUpdate) (content : List Char) : Except GoError (List Char) :=
  match e.select with
  | .error err =>
    .error (if err.is .noRows then .new "no SOA record found for zone" else .wrap
      "querying SOA record" err)
  | .ok () =>
    match content.splitOn ' ' with
    | mname :: rname :: serial :: rest =>
      match scanInt serial with
      | none => .error (.wrap "parsing SOA serial" e.scanError)
      | some current =>
        match e.update with
        | .error err => .error (.wrap "updating SOA serial" err)
        | .ok () =>
          let newSerial := generateSOASerial e.todayBase current
          .ok ([' '].intercalate (mname :: rname :: (toString newSerial).toList :: rest))
    | _ => .error (.new ("malformed SOA record content: " ++ String.ofList content))

/-- a well-formed content, field by field -/
structure SOA where
  mname : List Char
  rname : List Char
  digits : List Char
  rest : List (List Char)
  mname_plain : ' ' ∉ mname
  rname_plain : ' ' ∉ rname
  rest_plain : ∀ field ∈ rest, ' ' ∉ field
  digits_ne : digits ≠ []
  isDigit : ∀ c ∈ digits, c.isDigit = true

namespace SOA
variable (a : SOA) (e : SerialUpdate)

def text : List Char := [' '].intercalate (a.mname :: a.rname :: a.digits :: a.rest)

def serial : Nat := Nat.ofDigitChars 10 a.digits 0

/-- a run that returns nil writes a greater serial, of 32 bits, and leaves the other fields -/
def Lawful : Prop :=
  ∀ content, updateSOASerial e a.text = .ok content → ∃ b : SOA, content = b.text ∧
    a.serial < b.serial ∧
    b.serial ≤ 2 ^ 32 - 1 ∧ b.mname = a.mname ∧ b.rname = a.rname ∧ b.rest = a.rest

/-- the serial that is read is an int64, neither ahead of the day nor the last of it, and 32 bits do
for the next one -/
def Follows : Prop :=
  e.select = .ok () → e.update = .ok () → a.serial < 2 ^ 63 → a.serial < e.todayBase + 99 ∧
    max (a.serial : Int) e.todayBase < 2 ^ 32 - 1

variable {a e}

lemma splitOn_text : a.text.splitOn ' ' = a.mname :: a.rname :: a.digits :: a.rest := by
  refine splitOn_intercalate ' ' (fun field hf => ?_) (by simp)
  simp only [mem_cons] at hf
  rcases hf with rfl | rfl | rfl | hf
  · exact a.mname_plain
  · exact a.rname_plain
  · exact fun h => absurd (a.isDigit _ h) (by decide)
  · exact a.rest_plain _ hf

lemma scanInt_digits :
    scanInt a.digits = if a.serial < 2 ^ 63 then some (a.serial : Int) else none := by
  have hhead : ∀ c : Char, c.isDigit = false → a.digits.head? ≠ some c := fun c hc h => by
    rw [a.isDigit c (mem_of_head? h)] at hc
    cases hc
  have hall : a.digits.takeWhile Char.isDigit = a.digits := takeWhile_eq_self_iff.mpr a.isDigit
  have hminus := hhead '-' (by decide)
  have hplus := hhead '+' (by decide)
  have hscan : scanInt a.digits =
      if a.digits ≠ [] ∧ -2 ^ 63 ≤ (a.serial : Int) ∧ (a.serial : Int) < 2 ^ 63 then
        some (a.serial : Int) else none := by
    simp [scanInt, hminus, hplus, hall, serial]
  rw [hscan]
  by_cases h : a.serial < 2 ^ 63
  · rw [if_pos h, if_pos ⟨a.digits_ne, by omega, by exact_mod_cast h⟩]
  · rw [if_neg h, if_neg fun hv => h (by exact_mod_cast hv.2.2)]

/-- the content with another serial -/
def withSerial (a : SOA) (n : Nat) : SOA where
  __ := a
  digits := Nat.toDigits 10 n
  digits_ne := Nat.toDigits_ne_nil
  isDigit _ hc := Nat.isDigit_of_mem_toDigits (by decide) (by decide) hc

lemma serial_withSerial (n : Nat) : (a.withSerial n).serial = n :=
  Nat.ofDigitChars_toDigits (by decide) (by decide)

lemma updateSOASerial_text {n : Nat} {content : List Char}
    (hn : generateSOASerial e.todayBase a.serial = n) : updateSOASerial e a.text = .ok content ↔
      e.select = .ok () ∧ e.update = .ok () ∧ a.serial < 2 ^ 63 ∧
        (a.withSerial n).text = content := by
  have hdigits : (toString (n : Int)).toList = Nat.toDigits 10 n := String.toList_ofList
  unfold updateSOASerial
  rw [splitOn_text]
  dsimp only
  rw [scanInt_digits]
  cases hsel : e.select with
  | error err => simp
  | ok _ =>
    by_cases hs : a.serial < 2 ^ 63
    · rw [if_pos hs]
      cases hupd : e.update with
      | error err => simp
      | ok _ =>
        simp only [hn, hdigits, hs, true_and, Except.ok.injEq]
        rfl
    · rw [if_neg hs]
      exact ⟨fun h => (by cases h), fun h => absurd h.2.2.1 hs⟩

lemma serial_of_text {b : SOA} {n : Nat} (h : (a.withSerial n).text = b.text) : b.serial = n := by
  have hfields := splitOn_text (a := b)
  rw [← h, splitOn_text] at hfields
  injection hfields with _ h
  injection h with _ h
  injection h with h _
  rw [← serial_withSerial (a := a) n, serial, serial, h]

lemma generateSOASerial_eq (e : SerialUpdate) (s : Nat) :
    ∃ n : Nat, generateSOASerial e.todayBase s = n ∧
    (s < n ∧ n ≤ 2 ^ 32 - 1 ↔ s < e.todayBase + 99 ∧ max (s : Int) e.todayBase < 2 ^ 32 - 1) := by
  have hbase : 0 ≤ e.todayBase := by
    unfold SerialUpdate.todayBase
    positivity
  unfold generateSOASerial
  split
  · exact ⟨s + 1, rfl, by omega⟩
  · exact ⟨(e.todayBase + 1).toNat, by omega, by omega⟩

lemma lawful_iff : a.Lawful e ↔ a.Follows e := by
  obtain ⟨n, hn, hiff⟩ := generateSOASerial_eq e a.serial
  constructor
  · intro hlaw hsel hupd hs
    obtain ⟨b, hb, hlt, hle, -⟩ := hlaw _ ((updateSOASerial_text hn).mpr ⟨hsel, hupd, hs, rfl⟩)
    rw [serial_of_text hb] at hlt hle
    exact hiff.mp ⟨hlt, hle⟩
  · intro hfol content hc
    obtain ⟨hsel, hupd, hs, rfl⟩ := (updateSOASerial_text hn).mp hc
    refine ⟨a.withSerial n, rfl, ?_⟩
    rw [serial_withSerial]
    obtain ⟨hlt, hle⟩ := hiff.mpr (hfol hsel hupd hs)
    exact ⟨hlt, hle, rfl, rfl, rfl⟩

end SOA

/-- `P` holds of each run of the list, on the content that it finds -/
def EachRun (P : SOA → SerialUpdate → Prop) : List Char → List SerialUpdate → Prop
  | _, [] => True
  | content, e :: es =>
    (∀ a : SOA, content = a.text → P a e) ∧ EachRun P
      ((updateSOASerial e content).toOption.getD content) es

/-- **The serial increases with each run** exactly if each run finds a serial that is not ahead of
its day. -/
theorem serial_increases_iff (a : SOA) (es : List SerialUpdate) :
    EachRun SOA.Lawful a.text es ↔ EachRun SOA.Follows a.text es := by
  generalize a.text = content
  induction es generalizing content with
  | nil => rfl
  | cons e es ih => exact and_congr (forall₂_congr fun _ _ => SOA.lawful_iff) (ih _)

/-- the hundredth run of a day -/
theorem serial_decreases :
    updateSOASerial ⟨2026, 1, 2, .ok (), .new "", .ok ()⟩ "ns1 admin 2026010299 3600".toList =
      .ok "ns1 admin 2026010201 3600".toList ∧ (2026010201 : Nat) < 2026010299 := by
  decide

end VirtueStack.RDNS
