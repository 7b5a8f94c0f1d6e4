import VirtueStack.Shared.Steps
import Mathlib

/-!
# Requests that race for one account

A step of `Steps.State.run` is one statement of one request; the flag of the step says whether the
statement succeeds.
-/

namespace VirtueStack.Auth
open Steps List
variable {ι : Type} [DecidableEq ι]

/-! ## unlinking OAuth accounts -/

structure LinkedCustomer where
  /-- `PasswordHash` is set and not empty -/
  hasPassword : Bool
  /-- the provider of each row of `customer_oauth_links`: the accounts of one provider may be
  several -/
  links : List String

def LinkedCustomer.CanLogin (c : LinkedCustomer) : Prop :=
  c.hasPassword = true ∨ c.links ≠ []

inductive Unlinking
  | start
  | customer (hasPassword : Bool)
  | delete
  | finished
  deriving DecidableEq

def unlinkAccount (provider : ι → String) (i : ι) (works : Bool) (c : LinkedCustomer) :
    Unlinking → LinkedCustomer × Unlinking
  | .start => (c, if works then .customer c.hasPassword else .finished)
  | .customer hasPassword =>
    (c, if works && !(!hasPassword && c.links.length ≤ 1) then .delete else .finished)
  | .delete => (if works then { c with links := c.links.filter (· != provider i) }
    else c, .finished)
  | .finished => (c, .finished)

/-- no call counts the links while another one is between its count and its `Delete` -/
abbrev CountsAlone (s : State ι LinkedCustomer Unlinking) (e : ι × Bool) : Prop :=
  s.position e.1 matches .customer _ → ∀ j, s.position j ≠ .delete

/-- what the calls keep: at most one of them is about to delete, and it leaves a way to log in -/
structure Linked (s : State ι LinkedCustomer Unlinking) : Prop where
  nodup : s.shared.links.Nodup
  login : s.shared.CanLogin
  read : ∀ i, s.position i = .customer true → s.shared.hasPassword = true
  spare : ∀ i, s.position i = .delete → s.shared.hasPassword = true ∨ 2 ≤ s.shared.links.length
  one : ∀ i j, s.position i = .delete → s.position j = .delete → i = j

lemma length_filter_ne {l : List String} (h : l.Nodup) (a : String) :
    l.length ≤ (l.filter (· != a)).length + 1 := by
  rw [← h.erase_eq_filter, length_erase]
  split <;> omega

lemma Linked.step {provider : ι → String} (s : State ι LinkedCustomer Unlinking) (e : ι × Bool)
    (h : Linked s) (hok : CountsAlone s e) : Linked (s.step (unlinkAccount provider) e) := by
  obtain ⟨i, works⟩ := e
  obtain ⟨hn, hl, hr, hs, ho⟩ := h
  cases hp : s.position i with
  | start =>
    simp only [State.step, hp, unlinkAccount]
    exact ⟨hn, hl, by grind, by grind, by grind⟩
  | customer hasPassword =>
    have hnone : ∀ j, s.position j ≠ .delete := hok (by simp [hp])
    have hread : hasPassword = true → s.shared.hasPassword = true := fun hh => hr i (by rw [hp, hh])
    simp only [State.step, hp, unlinkAccount]
    exact ⟨hn, hl, by grind, by grind, by grind⟩
  | delete =>
    have hother : ∀ j, j ≠ i → s.position j ≠ .delete := fun j hj hd => hj (ho j i hd hp)
    have hleft := length_filter_ne hn (provider i)
    have hspare := hs i hp
    simp only [State.step, hp, unlinkAccount]
    cases works with
    | false => exact ⟨hn, hl, by grind, by grind, by grind⟩
    | true =>
      refine ⟨hn.filter _, ?_, by grind, by grind, by grind⟩
      refine hspare.imp id fun h2 hnil => ?_
      simp only [if_true] at hnil
      rw [hnil, length_nil] at hleft
      omega
  | finished =>
    simp only [State.step, hp, unlinkAccount]
    exact ⟨hn, hl, by grind, by grind, by grind⟩

/-- **A way to log in remains** where the customer has one link for each provider at most, and no
call counts the links while another one is about to delete. -/
theorem unlinkAccount_canLogin (provider : ι → String) (c : LinkedCustomer) (hc : c.CanLogin)
    (hn : c.links.Nodup) (es : List (ι × Bool))
    (hm : Meets (unlinkAccount provider) CountsAlone ⟨c, fun _ => .start⟩ es) :
    (State.run (unlinkAccount provider) ⟨c, fun _ => .start⟩ es).shared.CanLogin := by
  have h0 : Linked (ι := ι) ⟨c, fun _ => .start⟩ := ⟨hn, hc, nofun, nofun, nofun⟩
  exact (hm.keeps Linked.step h0).login

theorem unlinkAccount_canLogin_twice :
    (State.run (unlinkAccount fun i : Bool => if i then "google" else "github")
      ⟨⟨false, ["google", "github"]⟩, fun _ => .start⟩
      [(true, true), (true, true), (true, true), (false, true), (false, true)]).shared.CanLogin :=
  unlinkAccount_canLogin _ _ (by simp [LinkedCustomer.CanLogin]) (by decide) _
    ⟨by decide, by decide, by decide, by decide, by decide, trivial⟩

/-- two calls that count before one of them deletes, and one call for the two accounts of a
provider -/
theorem unlinkAccount_last :
    (State.run (unlinkAccount fun i : Bool => if i then "google" else "github")
      ⟨⟨false, ["google", "github"]⟩, fun _ => .start⟩
      [(true, true), (false, true), (true, true), (false, true), (true, true),
        (false, true)]).shared =
      ⟨false, []⟩ ∧
    (State.run (unlinkAccount fun _ : Unit => "google")
      ⟨⟨false, ["google", "google"]⟩, fun _ => .start⟩
      [((), true), ((), true), ((), true)]).shared = ⟨false, []⟩ ∧
    ¬ LinkedCustomer.CanLogin ⟨false, []⟩ := by
  refine ⟨rfl, rfl, ?_⟩
  simp [LinkedCustomer.CanLogin]

/-! ## the lockout of an email -/

def MaxFailedLoginAttempts : Nat := 5

/-- in microseconds, as all times here -/
def LockoutWindow : Int := 15 * 60 * 1000000

structure LoginAttempts where
  now : Int
  /-- `attempted_at` of each row of `failed_login_attempts` for the email -/
  attempts : List Int
  /-- when a password was compared against the hash, the last one first -/
  compared : List Int

inductive WrongLogin
  | start
  | allowed
  | wrong
  | finished
  deriving DecidableEq

/-- `AuthService.Login` with a wrong password, after a time that has passed: `checkLoginLockout`,
`verifyPassword` and `RecordFailedLogin`, whose error is ignored -/
def login (_ : ι) (e : Nat × Bool) (a : LoginAttempts) (p : WrongLogin) :
    LoginAttempts × WrongLogin :=
  let now := a.now + e.1
  match p with
  | .start =>
    ({ a with now },
      if e.2 && a.attempts.countP (now - LockoutWindow < ·) < MaxFailedLoginAttempts then .allowed
      else .finished)
  | .allowed => if e.2 then ({ a with now, compared := now :: a.compared }, .wrong)
      else ({ a with now }, .finished)
  | .wrong => ({ a with now, attempts := if e.2 then now :: a.attempts else a.attempts }, .finished)
  | .finished => ({ a with now }, .finished)

/-- the call has passed the check, and not yet recorded its failure -/
abbrev WrongLogin.Checked (p : WrongLogin) : Prop :=
  p = .allowed ∨ p = .wrong

/-- no call checks the lockout while another one is between its check and its record, and each
record succeeds -/
abbrev ChecksAlone (s : State ι LoginAttempts WrongLogin) (e : ι × Nat × Bool) : Prop :=
  (s.position e.1 = .start → ∀ j, ¬ (s.position j).Checked) ∧
    (s.position e.1 = .wrong → e.2.2 = true)

/-- at each comparison, fewer than `MaxFailedLoginAttempts` were made in the window before it -/
def Spaced : List Int → Prop
  | [] => True
  | t :: ts => ts.countP (t - LockoutWindow < ·) < MaxFailedLoginAttempts ∧ Spaced ts

lemma Spaced.countP_le {ts : List Int} (h : Spaced ts) {a b : Int} (hab : b - a < LockoutWindow) :
    ts.countP (fun t => a ≤ t ∧ t ≤ b) ≤ MaxFailedLoginAttempts := by
  induction ts with
  | nil => simp
  | cons t ts ih =>
    by_cases ht : a ≤ t ∧ t ≤ b
    · have hle : ts.countP (fun t => a ≤ t ∧ t ≤ b) ≤ ts.countP (t - LockoutWindow < ·) := by
        refine countP_mono_left fun x _ hx => ?_
        simp only [decide_eq_true_eq] at hx ⊢
        omega
      have hlt := h.1
      rw [countP_cons_of_pos (by simpa using ht)]
      omega
    · rw [countP_cons_of_neg (by simpa using ht)]
      exact ih h.2

/-- what the calls keep: each comparison is covered by a row that is as late, but for that of the
call about to record it -/
structure Guarded (s : State ι LoginAttempts WrongLogin) : Prop where
  spaced : Spaced s.shared.compared
  rows : ∃ ts, (∀ x, ts.countP (x < ·) ≤ s.shared.attempts.countP (x < ·)) ∧
    (s.shared.compared = ts ∨ ∃ i, s.position i = .wrong ∧
      ∃ t ≤ s.shared.now, s.shared.compared = t :: ts)
  few : ∀ i, s.position i = .allowed →
    s.shared.attempts.countP (s.shared.now - LockoutWindow < ·) < MaxFailedLoginAttempts
  one : ∀ i j, (s.position i).Checked → (s.position j).Checked → i = j

lemma countP_later (l : List Int) {x y : Int} (h : x ≤ y) :
    l.countP (y < ·) ≤ l.countP (x < ·) := by
  refine countP_mono_left fun t _ ht => ?_
  simp only [decide_eq_true_eq] at ht ⊢
  omega

lemma Guarded.step (s : State ι LoginAttempts WrongLogin) (e : ι × Nat × Bool) (h : Guarded s)
    (hok : ChecksAlone s e) : Guarded (s.step login e) := by
  obtain ⟨i, d, works⟩ := e
  obtain ⟨hsp, ⟨ts, hts, hrow⟩, hf, ho⟩ := h
  have hlater := countP_later s.shared.attempts (x := s.shared.now - LockoutWindow)
    (y := s.shared.now + d - LockoutWindow) (by omega)
  cases hp : s.position i with
  | start =>
    have hnone := hok.1 hp
    simp only [State.step, hp, login]
    exact ⟨hsp, ⟨ts, hts, by grind⟩, by grind, by grind⟩
  | allowed =>
    have hother : ∀ j, j ≠ i → ¬ (s.position j).Checked := fun j hj hc => hj (ho j i hc (.inl hp))
    have hcmp : s.shared.compared = ts := by grind
    have hfew := hf i hp
    have hnow := hts (s.shared.now + d - LockoutWindow)
    simp only [State.step, hp, login]
    cases works with
    | false => exact ⟨hsp, ⟨ts, hts, .inl hcmp⟩, by grind, by grind⟩
    | true =>
      refine ⟨⟨?_, hsp⟩, ⟨ts, hts, .inr ⟨i, by simp, _, le_rfl, by rw [hcmp]; rfl⟩⟩,
        by grind, by grind⟩
      rw [hcmp]
      omega
  | wrong =>
    have hother : ∀ j, j ≠ i → ¬ (s.position j).Checked := fun j hj hc => hj (ho j i hc (.inr hp))
    have hworks : works = true := hok.2 hp
    simp only [State.step, hp, login, hworks, if_true]
    refine ⟨hsp, ⟨s.shared.compared, ?_, .inl rfl⟩, by grind, by grind⟩
    intro x
    have hx := hts x
    rw [countP_cons]
    rcases hrow with hc | ⟨j, hj, t, ht, hc⟩
    · rw [hc]
      omega
    · rw [hc, countP_cons]
      grind
  | finished =>
    have hsame : Function.update s.position i .finished = s.position := by
      rw [← hp, Function.update_eq_self]
    simp only [State.step, hp, login, hsame]
    exact ⟨hsp, ⟨ts, hts, by grind⟩, by grind, ho⟩

/-- **The lockout bounds guessing** where no call checks it while another one is between its check
and its record, and the records succeed. -/
theorem login_compared (a : LoginAttempts) (ha : a.compared = []) (es : List (ι × Nat × Bool))
    (hm : Meets login ChecksAlone ⟨a, fun _ => .start⟩ es) (x y : Int)
    (hxy : y - x < LockoutWindow) :
    (State.run login ⟨a, fun _ : ι => .start⟩ es).shared.compared.countP (fun t => x ≤ t ∧ t ≤ y) ≤
      MaxFailedLoginAttempts := by
  have h0 : Guarded (ι := ι) ⟨a, fun _ => .start⟩ := by
    refine ⟨by rw [ha]; trivial, ⟨[], fun x => by simp, .inl ha⟩, nofun, ?_⟩
    simp
  exact (hm.keeps Guarded.step h0).spaced.countP_le hxy

/-- six calls in turn, each of them with its check, its comparison and its record -/
def sixInTurn : List (Fin 6 × Nat × Bool) :=
  (List.finRange 6).flatMap fun i => List.replicate 3 (i, 1, true)

/-- the sixth call is refused -/
theorem login_compared_in_turn :
    (State.run login ⟨⟨0, [], []⟩, fun _ => .start⟩ sixInTurn).shared.compared.length = 5 ∧
    (State.run login ⟨⟨0, [], []⟩, fun _ => .start⟩ sixInTurn).shared.compared.countP
      (fun t => 0 ≤ t ∧ t ≤ 18) ≤ MaxFailedLoginAttempts :=
  ⟨by decide, login_compared _ rfl _ (by decide) 0 18 (by decide)⟩

/-- six calls that check the lockout before one of them records its failure -/
theorem login_compares_six : (State.run login ⟨⟨0, [], []⟩, fun _ : Fin 6 => .start⟩
      ((List.finRange 6 ++ List.finRange 6).map fun i => (i, 0, true))).shared.compared.countP
        (fun t => 0 ≤ t ∧ t ≤ 0) = 6 ∧ (0 : Int) - 0 < LockoutWindow ∧
          MaxFailedLoginAttempts < 6 := by
  decide

end VirtueStack.Auth
