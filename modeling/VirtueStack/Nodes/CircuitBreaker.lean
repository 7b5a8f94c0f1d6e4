import Mathlib.Data.List.Basic
import Mathlib.Data.List.Induction
import Mathlib.Logic.Function.Basic

/-!
# The circuit breaker (services/circuit_breaker.go)

A breaker has one entry for each key, and each call works on the entry of one key. Times are
nanoseconds.

* `Fits` what an entry says of the calls for its key, and `fits` for every list of them.
-/

namespace VirtueStack.Nodes
open List Function

structure CircuitBreakerConfig where
  failureThreshold : Int
  successThreshold : Int
  cooldownPeriod : Int
  maxRetries : Int

def second : Int := 1000000000

def defaultCircuitBreakerConfig : CircuitBreakerConfig := ⟨5, 2, 30 * second, 3⟩

/-- `NewFailoverCircuitBreaker` -/
def failoverConfig : CircuitBreakerConfig := ⟨2, 1, 600 * second, 5⟩

inductive CircuitBreakerState where
  | closed
  | opened
  | halfOpen
  deriving DecidableEq

structure CircuitBreakerEntry where
  state : CircuitBreakerState := .closed
  failureCount : Nat := 0
  successCount : Nat := 0
  lastFailureAt : Int := 0
  retryCount : Nat := 0

inductive AttemptError where
  /-- "circuit breaker is in cooldown period, retry after " and the time that remains -/
  | cooldown (remaining : Int)
  | maxRetriesExceeded

section
variable (cfg : CircuitBreakerConfig) (now : Int) (e : CircuitBreakerEntry)

namespace CircuitBreakerEntry

def canAttempt : Option AttemptError × CircuitBreakerEntry :=
  match e.state with
  | .opened =>
    if now - e.lastFailureAt < cfg.cooldownPeriod then
      (some (.cooldown (cfg.cooldownPeriod - (now - e.lastFailureAt))), e)
    else (none, { e with state := .halfOpen, successCount := 0, retryCount := 0 })
  | .halfOpen => if cfg.maxRetries ≤ e.retryCount then (some .maxRetriesExceeded, e) else (none, e)
  | .closed => if cfg.maxRetries ≤ e.retryCount then (some .maxRetriesExceeded, e) else (none, e)

def recordSuccess : CircuitBreakerEntry :=
  match e.state with
  | .halfOpen =>
    if cfg.successThreshold ≤ (e.successCount + 1 : Nat) then
      { e with state := .closed, failureCount := 0, successCount := 0, retryCount := 0 }
    else { e with successCount := e.successCount + 1, retryCount := 0 }
  | .opened => { e with state := .halfOpen, successCount := 1, retryCount := 0 }
  | .closed => { e with failureCount := 0, successCount := e.successCount + 1, retryCount := 0 }

def recordFailure : CircuitBreakerEntry :=
  let e' := { e with
    failureCount := e.failureCount + 1, lastFailureAt := now, retryCount := e.retryCount + 1 }
  match e.state with
  | .closed =>
    if cfg.failureThreshold ≤ e'.failureCount then
      { e' with state := .opened, successCount := 0 } else e'
  | .halfOpen => { e' with state := .opened, successCount := 0 }
  | .opened => { e' with successCount := 0 }

def timeUntilRetry : Int :=
  if e.state ≠ .opened then 0
  else if cfg.cooldownPeriod ≤ now - e.lastFailureAt then 0
  else cfg.cooldownPeriod - (now - e.lastFailureAt)

end CircuitBreakerEntry

inductive BreakerOp where
  | canAttempt
  | recordSuccess
  | recordFailure
  deriving DecidableEq

structure BreakerCall where
  op : BreakerOp
  key : String
  now : Int

def CircuitBreakerEntry.after (c : BreakerCall) : CircuitBreakerEntry :=
  match c.op with
  | .canAttempt => (e.canAttempt cfg c.now).2
  | .recordSuccess => e.recordSuccess cfg
  | .recordFailure => e.recordFailure cfg c.now

/-- the map, which gets an entry for a key with the first call for it -/
def entriesAfter (calls : List BreakerCall) : String → Option CircuitBreakerEntry :=
  calls.foldl (fun m c => update m c.key (some (((m c.key).getD {}).after cfg c))) fun _ => none

def entryOf (calls : List BreakerCall) (key : String) : CircuitBreakerEntry :=
  (entriesAfter cfg calls key).getD {}

def outcomes (key : String) (calls : List BreakerCall) : List BreakerCall :=
  calls.filter fun c => c.key = key ∧ c.op ≠ .canAttempt

/-- the last `n` outcomes for the key are `op` -/
def EndsWith (key : String) (op : BreakerOp) (n : Nat) (calls : List BreakerCall) : Prop :=
  List.replicate n op <:+ (outcomes key calls).map BreakerCall.op

def lastFailure (key : String) (calls : List BreakerCall) : Option Int :=
  (((outcomes key calls).filter (·.op = .recordFailure)).getLast?).map (·.now)

/-- whatever was recorded: an attempt is allowed when the cooldown since the last failure is over,
and at any time exactly if there is nothing to wait for -/
def Recovers : Prop :=
  ∀ calls key now,
    ((∀ t, lastFailure key calls = some t → cfg.cooldownPeriod ≤ now - t) →
      ((entryOf cfg calls key).canAttempt cfg now).1 = none) ∧
    ((entryOf cfg calls key).timeUntilRetry cfg now = 0 ↔
      ((entryOf cfg calls key).canAttempt cfg now).1 = none)

/-! ## what an entry says of the calls -/

def Fits (key : String) (calls : List BreakerCall) : Prop :=
  match e.state with
  | .closed => e.failureCount < cfg.failureThreshold ∧ e.retryCount = e.failureCount ∧
      EndsWith key .recordFailure e.failureCount calls
  | .halfOpen => e.retryCount = 0 ∧ EndsWith key .recordSuccess e.successCount calls
  | .opened => lastFailure key calls = some e.lastFailureAt

end

section
variable {cfg : CircuitBreakerConfig} {calls : List BreakerCall} {c : BreakerCall} {key : String}

section
variable (calls : List BreakerCall) (c : BreakerCall)

lemma entriesAfter_append : entriesAfter cfg (calls ++ [c]) =
    update (entriesAfter cfg calls) c.key (some ((entryOf cfg calls c.key).after cfg c)) := by
  unfold entriesAfter
  rw [foldl_append]
  rfl

lemma entryOf_append : entryOf cfg (calls ++ [c]) key =
    if c.key = key then (entryOf cfg calls key).after cfg c else entryOf cfg calls key := by
  unfold entryOf
  rw [entriesAfter_append]
  by_cases h : c.key = key
  · subst h
    rw [update_self, if_pos rfl]
    rfl
  · rw [update_of_ne (Ne.symm h), if_neg h]

lemma outcomes_append : outcomes key (calls ++ [c]) =
    outcomes key calls ++ if c.key = key ∧ c.op ≠ .canAttempt then [c] else [] := by
  unfold outcomes
  rw [filter_append]
  by_cases h : c.key = key ∧ c.op ≠ .canAttempt
  · rw [if_pos h, filter_singleton, decide_eq_true h]
    rfl
  · rw [if_neg h, filter_singleton, decide_eq_false h]
    rfl

end

/-- only an open breaker whose cooldown is over is changed by the question -/
lemma canAttempt_cases (cfg : CircuitBreakerConfig) (e : CircuitBreakerEntry) (now : Int) :
    (e.canAttempt cfg now).2 = e ∨ e.state = .opened ∧
      (e.canAttempt cfg now).2 =
        { e with state := .halfOpen, successCount := 0, retryCount := 0 } := by
  unfold CircuitBreakerEntry.canAttempt
  cases hs : e.state with
  | opened =>
    dsimp only
    split
    · exact .inl rfl
    · exact .inr ⟨rfl, rfl⟩
  | halfOpen | closed => exact .inl (apply_ite Prod.snd .. |>.trans (ite_self e))

variable {op : BreakerOp}

lemma endsWith_zero : EndsWith key op 0 calls := nil_suffix

lemma EndsWith.le {m n : Nat} (h : EndsWith key op n calls) (hmn : m ≤ n) :
    EndsWith key op m calls := by
  obtain ⟨k, rfl⟩ := Nat.exists_eq_add_of_le' hmn
  rw [EndsWith, replicate_add] at h
  exact (suffix_append _ _).trans h

lemma EndsWith.record {n : Nat} (h : EndsWith key op n calls) (hkey : c.key = key) (hop : c.op = op)
    (hne : op ≠ .canAttempt) : EndsWith key op (n + 1) (calls ++ [c]) := by
  rw [EndsWith, outcomes_append, if_pos ⟨hkey, hop ▸ hne⟩, map_append, replicate_succ']
  rw [map_singleton, hop]
  obtain ⟨t, ht⟩ := h
  exact ⟨t, by rw [← ht, append_assoc]⟩

variable {e : CircuitBreakerEntry} (h : Fits cfg e key calls)
include h

lemma Fits.idle (hc : ¬ (c.key = key ∧ c.op ≠ .canAttempt)) : Fits cfg e key (calls ++ [c]) := by
  have hout : outcomes key (calls ++ [c]) = outcomes key calls := by
    rw [outcomes_append, if_neg hc, append_nil]
  unfold Fits EndsWith lastFailure at *
  rw [hout]
  exact h

variable (hkey : c.key = key)
include hkey

omit h in
lemma lastFailure_record (hop : c.op = .recordFailure) :
    lastFailure key (calls ++ [c]) = some c.now := by
  rw [lastFailure, outcomes_append, if_pos ⟨hkey, hop ▸ by decide⟩, filter_append, filter_singleton,
    decide_eq_true hop]
  simp

lemma Fits.after (hf : 0 < cfg.failureThreshold) : Fits cfg (e.after cfg c) key (calls ++ [c]) := by
  have hidle : c.op = .canAttempt → Fits cfg e key (calls ++ [c]) :=
    fun hop => h.idle fun hc => hc.2 hop
  have hlast : c.op = .recordFailure → lastFailure key (calls ++ [c]) = some c.now :=
    lastFailure_record hkey
  obtain ⟨op, k, now⟩ := c
  obtain ⟨state, failureCount, successCount, lastFailureAt, retryCount⟩ := e
  unfold CircuitBreakerEntry.after
  cases op with
  | canAttempt =>
    dsimp only
    rcases canAttempt_cases cfg _ now with hsame | ⟨-, hhalf⟩
    · rw [hsame]
      exact hidle rfl
    · rw [hhalf]
      exact ⟨rfl, endsWith_zero⟩
  | recordSuccess =>
    cases state with
    | closed => exact ⟨hf, rfl, endsWith_zero⟩
    | opened => exact ⟨rfl, endsWith_zero.record hkey rfl (by decide)⟩
    | halfOpen =>
      show Fits cfg (if _ then _ else _) key _
      split
      · exact ⟨hf, rfl, endsWith_zero⟩
      · exact ⟨rfl, h.2.record hkey rfl (by decide)⟩
  | recordFailure =>
    cases state with
    | halfOpen | opened => exact hlast rfl
    | closed =>
      show Fits cfg (if _ then _ else _) key _
      split
      · exact hlast rfl
      · rename_i hlt
        exact ⟨Int.not_le.mp hlt, congrArg (· + 1) h.2.1, h.2.2.record hkey rfl (by decide)⟩

lemma Fits.opens (hclosed : e.state = .closed) (hopened : (e.after cfg c).state = .opened) :
    EndsWith key .recordFailure cfg.failureThreshold.toNat (calls ++ [c]) := by
  obtain ⟨op, k, now⟩ := c
  obtain ⟨state, failureCount, successCount, lastFailureAt, retryCount⟩ := e
  obtain rfl : state = .closed := hclosed
  cases op with
  | canAttempt =>
    rcases canAttempt_cases cfg _ now with hsame | ⟨hs, -⟩
    · cases (congrArg CircuitBreakerEntry.state hsame).symm.trans hopened
    · cases hs
  | recordSuccess => cases hopened
  | recordFailure =>
    change (ite _ _ _ : CircuitBreakerEntry).state = _ at hopened
    split at hopened
    · rename_i hle
      exact (h.2.2.record hkey rfl (by decide)).le (Int.toNat_le.mpr hle)
    · cases hopened

lemma Fits.closes (hnot : e.state ≠ .closed) (hclosed : (e.after cfg c).state = .closed) :
    EndsWith key .recordSuccess cfg.successThreshold.toNat (calls ++ [c]) := by
  obtain ⟨op, k, now⟩ := c
  obtain ⟨state, failureCount, successCount, lastFailureAt, retryCount⟩ := e
  cases op with
  | canAttempt =>
    rcases canAttempt_cases cfg _ now with hsame | ⟨-, hhalf⟩
    · exact absurd ((congrArg CircuitBreakerEntry.state hsame).symm.trans hclosed) hnot
    · cases (congrArg CircuitBreakerEntry.state hhalf).symm.trans hclosed
  | recordFailure =>
    cases state with
    | closed => exact absurd rfl hnot
    | opened | halfOpen => cases hclosed
  | recordSuccess =>
    cases state with
    | closed => exact absurd rfl hnot
    | opened => cases hclosed
    | halfOpen =>
      change (ite _ _ _ : CircuitBreakerEntry).state = _ at hclosed
      split at hclosed
      · rename_i hle
        exact (h.2.record hkey rfl (by decide)).le (Int.toNat_le.mpr hle)
      · cases hclosed

end

lemma fits {cfg : CircuitBreakerConfig} (hf : 0 < cfg.failureThreshold) (calls : List BreakerCall)
    (key : String) : Fits cfg (entryOf cfg calls key) key calls := by
  induction calls using reverseRecOn with
  | nil => exact ⟨hf, rfl, endsWith_zero⟩
  | append_singleton calls c ih =>
    rw [entryOf_append]
    split
    · exact ih.after (by assumption) hf
    · exact ih.idle fun hc => absurd hc.1 (by assumption)

/-- **A breaker opens after failures and closes after successes**, as many as the thresholds say,
and a call for one key leaves the others alone. -/
theorem breaker_safe (cfg : CircuitBreakerConfig) (hf : 1 ≤ cfg.failureThreshold)
    (_ : 1 ≤ cfg.successThreshold) (calls : List BreakerCall) (key : String) :
    ((entryOf cfg calls key).state = .closed → (entryOf cfg calls key).failureCount <
      cfg.failureThreshold) ∧
    ∀ c, (c.key ≠ key → entriesAfter cfg (calls ++ [c]) key = entriesAfter cfg calls key) ∧
      ((entryOf cfg calls key).state = .closed → (entryOf cfg (calls ++ [c]) key).state = .opened →
        EndsWith key .recordFailure cfg.failureThreshold.toNat (calls ++ [c])) ∧
      ((entryOf cfg calls key).state ≠ .closed → (entryOf cfg (calls ++ [c]) key).state = .closed →
        EndsWith key .recordSuccess cfg.successThreshold.toNat (calls ++ [c])) := by
  have hfits := fits hf calls key
  refine ⟨fun hs => ?_, fun c => ⟨fun hc => ?_, fun hs hs' => ?_, fun hs hs' => ?_⟩⟩
  · unfold Fits at hfits
    rw [hs] at hfits
    exact hfits.1
  · rw [entriesAfter_append, update_of_ne (Ne.symm hc)]
  · rw [entryOf_append] at hs'
    split at hs'
    · exact hfits.opens (by assumption) hs hs'
    · cases hs.symm.trans hs'
  · rw [entryOf_append] at hs'
    split at hs'
    · exact hfits.closes (by assumption) hs hs'
    · exact absurd hs' hs

/-- two failures of `n` with one of `m` between them, and an attempt when the cooldown is over -/
def recovering : List BreakerCall :=
  [⟨.recordFailure, "n", 0⟩, ⟨.recordFailure, "m", 5 * second⟩, ⟨.recordFailure, "n", 9 * second⟩,
    ⟨.canAttempt, "n", 700 * second⟩]

/-- the breaker of `n` opens with the second failure, and a success of `n` closes it -/
theorem breaker_safe_recovering : (entryOf failoverConfig (recovering.take 3) "n").state = .opened ∧
    EndsWith "n" .recordFailure 2 (recovering.take 3) ∧
    (entryOf failoverConfig recovering "n").state = .halfOpen ∧
    (entryOf failoverConfig (recovering ++ [⟨.recordSuccess, "n", 701 * second⟩]) "n").state =
      .closed ∧
    EndsWith "n" .recordSuccess 1 (recovering ++ [⟨.recordSuccess, "n", 701 * second⟩]) ∧
    (entryOf failoverConfig (recovering ++ [⟨.recordSuccess, "n", 701 * second⟩])
      "m").failureCount < failoverConfig.failureThreshold := by
  have hopens := (breaker_safe failoverConfig (by decide) (by decide) (recovering.take 2) "n").2
    ⟨.recordFailure, "n", 9 * second⟩
  have hcloses := (breaker_safe failoverConfig (by decide) (by decide) recovering "n").2
    ⟨.recordSuccess, "n", 701 * second⟩
  have hother := (breaker_safe failoverConfig (by decide) (by decide)
    (recovering ++ [⟨.recordSuccess, "n", 701 * second⟩]) "m").1
  exact ⟨by decide, hopens.2.1 (by decide) (by decide), by decide, by decide,
    hcloses.2.2 (by decide) (by decide), hother (by decide)⟩

/-- **A breaker asks to wait in the cooldown after the last failure**, and for what is left of
it. -/
theorem cooldown_iff (cfg : CircuitBreakerConfig) (hf : 0 < cfg.failureThreshold)
    (calls : List BreakerCall) (key : String) (now remaining : Int) :
    ((entryOf cfg calls key).canAttempt cfg now).1 = some (.cooldown remaining) ↔
      (entryOf cfg calls key).state = .opened ∧ 0 < remaining ∧
        ∃ t, lastFailure key calls = some t ∧ remaining = cfg.cooldownPeriod - (now - t) := by
  have hfits := fits hf calls key
  generalize entryOf cfg calls key = e at hfits
  obtain ⟨state, failureCount, successCount, lastFailureAt, retryCount⟩ := e
  unfold CircuitBreakerEntry.canAttempt
  cases state with
  | closed | halfOpen =>
    dsimp only
    split <;> simp
  | opened =>
    have hlast : lastFailure key calls = some lastFailureAt := hfits
    dsimp only
    rw [hlast]
    by_cases hover : now - lastFailureAt < cfg.cooldownPeriod
    · rw [if_pos hover]
      simp
      omega
    · rw [if_neg hover]
      simp
      omega

theorem cooldown_failover :
    (entryOf failoverConfig (List.replicate 2 ⟨.recordFailure, "n", 0⟩) "n").state = .opened :=
  ((cooldown_iff failoverConfig (by decide) _ "n" 0 failoverConfig.cooldownPeriod).mp rfl).1

/-! ## recovery -/

section
variable {cfg : CircuitBreakerConfig}

/-- failures below the threshold leave the breaker closed, and use up retries -/
lemma entryOf_failures (n : Nat) (h : n < cfg.failureThreshold) :
    entryOf cfg (List.replicate n ⟨.recordFailure, "", 0⟩) "" = ⟨.closed, n, 0, 0, n⟩ := by
  induction n with
  | zero => rfl
  | succ n ih =>
    rw [replicate_succ', entryOf_append, if_pos rfl, ih (by omega)]
    exact if_neg (Int.not_le.mpr h)

lemma Fits.recovers {calls : List BreakerCall} {key : String} {e : CircuitBreakerEntry}
    (h : Fits cfg e key calls)
    (hle : cfg.failureThreshold ≤ cfg.maxRetries) (hpos : 0 < cfg.maxRetries) (now : Int) :
    ((∀ t, lastFailure key calls = some t → cfg.cooldownPeriod ≤ now - t) →
      (e.canAttempt cfg now).1 = none) ∧
    (e.timeUntilRetry cfg now = 0 ↔ (e.canAttempt cfg now).1 = none) := by
  obtain ⟨state, failureCount, successCount, lastFailureAt, retryCount⟩ := e
  unfold CircuitBreakerEntry.canAttempt CircuitBreakerEntry.timeUntilRetry
  cases state with
  | closed =>
    obtain ⟨hlt, hretry, -⟩ := h
    dsimp only at hlt hretry ⊢
    rw [if_neg (by omega)]
    simp
  | halfOpen =>
    obtain ⟨hretry, -⟩ := h
    dsimp only at hretry ⊢
    rw [if_neg (by omega)]
    simp
  | opened =>
    dsimp only
    by_cases hover : cfg.cooldownPeriod ≤ now - lastFailureAt
    · rw [if_neg (Int.not_lt.mpr hover)]
      simp [hover]
    · rw [if_pos (Int.not_le.mp hover)]
      refine ⟨fun hall => absurd (hall _ h) hover, ?_⟩
      simp [hover]
      omega

end

/-- **A breaker recovers exactly if it can open before its retries are used up.** -/
theorem recovers_iff (cfg : CircuitBreakerConfig) (hf : 0 < cfg.failureThreshold)
    (_ : 0 < cfg.successThreshold) (_ : 0 < cfg.cooldownPeriod) (hr : 0 < cfg.maxRetries) :
    Recovers cfg ↔ cfg.failureThreshold ≤ cfg.maxRetries := by
  constructor
  · intro h
    by_contra hlt
    obtain ⟨n, hn⟩ := Int.eq_ofNat_of_zero_le (Int.le_of_lt hr)
    have hentry : entryOf cfg (List.replicate n ⟨.recordFailure, "", 0⟩) "" = _ :=
      entryOf_failures n (by omega)
    have hwait := (h (List.replicate n ⟨.recordFailure, "", 0⟩) "" 0).2
    rw [hentry] at hwait
    have hnone := hwait.mp rfl
    change (ite _ _ _ : Option AttemptError × _).1 = _ at hnone
    rw [if_pos (by show cfg.maxRetries ≤ (n : Int); omega)] at hnone
    cases hnone
  · intro hle calls key now
    exact (fits hf calls key).recovers hle hr now

theorem recovers_failover : Recovers failoverConfig :=
  (recovers_iff failoverConfig (by decide) (by decide) (by decide) (by decide)).mpr (by decide)

/-- Three failures use up the retries, and five are needed for a cooldown. -/
theorem default_not_recovers : ¬ Recovers defaultCircuitBreakerConfig := by
  intro h
  have hwait := (h (List.replicate 3 ⟨.recordFailure, "", 0⟩) "" 0).2
  cases hwait.mp rfl

end VirtueStack.Nodes
