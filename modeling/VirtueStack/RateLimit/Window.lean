import Mathlib.Data.List.Induction

/-!
# The rate limiter on Redis (middleware/ratelimit.go)

Every instance of the controller runs one script on the sorted set of a key. Redis runs a script as
one step, so a run of any number of instances is a list of calls, each with the reading of its clock
in nanoseconds.

A member is the text of two numbers; here it is the two numbers. A key that Redis lets expire is
read as missing.
-/

namespace VirtueStack.RateLimit
open List

/-- the window is in nanoseconds -/
structure RateLimitConfig where
  requests : Nat
  window : Int

def unixMilli (now : Int) : Int := now / 1000000

/-! ## the sorted set -/

structure Entry where
  member : Int × Int
  score : Int
  deriving DecidableEq

/-- the entries of a key, and the millisecond at which it expires -/
structure SortedSet where
  entries : List Entry
  deadline : Option Int
  deriving DecidableEq

def SortedSet.empty : SortedSet := ⟨[], none⟩

/-- the key as a command finds it -/
def SortedSet.live (z : SortedSet) (now : Int) : SortedSet :=
  if z.deadline.any fun t => t ≤ now then .empty else z

/-- a member that is there gets the new score -/
def zadd (score : Int) (member : Int × Int) (entries : List Entry) : List Entry :=
  if entries.any fun e => e.member = member then
    entries.map fun e => if e.member = member then ⟨member, score⟩ else e
  else entries ++ [⟨member, score⟩]

/-- the remaining calls, or -1 -/
def slidingWindow (now window : Int) (limit : Nat) (member : Int × Int) (z : SortedSet) :
    SortedSet × Int :=
  let kept := (z.live now).entries.filter fun e => now - window < e.score
  if kept.length < limit then
    -- the time to live is in seconds, rounded up
    (⟨zadd now member kept, some (now + 1000 * ((window + 999) / 1000))⟩, limit - kept.length - 1)
  else (⟨kept, (z.live now).deadline⟩, -1)

section
variable (cfg : RateLimitConfig)

/-- `Duration.Milliseconds` leaves out what is less than a millisecond -/
def allow (now : Int) (z : SortedSet) : SortedSet × Bool :=
  let r := slidingWindow (unixMilli now) (cfg.window / 1000000) cfg.requests
    (now, now % 1000000000) z
  (r.1, 0 ≤ r.2)

/-- the readings of the calls that were allowed come with the set -/
def step (s : SortedSet × List Int) (now : Int) : SortedSet × List Int :=
  let r := allow cfg now s.1
  (r.1, if r.2 then s.2 ++ [now] else s.2)

def run (readings : List Int) : SortedSet × List Int := readings.foldl (step cfg) (.empty, [])

def allowed (readings : List Int) : List Int := (run cfg readings).2

/-- the reading is in the window that ends at the millisecond `t` -/
def inWindow (t now : Int) : Bool :=
  t * 1000000 - cfg.window < unixMilli now * 1000000 ∧ unixMilli now ≤ t

def allowedIn (readings : List Int) (t : Int) : Nat :=
  ((allowed cfg readings).filter (inWindow cfg t)).length

end

/-! ## what the set holds -/

section
variable {cfg : RateLimitConfig} {p : List Int} {x : Int}

def entry (now : Int) : Entry := ⟨(now, now % 1000000000), unixMilli now⟩

/-- the entries that count at the millisecond `n` -/
def SortedSet.counting (z : SortedSet) (cfg : RateLimitConfig) (n : Int) : List Entry :=
  (z.live n).entries.filter fun e => n - cfg.window / 1000000 < e.score

lemma run_concat (cfg : RateLimitConfig) (p : List Int) (x : Int) :
    run cfg (p ++ [x]) = step cfg (run cfg p) x := by
  unfold run
  rw [foldl_append]
  rfl

variable {z : SortedSet}

lemma allow_of_room (h : (z.counting cfg (unixMilli x)).length < cfg.requests) :
    allow cfg x z = (⟨zadd (unixMilli x) (x, x % 1000000000) (z.counting cfg (unixMilli x)),
      some (unixMilli x + 1000 * ((cfg.window / 1000000 + 999) / 1000))⟩, true) := by
  unfold allow slidingWindow
  have h' : ((z.live (unixMilli x)).entries.filter fun e =>
      unixMilli x - cfg.window / 1000000 < e.score).length < cfg.requests := h
  simp only [if_pos h']
  refine Prod.ext rfl (decide_eq_true ?_)
  omega

lemma allow_of_full (h : ¬ (z.counting cfg (unixMilli x)).length < cfg.requests) :
    allow cfg x z = (⟨z.counting cfg (unixMilli x), (z.live (unixMilli x)).deadline⟩, false) := by
  unfold allow slidingWindow
  have h' : ¬ ((z.live (unixMilli x)).entries.filter fun e =>
      unixMilli x - cfg.window / 1000000 < e.score).length < cfg.requests := h
  simp only [if_neg h']
  rfl

lemma unixMilli_mono {a b : Int} (h : a ≤ b) : unixMilli a ≤ unixMilli b :=
  Int.ediv_le_ediv (by decide) h

section
variable {z : SortedSet} {n : Int} (h : ∀ t ∈ z.deadline, n < t)
include h

lemma live_of_lt : z.live n = z := by
  unfold SortedSet.live
  rw [if_neg]
  cases hd : z.deadline with
  | none => simp
  | some t =>
    have hlt := h t hd
    simp only [Option.any_some, decide_eq_true_eq]
    omega

lemma counting_of_lt :
    z.counting cfg n = z.entries.filter fun e => n - cfg.window / 1000000 < e.score := by
  unfold SortedSet.counting
  rw [live_of_lt h]

end

lemma counting_of_le {n t : Int} (hd : z.deadline = some t) (h : t ≤ n) :
    z.counting cfg n = [] := by
  unfold SortedSet.counting SortedSet.live
  rw [if_pos (by simpa [hd] using h)]
  rfl

lemma zadd_of_new {entries : List Entry} {score : Int} {member : Int × Int}
    (h : ∀ e ∈ entries, e.member ≠ member) :
    zadd score member entries = entries ++ [⟨member, score⟩] := by
  unfold zadd
  rw [if_neg]
  simpa using h

section
variable (cfg : RateLimitConfig) (p : List Int)

/-- the calls that were allowed and count at the millisecond `n` -/
def countingCalls (n : Int) : List Int :=
  (allowed cfg p).filter fun y => n - cfg.window / 1000000 < unixMilli y

lemma allowed_concat (x : Int) : allowed cfg (p ++ [x]) =
    if (allow cfg x (run cfg p).1).2 then allowed cfg p ++ [x] else allowed cfg p := by
  unfold allowed
  rw [run_concat]
  rfl

lemma allowed_subset : allowed cfg p ⊆ p := by
  induction p using reverseRecOn with
  | nil => exact fun _ h => h
  | append_singleton p x ih =>
    rw [allowed_concat]
    split
    · exact append_subset.mpr ⟨fun y hy => mem_append_left _ (ih hy), subset_append_right _ _⟩
    · exact fun y hy => mem_append_left _ (ih hy)

end

lemma filter_counting {α : Type} {f : α → Int} {l : List α} {m n : Int} (h : m ≤ n) (w : Int) :
    (l.filter fun a => m - w < f a).filter (fun a => n - w < f a) = l.filter fun a =>
      n - w < f a := by
  rw [filter_filter]
  refine filter_congr fun a _ => ?_
  rw [← Bool.decide_and, decide_eq_decide]
  omega

lemma counting_of_full {m n : Int} (hmn : m ≤ n) (h : z.counting cfg m ≠ []) :
    (⟨z.counting cfg m, (z.live m).deadline⟩ : SortedSet).counting cfg n = z.counting cfg n := by
  have hnow : ∀ t ∈ z.deadline, m < t := fun t ht => Int.not_le.mp fun hle =>
    h (counting_of_le ht hle)
  rw [live_of_lt hnow]
  by_cases hlater : ∀ t ∈ z.deadline, n < t
  · rw [counting_of_lt hlater, counting_of_lt (z := ⟨z.counting cfg m, z.deadline⟩) hlater,
      counting_of_lt hnow]
    exact filter_counting hmn _
  · simp only [not_forall, Int.not_lt] at hlater
    obtain ⟨t, ht, hle⟩ := hlater
    rw [counting_of_le ht hle, counting_of_le (z := ⟨z.counting cfg m, z.deadline⟩) ht hle]

/-- a call that is allowed counts until the window or the key is over -/
lemma counting_of_room {n : Int} {ys : List Int}
    (hys : ∀ y ∈ ys, unixMilli y ≤ unixMilli x) (hz : z.entries = (ys ++ [x]).map entry)
    (hd : z.deadline = some (unixMilli x + 1000 * ((cfg.window / 1000000 + 999) / 1000))) :
    z.counting cfg n =
      ((ys ++ [x]).filter fun y => n - cfg.window / 1000000 < unixMilli y).map entry := by
  by_cases hexp : unixMilli x + 1000 * ((cfg.window / 1000000 + 999) / 1000) ≤ n
  · rw [counting_of_le hd hexp, filter_eq_nil_iff.mpr, map_nil]
    intro y hy
    have hle : unixMilli y ≤ unixMilli x := by
      rcases mem_append.mp hy with hy | hy
      · exact hys y hy
      · exact Int.le_of_eq (congrArg unixMilli (mem_singleton.mp hy))
    rw [decide_eq_true_eq]
    omega
  · rw [counting_of_lt, hz, filter_map]
    · rfl
    · intro t ht
      obtain rfl := Option.mem_unique hd ht
      omega

/-- **The set holds the calls that were allowed.** -/
theorem kept_eq (hreq : 1 ≤ cfg.requests) (hp : p.Pairwise (· < ·)) (n : Int)
    (hn : ∀ y ∈ p, unixMilli y ≤ n) :
    (run cfg p).1.counting cfg n = (countingCalls cfg p n).map entry := by
  induction p using reverseRecOn generalizing n with
  | nil => rfl
  | append_singleton p x ih =>
    obtain ⟨hp, -, hlt⟩ := pairwise_append.mp hp
    have hlt : ∀ y ∈ p, y < x := fun y hy => hlt y hy x (mem_singleton_self x)
    have hle : ∀ y ∈ p, unixMilli y ≤ unixMilli x :=
      fun y hy => unixMilli_mono (Int.le_of_lt (hlt y hy))
    have hxn := hn x (mem_append_right _ (mem_singleton_self x))
    have hkept := ih hp (unixMilli x) hle
    rw [countingCalls, allowed_concat, run_concat, step]
    by_cases hroom : ((run cfg p).1.counting cfg (unixMilli x)).length < cfg.requests
    · have hnew : ∀ e ∈ (run cfg p).1.counting cfg (unixMilli x), e.member ≠
          (x, x % 1000000000) := by
        intro e he hm
        rw [hkept] at he
        obtain ⟨y, hy, rfl⟩ := mem_map.mp he
        have hyx := hlt y (allowed_subset cfg p (mem_filter.mp hy).1)
        have hxy : y = x := congrArg Prod.fst hm
        omega
      rw [allow_of_room hroom]
      dsimp only
      rw [if_pos rfl]
      have hys : ∀ y ∈ countingCalls cfg p (unixMilli x), unixMilli y ≤ unixMilli x :=
        fun y hy => hle y (allowed_subset cfg p (mem_filter.mp hy).1)
      refine (counting_of_room hys ?_ rfl).trans ?_
      · show zadd _ _ _ = _
        rw [zadd_of_new hnew, hkept, map_append]
        rfl
      · rw [filter_append, filter_append, countingCalls, filter_counting hxn]
    · have hfull : (run cfg p).1.counting cfg (unixMilli x) ≠ [] := by
        intro h
        rw [h] at hroom
        exact hroom hreq
      rw [allow_of_full hroom]
      exact (counting_of_full hxn hfull).trans (ih hp n fun y hy => Int.le_trans (hle y hy) hxn)

/-! ## every run -/

lemma inWindow_iff (hms : cfg.window % 1000000 = 0) {t y : Int} :
    inWindow cfg t y = true ↔ t - cfg.window / 1000000 < unixMilli y ∧ unixMilli y ≤ t := by
  rw [inWindow, decide_eq_true_eq]
  omega

lemma allowedIn_eq (hms : cfg.window % 1000000 = 0) {n : Int} (hn : ∀ y ∈ p, unixMilli y ≤ n) :
    allowedIn cfg p n = (countingCalls cfg p n).length := by
  refine congrArg List.length (filter_congr fun y hy => ?_)
  rw [Bool.eq_iff_iff, inWindow_iff hms, decide_eq_true_eq]
  exact and_iff_left (hn y (allowed_subset cfg p hy))

lemma allowedIn_le (hreq : 1 ≤ cfg.requests) (hms : cfg.window % 1000000 = 0)
    (hp : p.Pairwise (· < ·)) (t : Int) : allowedIn cfg p t ≤ cfg.requests := by
  induction p using reverseRecOn with
  | nil => exact Nat.zero_le _
  | append_singleton p x ih =>
    obtain ⟨hp, -, hlt⟩ := pairwise_append.mp hp
    have hle : ∀ y ∈ p, unixMilli y ≤ unixMilli x := fun y hy =>
      unixMilli_mono (Int.le_of_lt (hlt y hy x (mem_singleton_self x)))
    have hkept := congrArg List.length (kept_eq hreq hp (unixMilli x) hle)
    rw [length_map] at hkept
    rw [allowedIn, allowed_concat]
    split
    · rename_i hroom
      rw [filter_append, length_append]
      by_cases hx : inWindow cfg t x = true
      · -- the window at the call has the others, and had room
        have hsub : ((allowed cfg p).filter (inWindow cfg t)).length ≤
            (countingCalls cfg p (unixMilli x)).length := by
          rw [countingCalls, ← countP_eq_length_filter, ← countP_eq_length_filter]
          refine countP_mono_left fun y _ hy => ?_
          rw [inWindow_iff hms] at hx hy
          exact decide_eq_true (by omega)
        have hlen : ((run cfg p).1.counting cfg (unixMilli x)).length < cfg.requests := by
          by_contra hfull
          rw [allow_of_full hfull] at hroom
          cases hroom
        rw [filter_cons_of_pos hx, filter_nil, length_singleton]
        omega
      · rw [filter_cons_of_neg hx, filter_nil, length_nil]
        exact ih hp
    · exact ih hp

/-- **The rate limiter.** The window is a whole number of milliseconds and no two calls have the
same reading. Then in every run, for every window, at most `requests` of its calls were allowed; and
a call is denied only if as many were allowed in the window that ends at it. -/
theorem rate_limited (cfg : RateLimitConfig) (hreq : 1 ≤ cfg.requests)
    (hms : cfg.window % 1000000 = 0) (readings : List Int) (h : readings.Pairwise (· < ·)) :
    (∀ t, allowedIn cfg readings t ≤ cfg.requests) ∧
    ∀ p x post, readings = p ++ x :: post → (allow cfg x (run cfg p).1).2 = false →
      cfg.requests ≤ allowedIn cfg p (unixMilli x) := by
  refine ⟨allowedIn_le hreq hms h, ?_⟩
  rintro p x post rfl hdenied
  obtain ⟨hp, -, hlt⟩ := pairwise_append.mp h
  have hle : ∀ y ∈ p, unixMilli y ≤ unixMilli x := fun y hy =>
    unixMilli_mono (Int.le_of_lt (hlt y hy x mem_cons_self))
  rw [allowedIn_eq hms hle, ← length_map (f := entry), ← kept_eq hreq hp _ hle]
  by_contra hroom
  rw [allow_of_room (Nat.not_le.mp hroom)] at hdenied
  cases hdenied

end

lemma length_zadd_le (score : Int) (member : Int × Int) (entries : List Entry) :
    (zadd score member entries).length ≤ entries.length + 1 := by
  unfold zadd
  split <;> simp

/-- **A key never has more members than requests are allowed**, whatever the clocks of the instances
show. -/
theorem entries_bounded (cfg : RateLimitConfig) (readings : List Int) :
    (run cfg readings).1.entries.length ≤ cfg.requests := by
  induction readings using List.reverseRecOn with
  | nil => exact Nat.zero_le _
  | append_singleton p x ih =>
    have hlive : ((run cfg p).1.live (unixMilli x)).entries.length ≤ cfg.requests := by
      unfold SortedSet.live
      split
      · exact Nat.zero_le _
      · exact ih
    rw [run_concat]
    show (allow cfg x (run cfg p).1).1.entries.length ≤ _
    by_cases h : ((run cfg p).1.counting cfg (unixMilli x)).length < cfg.requests
    · rw [allow_of_room h]
      exact Nat.le_trans (length_zadd_le _ _ _) h
    · rw [allow_of_full h]
      exact Nat.le_trans (length_filter_le _ _) hlive

def twoAMinute : RateLimitConfig := ⟨2, 60000000000⟩

/-- The third call is denied, and a minute after the first there is room again. -/
theorem rate_limited_third : allowed twoAMinute [5, 6, 7, 60000000008] = [5, 6, 60000000008] ∧
    ∀ t, allowedIn twoAMinute [5, 6, 7, 60000000008] t ≤ 2 :=
  ⟨by decide, (rate_limited twoAMinute (by decide) (by decide) _ (by decide)).1⟩

/-- Three calls with one reading are all allowed. -/
theorem rate_exceeded : allowedIn twoAMinute [5, 5, 5] (unixMilli 5) = 3 ∧
    twoAMinute.requests = 2 :=
  ⟨by decide, rfl⟩

end VirtueStack.RateLimit
