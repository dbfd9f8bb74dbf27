import Mathlib.Tactic.Ring
import CyberAssess.Scan.TokenBucket

/-!
# Guarantees — what a token bucket lets through

The time since the last refill is credited at the rate there is when it is credited, so a rate that is
raised is credited for time before it.

* `Sound` is what a bucket keeps; `Step.sound`: one step keeps it.
* `Unraised` is what is asked of a step: where it raises the rate, nothing is owed for the time before.
* `Step.level`: then what was acquired and what would be held afterwards was held before.
* `granted_from`, `granted_le`: the bound over a window the run is in, and over any window.
-/

namespace CyberAssess.Limiter

open Transition (Run Guarded)
open TokenBucketRateLimiter (clampRate)

variable {ι : Type} {s t : Limiter ι} {e : LimiterEvent ι} {es : List (LimiterEvent ι)} {a c : ℚ}

/-! ### The bucket -/

/-- The tokens are within the capacity, the rate is not below its floor, and nothing is refilled ahead
of the clock. -/
structure Sound (s : Limiter ι) : Prop where
  nonneg : 0 ≤ s.bucket.tokens
  within : s.bucket.tokens ≤ s.bucket.capacity
  floor : 1 / 2 ≤ s.bucket.rateRps
  refilled : s.bucket.lastRefill ≤ s.now

/-- The rate is raised only at the moment of a refill, or where the bucket would be full anyway. -/
def Unraised (s : Limiter ι) (e : LimiterEvent ι) : Prop :=
  match e.call with
  | .resetRate rateRps => clampRate rateRps ≤ s.bucket.rateRps ∨ e.time ≤ s.bucket.lastRefill ∨
      s.bucket.capacity ≤ s.bucket.level e.time
  | _ => True

theorem start_sound (rateRps burstCapacity now : ℚ) :
    Sound (start rateRps burstCapacity now : Limiter ι) where
  nonneg := le_max_of_le_left zero_le_one
  within := le_refl _
  floor := le_max_left _ _
  refilled := le_refl _

/-- A refill leaves what would have been held. -/
theorem refill_tokens (h : Sound s) {time : ℚ} (later : s.now ≤ time) :
    (s.bucket.refill time).tokens = s.bucket.level time ∧ (s.bucket.refill time).lastRefill = time := by
  have refilled := h.refilled
  rw [TokenBucketRateLimiter.refill, TokenBucketRateLimiter.level]
  by_cases elapsed : 0 < time - s.bucket.lastRefill
  · rw [if_pos elapsed]
    exact ⟨rfl, rfl⟩
  · have same : s.bucket.lastRefill = time := by linarith
    rw [if_neg elapsed, same, sub_self, zero_mul, add_zero, min_eq_right h.within]
    exact ⟨rfl, rfl⟩

theorem refill_fixed (b : TokenBucketRateLimiter) (time : ℚ) :
    (b.refill time).rateRps = b.rateRps ∧ (b.refill time).capacity = b.capacity := by
  rw [TokenBucketRateLimiter.refill]
  split <;> exact ⟨rfl, rfl⟩

/-- What would be held is not negative. -/
theorem level_nonneg (h : Sound s) {time : ℚ} (later : s.now ≤ time) : 0 ≤ s.bucket.level time := by
  have elapsed : 0 ≤ time - s.bucket.lastRefill := sub_nonneg.mpr (h.refilled.trans later)
  have rate : 0 ≤ s.bucket.rateRps := by linarith [h.floor]
  refine le_min (h.nonneg.trans h.within) ?_
  linarith [h.nonneg, mul_nonneg elapsed rate]

/-- One turn of `acquire` takes a token from what would have been held, where there is one. -/
theorem attempt_tokens (h : Sound s) {time : ℚ} (later : s.now ≤ time) :
    (s.bucket.attempt time).1.tokens =
        s.bucket.level time - (if (s.bucket.attempt time).2.isNone then 1 else 0) ∧
      0 ≤ (s.bucket.attempt time).1.tokens ∧ (s.bucket.attempt time).1.lastRefill = time ∧
      (s.bucket.attempt time).1.rateRps = s.bucket.rateRps ∧
      (s.bucket.attempt time).1.capacity = s.bucket.capacity := by
  obtain ⟨tokens, refilled⟩ := refill_tokens h later
  obtain ⟨rate, capacity⟩ := refill_fixed s.bucket time
  have held := level_nonneg h later
  rw [TokenBucketRateLimiter.attempt]
  by_cases enough : 1 ≤ (s.bucket.refill time).tokens
  · simp only [if_pos enough, Option.isNone_none, if_true]
    exact ⟨by rw [tokens], by linarith, refilled, rate, capacity⟩
  · simp only [if_neg enough, Option.isNone_some, Bool.false_eq_true, if_false, sub_zero]
    exact ⟨tokens, by rwa [tokens], refilled, rate, capacity⟩

/-- What would be held grows at the rate at most. -/
theorem level_grow (h : Sound s) {time : ℚ} (later : s.now ≤ time) :
    s.bucket.level time ≤ s.bucket.level s.now + s.bucket.rateRps * (time - s.now) := by
  have rate : 0 ≤ s.bucket.rateRps := by linarith [h.floor]
  have comes : 0 ≤ s.bucket.rateRps * (time - s.now) := mul_nonneg rate (sub_nonneg.mpr later)
  have split : (time - s.bucket.lastRefill) * s.bucket.rateRps =
      (s.now - s.bucket.lastRefill) * s.bucket.rateRps + s.bucket.rateRps * (time - s.now) := by ring
  rcases le_total s.bucket.capacity (s.bucket.tokens + (s.now - s.bucket.lastRefill) * s.bucket.rateRps)
    with full | room
  · rw [TokenBucketRateLimiter.level, TokenBucketRateLimiter.level, min_eq_left full]
    exact (min_le_left _ _).trans (le_add_of_nonneg_right comes)
  · rw [TokenBucketRateLimiter.level, TokenBucketRateLimiter.level, min_eq_right room]
    exact (min_le_right _ _).trans (by rw [split, add_assoc])

/-- At one time, a rate that is not higher would hold no more. -/
theorem level_mono (h : Sound s) {time rate : ℚ} (later : s.now ≤ time) (lower : rate ≤ s.bucket.rateRps) :
    { s.bucket with rateRps := rate }.level time ≤ s.bucket.level time := by
  have elapsed : 0 ≤ time - s.bucket.lastRefill := sub_nonneg.mpr (h.refilled.trans later)
  exact min_le_min (le_refl _) (by linarith [mul_le_mul_of_nonneg_left lower elapsed])

/-! ### One step -/

variable [DecidableEq ι]

/-- A step keeps a bucket sound. -/
theorem Step.sound (h : Sound s) (step : Step s e t) : Sound t := by
  cases step with
  | @acquire i time later awake =>
      obtain ⟨tokens, nonneg, refilled, rate, capacity⟩ := attempt_tokens h later
      have held : s.bucket.level time ≤ s.bucket.capacity := min_le_left _ _
      refine ⟨nonneg, ?_, ?_, refilled.le⟩
      · show (s.bucket.attempt time).1.tokens ≤ (s.bucket.attempt time).1.capacity
        rw [tokens, capacity]
        split <;> linarith
      · show 1 / 2 ≤ (s.bucket.attempt time).1.rateRps
        rw [rate]
        exact h.floor
  | halveRate later => exact ⟨h.nonneg, h.within, le_max_left _ _, h.refilled.trans later⟩
  | resetRate later => exact ⟨h.nonneg, h.within, le_max_left _ _, h.refilled.trans later⟩

/-- What a step leaves as it is, and when it is taken. -/
theorem Step.fixed (step : Step s e t) : s.now ≤ e.time ∧ t.now = e.time ∧
    t.bucket.capacity = s.bucket.capacity ∧ t.bucket.rateRps = e.call.rateAfter s.bucket.rateRps := by
  cases step with
  | @acquire i time later awake =>
      obtain ⟨rate, capacity⟩ := refill_fixed s.bucket time
      refine ⟨later, rfl, ?_, ?_⟩
      · show (s.bucket.attempt time).1.capacity = s.bucket.capacity
        rw [TokenBucketRateLimiter.attempt]
        split <;> exact capacity
      · show (s.bucket.attempt time).1.rateRps = s.bucket.rateRps
        rw [TokenBucketRateLimiter.attempt]
        split <;> exact rate
  | halveRate later => exact ⟨later, rfl, rfl, rfl⟩
  | resetRate later => exact ⟨later, rfl, rfl, rfl⟩

/-- **One step**: what was acquired and what would be held after it was held before it. -/
theorem Step.level (h : Sound s) (unraised : Unraised s e) (step : Step s e t) :
    (if e.call.isGrant then 1 else 0) + t.bucket.level e.time ≤ s.bucket.level e.time := by
  cases step with
  | @acquire i time later awake =>
      obtain ⟨tokens, nonneg, refilled, rate, capacity⟩ := attempt_tokens h later
      have after : (s.bucket.attempt time).1.level time ≤ (s.bucket.attempt time).1.tokens := by
        refine (min_le_right _ _).trans ?_
        rw [refilled, sub_self, zero_mul, add_zero]
      show (if (s.bucket.attempt time).2.isNone then (1 : ℚ) else 0) +
        (s.bucket.attempt time).1.level time ≤ s.bucket.level time
      linarith
  | halveRate later =>
      have lower : max (1 / 2) (s.bucket.rateRps / 2) ≤ s.bucket.rateRps :=
        max_le h.floor (by linarith [h.floor])
      have held : s.bucket.halveRate.level _ ≤ s.bucket.level _ := level_mono h later lower
      simpa [LimiterCall.isGrant] using held
  | @resetRate time rateRps later =>
      have held : (s.bucket.resetRate rateRps).level time ≤ s.bucket.level time := by
        rcases unraised with lower | now | full
        · exact level_mono h later lower
        · have same : s.bucket.lastRefill = time := le_antisymm (h.refilled.trans later) now
          simp [TokenBucketRateLimiter.level, TokenBucketRateLimiter.resetRate, same]
        · exact (min_le_left _ _).trans full
      simpa [LimiterCall.isGrant] using held

/-! ### A window -/

theorem overlap_nonneg (a c x y : ℚ) : 0 ≤ overlap a c x y := le_max_left _ _

/-- The rate in force is not negative. -/
theorem rateOver_nonneg (h : Sound s) (r : Run Step s es t) :
    0 ≤ rateOver a c s.bucket.rateRps s.now es := by
  induction r with
  | refl s => exact mul_nonneg (by linarith [h.floor]) (le_max_left _ _)
  | @more s t u e es step r ih =>
      obtain ⟨-, now, -, rate⟩ := step.fixed
      have rest := ih (step.sound h)
      rw [now, rate] at rest
      exact add_nonneg (mul_nonneg (by linarith [h.floor]) (overlap_nonneg _ _ _ _)) rest

/-- After the window nothing is acquired in it. -/
theorem granted_after (r : Run Step s es t) (after : c < s.now) : grantedIn a c es = 0 := by
  induction r with
  | refl => rfl
  | @more s t u e es step r ih =>
      obtain ⟨later, now, -, -⟩ := step.fixed
      have past : c < e.time := after.trans_le later
      rw [grantedIn, List.countP_cons_of_neg (by simp [past.not_ge])]
      exact ih (now ▸ past)

omit [DecidableEq ι] in
/-- How many are acquired with what follows. -/
theorem grantedIn_cons (a c : ℚ) (e : LimiterEvent ι) (es : List (LimiterEvent ι)) :
    (grantedIn a c (e :: es) : ℚ) =
      (if e.call.isGrant && (a ≤ e.time && e.time ≤ c) then 1 else 0) + grantedIn a c es := by
  rw [grantedIn, List.countP_cons, grantedIn]
  push_cast
  rw [add_comm]

/-- From within a window no more is acquired in it than is held, and comes in at the rates in force. -/
theorem granted_from (h : Sound s) (r : Run (Guarded Unraised Step) s es t) (within : a ≤ s.now) :
    (grantedIn a c es : ℚ) ≤ s.bucket.level s.now + rateOver a c s.bucket.rateRps s.now es := by
  induction r with
  | refl s =>
      have held := level_nonneg h (le_refl s.now)
      have comes := rateOver_nonneg (a := a) (c := c) h (.refl s)
      simpa [grantedIn] using add_nonneg held comes
  | @more s t u e es guarded r ih =>
      obtain ⟨unraised, step⟩ := guarded
      obtain ⟨later, now, capacity, rate⟩ := step.fixed
      have sound := step.sound h
      have rest := ih sound (within.trans (later.trans now.ge))
      rw [now, rate] at rest
      have spent := step.level h unraised
      have floor := h.floor
      rw [grantedIn_cons, rateOver]
      by_cases ends : e.time ≤ c
      · -- The time up to this event is in the window, and what comes in over it is credited at most.
        have span : overlap a c s.now e.time = e.time - s.now := by
          rw [overlap, min_eq_right ends, max_eq_right within, max_eq_right (sub_nonneg.mpr later)]
        have grown : s.bucket.level e.time ≤
            s.bucket.level s.now + s.bucket.rateRps * (e.time - s.now) := level_grow h later
        have inside : (a ≤ e.time && e.time ≤ c) = true := by
          simp [ends, within.trans later]
        rw [span, inside, Bool.and_true]
        linarith
      · have none := granted_after (a := a) (c := c) (r.mono fun _ _ _ k => k.2) (now ▸ not_le.mp ends)
        have held := level_nonneg h (le_refl s.now)
        have comes := mul_nonneg (by linarith : (0 : ℚ) ≤ s.bucket.rateRps) (overlap_nonneg a c s.now e.time)
        have more := rateOver_nonneg (a := a) (c := c) sound (r.mono fun _ _ _ k => k.2)
        rw [now, rate] at more
        rw [none]
        simp only [ends, decide_false, Bool.and_false, Bool.false_eq_true, if_false, Nat.cast_zero]
        linarith

/-- In any window no more is acquired than the capacity, and what comes in at the rates in force. -/
theorem granted_le (h : Sound s) (r : Run (Guarded Unraised Step) s es t) :
    (grantedIn a c es : ℚ) ≤ s.bucket.capacity + rateOver a c s.bucket.rateRps s.now es := by
  induction r with
  | refl s =>
      have comes := rateOver_nonneg (a := a) (c := c) h (.refl s)
      simpa [grantedIn] using add_nonneg (h.nonneg.trans h.within) comes
  | @more s t u e es guarded r ih =>
      obtain ⟨unraised, step⟩ := guarded
      obtain ⟨later, now, capacity, rate⟩ := step.fixed
      have sound := step.sound h
      have comes := mul_nonneg (by linarith [h.floor] : (0 : ℚ) ≤ s.bucket.rateRps)
        (overlap_nonneg a c s.now e.time)
      rw [grantedIn_cons, rateOver]
      by_cases begun : a ≤ e.time
      · have rest := granted_from (c := c) sound r (now ▸ begun)
        have spent := step.level h unraised
        have full : s.bucket.level e.time ≤ s.bucket.capacity := min_le_left _ _
        have one : (if e.call.isGrant && (a ≤ e.time && e.time ≤ c) then (1 : ℚ) else 0) ≤
            if e.call.isGrant then 1 else 0 := by
          cases e.call.isGrant with
          | false => simp
          | true => split <;> simp
        rw [now, rate] at rest
        linarith
      · have rest := ih sound
        rw [now, rate, capacity] at rest
        simp only [begun, decide_false, Bool.false_and, Bool.and_false, Bool.false_eq_true, if_false]
        linarith

/-- **The bucket.**  The tokens are always within the capacity; and where no step raises the rate but at
the moment of a refill or on a bucket that would be full, no more tokens are acquired in any window than
the capacity and what comes in over it at the rates in force. -/
theorem rate_bound (ι : Type) [DecidableEq ι] (rateRps burstCapacity now : ℚ) :
    (∀ (es : List (LimiterEvent ι)) (t : Limiter ι), Run Step (start rateRps burstCapacity now) es t →
      0 ≤ t.bucket.tokens ∧ t.bucket.tokens ≤ t.bucket.capacity) ∧
    ∀ (es : List (LimiterEvent ι)) (t : Limiter ι),
      Run (Guarded Unraised Step) (start rateRps burstCapacity now) es t → ∀ a c : ℚ,
        (grantedIn a c es : ℚ) ≤ max 1 burstCapacity + rateOver a c (clampRate rateRps) now es := by
  constructor
  · intro es t r
    have sound := r.invariant (I := Sound) (fun _ _ _ h step => step.sound h) (start_sound _ _ _)
    exact ⟨sound.nonneg, sound.within⟩
  · intro es t r a c
    exact granted_le (start_sound _ _ _) r

namespace BucketSample

/-- A bucket of one token, at half a token a second. -/
def slow : Limiter Unit := start (1 / 2) 1 0

theorem Step.acquired {s : Limiter ι} {i : ι} {time : ℚ} {b : TokenBucketRateLimiter}
    (later : s.now ≤ time) (awake : s.wakes i = none) (granted : s.bucket.attempt time = (b, none)) :
    Step s ⟨time, .acquire i true⟩ ⟨b, time, Function.update s.wakes i none⟩ := by
  have step := Step.acquire later (i := i) (by simp [awake])
  rwa [granted] at step

theorem slow_first : slow.bucket.attempt 0 = (⟨1 / 2, 1, 0, 0⟩, none) := by
  norm_num [slow, start, TokenBucketRateLimiter.new, clampRate, TokenBucketRateLimiter.attempt,
    TokenBucketRateLimiter.refill]

theorem paced_second :
    (⟨1 / 2, 1, 0, 0⟩ : TokenBucketRateLimiter).attempt 2 = (⟨1 / 2, 1, 0, 2⟩, none) := by
  norm_num [TokenBucketRateLimiter.attempt, TokenBucketRateLimiter.refill]

/-- A token at once, and one two seconds later. -/
def paced : List (LimiterEvent Unit) := [⟨0, .acquire () true⟩, ⟨2, .acquire () true⟩]

/-- Both are within what comes in. -/
theorem paced_bound : (2 : ℚ) ≤ max 1 1 + rateOver 0 2 (clampRate (1 / 2)) 0 paced := by
  have first := Step.acquired (s := slow) (i := ()) (le_refl _) rfl slow_first
  have second := Step.acquired (i := ()) (s := ⟨⟨1 / 2, 1, 0, 0⟩, 0, Function.update slow.wakes () none⟩)
    (by norm_num) rfl paced_second
  have bound := (rate_bound Unit (1 / 2) 1 0).2 paced _ (.more ⟨trivial, first⟩ (.single ⟨trivial, second⟩)) 0 2
  have both : grantedIn 0 2 paced = 2 := by norm_num [grantedIn, paced, LimiterCall.isGrant]
  rw [both] at bound
  exact bound

/-- A token at once, and another as soon as the rate is raised a second later. -/
def raised : List (LimiterEvent Unit) :=
  [⟨0, .acquire () true⟩, ⟨1, .resetRate 20⟩, ⟨1, .acquire () true⟩]

theorem raised_second :
    (⟨clampRate 20, 1, 0, 0⟩ : TokenBucketRateLimiter).attempt 1 = (⟨20, 1, 0, 1⟩, none) := by
  norm_num [TokenBucketRateLimiter.attempt, TokenBucketRateLimiter.refill, clampRate]

/-- The second is more than the capacity and what came in. -/
theorem raised_exceeds : ∃ t : Limiter Unit, Run Step slow raised t ∧
    max 1 1 + rateOver 0 1 (clampRate (1 / 2)) 0 raised < grantedIn 0 1 raised := by
  have first := Step.acquired (s := slow) (i := ()) (le_refl _) rfl slow_first
  have reset : Step ⟨⟨1 / 2, 1, 0, 0⟩, 0, Function.update slow.wakes () none⟩ ⟨1, .resetRate 20⟩
      (⟨⟨clampRate 20, 1, 0, 0⟩, 1, Function.update slow.wakes () none⟩ : Limiter Unit) :=
    .resetRate zero_le_one
  have second := Step.acquired (i := ())
    (s := ⟨⟨clampRate 20, 1, 0, 0⟩, 1, Function.update slow.wakes () none⟩) (le_refl _) rfl raised_second
  refine ⟨_, .more first (.more reset (.single second)), ?_⟩
  norm_num [rateOver, raised, grantedIn, overlap, clampRate, LimiterCall.rateAfter, LimiterCall.isGrant]

end BucketSample

end CyberAssess.Limiter
