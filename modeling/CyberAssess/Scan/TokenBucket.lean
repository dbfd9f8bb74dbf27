import Mathlib.Algebra.Order.Field.Rat
import Mathlib.Tactic.Linarith
import Mathlib.Tactic.NormNum
import CyberAssess.Support.Transition

/-!
# Scan — the token bucket

`core/rate_limiter.py`: the bucket that holds back the requests of a scan.

* `TokenBucketRateLimiter` is the state; `refill` credits the time since the last refill, at the rate
  there is now.
* `attempt` is one turn of the loop in `acquire`, from taking the lock to giving it back.
* `Limiter` has the tasks too: one that was refused sleeps, and comes back when it has slept.
* `grantedIn` and `rateOver` are what is counted of a run in a window.

`[about ours]`: time, rates and tokens are rational numbers.
-/

namespace CyberAssess

/-- `TokenBucketRateLimiter`. -/
structure TokenBucketRateLimiter where
  rateRps : ℚ
  capacity : ℚ
  tokens : ℚ
  lastRefill : ℚ
deriving DecidableEq

namespace TokenBucketRateLimiter

/-- `max(0.5, min(20.0, rate))`. -/
def clampRate (rateRps : ℚ) : ℚ := max (1 / 2) (min 20 rateRps)

/-- The constructor. -/
def new (rateRps burstCapacity now : ℚ) : TokenBucketRateLimiter where
  rateRps := clampRate rateRps
  capacity := max 1 burstCapacity
  tokens := max 1 burstCapacity
  lastRefill := now

/-- `_refill`. -/
def refill (b : TokenBucketRateLimiter) (now : ℚ) : TokenBucketRateLimiter :=
  let elapsed := now - b.lastRefill
  if 0 < elapsed then
    { b with tokens := min b.capacity (b.tokens + elapsed * b.rateRps), lastRefill := now }
  else b

/-- One turn of `acquire`: a token, or how long to sleep for one. -/
def attempt (b : TokenBucketRateLimiter) (now : ℚ) : TokenBucketRateLimiter × Option ℚ :=
  let b := b.refill now
  if 1 ≤ b.tokens then ({ b with tokens := b.tokens - 1 }, none)
  else (b, some (max (1 / 100) ((1 - b.tokens) / b.rateRps)))

/-- `halve_rate`. -/
def halveRate (b : TokenBucketRateLimiter) : TokenBucketRateLimiter :=
  { b with rateRps := max (1 / 2) (b.rateRps / 2) }

/-- `reset_rate`. -/
def resetRate (b : TokenBucketRateLimiter) (rateRps : ℚ) : TokenBucketRateLimiter :=
  { b with rateRps := clampRate rateRps }

/-- What the bucket would hold if it were refilled now. -/
def level (b : TokenBucketRateLimiter) (now : ℚ) : ℚ :=
  min b.capacity (b.tokens + (now - b.lastRefill) * b.rateRps)

end TokenBucketRateLimiter

/-! ### Tasks -/

/-- A bucket, the clock, and when each task that sleeps in `acquire` wakes. -/
structure Limiter (ι : Type) where
  bucket : TokenBucketRateLimiter
  now : ℚ
  wakes : ι → Option ℚ

/-- What happens to the bucket: a turn of a task's `acquire`, with what came of it, or a new rate. -/
inductive LimiterCall (ι : Type) where
  | acquire (task : ι) (granted : Bool)
  | halveRate
  | resetRate (rateRps : ℚ)

/-- Something that happens, and when. -/
structure LimiterEvent (ι : Type) where
  time : ℚ
  call : LimiterCall ι

namespace Limiter

variable {ι : Type} [DecidableEq ι]

/-- A new bucket. -/
def start (rateRps burstCapacity now : ℚ) : Limiter ι where
  bucket := .new rateRps burstCapacity now
  now := now
  wakes _ := none

/-- One thing happens, not before the last; a task that sleeps does nothing until it wakes. -/
inductive Step : Limiter ι → LimiterEvent ι → Limiter ι → Prop where
  | acquire {s : Limiter ι} {i : ι} {time : ℚ} (later : s.now ≤ time)
      (awake : ∀ wake ∈ s.wakes i, wake ≤ time) :
      Step s ⟨time, .acquire i (s.bucket.attempt time).2.isNone⟩
        ⟨(s.bucket.attempt time).1, time,
          Function.update s.wakes i ((s.bucket.attempt time).2.map (time + ·))⟩
  | halveRate {s : Limiter ι} {time : ℚ} (later : s.now ≤ time) :
      Step s ⟨time, .halveRate⟩ ⟨s.bucket.halveRate, time, s.wakes⟩
  | resetRate {s : Limiter ι} {time rateRps : ℚ} (later : s.now ≤ time) :
      Step s ⟨time, .resetRate rateRps⟩ ⟨s.bucket.resetRate rateRps, time, s.wakes⟩

end Limiter

/-! ### A window of a run -/

/-- The rate after something happened. -/
def LimiterCall.rateAfter {ι : Type} (rate : ℚ) : LimiterCall ι → ℚ
  | .acquire _ _ => rate
  | .halveRate => max (1 / 2) (rate / 2)
  | .resetRate rateRps => TokenBucketRateLimiter.clampRate rateRps

/-- A token was acquired. -/
def LimiterCall.isGrant {ι : Type} : LimiterCall ι → Bool
  | .acquire _ granted => granted
  | _ => false

/-- How many tokens were acquired from `a` to `c`. -/
def grantedIn {ι : Type} (a c : ℚ) (es : List (LimiterEvent ι)) : Nat :=
  es.countP fun e => e.call.isGrant && (a ≤ e.time && e.time ≤ c)

/-- How long the time from `x` to `y` is within the time from `a` to `c`. -/
def overlap (a c x y : ℚ) : ℚ := max 0 (min c y - max a x)

/-- The rate in force, over the time from `a` to `c`: `rate` from `now` on, then as what happens sets
it. -/
def rateOver {ι : Type} (a c : ℚ) : (rate now : ℚ) → List (LimiterEvent ι) → ℚ
  | rate, now, [] => rate * max 0 (c - max a now)
  | rate, now, e :: es =>
      rate * overlap a c now e.time + rateOver a c (e.call.rateAfter rate) e.time es

end CyberAssess
