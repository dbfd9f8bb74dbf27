import Mathlib

/-!
# Scan — the circuit breaker

`core/rate_limiter.py`: the breaker that pauses and then aborts a scan of a target that fails.

* `CircuitBreaker` is the state; `recordResponse` and `checkThrottle` are its two operations, each with
  what `time.monotonic()` reads.
* `Round` is what a client does again and again: `check_throttle`, a request, `record_response`.

`[about ours]`: moments and durations are of any ordered type with a zero, a sum and a difference.
-/

namespace CyberAssess

/-- `CircuitState`. -/
inductive CircuitState where
  | normal
  | throttled
  | tripped
deriving DecidableEq

/-- `CircuitBreaker`. -/
structure CircuitBreaker (τ : Type) where
  pauseSeconds : τ
  consecutive5xx : Nat
  consecutiveTimeouts : Nat
  errorsInThrottled : Nat
  state : CircuitState
  throttledUntil : Option τ

/-- What is recorded of a request: its status or its timeout, and what the clock reads when it is
recorded and once more for a success. -/
structure RecordedResponse (τ : Type) where
  statusCode : Option Int
  isTimeout : Bool
  now : τ
  later : τ

/-- A timeout, or a status from 500 on. -/
def RecordedResponse.isError {τ : Type} (r : RecordedResponse τ) : Bool :=
  r.isTimeout || r.statusCode.any fun code => 500 ≤ code

namespace CircuitBreaker

variable {τ : Type}

/-- The constructor. -/
def new (pauseSeconds : τ) : CircuitBreaker τ where
  pauseSeconds := pauseSeconds
  consecutive5xx := 0
  consecutiveTimeouts := 0
  errorsInThrottled := 0
  state := .normal
  throttledUntil := none

variable [LinearOrder τ] [Zero τ]

/-- `throttled_until`, where Python takes it for true. -/
def deadline (b : CircuitBreaker τ) : Option τ := b.throttledUntil.filter fun t => t ≠ 0

/-- `record_success`. -/
def recordSuccess (b : CircuitBreaker τ) (now : τ) : CircuitBreaker τ :=
  let b := { b with consecutive5xx := 0, consecutiveTimeouts := 0 }
  if b.state = .throttled && b.deadline.any fun t => t ≤ now then
    { b with state := .normal, errorsInThrottled := 0 }
  else b

variable [Add τ]

/-- The second half of `record_response`: the transition of an error that has been counted. -/
def countError (b : CircuitBreaker τ) (now : τ) : CircuitBreaker τ :=
  match b.state with
  | .normal =>
      if 5 ≤ b.consecutive5xx || 3 ≤ b.consecutiveTimeouts then
        { b with
          state := .throttled
          throttledUntil := some (now + b.pauseSeconds)
          errorsInThrottled := 0 }
      else b
  | .throttled =>
      let b := { b with errorsInThrottled := b.errorsInThrottled + 1 }
      if 5 ≤ b.errorsInThrottled then { b with state := .tripped } else b
  | .tripped => b

/-- `record_response`. -/
def recordResponse (b : CircuitBreaker τ) (r : RecordedResponse τ) : CircuitBreaker τ :=
  if r.isTimeout then
    { b with consecutiveTimeouts := b.consecutiveTimeouts + 1 }.countError r.now
  else if r.statusCode.any fun code => 500 ≤ code then
    { b with consecutive5xx := b.consecutive5xx + 1 }.countError r.now
  else b.recordSuccess r.later

/-- An error is counted on one of the two counters, and on neither is the count less. -/
theorem recordResponse_error {b : CircuitBreaker τ} {r : RecordedResponse τ} (error : r.isError = true) :
    ∃ m n, b.consecutive5xx ≤ m ∧ b.consecutiveTimeouts ≤ n ∧
      b.recordResponse r =
        { b with consecutive5xx := m, consecutiveTimeouts := n }.countError r.now := by
  rw [RecordedResponse.isError, Bool.or_eq_true] at error
  rw [recordResponse]
  by_cases timeout : r.isTimeout = true
  · exact ⟨b.consecutive5xx, b.consecutiveTimeouts + 1, Nat.le_refl _, Nat.le_succ _, if_pos timeout⟩
  · have status := error.resolve_left timeout
    refine ⟨b.consecutive5xx + 1, b.consecutiveTimeouts, Nat.le_succ _, Nat.le_refl _, ?_⟩
    rw [if_neg timeout, if_pos status]

/-- What is no error is recorded as a success. -/
theorem recordResponse_success {b : CircuitBreaker τ} {r : RecordedResponse τ}
    (success : r.isError = false) :
    b.recordResponse r = b.recordSuccess r.later := by
  obtain ⟨timeout, status⟩ := Bool.or_eq_false_iff.mp success
  rw [recordResponse, if_neg (Bool.eq_false_iff.mp timeout), if_neg (Bool.eq_false_iff.mp status)]

omit [LinearOrder τ] [Zero τ] in
/-- The length of the pause is fixed. -/
@[simp] theorem countError_pauseSeconds (b : CircuitBreaker τ) (now : τ) :
    (b.countError now).pauseSeconds = b.pauseSeconds := by
  rw [countError]
  cases b.state with
  | normal =>
      simp only
      split <;> rfl
  | throttled =>
      simp only
      split <;> rfl
  | tripped => rfl

omit [Add τ] in
@[simp] theorem recordSuccess_pauseSeconds (b : CircuitBreaker τ) (now : τ) :
    (b.recordSuccess now).pauseSeconds = b.pauseSeconds := by
  rw [recordSuccess]
  split <;> rfl

omit [Add τ] in
/-- Where nothing is throttled a success leaves the state. -/
theorem recordSuccess_unthrottled {b : CircuitBreaker τ} (h : b.state ≠ .throttled) (now : τ) :
    (b.recordSuccess now).state = b.state := by
  rw [recordSuccess, if_neg]
  simp [h]

/-- `is_tripped`. -/
def isTripped (b : CircuitBreaker τ) : Bool := b.state = .tripped

variable [Sub τ]

/-- `check_throttle`: the breaker after it, and how long it sleeps. -/
def checkThrottle (b : CircuitBreaker τ) (now : τ) : CircuitBreaker τ × Option τ :=
  match b.state, b.deadline with
  | .throttled, some t =>
      ({ b with state := .normal }, if 0 < t - now then some (t - now) else none)
  | _, _ => (b, none)

end CircuitBreaker

/-! ### The client -/

/-- One round of a client: what the clock reads in `check_throttle`, and the response. -/
structure Round (τ : Type) extends RecordedResponse τ where
  checked : τ

/-- A call of one of the two operations. -/
inductive BreakerCall (τ : Type) where
  | check (now : τ)
  | record (r : RecordedResponse τ)

namespace CircuitBreaker

variable {τ : Type} [LinearOrder τ] [Zero τ] [Add τ] [Sub τ]

/-- `check_throttle`, a request, `record_response`. -/
def round (b : CircuitBreaker τ) (r : Round τ) : CircuitBreaker τ :=
  (b.checkThrottle r.checked).1.recordResponse r.toRecordedResponse

/-- Round after round. -/
def rounds (b : CircuitBreaker τ) (rs : List (Round τ)) : CircuitBreaker τ := rs.foldl round b

/-- One call. -/
def call (b : CircuitBreaker τ) : BreakerCall τ → CircuitBreaker τ
  | .check now => (b.checkThrottle now).1
  | .record r => b.recordResponse r

/-- Call after call. -/
def calls (b : CircuitBreaker τ) (cs : List (BreakerCall τ)) : CircuitBreaker τ := cs.foldl call b

/-! ### What a step does -/

@[simp] theorem rounds_nil (b : CircuitBreaker τ) : b.rounds [] = b := rfl

@[simp] theorem rounds_cons (b : CircuitBreaker τ) (r : Round τ) (rs : List (Round τ)) :
    b.rounds (r :: rs) = (b.round r).rounds rs := rfl

theorem rounds_append (b : CircuitBreaker τ) (rs rs' : List (Round τ)) :
    b.rounds (rs ++ rs') = (b.rounds rs).rounds rs' :=
  List.foldl_append

omit [Add τ] in
/-- Where nothing is throttled `check_throttle` changes nothing. -/
theorem checkThrottle_unthrottled {b : CircuitBreaker τ} (h : b.state ≠ .throttled) (now : τ) :
    (b.checkThrottle now).1 = b := by
  rw [checkThrottle]
  split
  · rename_i throttled _
    exact absurd throttled h
  · rfl

/-- A breaker that has tripped stays so. -/
theorem tripped_call {b : CircuitBreaker τ} (h : b.state = .tripped) (c : BreakerCall τ) :
    (b.call c).state = .tripped := by
  cases c with
  | check now =>
      have same : (b.checkThrottle now).1 = b :=
        checkThrottle_unthrottled (by rw [h]; decide) now
      rw [call, same, h]
  | record r =>
      rw [call]
      by_cases error : r.isError = true
      · obtain ⟨m, n, -, -, counted⟩ := recordResponse_error (b := b) error
        rw [counted, countError, h]
      · rw [recordResponse_success (Bool.not_eq_true _ ▸ error),
          recordSuccess_unthrottled (by rw [h]; decide), h]

/-- Whatever is called after it, a breaker that has tripped stays so. -/
theorem tripped_calls {b : CircuitBreaker τ} (h : b.state = .tripped) (cs : List (BreakerCall τ)) :
    (b.calls cs).state = .tripped := by
  induction cs generalizing b with
  | nil => exact h
  | cons c cs ih => exact ih (tripped_call h c)

end CircuitBreaker

end CyberAssess
