import Mathlib.Data.Int.Order.Basic
import Mathlib.Data.List.Infix
import CyberAssess.Scan.RateLimiter

/-!
# Guarantees — the circuit breaker trips

A client runs `check_throttle`, a request and `record_response` again and again. After the breaker has
throttled, five more errors should trip it.

* `Held`: the breaker is throttled by counts that are never reset; an error through `check_throttle`
  throttles it anew, and it counts from nothing again.
* `Stuck`: its deadline is the zero of the clock, which `check_throttle` takes for none.
* `trips_iff`: five more errors trip it exactly where the deadline it was given is zero.
-/

namespace CyberAssess.CircuitBreaker

variable {τ : Type} [LinearOrder τ] [Zero τ] [Add τ] [Sub τ] {b : CircuitBreaker τ} {r : Round τ}
  {n : Nat}

/-! ### An error while throttled -/

/-- It is throttled, its counts throttle it whenever they are looked at, and it has counted at most
`n` errors since. -/
structure Held (n : Nat) (b : CircuitBreaker τ) : Prop where
  state : b.state = .throttled
  counts : 5 ≤ b.consecutive5xx ∨ 3 ≤ b.consecutiveTimeouts
  errors : b.errorsInThrottled ≤ n

/-- It is throttled without a deadline, and has counted `n` errors. -/
structure Stuck (n : Nat) (b : CircuitBreaker τ) : Prop where
  state : b.state = .throttled
  deadline : b.deadline = none
  errors : b.errorsInThrottled = n

omit [LinearOrder τ] [Zero τ] [Sub τ] in
/-- Counts that throttle do so, and the errors are counted from nothing. -/
theorem countError_normal (state : b.state = .normal)
    (counts : 5 ≤ b.consecutive5xx ∨ 3 ≤ b.consecutiveTimeouts) (now : τ) :
    Held 0 (b.countError now) ∧ (b.countError now).throttledUntil = some (now + b.pauseSeconds) := by
  have full : (decide (5 ≤ b.consecutive5xx) || decide (3 ≤ b.consecutiveTimeouts)) = true := by
    simpa using counts
  rw [countError, state]
  simp only [if_pos full]
  exact ⟨⟨rfl, counts, Nat.le_refl 0⟩, trivial⟩

/-- `check_throttle` lets a deadline pass, and the next error throttles anew. -/
theorem Held.restart (h : Held n b) {d : τ} (deadline : b.deadline = some d)
    (error : r.isError = true) : Held 0 (b.round r) := by
  have checked : (b.checkThrottle r.checked).1 = { b with state := .normal } := by
    rw [checkThrottle, h.state, deadline]
  obtain ⟨m, k, more, others, counted⟩ :=
    recordResponse_error (b := { b with state := .normal }) error
  have counts : 5 ≤ m ∨ 3 ≤ k :=
    h.counts.imp (fun five => Nat.le_trans five more) fun three => Nat.le_trans three others
  rw [round, checked, counted]
  exact (countError_normal rfl counts r.now).1

/-- One more error is counted at most. -/
theorem Held.round (h : Held n b) (error : r.isError = true) (few : n + 1 < 5) :
    Held (n + 1) (b.round r) := by
  cases deadline : b.deadline with
  | some d =>
      have again := h.restart deadline error
      exact ⟨again.state, again.counts, Nat.le_trans again.errors (Nat.zero_le _)⟩
  | none =>
      have checked : (b.checkThrottle r.checked).1 = b := by
        rw [checkThrottle, h.state, deadline]
      obtain ⟨m, k, more, others, counted⟩ := recordResponse_error (b := b) error
      have below : ¬ 5 ≤ b.errorsInThrottled + 1 := by
        have errors := h.errors
        omega
      rw [CircuitBreaker.round, checked, counted, countError, h.state]
      simp only [if_neg below]
      refine ⟨rfl, ?_, Nat.succ_le_succ h.errors⟩
      exact h.counts.imp (fun five => Nat.le_trans five more) fun three => Nat.le_trans three others

/-- Fewer than five errors leave it throttled. -/
theorem Held.rounds (h : Held n b) {es : List (Round τ)} (errors : ∀ e ∈ es, e.isError = true)
    (few : n + es.length < 5) : Held (n + es.length) (b.rounds es) := by
  induction es generalizing b n with
  | nil => exact h
  | cons e es ih =>
      obtain ⟨error, errors⟩ := List.forall_mem_cons.mp errors
      rw [List.length_cons] at few ⊢
      have next := ih (h.round error (by omega)) errors (by omega)
      rwa [Nat.add_right_comm, Nat.add_assoc] at next

/-- Without a deadline an error is counted, and the fifth trips. -/
theorem Stuck.round (h : Stuck n b) (error : r.isError = true) :
    (n + 1 < 5 → Stuck (n + 1) (b.round r)) ∧ (5 ≤ n + 1 → (b.round r).state = .tripped) := by
  have checked : (b.checkThrottle r.checked).1 = b := by
    rw [checkThrottle, h.state, h.deadline]
  obtain ⟨m, k, -, -, counted⟩ := recordResponse_error (b := b) error
  rw [CircuitBreaker.round, checked, counted, countError, h.state]
  simp only [h.errors]
  constructor
  · intro few
    rw [if_neg (by omega)]
    exact ⟨rfl, h.deadline, rfl⟩
  · intro five
    rw [if_pos five]

theorem Stuck.rounds (h : Stuck n b) {es : List (Round τ)} (errors : ∀ e ∈ es, e.isError = true)
    (few : n + es.length < 5) : Stuck (n + es.length) (b.rounds es) := by
  induction es generalizing b n with
  | nil => exact h
  | cons e es ih =>
      obtain ⟨error, errors⟩ := List.forall_mem_cons.mp errors
      rw [List.length_cons] at few ⊢
      have next := ih ((h.round error).1 (by omega)) errors (by omega)
      rwa [Nat.add_right_comm, Nat.add_assoc] at next

/-! ### Up to the first time it throttles -/

/-- A round leaves an untouched breaker as it is, or throttles it. -/
theorem round_normal (state : b.state = .normal) (r : Round τ) :
    (b.round r).pauseSeconds = b.pauseSeconds ∧
      ((b.round r).state = .normal ∨
        Held 0 (b.round r) ∧ (b.round r).throttledUntil = some (r.now + b.pauseSeconds)) := by
  have unthrottled : b.state ≠ .throttled := by
    rw [state]
    decide
  rw [CircuitBreaker.round, checkThrottle_unthrottled unthrottled]
  by_cases error : r.isError = true
  · obtain ⟨m, k, -, -, counted⟩ := recordResponse_error (b := b) error
    rw [counted]
    by_cases counts : 5 ≤ m ∨ 3 ≤ k
    · have throttles := countError_normal
        (b := { b with consecutive5xx := m, consecutiveTimeouts := k }) state counts r.now
      exact ⟨countError_pauseSeconds _ _, Or.inr throttles⟩
    · have few : (decide (5 ≤ m) || decide (3 ≤ k)) = false := by
        simpa using counts
      refine ⟨countError_pauseSeconds _ _, Or.inl ?_⟩
      rw [countError, state]
      simp only [few, if_neg Bool.false_ne_true]
  · rw [recordResponse_success (Bool.not_eq_true _ ▸ error)]
    exact ⟨recordSuccess_pauseSeconds b r.later,
      Or.inl (by rw [recordSuccess_unthrottled unthrottled, state])⟩

/-- A breaker that has not throttled yet is as it was made. -/
theorem normal_of_unthrottled (state : b.state = .normal) {rs : List (Round τ)}
    (unthrottled : ∀ front, front <+: rs → (b.rounds front).state ≠ .throttled) :
    (b.rounds rs).state = .normal ∧ (b.rounds rs).pauseSeconds = b.pauseSeconds := by
  induction rs generalizing b with
  | nil => exact ⟨state, rfl⟩
  | cons r rs ih =>
      obtain ⟨pause, next⟩ := round_normal state r
      rcases next with normal | ⟨held, -⟩
      · rw [← pause, rounds_cons]
        exact ih normal fun front mem => unthrottled (r :: front) (by simpa using mem)
      · exact absurd held.state (unthrottled [r] (by simp))

/-! ### Tripping -/

/-- What the breaker promises once it has throttled: at most five more errors trip it, and whatever is
called after that leaves it tripped. -/
structure Trips (b : CircuitBreaker τ) (errors : List (Round τ)) : Prop where
  trips : ∃ k ≤ 5, (b.rounds (errors.take k)).state = .tripped
  stays : ∀ k (cs : List (BreakerCall τ)), (b.rounds (errors.take k)).state = .tripped →
    ((b.rounds (errors.take k)).calls cs).state = .tripped

/-- After the round that throttles it first, five errors trip the breaker exactly where the deadline
of that round is zero. -/
theorem trips_iff {pause : τ} {before errors : List (Round τ)}
    (unthrottled : ∀ front, front <+: before → ((new pause).rounds front).state ≠ .throttled)
    (throttles : ((new pause).rounds (before ++ [r])).state = .throttled)
    (failing : ∀ e ∈ errors, e.isError = true) (five : 5 ≤ errors.length) :
    Trips ((new pause).rounds (before ++ [r])) errors ↔ r.now + pause = 0 := by
  obtain ⟨normal, same⟩ := normal_of_unthrottled (b := new pause) rfl unthrottled
  have pauses : ((new pause).rounds before).pauseSeconds = pause := same
  rw [rounds_append, rounds_cons, rounds_nil] at throttles ⊢
  obtain ⟨held, until_⟩ := (round_normal normal r).2.resolve_left (by rw [throttles]; decide)
  rw [pauses] at until_
  generalize ((new pause).rounds before).round r = b at throttles held until_
  constructor
  · intro promised
    by_contra deadline
    obtain ⟨k, few, tripped⟩ := promised.trips
    have some : b.deadline = some (r.now + pause) := by
      rw [CircuitBreaker.deadline, until_]
      simp [deadline]
    have still : (b.rounds (errors.take k)).state = .throttled := by
      cases errors with
      | nil => exact absurd five (by simp)
      | cons e es =>
          cases k with
          | zero => exact held.state
          | succ k =>
              obtain ⟨error, others⟩ := List.forall_mem_cons.mp failing
              have taken : (es.take k).length ≤ k := List.length_take_le k es
              exact ((held.restart some error).rounds
                (fun e he => others e (List.mem_of_mem_take he)) (by omega)).state
    rw [still] at tripped
    cases tripped
  · intro zero
    have none : b.deadline = none := by
      rw [CircuitBreaker.deadline, until_, zero]
      simp
    have stuck : Stuck 0 b := ⟨held.state, none, Nat.le_zero.mp held.errors⟩
    refine ⟨⟨5, Nat.le_refl 5, ?_⟩, fun k cs tripped => tripped_calls tripped cs⟩
    have four : (errors.take 4).length = 4 := by
      rw [List.length_take]
      omega
    have failing_four : ∀ e ∈ errors.take 4, e.isError = true :=
      fun e he => failing e (List.mem_of_mem_take he)
    have counted := stuck.rounds failing_four (by omega)
    rw [four] at counted
    have last : errors.take 5 = errors.take 4 ++ [errors[4]] :=
      List.take_succ_eq_append_getElem (by omega)
    rw [last, rounds_append]
    exact (counted.round (failing _ (List.getElem_mem _))).2 (by omega)

/-! ### A target that fails again and again -/

/-- A round of a failing target: one second for the request. -/
def failing (now : Int) : Round Int where
  statusCode := some 503
  isTimeout := false
  now := now
  later := now
  checked := now - 1

/-- Ten errors, each of the last five after a pause: the breaker does not trip. -/
theorem failing_throttled :
    ¬ Trips ((new (10 : Int)).rounds ([1, 2, 3, 4].map failing ++ [failing 5]))
      ([16, 27, 38, 49, 60].map failing) := by
  intro trips
  have fresh : ∀ front ∈ ([1, 2, 3, 4].map failing).inits,
      ((new (10 : Int)).rounds front).state ≠ .throttled := by decide
  have zero := (trips_iff (fun front mem => fresh front ((List.mem_inits _ _).mpr mem)) (by decide)
    (by decide) (by decide)).mp trips
  exact absurd zero (by decide)

/-- After each of them it is throttled once more. -/
theorem failing_never_trips :
    ¬ ∀ (pause : Int) (before errors : List (Round Int)) (r : Round Int),
      (∀ front, front <+: before → ((new pause).rounds front).state ≠ .throttled) →
        ((new pause).rounds (before ++ [r])).state = .throttled →
        (∀ e ∈ errors, e.isError = true) → 5 ≤ errors.length →
          Trips ((new pause).rounds (before ++ [r])) errors := by
  intro all
  have fresh : ∀ front ∈ ([1, 2, 3, 4].map failing).inits,
      ((new (10 : Int)).rounds front).state ≠ .throttled := by decide
  obtain ⟨k, few, tripped⟩ := (all 10 ([1, 2, 3, 4].map failing) ([16, 27, 38, 49, 60].map failing)
    (failing 5) (fun front mem => fresh front ((List.mem_inits _ _).mpr mem)) (by decide) (by decide)
    (by decide)).trips
  have throttled : ∀ k ≤ 5, (((new (10 : Int)).rounds ([1, 2, 3, 4].map failing ++ [failing 5])).rounds
      (([16, 27, 38, 49, 60].map failing).take k)).state = .throttled := by decide
  rw [throttled k few] at tripped
  cases tripped

end CyberAssess.CircuitBreaker
