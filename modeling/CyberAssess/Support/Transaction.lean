import Mathlib.Tactic.Common

/-!
# Support — computations that keep what they wrote

A computation on a store that may raise, and leaves the store as far as it came.

* `Transaction σ ε α`: the exception is inside, the store outside.
* `outcome` is what it returned and the store it left; `outcome_bind` and its siblings compute it.
* `connection active m`: `m` in a connection of its own, which commits or rolls back, or in the one
  that is active, which does neither.
* `connection_raises`: without an active connection what raises leaves the store.
-/

/-- A computation that may raise, on a store that keeps what was written. -/
abbrev Transaction (σ ε α : Type) := ExceptT ε (StateM σ) α

namespace Transaction

variable {σ ε α β : Type}

/-- What came back, and the store that is left. -/
def outcome (m : Transaction σ ε α) (s : σ) : Except ε α × σ := Id.run (StateT.run (ExceptT.run m) s)

@[simp] theorem outcome_pure (a : α) (s : σ) :
    outcome (pure a : Transaction σ ε α) s = (.ok a, s) := rfl

@[simp] theorem outcome_throw (e : ε) (s : σ) :
    outcome (throw e : Transaction σ ε α) s = (.error e, s) := rfl

@[simp] theorem outcome_get (s : σ) : outcome (get : Transaction σ ε σ) s = (.ok s, s) := rfl

@[simp] theorem outcome_set (s t : σ) : outcome (set t : Transaction σ ε PUnit) s = (.ok ⟨⟩, t) := rfl

@[simp] theorem outcome_modify (f : σ → σ) (s : σ) :
    outcome (modify f : Transaction σ ε PUnit) s = (.ok ⟨⟩, f s) := rfl

/-- What follows starts from the store that is left. -/
theorem outcome_bind (m : Transaction σ ε α) (f : α → Transaction σ ε β) (s : σ) :
    outcome (m >>= f) s =
      match outcome m s with
      | (.ok a, t) => outcome (f a) t
      | (.error e, t) => (.error e, t) := by
  change ExceptT.bindCont f (outcome m s).1 (outcome m s).2 = _
  cases outcome m s with
  | mk r t => cases r <;> rfl

theorem outcome_bind_ok {m : Transaction σ ε α} {f : α → Transaction σ ε β} {s t : σ} {a : α}
    (h : outcome m s = (.ok a, t)) : outcome (m >>= f) s = outcome (f a) t := by
  rw [outcome_bind, h]

theorem outcome_bind_error {m : Transaction σ ε α} {f : α → Transaction σ ε β} {s t : σ} {e : ε}
    (h : outcome m s = (.error e, t)) : outcome (m >>= f) s = (.error e, t) := by
  rw [outcome_bind, h]

/-- A result that was computed without the store. -/
@[simp] theorem outcome_ofExcept (r : Except ε α) (s : σ) :
    outcome (ofExcept r : Transaction σ ε α) s = (r, s) := by
  cases r <;> rfl

/-- The handler starts from the store that is left. -/
theorem outcome_tryCatch (m : Transaction σ ε α) (handle : ε → Transaction σ ε α) (s : σ) :
    outcome (tryCatch m handle) s =
      match outcome m s with
      | (.ok a, t) => (.ok a, t)
      | (.error e, t) => outcome (handle e) t := by
  cases left : outcome m s with
  | mk r t =>
      have ran : StateT.run m s = (r, t) := left
      simp only [outcome, tryCatch, tryCatchThe, MonadExceptOf.tryCatch, ExceptT.tryCatch, ExceptT.run_mk,
        StateT.run_bind]
      rw [ran]
      cases r <;> rfl

/-- What is left of a connection that is closed: an exception rolls back. -/
def closed (s : σ) (r : Except ε α × σ) : Except ε α × σ :=
  match r.1 with
  | .ok _ => r
  | .error _ => (r.1, s)

/-- `with connection:`, in the active one or in one of its own. -/
def connection (active : Bool) (m : Transaction σ ε α) : Transaction σ ε α :=
  fun s => if active then outcome m s else closed s (outcome m s)

/-- The active connection is left to whoever opened it. -/
@[simp] theorem outcome_connection_active (m : Transaction σ ε α) (s : σ) :
    outcome (connection true m) s = outcome m s := rfl

@[simp] theorem outcome_connection_own (m : Transaction σ ε α) (s : σ) :
    outcome (connection false m) s = closed s (outcome m s) := rfl

/-- What returns is kept, in either. -/
theorem connection_returns {active : Bool} {m : Transaction σ ε α} {s t : σ} {a : α}
    (h : outcome m s = (.ok a, t)) : outcome (connection active m) s = (.ok a, t) := by
  cases active with
  | true => exact h
  | false => rw [outcome_connection_own, h, closed]

/-- What raises in a connection of its own leaves the store. -/
theorem connection_raises {m : Transaction σ ε α} {s t : σ} {e : ε}
    (h : outcome m s = (.error e, t)) : outcome (connection false m) s = (.error e, s) := by
  rw [outcome_connection_own, h, closed]

end Transaction
