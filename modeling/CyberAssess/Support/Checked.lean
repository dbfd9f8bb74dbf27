import Mathlib.Tactic.Common

/-!
# Support — checks that raise

Straight-line code over `Except`: a check either passes or raises its error, and a sequence
returns exactly where each of its parts does.

* `ensure p e` raises `e` unless `p`, `refuse p e` raises `e` where `p`; `require` raises where a
  value is missing, and `reraise` renames what is raised.
* `ensureEach` raises for the first of some named checks that fails.
* `bind_ok`: a sequence that returns, taken apart.
* `RaisesOnly Q x`: the errors of `x` satisfy `Q`; it holds of a sequence where it holds of each of
  its parts.
-/

namespace Checked

variable {ε α β : Type}

/-- `if not p: raise e`. -/
def ensure (p : Bool) (e : ε) : Except ε Unit := if p then .ok () else .error e

/-- `if p: raise e`. -/
def refuse (p : Bool) (e : ε) : Except ε Unit := if p then .error e else .ok ()

/-- The value that has to be there. -/
def require (x : Option α) (e : ε) : Except ε α := x.elim (.error e) .ok

/-- `try: x except e: raise f(e)`. -/
def reraise {ε' : Type} (f : ε → ε') : Except ε α → Except ε' α
  | .ok a => .ok a
  | .error e => .error (f e)

@[simp] theorem ensure_ok {p : Bool} {e : ε} {u : Unit} : ensure p e = .ok u ↔ p = true := by
  cases p <;> simp [ensure]

@[simp] theorem refuse_ok {p : Bool} {e : ε} {u : Unit} : refuse p e = .ok u ↔ p = false := by
  cases p <;> simp [refuse]

@[simp] theorem require_ok {x : Option α} {e : ε} {a : α} : require x e = .ok a ↔ x = some a := by
  cases x <;> simp [require]

@[simp] theorem reraise_ok {ε' : Type} {f : ε → ε'} {x : Except ε α} {a : α} :
    reraise f x = .ok a ↔ x = .ok a := by
  cases x <;> simp [reraise]

theorem ensure_error {p : Bool} {e e' : ε} : ensure p e = .error e' ↔ p = false ∧ e = e' := by
  cases p <;> simp [ensure]

/-- A sequence that returns has returned from its first part. -/
theorem bind_ok {x : Except ε α} {f : α → Except ε β} {b : β} :
    (x >>= f) = .ok b ↔ ∃ a, x = .ok a ∧ f a = .ok b := by
  cases x <;> simp [bind, Except.bind]

/-- A result is what is left of it without its error. -/
theorem toOption_eq_some {x : Except ε α} {a : α} : x.toOption = some a ↔ x = .ok a := by
  cases x <;> simp [Except.toOption]

/-- A result that is renamed comes from a result. -/
theorem map_ok {x : Except ε α} {f : α → β} {b : β} :
    x.map f = .ok b ↔ ∃ a, x = .ok a ∧ f a = b := by
  cases x <;> simp [Except.map]

/-- What a check returns is known. -/
theorem exists_unit {p : Unit → Prop} : (∃ u, p u) ↔ p () :=
  ⟨fun ⟨_, h⟩ => h, fun h => ⟨(), h⟩⟩

/-- A sequence raises where its first part does, or where the rest does after it. -/
theorem bind_unit_error {x : Except ε Unit} {f : Unit → Except ε β} {e : ε} :
    (x >>= f) = .error e ↔ x = .error e ∨ x = .ok () ∧ f () = .error e := by
  cases x <;> simp [bind, Except.bind]

/-- The named checks in order; the first that fails raises under its name. -/
def ensureEach (raise : String → ε) : List (String × Bool) → Except ε Unit
  | [] => .ok ()
  | (name, p) :: checks => do
      ensure p (raise name)
      ensureEach raise checks

@[simp] theorem ensureEach_ok {raise : String → ε} {u : Unit} :
    ∀ {checks : List (String × Bool)},
      ensureEach raise checks = .ok u ↔ ∀ c ∈ checks, c.2 = true
  | [] => by simp [ensureEach]
  | (name, p) :: checks => by
      rw [ensureEach, bind_ok, exists_unit, ensure_ok, ensureEach_ok, List.forall_mem_cons]

/-! ### What a sequence can raise -/

/-- Every error of `x` satisfies `Q`. -/
def RaisesOnly (Q : ε → Prop) (x : Except ε α) : Prop := ∀ e, x = .error e → Q e

variable {Q : ε → Prop}

/-- A result is no error. -/
theorem RaisesOnly.ok (a : α) : RaisesOnly Q (.ok a : Except ε α) := fun _ h => nomatch h

/-- One error. -/
theorem RaisesOnly.error {e : ε} (h : Q e) : RaisesOnly Q (.error e : Except ε α) := by
  intro e' he
  cases he
  exact h

/-- A check raises its error where it does not pass. -/
theorem RaisesOnly.ensure {p : Bool} {e : ε} (h : p = false → Q e) :
    RaisesOnly Q (ensure p e) := by
  intro e' he
  obtain ⟨hp, rfl⟩ := ensure_error.mp he
  exact h hp

/-- A sequence raises what its first part does, or what the rest does after it. -/
theorem RaisesOnly.bind {x : Except ε α} {f : α → Except ε β} (hx : RaisesOnly Q x)
    (hf : ∀ a, x = .ok a → RaisesOnly Q (f a)) : RaisesOnly Q (x >>= f) := by
  intro e h
  cases hr : x with
  | error e' =>
      rw [hr] at h
      cases h
      exact hx _ hr
  | ok a =>
      rw [hr] at h
      exact hf a hr e h

/-- A result that is renamed raises what it raised. -/
theorem RaisesOnly.map {x : Except ε α} {f : α → β} (hx : RaisesOnly Q x) :
    RaisesOnly Q (x.map f) := by
  intro e h
  cases hr : x with
  | error e' =>
      rw [hr] at h
      cases h
      exact hx _ hr
  | ok a =>
      rw [hr] at h
      cases h

end Checked
