import CyberAssess.Support.Collections

/-!
# Support — checks made of every value

A `for` loop whose body only checks: it raises what the first refused value raises.

* `each_ok`: the loop passes exactly when every value does.
* `each_error`: it raises what the first value raises that is refused, those before it having passed.
* `each_perm`: whether it passes does not depend on the order.
-/

namespace Checked

variable {ε α : Type} {f : α → Except ε Unit} {xs ys : List α}

/-- `for x in xs: f(x)`. -/
def each (f : α → Except ε Unit) : List α → Except ε Unit
  | [] => .ok ()
  | x :: xs => do
      f x
      each f xs

theorem each_ok : each f xs = .ok () ↔ ∀ x ∈ xs, f x = .ok () := by
  induction xs with
  | nil => simp [each]
  | cons x xs ih => simp [each, bind_ok, exists_unit, ih]

theorem each_error {e : ε} :
    each f xs = .error e ↔ ∃ before x after, xs = before ++ x :: after ∧
      (∀ y ∈ before, f y = .ok ()) ∧ f x = .error e := by
  induction xs with
  | nil => simp [each]
  | cons x xs ih =>
      cases fx : f x with
      | error e' =>
          simp only [each, fx, bind, Except.bind, Except.error.injEq]
          constructor
          · rintro rfl
            exact ⟨[], x, xs, rfl, by simp, fx⟩
          · rintro ⟨before, y, after, h, passed, fy⟩
            cases before with
            | nil =>
                obtain ⟨rfl, rfl⟩ := List.cons.inj h
                simpa [fx] using fy
            | cons z before =>
                obtain ⟨rfl, -⟩ := List.cons.inj h
                simp [fx] at passed
      | ok u =>
          simp only [each, fx, bind, Except.bind, ih]
          constructor
          · rintro ⟨before, y, after, rfl, passed, fy⟩
            exact ⟨x :: before, y, after, rfl, by simpa [fx] using passed, fy⟩
          · rintro ⟨before, y, after, h, passed, fy⟩
            cases before with
            | nil =>
                obtain ⟨rfl, rfl⟩ := List.cons.inj h
                rw [fx] at fy
                cases fy
            | cons z before =>
                obtain ⟨rfl, rfl⟩ := List.cons.inj h
                exact ⟨before, y, after, rfl, fun w hw => passed w (List.mem_cons_of_mem _ hw), fy⟩

theorem each_perm (perm : xs.Perm ys) : each f xs = .ok () ↔ each f ys = .ok () := by
  simp only [each_ok]
  exact forall_congr' fun x => by rw [perm.mem_iff]

end Checked
