import Mathlib.Data.List.Count
import Mathlib.Tactic.Common

/-!
# Support — runs of a labelled transition system

States `σ`, labels `ε`, and a step relation between them.

* `Run` is a finite run with its labels in order, `Leads` what some run relates, `Reachable` the
  states runs from `init` end in.
* `Run.invariant`: what one step keeps, a run keeps; `Run.history` the same of state and labels.
* `Run.never`: an invariant that no labelled step is taken under keeps the label out of the run.
* `Run.until`: a run under an invariant, up to the step that ends it.
* `Run.after`: once a label has established an invariant, what follows runs under it.
* `Run.at_most_once`: a label that establishes an invariant it cannot be taken under occurs once.
* `Guarded` is the system whose steps all meet a condition.
-/

namespace Transition

variable {σ ε : Type*} {step : σ → ε → σ → Prop} {s t u : σ} {e : ε} {es fs : List ε}

/-- A run, with its labels in order. -/
inductive Run (step : σ → ε → σ → Prop) : σ → List ε → σ → Prop where
  | refl (s : σ) : Run step s [] s
  | more {s t u : σ} {e : ε} {es : List ε} (h : step s e t) (r : Run step t es u) :
      Run step s (e :: es) u

/-- `t` is where some run from an initial state ends. -/
def Reachable (init : σ → Prop) (step : σ → ε → σ → Prop) (t : σ) : Prop :=
  ∃ s es, init s ∧ Run step s es t

/-- The steps taken where `C` holds. -/
def Guarded (C : σ → ε → Prop) (step : σ → ε → σ → Prop) : σ → ε → σ → Prop :=
  fun s e t => C s e ∧ step s e t

/-- Some run leads from `s` to `t`. -/
def Leads (step : σ → ε → σ → Prop) (s t : σ) : Prop := ∃ es, Run step s es t

theorem Run.single (h : step s e t) : Run step s [e] t := .more h (.refl t)

theorem Run.append (r : Run step s es t) (q : Run step t fs u) : Run step s (es ++ fs) u := by
  induction r with
  | refl => exact q
  | more h _ ih => exact .more h (ih q)

/-- A run is cut at any label. -/
theorem Run.split {es : List ε} : ∀ {s : σ}, Run step s (es ++ fs) u →
    ∃ t, Run step s es t ∧ Run step t fs u := by
  induction es with
  | nil => exact fun r => ⟨_, .refl _, r⟩
  | cons e es ih =>
      intro s r
      cases r with
      | more h r =>
          obtain ⟨t, p, q⟩ := ih r
          exact ⟨t, .more h p, q⟩

/-- Every label of a run is a step of it. -/
theorem Run.fired {pre post : List ε} (r : Run step s (pre ++ e :: post) u) :
    ∃ t v, Run step s pre t ∧ step t e v ∧ Run step v post u := by
  obtain ⟨t, p, q⟩ := r.split
  cases q with
  | more h q => exact ⟨t, _, p, h, q⟩

/-- A run of a system is a run of any system with its steps. -/
theorem Run.mono {step' : σ → ε → σ → Prop} (h : ∀ s e t, step s e t → step' s e t)
    (r : Run step s es t) : Run step' s es t := by
  induction r with
  | refl s => exact .refl s
  | more h' _ ih => exact .more (h _ _ _ h') ih

/-- What one step keeps, a run keeps. -/
theorem Run.invariant {I : σ → Prop} (keep : ∀ s e t, I s → step s e t → I t)
    (r : Run step s es t) (h : I s) : I t := by
  induction r with
  | refl => exact h
  | more h' _ ih => exact ih (keep _ _ _ h h')

/-- What holds of the labels so far and the state, held by each step, holds at the end of a run. -/
theorem Run.history {H : List ε → σ → Prop}
    (keep : ∀ es s e t, H es s → step s e t → H (es ++ [e]) t) (r : Run step s es t) :
    ∀ {pre : List ε}, H pre s → H (pre ++ es) t := by
  induction r with
  | refl s =>
      intro pre h
      rw [List.append_nil]
      exact h
  | @more s t u e es h _ ih =>
      intro pre before
      have after := ih (keep pre s e t before h)
      rwa [List.append_assoc] at after

/-- Under an invariant that excludes `bad`, no label of a run is `bad`. -/
theorem Run.never {I : σ → Prop} {bad : ε → Prop} (keep : ∀ s e t, I s → step s e t → I t)
    (excl : ∀ s e t, I s → step s e t → ¬ bad e) (r : Run step s es t) (h : I s) :
    ∀ e ∈ es, ¬ bad e := by
  induction r with
  | refl => simp
  | more h' _ ih =>
      intro e he
      rcases List.mem_cons.mp he with rfl | he
      · exact excl _ _ _ h h'
      · exact ih (keep _ _ _ h h') e he

/-- A run under an invariant goes on without `bad` under it, up to its end or to a step that is `done`. -/
theorem Run.until {I : σ → Prop} {bad : ε → Prop} {done : σ → ε → σ → Prop}
    (keep : ∀ s e t, I s → step s e t → (I t ∧ ¬ bad e) ∨ done s e t) (r : Run step s es t) (h : I s) :
    (I t ∧ ∀ e ∈ es, ¬ bad e) ∨ ∃ pre e post u v, es = pre ++ e :: post ∧ Run step s pre u ∧
      step u e v ∧ Run step v post t ∧ (I u ∧ ∀ e ∈ pre, ¬ bad e) ∧ done u e v := by
  induction r with
  | refl s => exact Or.inl ⟨h, by simp⟩
  | @more s t u e es step r ih =>
      rcases keep s e t h step with ⟨kept, fine⟩ | ended
      · rcases ih kept with ⟨last, fines⟩ | ⟨pre, e', post, v, w, rfl, r₁, now, r₂, before, ended⟩
        · exact Or.inl ⟨last, List.forall_mem_cons.mpr ⟨fine, fines⟩⟩
        · exact Or.inr ⟨e :: pre, e', post, v, w, rfl, .more step r₁, now, r₂,
            ⟨before.1, List.forall_mem_cons.mpr ⟨fine, before.2⟩⟩, ended⟩
      · exact Or.inr ⟨[], e, es, s, t, rfl, .refl s, step, r, ⟨h, by simp⟩, ended⟩

/-- Once a label has established `I`, the labels after it meet what `I` allows. -/
theorem Run.after {I : σ → Prop} {bad : ε → Prop} {pre post : List ε}
    (est : ∀ s t, step s e t → I t) (keep : ∀ s e t, I s → step s e t → I t)
    (excl : ∀ s e t, I s → step s e t → ¬ bad e) (r : Run step s (pre ++ e :: post) u) :
    ∀ f ∈ post, ¬ bad f := by
  obtain ⟨t, v, -, h, q⟩ := r.fired
  exact q.never keep excl (est _ _ h)

/-- A label that establishes an invariant it cannot be taken under occurs at most once. -/
theorem Run.at_most_once {I : σ → Prop} {good : ε → Bool}
    (est : ∀ s e t, good e = true → step s e t → I t)
    (keep : ∀ s e t, I s → step s e t → I t)
    (excl : ∀ s e t, I s → step s e t → ¬ good e = true) (r : Run step s es u) :
    es.countP good ≤ 1 := by
  induction r with
  | refl => simp
  | @more s t u e es h r ih =>
      by_cases g : good e = true
      · have hz : es.countP good = 0 :=
          List.countP_eq_zero.mpr (r.never keep excl (est _ _ _ g h))
        rw [List.countP_cons_of_pos g]
        omega
      · rw [List.countP_cons_of_neg g]
        exact ih

theorem Leads.refl (s : σ) : Leads step s s := ⟨[], .refl s⟩

theorem Leads.single (h : step s e t) : Leads step s t := ⟨[e], .single h⟩

theorem Leads.trans (h : Leads step s t) (k : Leads step t u) : Leads step s u := by
  obtain ⟨es, r⟩ := h
  obtain ⟨fs, q⟩ := k
  exact ⟨es ++ fs, r.append q⟩

/-- What one step keeps, what it leads to has. -/
theorem Leads.invariant {I : σ → Prop} (keep : ∀ s e t, I s → step s e t → I t)
    (h : Leads step s t) (hs : I s) : I t := by
  obtain ⟨es, r⟩ := h
  exact r.invariant keep hs

theorem Reachable.refl {init : σ → Prop} (h : init s) : Reachable init step s :=
  ⟨s, [], h, .refl s⟩

theorem Reachable.more {init : σ → Prop} (h : Reachable init step s) (h' : step s e t) :
    Reachable init step t := by
  obtain ⟨s₀, es, h₀, r⟩ := h
  exact ⟨s₀, es ++ [e], h₀, r.append (.single h')⟩

theorem Reachable.leads {init : σ → Prop} (h : Reachable init step s) (k : Leads step s t) :
    Reachable init step t := by
  obtain ⟨s₀, es, h₀, r⟩ := h
  obtain ⟨fs, q⟩ := k
  exact ⟨s₀, es ++ fs, h₀, r.append q⟩

/-- An invariant of the initial states that steps keep holds of the reachable states. -/
theorem Reachable.invariant {init I : σ → Prop} (start : ∀ s, init s → I s)
    (keep : ∀ s e t, I s → step s e t → I t) (h : Reachable init step t) : I t := by
  obtain ⟨s₀, es, h₀, r⟩ := h
  exact r.invariant keep (start _ h₀)

theorem Reachable.mono {init : σ → Prop} {step' : σ → ε → σ → Prop}
    (h : ∀ s e t, step s e t → step' s e t) (r : Reachable init step t) :
    Reachable init step' t := by
  obtain ⟨s₀, es, h₀, r⟩ := r
  exact ⟨s₀, es, h₀, r.mono h⟩

end Transition
