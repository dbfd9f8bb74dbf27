import Mathlib.Data.List.Nodup
import CyberAssess.Support.Transition

/-!
# Support — a journal of tasks

Tasks are carried out in a fixed order. Before a task takes effect the journal says that it has
started; after it has taken effect the journal says that it is done. The process may stop anywhere in
between, so a journal may end with a task that was started and is not done, and that task may or may
not have taken effect.

* `script` is the journal of tasks carried out one after the other.
* `Step` is the abstract machine: a start, a task taking effect, its end, or nothing.
* `InOrder` is what every run of it keeps (`InOrder.step`), and what any system keeps whose steps are
  steps of it (`inOrder_of_simulation`).
* `InOrder.journal_isPrefix`, `InOrder.applied_isPrefix`: journal and effects are in the order of the tasks,
  with no gap. `InOrder.once`: with distinct tasks nothing is said twice.
* `InOrder.last_of_unfinished`: a task that was started and is not done is the last of the journal.
-/

namespace TaskJournal

open Transition (Reachable)

variable {τ : Type*}

/-- What a journal says of a task. -/
inductive Mark (τ : Type*) where
  | started (t : τ)
  | done (t : τ)
  deriving DecidableEq

/-- The journal of tasks carried out one after the other. -/
def script (tasks : List τ) : List (Mark τ) := tasks.flatMap fun t => [.started t, .done t]

@[simp] theorem script_nil : script ([] : List τ) = [] := rfl

@[simp] theorem script_cons (t : τ) (tasks : List τ) :
    script (t :: tasks) = .started t :: .done t :: script tasks := rfl

@[simp] theorem script_append (tasks more : List τ) :
    script (tasks ++ more) = script tasks ++ script more := by
  simp [script]

theorem started_mem_script {t : τ} {tasks : List τ} : .started t ∈ script tasks ↔ t ∈ tasks := by
  simp [script]

theorem done_mem_script {t : τ} {tasks : List τ} : .done t ∈ script tasks ↔ t ∈ tasks := by
  simp [script]

@[simp] theorem length_script (tasks : List τ) : (script tasks).length = 2 * tasks.length := by
  induction tasks with
  | nil => rfl
  | cons t tasks ih =>
      simp only [script_cons, List.length_cons, ih]
      omega

/-- Distinct tasks have a journal that says nothing twice. -/
theorem nodup_script {tasks : List τ} (distinct : tasks.Nodup) : (script tasks).Nodup := by
  induction tasks with
  | nil => simp
  | cons t tasks ih =>
      obtain ⟨fresh, distinct⟩ := List.nodup_cons.mp distinct
      simp only [script_cons, List.nodup_cons, List.mem_cons, reduceCtorEq, false_or,
        started_mem_script, done_mem_script]
      exact ⟨fresh, fresh, ih distinct⟩

/-! ### The abstract machine -/

/-- A journal, and the tasks that have taken effect. -/
@[ext] structure Progress (τ : Type*) where
  journal : List (Mark τ)
  applied : List τ

/-- Nothing yet. -/
def Progress.blank : Progress τ := ⟨[], []⟩

/-- A task is started when all before it are done, takes effect once, and is done after that. -/
inductive Step (tasks : List τ) : Progress τ → Progress τ → Prop where
  | idle (p : Progress τ) : Step tasks p p
  | start {finished rest : List τ} {t : τ} (next : tasks = finished ++ t :: rest) :
      Step tasks ⟨script finished, finished⟩ ⟨script finished ++ [.started t], finished⟩
  | effect {finished rest : List τ} {t : τ} (next : tasks = finished ++ t :: rest) :
      Step tasks ⟨script finished ++ [.started t], finished⟩
        ⟨script finished ++ [.started t], finished ++ [t]⟩
  | finish {finished rest : List τ} {t : τ} (next : tasks = finished ++ t :: rest) :
      Step tasks ⟨script finished ++ [.started t], finished ++ [t]⟩
        ⟨script (finished ++ [t]), finished ++ [t]⟩

/-- The tasks up to some point are done and no other has been started; or one more has been started,
and may have taken effect. -/
def InOrder (tasks : List τ) (p : Progress τ) : Prop :=
  ∃ finished rest, tasks = finished ++ rest ∧
    ((p.journal = script finished ∧ p.applied = finished) ∨
      ∃ t rest', rest = t :: rest' ∧ p.journal = script finished ++ [.started t] ∧
        (p.applied = finished ∨ p.applied = finished ++ [t]))

namespace InOrder

variable {tasks : List τ} {p q : Progress τ}

theorem blank : InOrder tasks Progress.blank := ⟨[], tasks, rfl, Or.inl ⟨rfl, rfl⟩⟩

/-- Every step keeps the order. -/
theorem step (h : InOrder tasks p) (s : Step tasks p q) : InOrder tasks q := by
  cases s with
  | idle => exact h
  | start next => exact ⟨_, _, next, Or.inr ⟨_, _, rfl, rfl, Or.inl rfl⟩⟩
  | effect next => exact ⟨_, _, next, Or.inr ⟨_, _, rfl, rfl, Or.inr rfl⟩⟩
  | finish next => exact ⟨_, _, by simpa using next, Or.inl ⟨rfl, rfl⟩⟩

/-- The journal is the beginning of the journal of all tasks. -/
theorem journal_isPrefix (h : InOrder tasks p) : p.journal <+: script tasks := by
  obtain ⟨finished, rest, rfl, ⟨journal, -⟩ | ⟨t, rest', rfl, journal, -⟩⟩ := h
  · rw [journal, script_append]
    exact List.prefix_append _ _
  · rw [journal, script_append, script_cons]
    exact ⟨.done t :: script rest', by simp⟩

/-- The effects are the first tasks. -/
theorem applied_isPrefix (h : InOrder tasks p) : p.applied <+: tasks := by
  obtain ⟨finished, rest, rfl, ⟨-, applied⟩ | ⟨t, rest', rfl, -, applied | applied⟩⟩ := h
  · rw [applied]
    exact List.prefix_append _ _
  · rw [applied]
    exact List.prefix_append _ _
  · rw [applied]
    exact ⟨rest', by simp⟩

/-- With distinct tasks nothing is said twice. -/
theorem once (h : InOrder tasks p) (distinct : tasks.Nodup) : p.journal.Nodup :=
  (nodup_script distinct).sublist h.journal_isPrefix.sublist

/-- What has taken effect was started. -/
theorem started_of_applied (h : InOrder tasks p) {t : τ} (ht : t ∈ p.applied) :
    .started t ∈ p.journal := by
  obtain ⟨finished, rest, rfl, ⟨journal, applied⟩ | ⟨u, rest', rfl, journal, applied | applied⟩⟩ := h
  · rw [journal, started_mem_script]
    exact applied ▸ ht
  · rw [journal, List.mem_append, started_mem_script]
    exact Or.inl (applied ▸ ht)
  · rw [journal, List.mem_append, started_mem_script]
    rw [applied, List.mem_append, List.mem_singleton] at ht
    exact ht.imp id (by rintro rfl; exact List.mem_singleton_self _)

/-- What is done has taken effect. -/
theorem applied_of_done (h : InOrder tasks p) {t : τ} (ht : .done t ∈ p.journal) :
    t ∈ p.applied := by
  obtain ⟨finished, rest, rfl, ⟨journal, applied⟩ | ⟨u, rest', rfl, journal, applied⟩⟩ := h
  · rw [journal, done_mem_script] at ht
    rw [applied]
    exact ht
  · have member : t ∈ finished := by
      simpa [journal, done_mem_script] using ht
    rcases applied with applied | applied
    · exact applied ▸ member
    · exact applied ▸ List.mem_append_left _ member

/-- A task that was started and is not done is the last the journal speaks of. -/
theorem last_of_unfinished (h : InOrder tasks p) {t : τ} (started : .started t ∈ p.journal)
    (unfinished : .done t ∉ p.journal) :
    ∃ finished rest, tasks = finished ++ t :: rest ∧ p.journal = script finished ++ [.started t] := by
  obtain ⟨finished, rest, rfl, ⟨journal, -⟩ | ⟨u, rest', rfl, journal, -⟩⟩ := h
  · rw [journal, started_mem_script] at started
    rw [journal, done_mem_script] at unfinished
    exact absurd started unfinished
  · rw [journal, List.mem_append, started_mem_script] at started
    rw [journal, List.mem_append, done_mem_script] at unfinished
    rcases started with before | last
    · exact absurd (Or.inl before) unfinished
    · obtain rfl : t = u := by simpa using last
      exact ⟨finished, rest', rfl, journal⟩

end InOrder

/-- A system whose steps are steps of the machine, under an invariant of its own, keeps the order. -/
theorem inOrder_of_simulation {σ ε : Type*} {tasks : List τ} {init : σ → Prop} {I : σ → Prop}
    {step : σ → ε → σ → Prop} (progress : σ → Progress τ)
    (begins : ∀ s, init s → I s ∧ progress s = Progress.blank)
    (simulates : ∀ s e t, I s → step s e t → I t ∧ Step tasks (progress s) (progress t)) {t : σ}
    (h : Reachable init step t) : InOrder tasks (progress t) := by
  refine (h.invariant (I := fun s => I s ∧ InOrder tasks (progress s)) ?_ ?_).2
  · intro s hs
    obtain ⟨inv, blank⟩ := begins s hs
    exact ⟨inv, blank ▸ InOrder.blank⟩
  · rintro s e u ⟨inv, order⟩ hs
    obtain ⟨inv', next⟩ := simulates s e u inv hs
    exact ⟨inv', order.step next⟩

end TaskJournal
