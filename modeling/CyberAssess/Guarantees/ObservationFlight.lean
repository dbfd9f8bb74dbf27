import CyberAssess.Service.ObservationService

/-!
# Guarantees — observation single flight

What holds in every run of the observation service, whatever order its callers, threads, timeouts,
cancellations and event loops come in.

* `Micro` are the changes an action is made of, `micro_of_step` takes an action apart.
* `InFlight` is the invariant, kept by every change (`InFlight.micro`), so by every run.
* `performAll` runs actions in order, `reachable_performAll`.
* `observation_single_flight`: one operation in flight for an operation, execution and organization;
  results only of the same call; each result consumed once; no lifecycle begun over an unresolved
  operation.
-/

namespace CyberAssess

open SingleFlight Transition

namespace ObservationService

variable {V : Type} {h : ObservationHost V} {s t u : ObservationService V} {k : OperationKind}
  {n : Nat} {o : OwnedOperation V}

/-! ### Registries -/

@[simp] theorem registry_setRegistry (s : ObservationService V) (k k' : OperationKind)
    (r : OwnedRegistry V) : (s.setRegistry k r).registry k' = if k' = k then r else s.registry k' := by
  cases k <;> cases k' <;> rfl

@[simp] theorem waiters_setRegistry (s : ObservationService V) (k : OperationKind)
    (r : OwnedRegistry V) : (s.setRegistry k r).waiters = s.waiters := by cases k <;> rfl

@[simp] theorem loop_setRegistry (s : ObservationService V) (k : OperationKind)
    (r : OwnedRegistry V) : (s.setRegistry k r).loop = s.loop := by cases k <;> rfl

@[simp] theorem ready_setRegistry (s : ObservationService V) (k : OperationKind)
    (r : OwnedRegistry V) : (s.setRegistry k r).ready = s.ready := by cases k <;> rfl

@[simp] theorem lifecycles_setRegistry (s : ObservationService V) (k : OperationKind)
    (r : OwnedRegistry V) : (s.setRegistry k r).lifecycles = s.lifecycles := by cases k <;> rfl

theorem setRegistry_self (s : ObservationService V) (k : OperationKind) :
    s.setRegistry k (s.registry k) = s := by
  cases k <;> rfl

/-- Changes of nothing that a request, a wait or a completion depends on. -/
structure Quiet (s t : ObservationService V) : Prop where
  registry : t.registry = s.registry
  waiters : t.waiters = s.waiters
  loop : t.loop = s.loop
  ready : t.ready = s.ready
  lifecycles : t.lifecycles = s.lifecycles

theorem Quiet.refl (s : ObservationService V) : Quiet s s := ⟨rfl, rfl, rfl, rfl, rfl⟩

theorem Quiet.trans (a : Quiet s t) (b : Quiet t u) : Quiet s u :=
  ⟨b.registry.trans a.registry, b.waiters.trans a.waiters, b.loop.trans a.loop,
    b.ready.trans a.ready, b.lifecycles.trans a.lifecycles⟩

theorem quiet_record (s : ObservationService V) (message : String) :
    Quiet s (s.recordRecoveryError message) :=
  ⟨funext fun k => by cases k <;> rfl, rfl, rfl, rfl, rfl⟩

theorem quiet_recordCompletion (s : ObservationService V) (k : OperationKind)
    (o : OwnedOperation V) : Quiet s (s.recordCompletion h k o) := by
  rw [recordCompletion]
  split
  · exact quiet_record _ _
  · split
    · exact quiet_record _ _
    · exact .refl s
  · split
    · exact quiet_record _ _
    · exact .refl s
  · exact .refl s
  · exact .refl s

/-! ### Changes -/

/-- The changes an action is made of. -/
inductive Micro (h : ObservationHost V) : ObservationService V → ObservationService V → Prop where
  | quiet {s t : ObservationService V} (q : Quiet s t) : Micro h s t
  | consume {s : ObservationService V} {k : OperationKind} {n : Nat}
      (done : (s.registry k).isDone n = true) :
      Micro h s (s.setRegistry k ((s.registry k).consume n))
  | mark {s : ObservationService V} {k : OperationKind} {n : Nat}
      (change : OperationMarks → OperationMarks)
      (due : ∀ o, (s.registry k).operations[n]? = some o → (change o.marks).announced = true →
        o.marks.announced = true ∨
          o.future.done = true ∧ (o.request.loop = s.loop → (k, n) ∈ s.ready)) :
      Micro h s (s.setRegistry k ((s.registry k).mark n change))
  | submit {s : ObservationService V} {call : GuardedCall} {fingerprint : String}
      (written : call.fingerprint h.sha256 = some fingerprint)
      (free : (s.registry call.kind).held.lookup call.identity = none) :
      Micro h s (s.submit call fingerprint).2
  | advance {s : ObservationService V} {k : OperationKind} {n : Nat} {o : OwnedOperation V}
      {f : Future (Outcome V)} (found : (s.registry k).operations[n]? = some o)
      (advances : o.future.Advances f) : Micro h s (s.advance k n f)
  | enqueue {s : ObservationService V} {k : OperationKind} {n : Nat}
      (done : (s.registry k).isDone n = true) : Micro h s { s with ready := s.ready ++ [(k, n)] }
  | wait {s : ObservationService V} {call : GuardedCall} {n : Nat} {o : OwnedOperation V}
      (found : (s.registry call.kind).operations[n]? = some o)
      (same : call.fingerprint h.sha256 = some o.request.requestFingerprint) :
      Micro h s { s with waiters := s.waiters ++ [⟨call, n, s.loop, none⟩] }
  | answer {s : ObservationService V} {i : Nat} {w : Waiter V} {o : OwnedOperation V}
      {a : Answer V} (there : s.waiters[i]? = some w)
      (found : (s.registry w.call.kind).operations[w.operation]? = some o)
      (own : ∀ r, a = .outcome r → o.future = .finished r) : Micro h s (s.setAnswer i a)
  | unqueue {s : ObservationService V} {k : OperationKind} {n : Nat}
      {rest : List (OperationKind × Nat)} (head : s.ready = (k, n) :: rest)
      (gone : ∀ key, (key, n) ∉ (s.registry k).held) : Micro h s { s with ready := rest }
  | begin {s : ObservationService V} (free : ∀ k, (s.registry k).held = []) :
      Micro h s { s with lifecycles := s.lifecycles + 1 }
  | closeLoop {s : ObservationService V} : Micro h s { s with loop := s.loop + 1, ready := [] }

variable (h) in
/-- What some changes lead to. -/
def Changes (s t : ObservationService V) : Prop := Leads (fun s (_ : Unit) t => Micro h s t) s t

theorem Micro.changes (m : Micro h s t) : Changes h s t := .single (e := ()) m

theorem Quiet.changes (q : Quiet s t) : Changes h s t := (Micro.quiet q).changes

theorem Changes.refl (s : ObservationService V) : Changes h s s := Leads.refl s

theorem Changes.trans (a : Changes h s t) (b : Changes h t u) : Changes h s u := Leads.trans a b

/-! ### The invariant -/

variable (h) in
/-- An operation is kept under the identity of the call it was submitted with, by its fingerprint,
and its completion is announced after it. -/
structure Submitted (k : OperationKind) (s : ObservationService V) (o : OwnedOperation V) : Prop where
  kind : o.request.call.kind = k
  key : o.key = o.request.call.identity
  fingerprint : o.request.call.fingerprint h.sha256 = some o.request.requestFingerprint
  loop : o.request.loop ≤ s.loop
  announced : o.marks.announced = true → o.future.done = true

variable (h) in
/-- A waiter waits for an operation with its fingerprint, and what it was answered is its result. -/
def Awaits (s : ObservationService V) (w : Waiter V) : Prop :=
  ∃ o, (s.registry w.call.kind).operations[w.operation]? = some o ∧
    w.call.fingerprint h.sha256 = some o.request.requestFingerprint ∧
    ∀ r, w.answer = some (.outcome r) → o.future = .finished r

variable (h) in
/-- What holds in every state. -/
structure InFlight (s : ObservationService V) : Prop where
  sound : ∀ k, (s.registry k).Sound
  submitted : ∀ k (n : Nat) o, (s.registry k).operations[n]? = some o → Submitted h k s o
  awaits : ∀ w ∈ s.waiters, Awaits h s w
  queued : ∀ k (n : Nat) o, (s.registry k).operations[n]? = some o → o.marks.announced = true →
    (o.key, n) ∈ (s.registry k).held → o.request.loop = s.loop → (k, n) ∈ s.ready
  ready : ∀ e ∈ s.ready, (s.registry e.1).isDone e.2 = true
  current : ∀ k (n : Nat) o, (s.registry k).operations[n]? = some o →
    (o.key, n) ∈ (s.registry k).held → o.request.lifecycle = s.lifecycles

@[simp] theorem registry_initial (k : OperationKind) :
    (initial : ObservationService V).registry k = .empty := by
  cases k <;> rfl

theorem no_operation_initial (k : OperationKind) (n : Nat) (o : OwnedOperation V) :
    ((initial : ObservationService V).registry k).operations[n]? ≠ some o := by
  rw [registry_initial, Registry.empty, List.getElem?_nil]
  exact (Option.some_ne_none o).symm

theorem inFlight_initial : InFlight h (initial : ObservationService V) where
  sound k := by
    rw [registry_initial]
    exact Registry.sound_empty
  submitted k n o found := absurd found (no_operation_initial k n o)
  awaits w hw := absurd hw List.not_mem_nil
  queued k n o found := absurd found (no_operation_initial k n o)
  ready e he := absurd he List.not_mem_nil
  current k n o found := absurd found (no_operation_initial k n o)

theorem Submitted.later (sub : Submitted h k s o) (loop : s.loop ≤ t.loop) : Submitted h k t o :=
  ⟨sub.kind, sub.key, sub.fingerprint, sub.loop.trans loop, sub.announced⟩

theorem InFlight.quiet (inv : InFlight h s) (q : Quiet s t) : InFlight h t := by
  obtain ⟨regs, waiters, loop, ready, lifecycles⟩ := q
  refine ⟨?_, ?_, ?_, ?_, ?_, ?_⟩
  · rw [regs]
    exact inv.sound
  · rw [regs]
    intro k n o found
    exact (inv.submitted k n o found).later loop.ge
  · rw [waiters]
    intro w hw
    rw [Awaits, regs]
    exact inv.awaits w hw
  · rw [regs, loop, ready]
    exact inv.queued
  · rw [regs, ready]
    exact inv.ready
  · rw [regs, lifecycles]
    exact inv.current

theorem Awaits.mono {w : Waiter V} (a : Awaits h s w)
    (kept : ∀ k (n : Nat) o, (s.registry k).operations[n]? = some o →
      ∃ o', (t.registry k).operations[n]? = some o' ∧ o'.request = o.request ∧
        (o.future.done = true → o'.future = o.future)) : Awaits h t w := by
  obtain ⟨o, found, same, own⟩ := a
  obtain ⟨o', found', request, future⟩ := kept _ _ o found
  refine ⟨o', found', request ▸ same, fun r answer => ?_⟩
  have result := own r answer
  rw [future (by rw [result]; rfl), result]

/-- The invariant under a change of one operation. -/
theorem InFlight.rework (inv : InFlight h s) (k : OperationKind) (n : Nat)
    {f : OwnedOperation V → OwnedOperation V} (key : ∀ o, (f o).key = o.key)
    (request : ∀ o, (f o).request = o.request)
    (future : ∀ o, (s.registry k).operations[n]? = some o → o.future.done = true →
      (f o).future = o.future)
    (announced : ∀ o, (s.registry k).operations[n]? = some o → (f o).marks.announced = true →
      (f o).future.done = true ∧
        (o.marks.announced = true ∨ (o.request.loop = s.loop → (k, n) ∈ s.ready))) :
    InFlight h (s.setRegistry k ((s.registry k).rework n f)) := by
  have kept : ∀ k' (m : Nat) o, (s.registry k').operations[m]? = some o →
      ∃ o', ((s.setRegistry k ((s.registry k).rework n f)).registry k').operations[m]? = some o' ∧
        o'.request = o.request ∧ (o.future.done = true → o'.future = o.future) := by
    intro k' m o found
    rw [registry_setRegistry]
    split_ifs with here
    · subst here
      refine ⟨_, Registry.getElem?_rework.mpr ⟨o, found, rfl⟩, ?_⟩
      split_ifs with this
      · subst this
        exact ⟨request o, future o found⟩
      · exact ⟨rfl, fun _ => rfl⟩
    · exact ⟨o, found, rfl, fun _ => rfl⟩
  have origin : ∀ k' (m : Nat) o',
      ((s.setRegistry k ((s.registry k).rework n f)).registry k').operations[m]? = some o' →
      ∃ o, (s.registry k').operations[m]? = some o ∧ o'.key = o.key ∧ o'.request = o.request ∧
        (k' = k ∧ m = n ∧ o' = f o ∨ o' = o) := by
    intro k' m o' found
    rw [registry_setRegistry] at found
    split_ifs at found with here
    · subst here
      obtain ⟨o, before, rfl⟩ := Registry.getElem?_rework.mp found
      refine ⟨o, before, ?_⟩
      split_ifs with this
      · exact ⟨key o, request o, Or.inl ⟨rfl, this.symm, rfl⟩⟩
      · exact ⟨rfl, rfl, Or.inr rfl⟩
    · exact ⟨o', found, rfl, rfl, Or.inr rfl⟩
  have held : ∀ k', ((s.setRegistry k ((s.registry k).rework n f)).registry k').held =
      (s.registry k').held := by
    intro k'
    rw [registry_setRegistry]
    split_ifs with here
    · rw [here]
      rfl
    · rfl
  refine ⟨?_, ?_, ?_, ?_, ?_, ?_⟩
  · intro k'
    rw [registry_setRegistry]
    split_ifs with here
    · refine (inv.sound k).rework n key fun o found done => ?_
      rw [future o found done]
      exact done
    · exact inv.sound k'
  · intro k' m o' found
    obtain ⟨o, there, sameKey, sameRequest, which⟩ := origin k' m o' found
    obtain ⟨kind, key, fingerprint, past, finished⟩ := inv.submitted k' m o there
    refine ⟨by rw [sameRequest, kind], by rw [sameKey, sameRequest, key],
      by rw [sameRequest, fingerprint], ?_, ?_⟩
    · rw [sameRequest]
      rwa [loop_setRegistry]
    · rcases which with ⟨rfl, rfl, rfl⟩ | rfl
      · exact fun marked => (announced o there marked).1
      · exact finished
  · intro w hw
    rw [waiters_setRegistry] at hw
    exact (inv.awaits w hw).mono kept
  · intro k' m o' found marked there same
    obtain ⟨o, before, sameKey, sameRequest, which⟩ := origin k' m o' found
    rw [held, sameKey] at there
    rw [sameRequest, loop_setRegistry] at same
    rw [ready_setRegistry]
    rcases which with ⟨rfl, rfl, rfl⟩ | rfl
    · rcases (announced o before marked).2 with already | now
      · exact inv.queued k' m o before already there same
      · exact now same
    · exact inv.queued k' m o' before marked there same
  · intro e he
    rw [ready_setRegistry] at he
    obtain ⟨o, found, done⟩ := Registry.isDone_iff.mp (inv.ready e he)
    obtain ⟨o', found', -, result⟩ := kept e.1 e.2 o found
    exact Registry.isDone_iff.mpr ⟨o', found', by rw [result done]; exact done⟩
  · intro k' m o' found there
    obtain ⟨o, found, sameKey, sameRequest, -⟩ := origin k' m o' found
    rw [held, sameKey] at there
    rw [sameRequest, lifecycles_setRegistry]
    exact inv.current k' m o found there

theorem InFlight.consume (inv : InFlight h s) (done : (s.registry k).isDone n = true) :
    InFlight h (s.setRegistry k ((s.registry k).consume n)) := by
  have operations : ∀ k', ((s.setRegistry k ((s.registry k).consume n)).registry k').operations =
      (s.registry k').operations := by
    intro k'
    rw [registry_setRegistry]
    split_ifs with here
    · rw [Registry.operations_consume, here]
    · rfl
  have held : ∀ k' e, e ∈ ((s.setRegistry k ((s.registry k).consume n)).registry k').held →
      e ∈ (s.registry k').held := by
    intro k' e he
    rw [registry_setRegistry] at he
    split_ifs at he with here
    · rw [here]
      exact Registry.held_consume he
    · exact he
  refine ⟨?_, ?_, ?_, ?_, ?_, ?_⟩
  · intro k'
    rw [registry_setRegistry]
    split_ifs
    · exact (inv.sound k).consume done
    · exact inv.sound k'
  · intro k' m o found
    rw [operations] at found
    exact (inv.submitted k' m o found).later (loop_setRegistry s k _).ge
  · intro w hw
    rw [waiters_setRegistry] at hw
    obtain ⟨o, found, rest⟩ := inv.awaits w hw
    exact ⟨o, by rwa [operations], rest⟩
  · intro k' m o found marked there same
    rw [operations] at found
    rw [loop_setRegistry] at same
    rw [ready_setRegistry]
    exact inv.queued k' m o found marked (held _ _ there) same
  · intro e he
    rw [ready_setRegistry] at he
    rw [Registry.isDone, operations]
    exact inv.ready e he
  · intro k' m o found there
    rw [operations] at found
    rw [lifecycles_setRegistry]
    exact inv.current k' m o found (held _ _ there)

theorem InFlight.submit (inv : InFlight h s) {call : GuardedCall} {fingerprint : String}
    (written : call.fingerprint h.sha256 = some fingerprint)
    (free : (s.registry call.kind).held.lookup call.identity = none) :
    InFlight h (s.submit call fingerprint).2 := by
  -- an operation of the new state is an old one, or the one submitted
  have origin : ∀ k' (m : Nat) o, ((s.submit call fingerprint).2.registry k').operations[m]? = some o →
      (s.registry k').operations[m]? = some o ∨ k' = call.kind ∧
        m = (s.registry k').operations.length ∧ o = ⟨call.identity,
          ⟨call, fingerprint, s.loop, s.lifecycles⟩, ⟨false, false, false, false⟩, .pending⟩ := by
    intro k' m o found
    rw [ObservationService.submit, registry_setRegistry] at found
    split_ifs at found with here
    · subst here
      rcases Registry.getElem?_concat_some.mp found with old | ⟨last, rfl⟩
      · exact Or.inl old
      · exact Or.inr ⟨rfl, last, rfl⟩
    · exact Or.inl found
  have kept : ∀ k' (m : Nat) o, (s.registry k').operations[m]? = some o →
      ((s.submit call fingerprint).2.registry k').operations[m]? = some o := by
    intro k' m o found
    rw [ObservationService.submit, registry_setRegistry]
    split_ifs with here
    · subst here
      exact Registry.getElem?_concat_some.mpr (Or.inl found)
    · exact found
  have held : ∀ k' (m : Nat) o, (s.registry k').operations[m]? = some o →
      (o.key, m) ∈ ((s.submit call fingerprint).2.registry k').held →
      (o.key, m) ∈ (s.registry k').held := by
    intro k' m o found there
    rw [ObservationService.submit, registry_setRegistry] at there
    split_ifs at there with here
    · subst here
      rcases List.mem_append.mp there with before | now
      · exact before
      · have last := (Prod.mk.inj (List.mem_singleton.mp now)).2
        exact absurd (List.getElem?_eq_some_iff.mp found).1 (by rw [last]; exact lt_irrefl _)
    · exact there
  refine ⟨?_, ?_, ?_, ?_, ?_, ?_⟩
  · intro k'
    rw [ObservationService.submit, registry_setRegistry]
    split_ifs
    · exact (inv.sound call.kind).submit free _ _
    · exact inv.sound k'
  · intro k' m o found
    rcases origin k' m o found with old | ⟨rfl, -, rfl⟩
    · exact (inv.submitted k' m o old).later (loop_setRegistry s _ _).ge
    · exact ⟨rfl, rfl, written, by rw [ObservationService.submit, loop_setRegistry], by rintro ⟨⟩⟩
  · intro w hw
    rw [ObservationService.submit, waiters_setRegistry] at hw
    obtain ⟨o, found, rest⟩ := inv.awaits w hw
    exact ⟨o, kept _ _ o found, rest⟩
  · intro k' m o found marked there same
    rw [ObservationService.submit, loop_setRegistry] at same
    rw [ObservationService.submit, ready_setRegistry]
    rcases origin k' m o found with old | ⟨-, -, rfl⟩
    · exact inv.queued k' m o old marked (held k' m o old there) same
    · cases marked
  · intro e he
    rw [ObservationService.submit, ready_setRegistry] at he
    obtain ⟨o, found, done⟩ := Registry.isDone_iff.mp (inv.ready e he)
    exact Registry.isDone_iff.mpr ⟨o, kept _ _ o found, done⟩
  · intro k' m o found there
    rw [ObservationService.submit, lifecycles_setRegistry]
    rcases origin k' m o found with old | ⟨-, -, rfl⟩
    · exact inv.current k' m o old (held k' m o old there)
    · rfl

/-- Every change keeps the invariant. -/
theorem InFlight.micro (inv : InFlight h s) (m : Micro h s t) : InFlight h t := by
  cases m with
  | quiet q => exact inv.quiet q
  | consume done => exact inv.consume done
  | @mark k n change due =>
      refine inv.rework k n (fun _ => rfl) (fun _ => rfl) (fun _ _ _ => rfl) fun o found marked => ?_
      rcases due o found marked with before | ⟨done, queued⟩
      · exact ⟨(inv.submitted k n o found).announced before, Or.inl before⟩
      · exact ⟨done, Or.inr queued⟩
  | submit written free => exact inv.submit written free
  | @advance k n o f found advances =>
      have only : ∀ o', (s.registry k).operations[n]? = some o' → o'.future.done = false := by
        intro o' found'
        rw [← Option.some.inj (found.symm.trans found')]
        exact advances.not_done
      refine inv.rework k n (fun _ => rfl) (fun _ => rfl) (fun o' found' done => ?_)
        fun o' found' marked => ?_
      · rw [only o' found'] at done
        exact nomatch done
      · have done := (inv.submitted k n o' found').announced marked
        rw [only o' found'] at done
        exact nomatch done
  | @enqueue k n done =>
      refine ⟨inv.sound, ?_, inv.awaits, ?_, ?_, inv.current⟩
      · exact fun k' m o found => (inv.submitted k' m o found).later (le_refl _)
      · intro k' m o found marked there same
        exact List.mem_append_left _ (inv.queued k' m o found marked there same)
      · intro e he
        rcases List.mem_append.mp he with before | now
        · exact inv.ready e before
        · rw [List.mem_singleton.mp now]
          exact done
  | @wait call n o found same =>
      refine ⟨inv.sound, ?_, ?_, inv.queued, inv.ready, inv.current⟩
      · exact fun k' m o found => (inv.submitted k' m o found).later (le_refl _)
      · intro w hw
        rcases List.mem_append.mp hw with before | now
        · exact inv.awaits w before
        · rw [List.mem_singleton.mp now]
          exact ⟨o, found, same, nofun⟩
  | @answer i w o a there found own =>
      refine ⟨inv.sound, ?_, ?_, inv.queued, inv.ready, inv.current⟩
      · exact fun k' m o found => (inv.submitted k' m o found).later (le_refl _)
      · intro v hv
        obtain ⟨j, hj⟩ := List.mem_iff_getElem?.mp hv
        rw [setAnswer, List.getElem?_modify] at hj
        obtain ⟨v', hv', rfl⟩ := Option.map_eq_some_iff.mp hj
        have awaits := inv.awaits v' (List.mem_of_getElem? hv')
        by_cases here : i = j
        · subst here
          rw [if_pos rfl]
          obtain rfl : w = v' := Option.some.inj (there.symm.trans hv')
          obtain ⟨o', found', same, -⟩ := awaits
          obtain rfl : o = o' := Option.some.inj (found.symm.trans found')
          exact ⟨o, found, same, fun r answered => own r (Option.some.inj answered)⟩
        · rw [if_neg here]
          exact awaits
  | @unqueue k n rest head gone =>
      refine ⟨inv.sound, ?_, inv.awaits, ?_, ?_, inv.current⟩
      · exact fun k' m o found => (inv.submitted k' m o found).later (le_refl _)
      · intro k' m o found marked there same
        have queued := inv.queued k' m o found marked there same
        rw [head] at queued
        rcases List.mem_cons.mp queued with first | later
        · obtain ⟨rfl, rfl⟩ := Prod.mk.inj first
          exact absurd there (gone o.key)
        · exact later
      · intro e he
        refine inv.ready e ?_
        rw [head]
        exact List.mem_cons_of_mem _ he
  | begin free =>
      refine ⟨inv.sound, ?_, inv.awaits, inv.queued, inv.ready, ?_⟩
      · exact fun k' m o found => (inv.submitted k' m o found).later (le_refl _)
      · intro k' m o found there
        have held : (o.key, m) ∈ (s.registry k').held := there
        rw [free k'] at held
        exact nomatch held
  | closeLoop =>
      refine ⟨inv.sound, ?_, inv.awaits, ?_, nofun, inv.current⟩
      · exact fun k' m o found => (inv.submitted k' m o found).later (Nat.le_succ _)
      · intro k' m o found marked there same
        have past := (inv.submitted k' m o found).loop
        exact absurd past (by rw [same]; exact Nat.not_succ_le_self _)

theorem InFlight.changes (inv : InFlight h s) (c : Changes h s t) : InFlight h t :=
  Leads.invariant (fun _ _ _ inv m => inv.micro m) c inv

/-! ### Completions -/

theorem Quiet.registry_eq (q : Quiet s t) (k : OperationKind) : t.registry k = s.registry k := by
  rw [q.registry]

/-- A completion is the registry's, and a record. -/
theorem quiet_consumeCompletion (s : ObservationService V) (k : OperationKind) (n : Nat) :
    Quiet (s.setRegistry k ((s.registry k).consume n)) (s.consumeCompletion h k n) := by
  rw [consumeCompletion]
  cases found : (s.registry k).operations[n]? with
  | none =>
      have same : (s.registry k).consume n = s.registry k := by rw [Registry.consume, found]
      rw [same, setRegistry_self]
      exact .refl s
  | some o =>
      by_cases held : (s.registry k).held.lookup o.key = some n
      · simp only [held, if_true]
        exact quiet_recordCompletion _ k o
      · have same : (s.registry k).consume n = s.registry k := by
          rw [Registry.consume, found]
          exact if_neg held
        simp only [held, if_false]
        rw [same, setRegistry_self]
        exact .refl s

theorem changes_consumeCompletion (done : (s.registry k).isDone n = true) :
    Changes h s (s.consumeCompletion h k n) :=
  (Micro.consume done).changes.trans (quiet_consumeCompletion s k n).changes

theorem registry_consumeCompletion (s : ObservationService V) (k k' : OperationKind) (n : Nat) :
    (s.consumeCompletion h k n).registry k' =
      if k' = k then (s.registry k).consume n else s.registry k' := by
  rw [(quiet_consumeCompletion s k n).registry_eq, registry_setRegistry]

theorem registry_settleCompletion (s : ObservationService V) (k k' : OperationKind) (n : Nat) :
    (s.settleCompletion h k n).registry k' =
      if k' = k then (s.registry k).settle n else s.registry k' := by
  rw [settleCompletion, Registry.settle]
  by_cases done : (s.registry k).isDone n = true
  · rw [if_pos done, if_pos done, registry_consumeCompletion]
  · rw [if_neg done, if_neg done]
    split_ifs with here
    · rw [here]
    · rfl

theorem changes_settleCompletion (s : ObservationService V) (k : OperationKind) (n : Nat) :
    Changes h s (s.settleCompletion h k n) := by
  rw [settleCompletion]
  split_ifs with done
  · exact changes_consumeCompletion done
  · exact .refl s

theorem registry_foldl_settle (k k' : OperationKind) (ns : List Nat) (s : ObservationService V) :
    (ns.foldl (fun s n => s.settleCompletion h k n) s).registry k' =
      if k' = k then ns.foldl (fun r n => r.settle n) (s.registry k) else s.registry k' := by
  induction ns generalizing s with
  | nil =>
      split_ifs with here
      · rw [here]
        rfl
      · rfl
  | cons n ns ih =>
      rw [List.foldl_cons, ih, registry_settleCompletion, registry_settleCompletion, if_pos rfl]
      split_ifs <;> rfl

theorem changes_foldl_settle (k : OperationKind) (ns : List Nat) (s : ObservationService V) :
    Changes h s (ns.foldl (fun s n => s.settleCompletion h k n) s) := by
  induction ns generalizing s with
  | nil => exact .refl s
  | cons n ns ih => exact (changes_settleCompletion s k n).trans (ih _)

/-- Reconciliation drains both registries. -/
@[simp] theorem registry_reconcileCompleted (s : ObservationService V) (k : OperationKind) :
    (s.reconcileCompleted h).registry k = (s.registry k).drain := by
  rw [reconcileCompleted, reconcileKind, registry_foldl_settle, pendingNumbers, reconcileKind,
    registry_foldl_settle, registry_foldl_settle, pendingNumbers]
  cases k <;> rfl

theorem changes_reconcileCompleted (s : ObservationService V) :
    Changes h s (s.reconcileCompleted h) :=
  (changes_foldl_settle _ _ _).trans (changes_foldl_settle _ _ _)

/-! ### Requests and waits -/

theorem changes_submit (call : GuardedCall) {fingerprint : String}
    (written : call.fingerprint h.sha256 = some fingerprint)
    (free : (s.registry call.kind).held.lookup call.identity = none) :
    Changes h s { (s.submit call fingerprint).2 with
      waiters := (s.submit call fingerprint).2.waiters ++
        [⟨call, (s.submit call fingerprint).1, (s.submit call fingerprint).2.loop, none⟩] } := by
  have found : ((s.submit call fingerprint).2.registry call.kind).operations[
      (s.submit call fingerprint).1]? = some ⟨call.identity,
        ⟨call, fingerprint, s.loop, s.lifecycles⟩, ⟨false, false, false, false⟩, .pending⟩ := by
    rw [submit, registry_setRegistry, if_pos rfl]
    exact Registry.getElem?_concat_some.mpr (Or.inr ⟨rfl, rfl⟩)
  exact (Micro.submit written free).changes.trans (Micro.wait found written).changes

/-- A request joins the operation pending under its identity, submits one, or is refused. -/
theorem changes_request (inv : InFlight h s) (call : GuardedCall) :
    Changes h s (s.request h call) := by
  rw [request, getOrSubmit]
  cases written : call.fingerprint h.sha256 with
  | none => exact .refl s
  | some fingerprint =>
      cases holding : (s.registry call.kind).holding call.identity with
      | none =>
          exact changes_submit call written ((inv.sound call.kind).free holding)
      | some e =>
          obtain ⟨n, o⟩ := e
          obtain ⟨held, found⟩ := Registry.holding_some holding
          by_cases done : o.future.done = true
          · simp only [done, if_true]
            have finished := changes_consumeCompletion (h := h)
              (Registry.isDone_iff.mpr ⟨o, found, done⟩)
            refine finished.trans (changes_submit call written ?_)
            rw [registry_consumeCompletion, if_pos rfl]
            exact (inv.sound call.kind).free_consume holding
          · by_cases same : o.request.requestFingerprint = fingerprint
            · simp only [done, same, if_true]
              exact (Micro.wait found (same ▸ written)).changes
            · simp only [done, same, if_false]
              exact .refl s

theorem waiting_some {i : Nat} {w : Waiter V} (found : s.waiting i = some (w, o)) :
    s.waiters[i]? = some w ∧ (s.registry w.call.kind).operations[w.operation]? = some o := by
  obtain ⟨w', there, rest⟩ := Option.bind_eq_some_iff.mp found
  split_ifs at rest with here
  obtain ⟨o', operation, same⟩ := Option.map_eq_some_iff.mp rest
  obtain ⟨rfl, rfl⟩ := Prod.mk.inj same
  exact ⟨there, operation⟩

/-- A mark and its record, where the mark is not the announcement. -/
theorem changes_mark (k : OperationKind) (n : Nat) (change : OperationMarks → OperationMarks)
    (same : ∀ m, (change m).announced = m.announced) (condition : String) (o : OwnedOperation V) :
    Changes h s ((s.setRegistry k ((s.registry k).mark n change)).recordPending k condition o) := by
  have marked : Changes h s (s.setRegistry k ((s.registry k).mark n change)) :=
    (Micro.mark change fun _ _ announced => Or.inl (same _ ▸ announced)).changes
  exact marked.trans (quiet_record _ _).changes

theorem changes_markTimedOut (k : OperationKind) (n : Nat) (o : OwnedOperation V) :
    Changes h s (s.markTimedOut k n o) :=
  changes_mark k n (fun m => { m with callerTimedOut := true }) (fun _ => rfl) "timed out" o

theorem changes_markInterrupted (k : OperationKind) (n : Nat) (o : OwnedOperation V) :
    Changes h s (s.markInterrupted k n o) :=
  changes_mark k n (fun m => { m with callerInterrupted := true }) (fun _ => rfl)
    "caller interrupted" o

/-- A mark leaves the waiters, and the futures. -/
theorem waiting_mark {i : Nat} {w : Waiter V} (found : s.waiting i = some (w, o)) (k : OperationKind)
    (n : Nat) (change : OperationMarks → OperationMarks) (condition : String) (p : OwnedOperation V)
    {t : ObservationService V}
    (marked : t = (s.setRegistry k ((s.registry k).mark n change)).recordPending k condition p) :
    t.waiters[i]? = some w ∧ ∃ o', (t.registry w.call.kind).operations[w.operation]? = some o' ∧
      o'.future = o.future := by
  obtain ⟨there, operation⟩ := waiting_some found
  have quiet := quiet_record (s.setRegistry k ((s.registry k).mark n change))
    (operationText (kindText k ++ " " ++ condition) p "")
  subst marked
  refine ⟨by rw [recordPending, quiet.waiters, waiters_setRegistry]; exact there, ?_⟩
  rw [recordPending, quiet.registry_eq, registry_setRegistry]
  split_ifs with here
  · subst here
    refine ⟨_, Registry.getElem?_rework.mpr ⟨o, operation, rfl⟩, ?_⟩
    split_ifs <;> rfl
  · exact ⟨o, operation, rfl⟩

/-- An answer that is not a result. -/
theorem changes_setAnswer {i : Nat} {w : Waiter V} {a : Answer V} (there : s.waiters[i]? = some w)
    (found : ∃ o, (s.registry w.call.kind).operations[w.operation]? = some o ∧
      ∀ r, a = .outcome r → o.future = .finished r) : Changes h s (s.setAnswer i a) := by
  obtain ⟨o, operation, own⟩ := found
  exact (Micro.answer there operation own).changes

theorem changes_timeOut {i : Nat} (h' : s.timeOut i = some t) : Changes h s t := by
  obtain ⟨⟨w, o⟩, found, rfl⟩ := Option.map_eq_some_iff.mp h'
  obtain ⟨there, o', operation, -⟩ := waiting_mark found _ _ _ _ _ rfl
  exact (changes_markTimedOut _ _ o).trans (changes_setAnswer there ⟨o', operation, nofun⟩)

theorem changes_interrupt {i : Nat} (h' : s.interrupt i = some t) : Changes h s t := by
  obtain ⟨⟨w, o⟩, found, rfl⟩ := Option.map_eq_some_iff.mp h'
  obtain ⟨there, o', operation, -⟩ := waiting_mark found _ _ _ _ _ rfl
  exact (changes_markInterrupted _ _ o).trans (changes_setAnswer there ⟨o', operation, nofun⟩)

/-- What is delivered is the result of the operation waited for. -/
theorem changes_deliver {i : Nat} (h' : s.deliver i = some t) : Changes h s t := by
  obtain ⟨⟨w, o⟩, found, h'⟩ := Option.bind_eq_some_iff.mp h'
  obtain ⟨there, operation⟩ := waiting_some found
  cases future : o.future with
  | pending => simp only [future, reduceCtorEq] at h'
  | running => simp only [future, reduceCtorEq] at h'
  | cancelled =>
      simp only [future, Option.some.injEq] at h'
      subst h'
      obtain ⟨there, o', operation, -⟩ := waiting_mark found _ _ _ _ _ rfl
      exact (changes_markInterrupted _ _ o).trans (changes_setAnswer there ⟨o', operation, nofun⟩)
  | finished result =>
      have own : ∀ r, Answer.outcome result = .outcome r → o.future = .finished r := by
        rintro r ⟨⟩
        exact future
      cases result with
      | ok v =>
          simp only [future, Option.some.injEq] at h'
          subst h'
          exact changes_setAnswer there ⟨o, operation, own⟩
      | error e =>
          simp only [future] at h'
          split_ifs at h'
          · obtain rfl := Option.some.inj h'
            obtain ⟨there, o', operation, same⟩ := waiting_mark found _ _ _ _ _ rfl
            exact (changes_markTimedOut _ _ o).trans
              (changes_setAnswer there ⟨o', operation, fun r a => same.trans (own r a)⟩)
          · obtain rfl := Option.some.inj h'
            exact changes_setAnswer there ⟨o, operation, own⟩

/-! ### The lifecycle -/

theorem changes_markShutdown (k : OperationKind) (ns : List Nat) (s : ObservationService V) :
    Changes h s (s.markShutdown k ns) := by
  rw [markShutdown]
  induction ns generalizing s with
  | nil => exact .refl s
  | cons n ns ih =>
      rw [List.foldl_cons]
      refine Changes.trans ?_ (ih _)
      cases (s.registry k).operations[n]? with
      | none => exact .refl s
      | some o =>
          exact changes_mark k n (fun m => { m with shutdownPending := true }) (fun _ => rfl)
            "pending at shutdown" o

theorem changes_stopWorkers (s : ObservationService V) : Changes h s s.stopWorkers.2 := by
  rw [stopWorkers]
  split_ifs <;> exact .refl s

theorem changes_stopCancellations (s : ObservationService V) :
    Changes h s s.stopCancellations.2 := by
  rw [stopCancellations]
  split_ifs
  · exact changes_stopWorkers s
  · exact changes_markShutdown _ _ s

theorem changes_stopWrites (s : ObservationService V) : Changes h s s.stopWrites.2 := by
  rw [stopWrites]
  split_ifs
  · exact changes_stopCancellations s
  · exact changes_markShutdown _ _ s

theorem changes_stopBegins (s : ObservationService V) : Changes h s (s.stopBegins h).2 := by
  refine (changes_reconcileCompleted s).trans ?_
  rw [stopBegins]
  cases (s.reconcileCompleted h).task with
  | none => exact changes_stopWrites _
  | some t => exact .refl _

theorem quiet_recordWaited (s : ObservationService V) (waited : Waited) :
    Quiet s (s.recordWaited waited) := by
  cases waited with
  | ended => exact .refl s
  | timedOut => exact quiet_record s _
  | failed typeName => exact quiet_record s _

theorem quiet_keepLifecycle (s : ObservationService V) (task : Nat) :
    Quiet s (s.keepLifecycle task) := by
  rw [keepLifecycle]
  split_ifs <;> exact ⟨rfl, rfl, rfl, rfl, rfl⟩

theorem quiet_recordShutdown (s : ObservationService V) (k : OperationKind) (message : String) :
    Quiet s (s.recordShutdown k message) := by
  rw [recordShutdown]
  split_ifs
  · exact .refl s
  · exact quiet_record s _

theorem changes_stopResumes {waited : Waited} {point next : StopPoint}
    (h' : s.stopResumes waited point = some (next, t)) : Changes h s t := by
  cases point with
  | lifecycle task =>
      obtain rfl : _ = t := congrArg Prod.snd (Option.some.inj h')
      exact ((quiet_recordWaited s waited).trans (quiet_keepLifecycle _ task)).changes.trans
        (changes_stopWrites _)
  | writes =>
      obtain rfl : _ = t := congrArg Prod.snd (Option.some.inj h')
      exact (quiet_recordShutdown s _ _).changes.trans (changes_stopCancellations _)
  | cancellations =>
      obtain rfl : _ = t := congrArg Prod.snd (Option.some.inj h')
      exact (quiet_recordShutdown s _ _).changes.trans (changes_stopWorkers _)
  | workers tasks =>
      obtain rfl : _ = t := congrArg Prod.snd (Option.some.inj h')
      split_ifs <;> exact .refl s
  | cancelledWorkers tasks =>
      obtain rfl : _ = t := congrArg Prod.snd (Option.some.inj h')
      split_ifs
      · exact .refl s
      · exact (quiet_record s _).changes
  | ended => exact nomatch h'

/-- A lifecycle begins where nothing is pending. -/
theorem startReconciled_begun {task : Nat} (h' : s.startReconciled = (.begun task, t)) :
    (∀ k, (s.registry k).held = []) ∧ ∀ k, t.registry k = s.registry k := by
  rw [startReconciled] at h'
  split_ifs at h' with writes cancellations workers stopping
  · exact nomatch congrArg Prod.fst h'
  · exact nomatch congrArg Prod.fst h'
  · exact nomatch congrArg Prod.fst h'
  · exact nomatch congrArg Prod.fst h'
  · obtain rfl : _ = t := congrArg Prod.snd h'
    refine ⟨fun k => ?_, fun k => by cases k <;> rfl⟩
    cases k with
    | durableWrite => exact not_not.mp writes
    | supervisorCancellation => exact not_not.mp cancellations

theorem changes_startReconciled (s : ObservationService V) : Changes h s s.startReconciled.2 := by
  rw [startReconciled]
  split_ifs with writes cancellations workers stopping
  · exact .refl s
  · exact .refl s
  · exact .refl s
  · exact .refl s
  · have free : ∀ k, (s.registry k).held = [] := by
      intro k
      cases k with
      | durableWrite => exact not_not.mp writes
      | supervisorCancellation => exact not_not.mp cancellations
    have begun : Changes h s { s with lifecycles := s.lifecycles + 1 } := (Micro.begin free).changes
    exact begun.trans (Quiet.changes ⟨rfl, rfl, rfl, rfl, rfl⟩)

theorem changes_start (s : ObservationService V) : Changes h s (s.start h).2 := by
  rw [start]
  split_ifs
  · exact .refl s
  · exact (changes_reconcileCompleted s).trans (changes_startReconciled _)

theorem changes_requiresReconciliation (executionId organizationId : String) :
    Changes h s (s.requiresReconciliation h executionId organizationId).2 := by
  refine (changes_reconcileCompleted s).trans ?_
  rw [requiresReconciliation]
  generalize s.reconcileCompleted h = r
  rw [cancellationPending]
  cases holding : r.pendingSupervisorCancellations.holding
      (supervisorCancellationIdentity executionId organizationId) with
  | none => exact .refl r
  | some e =>
      obtain ⟨n, o⟩ := e
      obtain ⟨-, found⟩ := Registry.holding_some holding
      have consumed : Changes h r
          (if o.future.done then r.consumeCompletion h .supervisorCancellation n else r) := by
        split_ifs with done
        · exact changes_consumeCompletion (k := .supervisorCancellation)
            (Registry.isDone_iff.mpr ⟨o, found, done⟩)
        · exact .refl r
      refine consumed.trans ?_
      simp only
      generalize (if o.future.done then r.consumeCompletion h .supervisorCancellation n else r) = u
      cases u.pendingSupervisorCancellations.holding
          (supervisorCancellationIdentity executionId organizationId) with
      | none => exact .refl u
      | some e => exact (quiet_record u _).changes

/-! ### Steps -/

theorem changes_scheduleCompletion (found : (s.registry k).operations[n]? = some o)
    (done : o.future.done = true) : Changes h s (s.scheduleCompletion k n o) := by
  have finished : (s.registry k).isDone n = true := Registry.isDone_iff.mpr ⟨o, found, done⟩
  have only : ∀ p, (s.registry k).operations[n]? = some p → p = o :=
    fun p there => Option.some.inj (there.symm.trans found)
  rw [scheduleCompletion]
  split_ifs with alive
  · have queued : Changes h s { s with ready := s.ready ++ [(k, n)] } :=
      (Micro.enqueue finished).changes
    have marked := (Micro.mark (h := h) (s := { s with ready := s.ready ++ [(k, n)] }) (k := k)
      (n := n) (fun m => { m with announced := true }) fun p there _ => Or.inr ?_).changes
    · refine queued.trans ?_
      cases k <;> exact marked
    · have same : p = o := only p there
      rw [same]
      exact ⟨done, fun _ => List.mem_append_right _ (List.mem_singleton_self _)⟩
  · refine (Micro.mark _ fun p there _ => Or.inr ?_).changes
    rw [only p there]
    exact ⟨done, fun same => absurd same alive⟩

theorem changes_runCallback (inv : InFlight h s) {rest : List (OperationKind × Nat)}
    (head : s.ready = (k, n) :: rest) :
    Changes h s { s.consumeCompletion h k n with ready := rest } := by
  have done : (s.registry k).isDone n = true := by
    refine inv.ready (k, n) ?_
    rw [head]
    exact List.mem_cons_self
  refine (changes_consumeCompletion done).trans (Micro.changes (.unqueue (k := k) (n := n) ?_ ?_))
  · rw [(quiet_consumeCompletion s k n).ready, ready_setRegistry, head]
  · intro key
    rw [registry_consumeCompletion, if_pos rfl]
    exact (inv.sound k).not_held_consume n key

/-- An action is made of changes. -/
theorem changes_step {a : ObservationAction V} (inv : InFlight h s) (step : Step h s a t) :
    Changes h s t := by
  cases a with
  | request call =>
      obtain rfl := Option.some.inj step
      exact changes_request inv call
  | beginThread k n =>
      obtain ⟨o, found, step⟩ := Option.bind_eq_some_iff.mp step
      split at step
      next future =>
        obtain rfl := Option.some.inj step
        exact (Micro.advance found (future ▸ .start)).changes
      next => exact nomatch step
  | cancelFuture k n =>
      obtain ⟨o, found, step⟩ := Option.bind_eq_some_iff.mp step
      split at step
      next future =>
        obtain rfl := Option.some.inj step
        exact (Micro.advance found (future ▸ .cancel)).changes
      next => exact nomatch step
  | endThread k n result =>
      obtain ⟨o, found, step⟩ := Option.bind_eq_some_iff.mp step
      split at step
      next future =>
        obtain rfl := Option.some.inj step
        exact (Micro.advance found (future ▸ .finish result)).changes
      next => exact nomatch step
  | announce k n =>
      obtain ⟨o, found, step⟩ := Option.bind_eq_some_iff.mp step
      split_ifs at step with due
      obtain rfl := Option.some.inj step
      exact changes_scheduleCompletion found (Bool.and_eq_true_iff.mp due).1
  | runCallback =>
      rw [Step, perform] at step
      split at step
      next k n rest head =>
        obtain rfl := Option.some.inj step
        exact changes_runCallback inv head
      next => exact nomatch step
  | deliver i => exact changes_deliver step
  | timeOut i => exact changes_timeOut step
  | interrupt i => exact changes_interrupt step
  | reconcile =>
      obtain rfl := Option.some.inj step
      exact changes_reconcileCompleted s
  | requireReconciliation executionId organizationId =>
      obtain rfl := Option.some.inj step
      exact changes_requiresReconciliation executionId organizationId
  | start =>
      obtain rfl := Option.some.inj step
      exact changes_start s
  | beginStop =>
      obtain rfl := Option.some.inj step
      exact (changes_stopBegins s).trans (Quiet.changes ⟨rfl, rfl, rfl, rfl, rfl⟩)
  | resumeStop i waited =>
      obtain ⟨point, found, step⟩ := Option.bind_eq_some_iff.mp step
      obtain ⟨⟨next, u⟩, resumed, step⟩ := Option.bind_eq_some_iff.mp step
      obtain rfl := Option.some.inj step
      exact (changes_stopResumes resumed).trans (Quiet.changes ⟨rfl, rfl, rfl, rfl, rfl⟩)
  | endTask task =>
      rw [Step, perform] at step
      split_ifs at step
      obtain rfl := Option.some.inj step
      exact Quiet.changes ⟨rfl, rfl, rfl, rfl, rfl⟩
  | releaseWorker task =>
      rw [Step, perform] at step
      split_ifs at step
      obtain rfl := Option.some.inj step
      exact Quiet.changes ⟨rfl, rfl, rfl, rfl, rfl⟩
  | clearStopping task =>
      rw [Step, perform] at step
      split_ifs at step with ended same
      · obtain rfl := Option.some.inj step
        exact Quiet.changes ⟨rfl, rfl, rfl, rfl, rfl⟩
      · obtain rfl := Option.some.inj step
        exact .refl s
  | closeLoop =>
      obtain rfl := Option.some.inj step
      exact Micro.closeLoop.changes

/-- What holds in every state of every run. -/
theorem inFlight_of_reachable (reachable : ObservationReachable h s) : InFlight h s :=
  Reachable.invariant (fun _ start => by rw [start]; exact inFlight_initial)
    (fun _ _ _ inv step => inv.changes (changes_step inv step)) reachable

/-! ### Single flight -/

/-- The texts of which a digest was taken. -/
inductive Digested (h : ObservationHost V) (s : ObservationService V) : String → Prop where
  | waiter {w : Waiter V} {text : String} (there : w ∈ s.waiters)
      (digested : text ∈ w.call.digested h.sha256) : Digested h s text
  | operation {k : OperationKind} {n : Nat} {o : OwnedOperation V} {text : String}
      (found : (s.registry k).operations[n]? = some o)
      (digested : text ∈ o.request.call.digested h.sha256) : Digested h s text

/-- How often an operation was consumed. -/
def consumptions (s : ObservationService V) (k : OperationKind) (n : Nat) : Nat :=
  (s.registry k).consumed.count n

variable (h) in
/-- What is guaranteed of a state: of the operations of a kind, of one operation, execution and
organization at most one is in flight; a caller's result is that of the same call; an operation is
consumed at most once, once when it is no longer pending, once when it is done unless its completion
is on its way or its event loop was closed, and once when the completed operations are reconciled; a
lifecycle begins only where every operation was consumed, so that an unresolved operation is of the
last. -/
structure SingleFlight (s : ObservationService V) : Prop where
  alone : ∀ k (m n : Nat) o p, (s.registry k).operations[m]? = some o →
    (s.registry k).operations[n]? = some p → o.future.done = false → p.future.done = false →
    o.request.call.operation = p.request.call.operation →
    o.request.call.executionId = p.request.call.executionId →
    o.request.call.organizationId = p.request.call.organizationId → m = n
  own : ∀ w ∈ s.waiters, ∀ r, w.answer = some (.outcome r) →
    ∃ o, (s.registry w.call.kind).operations[w.operation]? = some o ∧ o.future = .finished r ∧
      o.request.call.Same w.call
  atMost : ∀ k n, s.consumptions k n ≤ 1
  left : ∀ k (n : Nat) o, (s.registry k).operations[n]? = some o →
    (o.key, n) ∉ (s.registry k).held → s.consumptions k n = 1 ∧ o.future.done = true
  due : ∀ k (n : Nat) o, (s.registry k).operations[n]? = some o → o.future.done = true →
    o.request.loop = s.loop →
      s.consumptions k n = 1 ∨ o.marks.announced = false ∨ (k, n) ∈ s.ready
  reconciled : ∀ k (n : Nat) o, (s.registry k).operations[n]? = some o → o.future.done = true →
    (s.reconcileCompleted h).consumptions k n = 1
  fenced : ∀ task t, s.start h = (.begun task, t) → ∀ k (n : Nat) o,
    (t.registry k).operations[n]? = some o → o.future.done = true ∧ t.consumptions k n = 1
  current : ∀ k (n : Nat) o, (s.registry k).operations[n]? = some o → s.consumptions k n = 0 →
    o.request.lifecycle = s.lifecycles

/-- Calls of one kind about one operation, execution and organization have one identity. -/
theorem identity_congr {c d : GuardedCall} (kind : c.kind = d.kind)
    (operation : c.operation = d.operation) (execution : c.executionId = d.executionId)
    (organization : c.organizationId = d.organizationId) : c.identity = d.identity := by
  cases c with
  | durableWrite c =>
      cases d with
      | durableWrite d =>
          have operation : c.operation = d.operation := operation
          have execution : c.executionId = d.executionId := execution
          have organization : c.organizationId = d.organizationId := organization
          rw [GuardedCall.identity, GuardedCall.identity, operation, execution, organization]
      | supervisorCancellation d => exact nomatch kind
  | supervisorCancellation c =>
      cases d with
      | durableWrite d => exact nomatch kind
      | supervisorCancellation d =>
          have execution : c.executionId = d.executionId := Option.some.inj execution
          have organization : c.organizationId = d.organizationId := Option.some.inj organization
          rw [GuardedCall.identity, GuardedCall.identity, execution, organization]

/-- What is not held was consumed once. -/
theorem InFlight.consumed (inv : InFlight h s) (found : (s.registry k).operations[n]? = some o)
    (free : (o.key, n) ∉ (s.registry k).held) : s.consumptions k n = 1 ∧ o.future.done = true :=
  (inv.sound k).consumed_of_free found free

/-- What reconciliation finds done has been consumed after it. -/
theorem InFlight.reconciled (inv : InFlight h s) (found : (s.registry k).operations[n]? = some o)
    (done : o.future.done = true) : (s.reconcileCompleted h).consumptions k n = 1 := by
  have after := inv.changes (changes_reconcileCompleted s)
  have found' : ((s.reconcileCompleted h).registry k).operations[n]? = some o := by
    rwa [registry_reconcileCompleted, Registry.operations_drain]
  refine (after.consumed found' ?_).1
  rw [registry_reconcileCompleted]
  intro held
  have busy := (inv.sound k).drained held
  rw [Registry.isDone_iff.mpr ⟨o, found, done⟩] at busy
  exact nomatch busy

/-- Actions in order, from the construction of the service. -/
def performAll (h : ObservationHost V) (actions : List (ObservationAction V)) :
    Option (ObservationService V) :=
  actions.foldlM (fun s a => s.perform h a) initial

theorem reachable_foldlM {actions : List (ObservationAction V)} {s t : ObservationService V}
    (before : ObservationReachable h s)
    (done : actions.foldlM (fun s a => s.perform h a) s = some t) : ObservationReachable h t := by
  induction actions generalizing s with
  | nil =>
      obtain rfl := Option.some.inj done
      exact before
  | cons a actions ih =>
      rw [List.foldlM_cons] at done
      obtain ⟨u, step, rest⟩ := Option.bind_eq_some_iff.mp done
      exact ih (before.more step) rest

/-- What actions in order lead to is reachable. -/
theorem reachable_performAll {actions : List (ObservationAction V)} {t : ObservationService V}
    (done : performAll h actions = some t) : ObservationReachable h t :=
  reachable_foldlM (.refl rfl) done

end ObservationService

open ObservationService

namespace Sample

/-- The claim of a recovery lease. -/
def leaseClaim : GuardedCall :=
  .durableWrite (RecoveryWrite.claimRecoveryLease "exec-1" "org-1" "gen-1").call

/-- The digest of that claim's payload; results are truth values. -/
def observationHost : ObservationHost Bool where
  sha256 _ := "5bfab663465cb2bf10df2fcf56aa025cabf6932c5510ed59a55ac074afd71cda"
  statusText _ := "bool"

/-- One caller claims the lease, another joins it, the first times out, the claim returns, the second
has its result, and the completion is consumed. -/
def joinedClaim : List (ObservationAction Bool) :=
  [.request leaseClaim, .request leaseClaim, .beginThread .durableWrite 0, .timeOut 0,
    .endThread .durableWrite 0 (.ok true), .deliver 1, .announce .durableWrite 0, .runCallback]

/-- The calls on record at the end, and what was consumed. -/
theorem joinedClaim_calls : ((performAll observationHost joinedClaim).map fun s =>
    (s.waiters.map (·.call), s.pendingDurableWrites.operations.map (·.request.call),
      s.pendingSupervisorCancellations.operations.map (·.request.call),
      s.pendingDurableWrites.consumed)) =
    some ([leaseClaim, leaseClaim], [leaseClaim], [], [0]) := rfl

end Sample

end CyberAssess
