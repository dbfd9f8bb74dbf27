import Mathlib.Data.List.Nodup
import CyberAssess.Support.Transition

/-!
# Support — single flight

Operations that run apart from whoever asked for them, numbered as they are submitted.  A registry
holds the number of one operation under a key until the operation's result is consumed.

* `Future`: where an operation stands, `Future.done` once it has a result or was cancelled.
* `Registry.submit`, `advance`, `consume` and `mark` are what happens to a registry, `Move` the
  relation they are steps of; `Registry.drain` consumes every operation that is done.
* `Registry.Sound` is kept by every move (`Sound.move`): an operation is held or was consumed once.
* `Sound.alone`: under one key at most one operation is not done; `Sound.consumed_le`,
  `Sound.consumed_of_free`, `Sound.settled`: how often an operation is consumed.
-/

namespace SingleFlight

open Transition

variable {κ α φ ρ : Type}

/-- A `Future`: cancelled only before it runs, finished only after. -/
inductive Future (ρ : Type) where
  | pending
  | running
  | cancelled
  | finished (result : ρ)
deriving DecidableEq, Repr

/-- `future.done()`. -/
def Future.done : Future ρ → Bool
  | .pending | .running => false
  | .cancelled | .finished _ => true

/-- The changes of a future. -/
inductive Future.Advances : Future ρ → Future ρ → Prop where
  | start : Future.Advances .pending .running
  | cancel : Future.Advances .pending .cancelled
  | finish (result : ρ) : Future.Advances .running (.finished result)

theorem Future.Advances.not_done {f g : Future ρ} (h : f.Advances g) : f.done = false := by
  cases h <;> rfl

/-- A submitted operation: the key it is held under, what was asked for, the marks left on it, and
its future. -/
structure Operation (κ α φ ρ : Type) where
  key : κ
  request : α
  marks : φ
  future : Future ρ

/-- Every operation submitted, the numbers of those held, under their keys, and of those consumed. -/
structure Registry (κ α φ ρ : Type) where
  operations : List (Operation κ α φ ρ)
  held : List (κ × Nat)
  consumed : List Nat

namespace Registry

/-- Nothing submitted. -/
def empty : Registry κ α φ ρ := ⟨[], [], []⟩

variable (r : Registry κ α φ ρ) (n : Nat)

/-- Operation `n` has a result, or was cancelled. -/
def isDone : Bool := (r.operations[n]?).any (·.future.done)

/-- Operation `n` changes. -/
def rework (f : Operation κ α φ ρ → Operation κ α φ ρ) : Registry κ α φ ρ :=
  { r with operations := r.operations.modify n f }

/-- The future of operation `n` becomes `f`. -/
def advance (f : Future ρ) : Registry κ α φ ρ := r.rework n fun o => { o with future := f }

/-- The marks on operation `n` change. -/
def mark (change : φ → φ) : Registry κ α φ ρ :=
  r.rework n fun o => { o with marks := change o.marks }

variable [DecidableEq κ]

/-- The operation held under a key. -/
def holding (key : κ) : Option (Nat × Operation κ α φ ρ) :=
  (r.held.lookup key).bind fun n => r.operations[n]?.map (n, ·)

/-- A new operation, held under its key. -/
def submit (key : κ) (request : α) (marks : φ) : Registry κ α φ ρ :=
  { r with
    operations := r.operations ++ [⟨key, request, marks, .pending⟩]
    held := r.held ++ [(key, r.operations.length)] }

/-- Operation `n` is consumed, where it is the one held under its key. -/
def consume : Registry κ α φ ρ :=
  match r.operations[n]? with
  | some o =>
      if r.held.lookup o.key = some n then
        { r with held := r.held.filter (·.1 ≠ o.key), consumed := r.consumed ++ [n] }
      else r
  | none => r

/-- Operation `n` is consumed, where it is done. -/
def settle : Registry κ α φ ρ :=
  if r.isDone n then r.consume n else r

/-- Each held operation that is done is consumed. -/
def drain : Registry κ α φ ρ := (r.held.map (·.2)).foldl (fun r n => r.settle n) r

end Registry

/-- What happens to a registry. -/
inductive Move [DecidableEq κ] : Registry κ α φ ρ → Registry κ α φ ρ → Prop where
  | submit (r : Registry κ α φ ρ) (key : κ) (request : α) (marks : φ)
      (free : r.held.lookup key = none) : Move r (r.submit key request marks)
  | advance (r : Registry κ α φ ρ) (n : Nat) (o : Operation κ α φ ρ) (f : Future ρ)
      (found : r.operations[n]? = some o) (h : o.future.Advances f) : Move r (r.advance n f)
  | mark (r : Registry κ α φ ρ) (n : Nat) (change : φ → φ) : Move r (r.mark n change)
  | consume (r : Registry κ α φ ρ) (n : Nat) (done : r.isDone n = true) : Move r (r.consume n)

/-- What some moves lead to. -/
def Moves [DecidableEq κ] (r r' : Registry κ α φ ρ) : Prop :=
  Leads (fun s (_ : Unit) t => Move s t) r r'

variable [DecidableEq κ] {r r' : Registry κ α φ ρ} {n m : Nat} {o p : Operation κ α φ ρ}

/-- The keys of the held operations are distinct and theirs, an operation is held or was consumed
once, and only one that is done was. -/
structure Registry.Sound (r : Registry κ α φ ρ) : Prop where
  keys : (r.held.map (·.1)).Nodup
  found : ∀ h ∈ r.held, ∃ o, r.operations[h.2]? = some o ∧ o.key = h.1
  account : ∀ n o, r.operations[n]? = some o →
    r.consumed.count n + (if (o.key, n) ∈ r.held then 1 else 0) = 1
  done : ∀ n ∈ r.consumed, r.isDone n = true

namespace Registry

theorem sound_empty : (empty : Registry κ α φ ρ).Sound where
  keys := List.nodup_nil
  found := nofun
  account := nofun
  done := nofun

/-! ### What is held -/

theorem mem_of_lookup {held : List (κ × Nat)} {key : κ} (h : held.lookup key = some n) :
    (key, n) ∈ held := by
  obtain ⟨before, after, rfl, -⟩ := List.lookup_eq_some_iff.mp h
  exact List.mem_append_right before List.mem_cons_self

/-- Under distinct keys, what is held is found. -/
theorem lookup_of_nodup {held : List (κ × Nat)} {key : κ} (keys : (held.map (·.1)).Nodup)
    (h : (key, n) ∈ held) : held.lookup key = some n := by
  induction held with
  | nil => exact nomatch h
  | cons e held ih =>
      obtain ⟨fresh, keys⟩ := List.nodup_cons.mp keys
      rw [List.lookup_cons]
      rcases List.mem_cons.mp h with rfl | there
      · rw [beq_self_eq_true]
      · have other : key ≠ e.1 := by
          rintro rfl
          exact fresh (List.mem_map_of_mem (f := (·.1)) there)
        rw [beq_false_of_ne other]
        exact ih keys there

theorem holding_some {key : κ} (h : r.holding key = some (n, o)) :
    r.held.lookup key = some n ∧ r.operations[n]? = some o := by
  rw [holding, Option.bind_eq_some_iff] at h
  obtain ⟨m, held, h⟩ := h
  obtain ⟨o', found, same⟩ := Option.map_eq_some_iff.mp h
  obtain ⟨rfl, rfl⟩ := Prod.mk.inj same
  exact ⟨held, found⟩

/-- A key under which no operation is found is free. -/
theorem Sound.free (sound : r.Sound) {key : κ} (h : r.holding key = none) :
    r.held.lookup key = none := by
  cases held : r.held.lookup key with
  | none => rfl
  | some n =>
      obtain ⟨o, found, -⟩ := sound.found (key, n) (mem_of_lookup held)
      rw [holding, held, Option.bind_some, found] at h
      exact nomatch h

/-- The operation a key holds has that key. -/
theorem Sound.key (sound : r.Sound) {key : κ} (h : r.holding key = some (n, o)) : o.key = key := by
  obtain ⟨held, found⟩ := holding_some h
  obtain ⟨o', found', same⟩ := sound.found (key, n) (mem_of_lookup held)
  rw [found] at found'
  rw [Option.some.inj found']
  exact same

/-! ### Consuming -/

/-- What consuming a done operation does. -/
theorem consume_cases (r : Registry κ α φ ρ) (n : Nat) : r.consume n = r ∨
    ∃ o, r.operations[n]? = some o ∧ r.held.lookup o.key = some n ∧
      r.consume n =
        { r with held := r.held.filter (·.1 ≠ o.key), consumed := r.consumed ++ [n] } := by
  cases found : r.operations[n]? with
  | none => exact Or.inl (by rw [consume, found])
  | some o =>
      by_cases held : r.held.lookup o.key = some n
      · exact Or.inr ⟨o, rfl, held, by rw [consume, found]; exact if_pos held⟩
      · exact Or.inl (by rw [consume, found]; exact if_neg held)

@[simp] theorem operations_consume (r : Registry κ α φ ρ) (n : Nat) :
    (r.consume n).operations = r.operations := by
  rcases consume_cases r n with h | ⟨o, -, -, h⟩ <;> rw [h]

theorem Sound.consume (sound : r.Sound) (done : r.isDone n = true) : (r.consume n).Sound := by
  rcases consume_cases r n with h | ⟨o, found, held, h⟩
  · rw [h]
    exact sound
  · have here : (o.key, n) ∈ r.held := mem_of_lookup held
    -- a key holds one number, so what the filter takes out is `n` alone
    have only : ∀ key m, (key, m) ∈ r.held → key = o.key → m = n := by
      rintro key m there rfl
      have found := lookup_of_nodup sound.keys there
      rw [held] at found
      exact (Option.some.inj found).symm
    rw [h]
    refine ⟨?_, ?_, ?_, ?_⟩
    · exact sound.keys.sublist (List.filter_sublist.map _)
    · intro e he
      exact sound.found e (List.mem_filter.mp he).1
    · intro m p hp
      have before := sound.account m p hp
      rw [List.count_append, List.count_singleton]
      by_cases same : m = n
      · subst same
        obtain rfl : o = p := Option.some.inj (found.symm.trans hp)
        have gone : (o.key, m) ∉ r.held.filter (·.1 ≠ o.key) := by
          intro still
          exact of_decide_eq_true (List.mem_filter.mp still).2 rfl
        rw [if_pos here] at before
        rw [if_neg gone, beq_self_eq_true, if_pos rfl]
        exact before
      · have kept : (p.key, m) ∈ r.held.filter (·.1 ≠ o.key) ↔ (p.key, m) ∈ r.held := by
          refine ⟨fun h => (List.mem_filter.mp h).1, fun h => List.mem_filter.mpr ⟨h, ?_⟩⟩
          exact decide_eq_true fun key => same (only p.key m h key)
        rw [if_neg (by rw [beq_iff_eq]; exact Ne.symm same), Nat.add_zero]
        simp only [kept]
        exact before
    · intro m hm
      rcases List.mem_append.mp hm with before | now
      · exact sound.done m before
      · rw [List.mem_singleton.mp now]
        exact done

omit [DecidableEq κ] in
theorem isDone_iff : r.isDone n = true ↔
    ∃ o, r.operations[n]? = some o ∧ o.future.done = true := by
  rw [isDone, Option.any_eq_true]

theorem Sound.settle (sound : r.Sound) (n : Nat) : (r.settle n).Sound := by
  rw [Registry.settle]
  split_ifs with done
  · exact sound.consume done
  · exact sound

/-! ### The other moves -/

omit [DecidableEq κ] in
/-- An operation of a reworked registry. -/
theorem getElem?_rework {f : Operation κ α φ ρ → Operation κ α φ ρ} :
    (r.rework n f).operations[m]? = some p ↔
      ∃ o, r.operations[m]? = some o ∧ (if n = m then f o else o) = p := by
  rw [rework, List.getElem?_modify]
  exact Option.map_eq_some_iff

/-- A change of one operation that keeps its key, and does not undo it. -/
theorem Sound.rework (sound : r.Sound) (n : Nat) {f : Operation κ α φ ρ → Operation κ α φ ρ}
    (key : ∀ o, (f o).key = o.key)
    (done : ∀ o, r.operations[n]? = some o → o.future.done = true → (f o).future.done = true) :
    (r.rework n f).Sound := by
  have same : ∀ (m : Nat) (o : Operation κ α φ ρ), (if n = m then f o else o).key = o.key := by
    intro m o
    split_ifs
    · exact key o
    · rfl
  refine ⟨sound.keys, ?_, ?_, ?_⟩
  · intro h hh
    obtain ⟨o, found, here⟩ := sound.found h hh
    exact ⟨_, getElem?_rework.mpr ⟨o, found, rfl⟩, (same h.2 o).trans here⟩
  · intro m p hp
    obtain ⟨o, found, rfl⟩ := getElem?_rework.mp hp
    rw [same]
    exact sound.account m o found
  · intro m hm
    obtain ⟨o, found, finished⟩ := isDone_iff.mp (sound.done m hm)
    refine isDone_iff.mpr ⟨_, getElem?_rework.mpr ⟨o, found, rfl⟩, ?_⟩
    split_ifs with here
    · subst here
      exact done o found finished
    · exact finished

omit [DecidableEq κ] in
theorem getElem?_concat_some {ops : List (Operation κ α φ ρ)} :
    (ops ++ [o])[m]? = some p ↔ ops[m]? = some p ∨ m = ops.length ∧ o = p := by
  rcases Nat.lt_trichotomy m ops.length with before | rfl | after
  · rw [List.getElem?_append_left before]
    exact ⟨Or.inl, fun h => h.resolve_right fun there => Nat.ne_of_lt before there.1⟩
  · rw [List.getElem?_concat_length, List.getElem?_eq_none (Nat.le_refl _), Option.some.injEq]
    exact ⟨fun h => Or.inr ⟨rfl, h⟩, fun h => (h.resolve_left nofun).2⟩
  · rw [List.getElem?_eq_none (by rw [List.length_append]; exact after),
      List.getElem?_eq_none (Nat.le_of_lt after)]
    exact ⟨nofun, fun h => absurd (h.resolve_left nofun).1 (Nat.ne_of_gt after)⟩

theorem Sound.submit (sound : r.Sound) {key : κ} (free : r.held.lookup key = none) (request : α)
    (marks : φ) : (r.submit key request marks).Sound := by
  have fresh : key ∉ r.held.map (·.1) := by
    intro there
    obtain ⟨e, he, rfl⟩ := List.mem_map.mp there
    exact bne_iff_ne.mp (List.lookup_eq_none_iff.mp free e he) rfl
  -- what is held or was consumed has an older number
  have old : ∀ h ∈ r.held, h.2 < r.operations.length := by
    intro h hh
    obtain ⟨o, found, -⟩ := sound.found h hh
    exact (List.getElem?_eq_some_iff.mp found).1
  have past : ∀ n ∈ r.consumed, n < r.operations.length := by
    intro n hn
    obtain ⟨o, found, -⟩ := isDone_iff.mp (sound.done n hn)
    exact (List.getElem?_eq_some_iff.mp found).1
  refine ⟨?_, ?_, ?_, ?_⟩
  · rw [Registry.submit, List.map_append, List.nodup_append]
    refine ⟨sound.keys, List.nodup_singleton _, ?_⟩
    rintro k hk _ hl rfl
    rw [List.mem_singleton.mp hl] at hk
    exact fresh hk
  · intro h hh
    rcases List.mem_append.mp hh with before | now
    · obtain ⟨o, found, same⟩ := sound.found h before
      exact ⟨o, (List.getElem?_append_left (old h before)).trans found, same⟩
    · rw [List.mem_singleton.mp now]
      exact ⟨_, List.getElem?_concat_length .., rfl⟩
  · intro m p hp
    change r.consumed.count m +
      (if (p.key, m) ∈ r.held ++ [(key, r.operations.length)] then 1 else 0) = 1
    rcases getElem?_concat_some.mp hp with found | ⟨rfl, rfl⟩
    · have older : m ≠ r.operations.length := Nat.ne_of_lt (List.getElem?_eq_some_iff.mp found).1
      simp only [List.mem_append, List.mem_singleton, Prod.mk.injEq, older, and_false, or_false]
      exact sound.account m p found
    · have unheld : (key, r.operations.length) ∉ r.held := fun h => Nat.lt_irrefl _ (old _ h)
      have unused : r.consumed.count r.operations.length = 0 :=
        List.count_eq_zero.mpr fun h => Nat.lt_irrefl _ (past _ h)
      simp only [List.mem_append, unheld, false_or, List.mem_singleton, if_true]
      rw [unused]
  · intro m hm
    obtain ⟨o, found, finished⟩ := isDone_iff.mp (sound.done m hm)
    exact isDone_iff.mpr ⟨o, (List.getElem?_append_left (past m hm)).trans found, finished⟩

/-- Every move keeps the account. -/
theorem Sound.move (sound : r.Sound) (h : Move r r') : r'.Sound := by
  cases h with
  | submit key request marks free => exact sound.submit free request marks
  | advance n o f found h =>
      refine sound.rework n (fun _ => rfl) fun o' found' done => ?_
      obtain rfl : o = o' := Option.some.inj (found.symm.trans found')
      rw [h.not_done] at done
      exact nomatch done
  | mark n change => exact sound.rework n (fun _ => rfl) fun _ _ done => done
  | consume n done => exact sound.consume done

theorem Sound.moves (sound : r.Sound) (h : Moves r r') : r'.Sound :=
  h.invariant (fun _ _ _ sound h => sound.move h) sound

/-! ### Draining -/

theorem moves_settle (r : Registry κ α φ ρ) (n : Nat) : Moves r (r.settle n) := by
  rw [settle]
  split_ifs with done
  · exact .single (e := ()) (.consume r n done)
  · exact .refl r

theorem moves_foldl_settle (ns : List Nat) (r : Registry κ α φ ρ) :
    Moves r (ns.foldl (fun r n => r.settle n) r) := by
  induction ns generalizing r with
  | nil => exact .refl r
  | cons n ns ih => exact (moves_settle r n).trans (ih _)

theorem moves_drain (r : Registry κ α φ ρ) : Moves r r.drain := moves_foldl_settle _ r

@[simp] theorem operations_settle (r : Registry κ α φ ρ) (n : Nat) :
    (r.settle n).operations = r.operations := by
  rw [settle]
  split_ifs
  · exact operations_consume r n
  · rfl

@[simp] theorem operations_foldl_settle (ns : List Nat) (r : Registry κ α φ ρ) :
    (ns.foldl (fun r n => r.settle n) r).operations = r.operations := by
  induction ns generalizing r with
  | nil => rfl
  | cons n ns ih => rw [List.foldl_cons, ih, operations_settle]

@[simp] theorem operations_drain (r : Registry κ α φ ρ) : r.drain.operations = r.operations :=
  operations_foldl_settle _ r

theorem held_consume {h : κ × Nat} (hh : h ∈ (r.consume n).held) : h ∈ r.held := by
  rcases consume_cases r n with same | ⟨o, -, -, gone⟩
  · rwa [same] at hh
  · rw [gone] at hh
    exact (List.mem_filter.mp hh).1

theorem held_settle {h : κ × Nat} (hh : h ∈ (r.settle n).held) : h ∈ r.held := by
  rw [settle] at hh
  split_ifs at hh with done
  · exact held_consume hh
  · exact hh

theorem held_foldl_settle {h : κ × Nat} (ns : List Nat) (r : Registry κ α φ ρ)
    (hh : h ∈ (ns.foldl (fun r n => r.settle n) r).held) : h ∈ r.held := by
  induction ns generalizing r with
  | nil => exact hh
  | cons n ns ih => exact held_settle (ih _ hh)

/-- A consumed operation is not held. -/
theorem Sound.not_held_consume (sound : r.Sound) (n : Nat) (key : κ) :
    (key, n) ∉ (r.consume n).held := by
  intro hh
  have there := held_consume hh
  obtain ⟨o, found, rfl⟩ := sound.found _ there
  rw [Registry.consume, found] at hh
  simp only [lookup_of_nodup sound.keys there, if_true] at hh
  exact of_decide_eq_true (List.mem_filter.mp hh).2 rfl

/-- The key of a consumed operation is free. -/
theorem Sound.free_consume (sound : r.Sound) {key : κ} (h : r.holding key = some (n, o)) :
    (r.consume n).held.lookup key = none := by
  obtain ⟨held, -⟩ := holding_some h
  cases found : (r.consume n).held.lookup key with
  | none => rfl
  | some m =>
      have there := mem_of_lookup found
      have old := lookup_of_nodup sound.keys (held_consume there)
      rw [held] at old
      rw [← Option.some.inj old] at there
      exact absurd there (sound.not_held_consume n key)

/-- A done operation is not held once it is settled. -/
theorem Sound.not_held_settle (sound : r.Sound) {key : κ} (done : r.isDone n = true) :
    (key, n) ∉ (r.settle n).held := by
  rw [Registry.settle, if_pos done]
  exact sound.not_held_consume n key

/-- Whatever a list settles, what it leaves held of it is not done. -/
theorem Sound.not_done_foldl {key : κ} (ns : List Nat) {r : Registry κ α φ ρ} (sound : r.Sound)
    (listed : n ∈ ns) (hh : (key, n) ∈ (ns.foldl (fun r n => r.settle n) r).held) :
    r.isDone n = false := by
  induction ns generalizing r with
  | nil => exact nomatch listed
  | cons m ns ih =>
      rw [List.foldl_cons] at hh
      rcases List.mem_cons.mp listed with rfl | later
      · exact Bool.eq_false_iff.mpr fun done =>
          sound.not_held_settle done (held_foldl_settle ns _ hh)
      · have rest := ih (sound.moves (moves_settle r m)) later hh
        rwa [isDone, operations_settle] at rest

/-- What is held of a drained registry is not done. -/
theorem Sound.drained (sound : r.Sound) {key : κ} (hh : (key, n) ∈ r.drain.held) :
    r.isDone n = false :=
  sound.not_done_foldl _ (List.mem_map_of_mem (f := (·.2)) (held_foldl_settle _ _ hh)) hh

/-! ### What the account says -/

/-- Under one key at most one operation is not done. -/
theorem Sound.alone (sound : r.Sound) (hm : r.operations[m]? = some o)
    (hn : r.operations[n]? = some p) (busy : o.future.done = false) (busy' : p.future.done = false)
    (same : o.key = p.key) : m = n := by
  have held : ∀ {n : Nat} {o : Operation κ α φ ρ}, r.operations[n]? = some o →
      o.future.done = false → r.held.lookup o.key = some n := by
    intro n o found busy
    have unused : r.consumed.count n = 0 := by
      refine List.count_eq_zero.mpr fun used => ?_
      obtain ⟨o', found', done⟩ := isDone_iff.mp (sound.done n used)
      rw [Option.some.inj (found.symm.trans found'), done] at busy
      exact nomatch busy
    have one := sound.account n o found
    rw [unused, Nat.zero_add] at one
    refine lookup_of_nodup sound.keys ?_
    by_contra absent
    rw [if_neg absent] at one
    exact nomatch one
  exact Option.some.inj ((held hm busy).symm.trans (same ▸ held hn busy'))

/-- No operation is consumed twice. -/
theorem Sound.consumed_le (sound : r.Sound) (found : r.operations[n]? = some o) :
    r.consumed.count n ≤ 1 := by
  have one := sound.account n o found
  omega

/-- One that is no longer held was consumed, once, and is done. -/
theorem Sound.consumed_of_free (sound : r.Sound) (found : r.operations[n]? = some o)
    (free : (o.key, n) ∉ r.held) : r.consumed.count n = 1 ∧ o.future.done = true := by
  have one := sound.account n o found
  rw [if_neg free, Nat.add_zero] at one
  refine ⟨one, ?_⟩
  obtain ⟨o', found', done⟩ := isDone_iff.mp
    (sound.done n (List.count_pos_iff.mp (by rw [one]; exact Nat.one_pos)))
  rwa [Option.some.inj (found.symm.trans found')]

/-- What a move keeps of an operation: its key, its request, and its result. -/
theorem kept_of_move (h : Move r r') (found : r.operations[n]? = some o) :
    ∃ o', r'.operations[n]? = some o' ∧ o'.key = o.key ∧ o'.request = o.request ∧
      (o.future.done = true → o'.future = o.future) := by
  cases h with
  | submit key request marks free =>
      exact ⟨o, getElem?_concat_some.mpr (Or.inl found), rfl, rfl, fun _ => rfl⟩
  | advance m o' f found' h =>
      refine ⟨_, getElem?_rework.mpr ⟨o, found, rfl⟩, ?_⟩
      split_ifs with here
      · subst here
        obtain rfl : o' = o := Option.some.inj (found'.symm.trans found)
        refine ⟨rfl, rfl, fun done => ?_⟩
        rw [h.not_done] at done
        exact nomatch done
      · exact ⟨rfl, rfl, fun _ => rfl⟩
  | mark m change =>
      refine ⟨_, getElem?_rework.mpr ⟨o, found, rfl⟩, ?_⟩
      split_ifs
      · exact ⟨rfl, rfl, fun _ => rfl⟩
      · exact ⟨rfl, rfl, fun _ => rfl⟩
  | consume m done => exact ⟨o, by rw [operations_consume]; exact found, rfl, rfl, fun _ => rfl⟩

end Registry

end SingleFlight
