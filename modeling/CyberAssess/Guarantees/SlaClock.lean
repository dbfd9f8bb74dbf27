import CyberAssess.Support.Transition
import CyberAssess.Guarantees.Correlation

/-!
# Guarantees — the SLA clock across scans

A canonical finding takes over the SLA clock of the existing findings with its evidence hash.

* `KeepsClock` is what is promised of one correlation.
* `LastOldest`: of the existing findings with a hash only the last counts, so it has to have an SLA, and
  the oldest, where any of them has one.
* `Rescan`: scans in a row, each correlated against all canonical findings there are.
* `sla_clock`: when the promise is kept, and what runs do that keep to the condition.
-/

namespace CyberAssess

open Transition

/-- What is promised of the canonical findings that are produced: the clock of each is no younger than
those of the existing findings with its hash. -/
def KeepsClock (existing produced : List CanonicalFinding) : Prop :=
  ∀ cf ∈ produced, ∀ e ∈ existing, e.evidenceHash = cf.evidenceHash → ∀ sla ∈ e.sla,
    cf.firstSeen ≤ sla.slaStartedAt ∧ ∀ own ∈ cf.sla, own.slaStartedAt ≤ sla.slaStartedAt

instance (existing produced : List CanonicalFinding) : Decidable (KeepsClock existing produced) :=
  inferInstanceAs (Decidable (∀ cf ∈ produced, ∀ e ∈ existing, _ → ∀ sla ∈ e.sla, _ ∧ ∀ own ∈ cf.sla, _))

/-- Where some existing finding with the hash has an SLA, the last of them has, and none is older. -/
def LastOldest (existing : List CanonicalFinding) (hash : String) : Prop :=
  ∀ e ∈ existing, e.evidenceHash = hash → ∀ sla ∈ e.sla,
    ∃ last ∈ (existing.filter fun e => e.evidenceHash = hash).getLast?,
      ∃ lasting ∈ last.sla, lasting.slaStartedAt ≤ sla.slaStartedAt

instance (existing : List CanonicalFinding) (hash : String) : Decidable (LastOldest existing hash) :=
  inferInstanceAs (Decidable (∀ e ∈ existing, e.evidenceHash = hash → ∀ sla ∈ e.sla,
    ∃ last ∈ (existing.filter fun e => e.evidenceHash = hash).getLast?,
      ∃ lasting ∈ last.sla, lasting.slaStartedAt ≤ sla.slaStartedAt))

/-- The evidence hashes of the findings that lead a cluster. -/
def leadingHashes (h : CorrelatorHost) (findings : List Finding) : List String :=
  (clusters h findings).map fun cluster => cluster.primary.evidenceHash h

/-! ### One correlation -/

section
variable {h : CorrelatorHost} {d : Draws} {c : CorrelationContext}

theorem existingByHash_evidenceHash (f : Finding) : c.existingByHash (f.evidenceHash h) =
    (c.existing.filter fun e => e.evidenceHash = f.evidenceHash h).getLast? := by
  have nonempty : f.evidenceHash h ≠ "" := h.sha256_nonempty _
  rw [CorrelationContext.existingByHash]
  congr 2
  funext e
  by_cases same : e.evidenceHash = f.evidenceHash h
  · simp [same, nonempty]
  · simp [same]

/-- Each of the arguments yields one of the results. -/
theorem Drawn.yields {α β : Type} {P : α → Nat → β → Nat → Prop} {as : List α} {bs : List β}
    {m n : Nat} (drawn : Drawn P as m bs n) : ∀ a ∈ as, ∃ b ∈ bs, ∃ k l, P a k b l := by
  induction drawn with
  | nil n => simp
  | @cons a as b bs l m n first rest ih =>
      intro a' mem
      rcases List.mem_cons.mp mem with rfl | mem
      · exact ⟨b, List.mem_cons_self, l, m, first⟩
      · obtain ⟨b', hb', yield⟩ := ih a' mem
        exact ⟨b', List.mem_cons_of_mem b hb', yield⟩

/-- Each of the results comes of one of the arguments. -/
theorem Drawn.comes {α β : Type} {P : α → Nat → β → Nat → Prop} {as : List α} {bs : List β}
    {m n : Nat} (drawn : Drawn P as m bs n) : ∀ b ∈ bs, ∃ a ∈ as, ∃ k l, P a k b l := by
  induction drawn with
  | nil n => simp
  | @cons a as b bs l m n first rest ih =>
      intro b' mem
      rcases List.mem_cons.mp mem with rfl | mem
      · exact ⟨a, List.mem_cons_self, l, m, first⟩
      · obtain ⟨a', ha', come⟩ := ih b' mem
        exact ⟨a', List.mem_cons_of_mem a ha', come⟩

theorem correlateFindings_drawn (findings : List Finding) (n : Nat) :
    ∃ bs m, Drawn (Built h d c) (clusters h findings) n bs m ∧
      ((correlateFindings h d c findings).run n).1.1 = bs.map (·.1) :=
  ⟨_, _, drawn_mapM build_built (clusters h findings) n, rfl⟩

/-- Where the last is the oldest, the clock is taken over. -/
theorem keepsClock_of_lastOldest {findings : List Finding}
    (oldest : ∀ hash ∈ leadingHashes h findings, LastOldest c.existing hash) (n : Nat) :
    KeepsClock c.existing ((correlateFindings h d c findings).run n).1.1 := by
  obtain ⟨bs, m, drawn, produced⟩ := correlateFindings_drawn (h := h) (d := d) (c := c) findings n
  rw [produced]
  intro cf hcf e he same sla hsla
  obtain ⟨b, hb, rfl⟩ := List.mem_map.mp hcf
  obtain ⟨cluster, hcluster, k, l, built⟩ := drawn.comes b hb
  rw [built.hash] at same
  obtain ⟨last, hlast, lasting, hlasting, older⟩ :=
    oldest _ (List.mem_map.mpr ⟨cluster, hcluster, rfl⟩) e he same sla hsla
  have start := built.start
  rw [built.hash, existingByHash_evidenceHash, Option.mem_def.mp hlast, Option.bind_some,
    Option.mem_def.mp hlasting] at start
  have begun : b.1.firstSeen ≤ sla.slaStartedAt := le_of_eq_of_le start older
  refine ⟨begun, ?_⟩
  intro own hown
  have clock := built.clock
  rw [Option.mem_def.mp hown] at clock
  exact le_of_eq_of_le (Option.some.inj clock) begun

/-- Where the clock is always taken over, the last is the oldest. -/
theorem lastOldest_of_keepsClock {findings : List Finding}
    (keeps : ∀ d n, KeepsClock c.existing ((correlateFindings h d c findings).run n).1.1) :
    ∀ hash ∈ leadingHashes h findings, LastOldest c.existing hash := by
  intro hash hhash e he same sla hsla
  obtain ⟨cluster, hcluster, rfl⟩ := List.mem_map.mp hhash
  -- The clock stands behind the start of this SLA, so the start is not read from the clock.
  obtain ⟨bs, m, drawn, produced⟩ :=
    correlateFindings_drawn (h := h) (d := .numbered fun _ => sla.slaStartedAt + 1) (c := c)
      findings 0
  obtain ⟨b, hb, k, l, built⟩ := drawn.yields cluster hcluster
  have kept := keeps (.numbered fun _ => sla.slaStartedAt + 1) 0
  rw [produced] at kept
  have begun : b.1.firstSeen ≤ sla.slaStartedAt :=
    (kept b.1 (List.mem_map.mpr ⟨b, hb, rfl⟩) e he (same.trans built.hash.symm) sla hsla).1
  have start := built.start
  rw [built.hash, existingByHash_evidenceHash] at start
  cases found : (c.existing.filter fun e =>
      e.evidenceHash = cluster.primary.evidenceHash h).getLast? with
  | none =>
      rw [found] at start
      obtain ⟨i, -, -, now⟩ := start
      have late : b.1.firstSeen = sla.slaStartedAt + 1 := now
      omega
  | some last =>
      rw [found, Option.bind_some] at start
      cases started : last.sla with
      | none =>
          rw [started] at start
          obtain ⟨i, -, -, now⟩ := start
          have late : b.1.firstSeen = sla.slaStartedAt + 1 := now
          omega
      | some lasting =>
          rw [started] at start
          exact ⟨last, rfl, lasting, started, le_of_eq_of_le start.symm begun⟩

end

/-! ### Scans in a row -/

/-- A scan that is correlated: its findings, the other arguments, and where the draws stand. -/
structure Scanned where
  context : CorrelationContext
  findings : List Finding
  drawn : Nat

/-- What a scan produces where `known` are the canonical findings there are. -/
def Scanned.produced (h : CorrelatorHost) (d : Draws) (known : List CanonicalFinding) (scan : Scanned) :
    List CanonicalFinding :=
  ((correlateFindings h d { scan.context with existing := known } scan.findings).run scan.drawn).1.1

/-- A scan is correlated against the canonical findings there are, and what it produces is added to
them, in any order. -/
def Rescan (h : CorrelatorHost) (d : Draws) (known : List CanonicalFinding) (scan : Scanned)
    (next : List CanonicalFinding) : Prop :=
  ∀ cf, cf ∈ next ↔ cf ∈ known ∨ cf ∈ scan.produced h d known

/-- The scan leads no cluster with a hash of which the last known finding is not the oldest. -/
def OldestLast (h : CorrelatorHost) (known : List CanonicalFinding) (scan : Scanned) : Prop :=
  ∀ hash ∈ leadingHashes h scan.findings, LastOldest known hash

/-- The clocks of `known` are not moved forward by what is there beside. -/
structure NotForward (known later : List CanonicalFinding) : Prop where
  stay : ∀ cf ∈ known, cf ∈ later
  clocks : ∀ cf ∈ later, cf ∈ known ∨ KeepsClock known [cf]

section
variable {h : CorrelatorHost} {d : Draws} {first known later next : List CanonicalFinding}

/-- A scan under the condition moves no clock forward. -/
theorem NotForward.step {scan : Scanned} (before : NotForward first known)
    (oldest : OldestLast h known scan) (rescan : Rescan h d known scan next) :
    NotForward first next := by
  have keeps : KeepsClock known (scan.produced h d known) :=
    keepsClock_of_lastOldest (c := { scan.context with existing := known }) oldest scan.drawn
  refine ⟨fun cf hcf => (rescan cf).mpr (Or.inl (before.stay cf hcf)), ?_⟩
  intro cf hcf
  rcases (rescan cf).mp hcf with old | new
  · exact before.clocks cf old
  · refine Or.inr ?_
    intro cf' hcf' e he
    rw [List.mem_singleton.mp hcf']
    exact keeps cf new e (before.stay e he)

/-- No run under the condition moves a clock forward. -/
theorem NotForward.run {scans : List Scanned}
    (run : Run (Guarded (OldestLast h) (Rescan h d)) known scans later) : NotForward known later :=
  run.invariant (fun _ _ _ before step => before.step step.1 step.2)
    ⟨fun _ hcf => hcf, fun _ hcf => Or.inl hcf⟩

end

/-- A correlation takes the clocks over, however its own clock goes, exactly where under each leading
hash the last of the existing findings is the oldest; and scans in a row that keep to that move no
clock forward. -/
theorem sla_clock (h : CorrelatorHost) :
    (∀ (c : CorrelationContext) (findings : List Finding),
      (∀ d n, KeepsClock c.existing ((correlateFindings h d c findings).run n).1.1) ↔
        ∀ hash ∈ leadingHashes h findings, LastOldest c.existing hash) ∧
    ∀ (d : Draws) (known later : List CanonicalFinding) (scans : List Scanned),
      Run (Guarded (OldestLast h) (Rescan h d)) known scans later → NotForward known later := by
  refine ⟨fun c findings => ⟨lastOldest_of_keepsClock, ?_⟩, ?_⟩
  · exact fun oldest d n => keepsClock_of_lastOldest oldest n
  · exact fun d known later scans run => .run run

namespace CorrelationSample

/-- What the first scan of the sample produces. -/
def firstScan : List CanonicalFinding := Scanned.produced host draws [] ⟨{}, [flaw], 0⟩

/-- The flaw is found twice. -/
theorem flaw_twice :
    NotForward firstScan (firstScan ++ Scanned.produced host draws firstScan ⟨{}, [flaw], 10⟩) :=
  (sla_clock host).2 draws firstScan _ [⟨{}, [flaw], 10⟩]
    (.single ⟨by unfold OldestLast; decide, fun cf => List.mem_append⟩)

/-- The flaw under another category: a finding of its own, with the same evidence. -/
def twin : Finding := { flaw with id := "find-3", category := "logging" }

/-- Both are new in one scan, and each reads the clock: the next scan goes on from the younger. -/
theorem twins_forward :
    ¬KeepsClock (Scanned.produced host draws [] ⟨{}, [flaw, twin], 0⟩)
      (Scanned.produced host draws (Scanned.produced host draws [] ⟨{}, [flaw, twin], 0⟩)
        ⟨{}, [flaw, twin], 10⟩) := by
  decide

end CorrelationSample

end CyberAssess
