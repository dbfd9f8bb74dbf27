import CyberAssess.Guarantees.ReplayAgreement
import CyberAssess.Service.Supervisor

/-!
# Guarantees — what a tool's output says of its outcome

A governed process that ends by itself, whatever it wrote.

* `settleExecution_run`: a settlement that answers `True` leaves the run as it was asked to.
* `EndsByItself`: no cancellation, timeout, lost lease or overflow, and an empty container.
* `Unmarked`: the text on `stderr` carries none of the supervisor's markers.
* `outcome_noninterference`: the outcome is the exit code's exactly then.
-/

namespace CyberAssess

variable {g : Gateway} {db db' : Db} {now : Instant}

/-! ### A settlement that answers `True` -/

/-- The run of `k` has ended as given. -/
def RunEnded (k : ExecutionCapability) (db : Db) (terminalState : RunState)
    (reasonCode : Option ReasonCode) : Prop :=
  ∃ executionId e, k.executionId = some executionId ∧
    db.executionRun executionId k.organizationId = some e ∧
    e.data.run.state = terminalState ∧ e.data.run.reasonCode = reasonCode

theorem RunEnded.of_wrote {k : ExecutionCapability} {e : Execution} {y : Rows} {s : RunState}
    {reason : Option ReasonCode} (hid : k.executionId = some e.fixed.run.executionId)
    (horg : k.organizationId = e.fixed.request.organizationId) (h : ⟨e.fixed, y⟩ ∈ db'.executions)
    (hs : y.run.state = s) (hr : y.run.reasonCode = reason) : RunEnded k db' s reason := by
  refine ⟨_, ⟨e.fixed, y⟩, hid, ?_, hs, hr⟩
  rw [horg]
  exact Db.executionRun_self h

/-- The finish of a run ends it as given, or found it so. -/
theorem finish_run {c : FinishArgs} {revokedTokens : List String} {a : Authority} {x y : Rows}
    (h : finishExecution c revokedTokens now a x = .ok (true, y)) :
    y.run.state = c.terminalState ∧ y.run.reasonCode = c.reasonCode := by
  rcases finishExecution_ok h with ⟨rfl, replayed⟩ | ⟨-, -, -, rfl⟩
  · obtain ⟨-, -, replays⟩ := replayed rfl
    simp only [finishReplays, Bool.and_eq_true, decide_eq_true_eq] at replays
    obtain ⟨⟨⟨⟨⟨⟨state, -⟩, reason⟩, -⟩, -⟩, -⟩, -⟩ := replays
    exact ⟨state.symm, reason⟩
  · exact ⟨rfl, rfl⟩

section Settle

variable {k : ExecutionCapability} {c : SettleArgs} {jobEmpty : Bool}

theorem settleWithProcess_run (h : settleWithProcess k c jobEmpty now db = .ok db') :
    RunEnded k db' c.terminalState c.reasonCode := by
  simp only [settleWithProcess, Checked.bind_ok] at h
  obtain ⟨z, hz, settled⟩ := h
  obtain ⟨_, recorded, rfl⟩ := orRejected_ok.mp hz
  obtain ⟨v, finished, granted⟩ := orRejected_ok.mp settled
  obtain ⟨e, status, d, r, stamp, updated, w⟩ := recordTerminal_ok recorded
  rw [w.written] at finished
  obtain ⟨y, hy, rfl⟩ := execute_set finished w.there
    (congrArg (·, "") (by rw [w.executionId]; rfl)) w.organizationId.symm
  obtain ⟨u, hu, rfl⟩ := respond_ok.mp hy
  cases granted
  obtain ⟨state, reason⟩ := finish_run hu
  exact .of_wrote w.executionId w.organizationId (Db.Wrote.set w.there).again.there state reason

/-- The settlement of a process ends its run as given. -/
theorem settleExecution_run {attemptId : String} (hp : c.identity.processId.isSome = true)
    (hc : c.reasonCode ≠ some .executionCancelled)
    (h : settleExecution k c jobEmpty attemptId now db = .ok (true, db')) :
    RunEnded k db' c.terminalState c.reasonCode := by
  simp only [settleExecution] at h
  split at h
  · cases h
  split at h
  · rename_i transaction
    cases h
    have withProcess : settleWithProcess k c jobEmpty now db = .ok db' := by
      rwa [settleInTransaction, if_neg (by simp [Option.isSome_iff_ne_none.mp hp])] at transaction
    exact settleWithProcess_run withProcess
  · cases h
  · -- Only a cancellation has a second settlement.
    simp only [settleRevoked, decide_eq_false hc, Bool.false_and, Bool.false_eq_true, if_false]
      at h
    split at h
    · rename_i created
      simp [Option.isSome_iff_ne_none.mp hp] at created
    · cases h

end Settle

/-! ### The limit flag -/

/-- A chunk is longer than what is left under the cap. -/
inductive Overflows (maxOutputBytes : Nat) : List DrainEvent → Prop where
  | here {es : List DrainEvent} {pipe : Pipe} {chunk : List UInt8}
      (h : maxOutputBytes - (supervise maxOutputBytes es).captured.totalBytes < chunk.length) :
      Overflows maxOutputBytes (es ++ [.read pipe chunk])
  | before {es : List DrainEvent} {e : DrainEvent} (h : Overflows maxOutputBytes es) :
      Overflows maxOutputBytes (es ++ [e])

variable {maxOutputBytes : Nat}

theorem supervise_snoc (es : List DrainEvent) (e : DrainEvent) :
    supervise maxOutputBytes (es ++ [e])
      = (supervise maxOutputBytes es).step maxOutputBytes e := by
  rw [supervise, List.foldl_append]
  rfl

theorem overflows_snoc {es : List DrainEvent} {e : DrainEvent} :
    Overflows maxOutputBytes (es ++ [e]) ↔ Overflows maxOutputBytes es ∨
      ∃ pipe chunk, e = .read pipe chunk ∧
        maxOutputBytes - (supervise maxOutputBytes es).captured.totalBytes < chunk.length := by
  constructor
  · intro h
    generalize hl : es ++ [e] = l at h
    cases h with
    | here h =>
        obtain ⟨rfl, last⟩ := List.append_inj' hl rfl
        cases last
        exact Or.inr ⟨_, _, rfl, h⟩
    | before h =>
        obtain ⟨rfl, -⟩ := List.append_inj' hl rfl
        exact Or.inl h
  · rintro (h | ⟨pipe, chunk, rfl, h⟩)
    · exact .before h
    · exact .here h

/-- **The flag is set by an overflow, and by a reader that raises.** -/
theorem limitReached_iff (es : List DrainEvent) :
    (supervise maxOutputBytes es).captured.limitReached = true ↔
      Overflows maxOutputBytes es ∨ .readRaises ∈ es := by
  induction es using List.reverseRecOn with
  | nil =>
      refine iff_of_false Bool.false_ne_true ?_
      rintro (h | h)
      · generalize hl : ([] : List DrainEvent) = l at h
        cases h with
        | here | before => exact absurd hl (by simp)
      · cases h
  | append_singleton es e ih =>
      rw [supervise_snoc, overflows_snoc, List.mem_append, List.mem_singleton]
      cases e with
      | read pipe chunk =>
          simp only [Supervision.step, Captured.read, Bool.or_eq_true, ih, decide_eq_true_eq,
            DrainEvent.read.injEq, reduceCtorEq, or_false]
          constructor
          · rintro ((h | h) | h)
            · exact Or.inl (Or.inl h)
            · exact Or.inr h
            · exact Or.inl (Or.inr ⟨pipe, chunk, ⟨rfl, rfl⟩, h⟩)
          · rintro ((h | ⟨_, _, ⟨rfl, rfl⟩, h⟩) | h)
            · exact Or.inl (Or.inl h)
            · exact Or.inr h
            · exact Or.inl (Or.inr h)
      | readRaises => simp [Supervision.step]
      | poll p =>
          have unread : ((supervise maxOutputBytes es).step maxOutputBytes (.poll p)).captured
              = (supervise maxOutputBytes es).captured := by
            simp only [Supervision.step]
            split <;> rfl
          rw [unread, ih]
          simp

/-- A process that exited needs no kill. -/
theorem exited_confirmed {es : List DrainEvent} {confirmed : Bool}
    (h : (supervise maxOutputBytes es).ended = some (.exited, confirmed)) : confirmed = true := by
  induction es using List.reverseRecOn with
  | nil => cases h
  | append_singleton es e ih =>
      rw [supervise_snoc] at h
      cases e with
      | read | readRaises => exact ih h
      | poll p =>
          simp only [Supervision.step] at h
          split at h
          · exact ih h
          · obtain ⟨x, -, same⟩ := Option.map_eq_some_iff.mp h
            simp only [Prod.mk.injEq] at same
            rw [← same.2, same.1]
            rfl

/-! ### Markers -/

/-- A beginning occurs. -/
theorem contains_of_startsWith {text marker : String} (hm : marker.toList ≠ [])
    (h : startsWith text marker = true) : contains text marker = true := by
  simp only [startsWith] at h
  simp only [contains]
  cases ht : text.toList with
  | nil =>
      rw [ht, List.isPrefixOf_iff_prefix, List.prefix_nil] at h
      exact absurd h hm
  | cons c cs =>
      rw [ht] at h
      rw [cutText, if_pos h]
      rfl

/-- A text that is marked begins with its marker. -/
theorem startsWith_marked (marker stderr : String) : startsWith (marked marker stderr) marker = true := by
  simp only [startsWith, marked, String.toList_append, List.isPrefixOf_iff_prefix]
  exact List.prefix_append _ _

/-- A beginning of the marker is one of the text. -/
theorem startsWith_append {text marker rest : String} (h : startsWith text (marker ++ rest) = true) :
    startsWith text marker = true := by
  simp only [startsWith, String.toList_append, List.isPrefixOf_iff_prefix] at h ⊢
  exact (List.prefix_append _ _).trans h

/-- The marker of the output limit is found. -/
theorem contains_outputLimit (stderr : String) :
    contains (marked (outputLimitMarker maxOutputBytes) stderr) "Output exceeded maximum" = true := by
  have whole := startsWith_marked (outputLimitMarker maxOutputBytes) stderr
  have first : startsWith (marked (outputLimitMarker maxOutputBytes) stderr)
      ("Output exceeded maximum" ++ " of ") = true := startsWith_append (startsWith_append whole)
  exact contains_of_startsWith (by decide) (startsWith_append first)

/-- The texts `execution_status` looks for at any exit code, but the one of the limit. -/
def reservedMarkers : List String :=
  ["PROCESS_LAUNCH_UNCERTAIN", "PROCESS_LAUNCH_REJECTED_SECURITY",
    "PROCESS_TERMINATION_UNCONFIRMED", "PROCESS_LAUNCH_CANCELLED", "Execution timed out"]

/-- The status of an exit code. -/
def exitStatus (returncode : Int) : ProcessExecutionStatus :=
  if returncode = 0 then .completed else .failed

/-- **The status is the exit code's** exactly where no marker is read. -/
theorem executionStatus_iff {returncode : Int} {stdout stderr : String}
    (h : contains stderr "Output exceeded maximum" = false) :
    (ProcessExecutionResult.mk returncode stdout stderr).executionStatus = exitStatus returncode ↔
      (∀ marker ∈ reservedMarkers, startsWith stderr marker = false) ∧
        (returncode = 127 → startsWith stderr "Executable not found" = false) ∧
        (returncode = 126 → startsWith stderr "Permission denied" = false) := by
  have unlimited : startsWith stderr "Output exceeded maximum" = false := by
    rw [← Bool.not_eq_true]
    intro first
    rw [contains_of_startsWith (by decide) first] at h
    cases h
  have other : ∀ s : ProcessExecutionStatus, s ≠ .completed → s ≠ .failed →
      ¬ s = exitStatus returncode := by
    intro s completed failed same
    rw [exitStatus] at same
    split at same
    · exact completed same
    · exact failed same
  simp only [ProcessExecutionResult.executionStatus, reservedMarkers, List.forall_mem_cons,
    unlimited, Bool.false_eq_true, if_false]
  by_cases h₁ : startsWith stderr "PROCESS_LAUNCH_UNCERTAIN" = true
  · simp [h₁, other]
  by_cases h₂ : startsWith stderr "PROCESS_LAUNCH_REJECTED_SECURITY" = true
  · simp [h₁, h₂, other]
  by_cases h₃ : startsWith stderr "PROCESS_TERMINATION_UNCONFIRMED" = true
  · simp [h₁, h₂, h₃, other]
  by_cases h₄ : startsWith stderr "PROCESS_LAUNCH_CANCELLED" = true
  · simp [h₁, h₂, h₃, h₄, other]
  by_cases h₅ : startsWith stderr "Execution timed out" = true
  · simp [h₁, h₂, h₃, h₄, h₅, other]
  simp only [Bool.not_eq_true] at h₁ h₂ h₃ h₄ h₅
  simp only [h₁, h₂, h₃, h₄, h₅, Bool.false_eq_true, if_false, List.not_mem_nil, false_imp_iff,
    implies_true, and_true, true_and, Bool.and_eq_true, decide_eq_true_eq]
  by_cases found : returncode = 127 ∧ startsWith stderr "Executable not found" = true
  · simp [found, exitStatus]
  by_cases permitted : returncode = 126 ∧ startsWith stderr "Permission denied" = true
  · simp [permitted, exitStatus]
  rw [if_neg found, if_neg permitted]
  refine iff_of_true rfl ⟨fun hc => ?_, fun hc => ?_⟩
  · exact Bool.eq_false_iff.mpr fun hs => found ⟨hc, hs⟩
  · exact Bool.eq_false_iff.mpr fun hs => permitted ⟨hc, hs⟩

/-! ### Runs that end by themselves -/

namespace SupervisedRun

variable (r : SupervisedRun)

/-- What the tool wrote to `stderr`, as it is read. -/
def toolStderr : String := Utf8.decode (supervise r.maxOutputBytes r.events).captured.stderr

/-- The process ends by itself: nothing else ends the loop, no chunk overflows the cap, no
cancellation is seen, and its container is found empty. -/
structure EndsByItself : Prop where
  exited : (supervise r.maxOutputBytes r.events).ended.map (·.1) = some .exited
  unlimited : ¬ Overflows r.maxOutputBytes r.events
  uncancelled : r.aftermath.cancellationRequested = false
  waited : r.teardown.exited = true
  treeEmpty : r.teardown.treeEmpty = true ∧ r.aftermath.treeEmpty = true

/-- The readers do not raise, and `stderr` has none of the texts the supervisor reads. -/
structure Unmarked : Prop where
  drained : .readRaises ∉ r.events
  unlimited : contains r.toolStderr "Output exceeded maximum" = false
  unreserved : ∀ marker ∈ reservedMarkers, startsWith r.toolStderr marker = false
  found : r.aftermath.returncode = 127 → startsWith r.toolStderr "Executable not found" = false
  permitted : r.aftermath.returncode = 126 → startsWith r.toolStderr "Permission denied" = false

/-- What the supervisor settles, once the pipes are drained. -/
def finalization (c : Communicated) : Finalization :=
  classify c r.aftermath.cancellationRequested r.aftermath.exited r.aftermath.returncode

/-- The settlement commits. -/
def Settles : Prop :=
  ∃ c db', r.communicated = some c ∧ r.settlement (r.finalization c) = .ok (true, db')

/-- The durable state and reason of the run, and the status of the result. -/
def outcome : Option ((RunState × Option ReasonCode) × ProcessExecutionStatus) := do
  let (result, db') ← r.execute
  let executionId ← r.capability.executionId
  let e ← db'.executionRun executionId r.capability.organizationId
  some ((e.data.run.state, e.data.run.reasonCode), result.executionStatus)

end SupervisedRun

/-- The outcome of an exit code. -/
def exitOutcome (returncode : Int) : (RunState × Option ReasonCode) × ProcessExecutionStatus :=
  (if returncode = 0 then (.succeeded, none) else (.failed, some .processExitNonzero),
    exitStatus returncode)

section Outcome

variable {r s : SupervisedRun} {c : Communicated}

/-- What is drained of a process that ends by itself. -/
theorem SupervisedRun.EndsByItself.communicated (h : r.EndsByItself) :
    r.communicated = some
      { stdout := Utf8.decode (supervise r.maxOutputBytes r.events).captured.stdout
        stderr :=
          if .readRaises ∈ r.events then
            marked (outputLimitMarker r.maxOutputBytes) r.toolStderr
          else r.toolStderr
        boundedFailure := decide (.readRaises ∈ r.events)
        terminationConfirmed := true } := by
  obtain ⟨⟨exit, confirmed⟩, ended, rfl⟩ := Option.map_eq_some_iff.mp h.exited
  have confirmed' : confirmed = true := exited_confirmed ended
  have limit : (supervise r.maxOutputBytes r.events).captured.limitReached
      = decide (.readRaises ∈ r.events) := by
    rw [Bool.eq_iff_iff, limitReached_iff, decide_eq_true_eq]
    exact or_iff_right h.unlimited
  simp only [SupervisedRun.communicated, boundedCommunicate, ended, Option.map_some, limit,
    decide_eq_true_eq, reduceCtorEq, if_false, decide_false, Bool.or_false,
    Teardown.terminationConfirmed, h.waited, h.treeEmpty.1, confirmed', Bool.true_or, if_true,
    Bool.not_true, Bool.and_false, Bool.false_eq_true, SupervisedRun.toolStderr]

/-- Its finalization is settled. -/
theorem SupervisedRun.EndsByItself.finish (h : r.EndsByItself) (hc : r.communicated = some c) :
    r.finish c = r.finalize (r.finalization c) := by
  have drained := h.communicated
  rw [hc, Option.some.injEq] at drained
  subst drained
  simp only [SupervisedRun.finish, SupervisedRun.finalization, h.treeEmpty.2, Bool.not_true,
    Bool.and_false, Bool.false_and, Bool.false_eq_true, if_false]

/-- The outcome is what the finalization says. -/
theorem SupervisedRun.EndsByItself.outcome (h : r.EndsByItself) (hc : r.communicated = some c)
    (hs : r.settlement (r.finalization c) = .ok (true, db')) :
    r.outcome = some (((r.finalization c).terminalState, (r.finalization c).reasonCode),
      (r.finalization c).result.executionStatus) := by
  have uncancelled : (r.finalization c).reasonCode ≠ some .executionCancelled := by
    simp only [SupervisedRun.finalization, classify, h.uncancelled, Bool.false_eq_true, if_false]
    split_ifs <;> nofun
  obtain ⟨executionId, e, hk, he, state, reason⟩ := settleExecution_run rfl uncancelled hs
  have result : r.finish c = ((r.finalization c).result, db') := by
    rw [h.finish hc, SupervisedRun.finalize, hs]
  simp only [SupervisedRun.outcome, SupervisedRun.execute, hc, Option.map_some, result, hk, he,
    bind, Option.bind_some]
  rw [state, reason]

/-- **A run without markers has the outcome of its exit code**, and no other run has. -/
theorem SupervisedRun.EndsByItself.outcome_iff (h : r.EndsByItself) (hs : r.Settles) :
    r.outcome = some (exitOutcome r.aftermath.returncode) ↔ r.Unmarked := by
  obtain ⟨c, db', hc, settled⟩ := hs
  rw [h.outcome hc settled, Option.some.injEq]
  have drained := h.communicated
  rw [hc, Option.some.injEq] at drained
  have partial_ne : ∀ v : ProcessExecutionStatus,
      ((RunState.partialResultsWithWarning, some ReasonCode.outputLimitExceeded), v)
        ≠ exitOutcome r.aftermath.returncode := by
    intro v same
    have state := congrArg (fun o => o.1.1) same
    simp only [exitOutcome] at state
    split at state <;> cases state
  by_cases raised : DrainEvent.readRaises ∈ r.events
  · -- The reader's exception is reported as an overflow.
    have limited : contains c.stderr "Output exceeded maximum" = true := by
      rw [drained]
      simp only [if_pos raised]
      exact contains_outputLimit _
    simp only [SupervisedRun.finalization, classify, h.uncancelled, limited, Bool.false_eq_true,
      if_false, if_true]
    exact iff_of_false (partial_ne _) fun u => u.drained raised
  have stderr : c.stderr = r.toolStderr := by
    rw [drained]
    simp only [if_neg raised]
  have unbounded : c.boundedFailure = false := by
    rw [drained]
    simp only [raised, decide_false]
  by_cases limited : contains r.toolStderr "Output exceeded maximum" = true
  · simp only [SupervisedRun.finalization, classify, h.uncancelled, stderr, limited,
      Bool.false_eq_true, if_false, if_true]
    refine iff_of_false (partial_ne _) fun u => ?_
    rw [u.unlimited] at limited
    cases limited
  rw [Bool.not_eq_true] at limited
  have finalization : r.finalization c =
      ⟨(exitOutcome r.aftermath.returncode).1.1, (exitOutcome r.aftermath.returncode).1.2, none,
        ⟨r.aftermath.returncode, c.stdout, r.toolStderr⟩⟩ := by
    simp only [SupervisedRun.finalization, classify, h.uncancelled, stderr, limited, unbounded,
      Bool.false_and, Bool.false_eq_true, if_false, exitOutcome]
    split <;> rfl
  rw [finalization]
  constructor
  · intro same
    have status := congrArg Prod.snd same
    obtain ⟨unreserved, found, permitted⟩ := (executionStatus_iff limited).mp status
    exact ⟨raised, limited, unreserved, found, permitted⟩
  · intro u
    exact congrArg (Prod.mk _)
      ((executionStatus_iff limited).mpr ⟨u.unreserved, u.found, u.permitted⟩)

/-- **Outcome noninterference.**  Of two governed processes that end by themselves with one exit
code, whatever they wrote: one has the outcome of the exit code exactly where it is without markers,
and where the other is, the two outcomes are the same exactly then. -/
theorem outcome_noninterference (hr : r.EndsByItself) (hs : s.EndsByItself)
    (same : r.aftermath.returncode = s.aftermath.returncode) (settlesR : r.Settles)
    (settlesS : s.Settles) :
    (r.outcome = some (exitOutcome r.aftermath.returncode) ↔ r.Unmarked) ∧
      (s.Unmarked → (r.outcome = s.outcome ↔ r.Unmarked)) := by
  have reported := hr.outcome_iff settlesR
  refine ⟨reported, fun unmarked => ?_⟩
  rw [(hs.outcome_iff settlesS).mpr unmarked, ← same]
  exact reported

end Outcome

/-! ### Two tools that exit with 1 -/

namespace Sample

/-- The process of the worker, under the committed launch. -/
def governed : TransitionOwnershipArgs :=
  { uncertain with
    record :=
      { uncertain.record with
        ownershipState := .externalProcessGoverned
        launchCommitState := .committed
        containerIdentity := some (posixContainerIdentity "4242" "4242")
        rootProcessStartToken := some "posix:0000-0000:77"
        processGroupId := some "4242"
        sessionId := some "4242"
        launchedAt := some (seconds 3)
        lastVerifiedAt := some (seconds 3)
        identityAttestation := some ⟨"attestation", .posix
          { bootId := "0000-0000"
            rootStartTicks := 77
            sessionId := 4242
            processGroupId := 4242
            workerGeneration := "generation-a"
            verified := true
            memberSnapshot := [⟨4242, 4242, 4242, "posix:0000-0000:77"⟩] }⟩ } }

/-- The launch is committed and started. -/
def launched : List (Instant × Operation) :=
  claimed ++
    [(seconds 3, .call (.transitionOwnership governed)),
      (seconds 3, .call (.markStarted start))]

/-- What the worker holds of it. -/
def capability : ExecutionCapability where
  decisionId := "dec-a"
  organizationId := "org-a"
  workerIdentity := "worker-a"
  workerGeneration := "generation-a"
  executionId := some "run-a"
  claimToken := some "decision-token"
  dispatchClaimToken := some "dispatch-token"

/-- A process that exits with 1 after writing `stderr`. -/
def exits (stderr : String) : SupervisedRun where
  capability := capability
  processId := 4242
  processGroupId := some "4242"
  processStartToken := "posix:0000-0000:77"
  sessionId := some 4242
  maxOutputBytes := 10485760
  timeout := "300"
  events :=
    [.read .stderr (Utf8.asciiBytes stderr.toList),
      .poll ⟨true, false, false, false, false, false⟩]
  teardown := ⟨true, false, false, false, false, true, true, false⟩
  aftermath :=
    { treeEmpty := true
      killed := false
      treeEmptyAfterKill := true
      cancellationRequested := false
      exited := true
      returncode := 1
      killedAfterException := false
      uncertain := ⟨.launchUncertain, .processSet, none, none, none, none, none, none⟩ }
  jobEmpty := false
  attemptId := "attempt-a"
  now := seconds 4
  db := tenant.afterAll gateway launched

theorem exits_ends {stderr : String}
    (ended : (supervise 10485760 (exits stderr).events).ended.map (·.1) = some .exited)
    (limit : (supervise 10485760 (exits stderr).events).captured.limitReached = false) :
    (exits stderr).EndsByItself where
  exited := ended
  unlimited := by
    intro overflow
    have reached : (supervise 10485760 (exits stderr).events).captured.limitReached = true :=
      (limitReached_iff _).mpr (Or.inl overflow)
    rw [limit] at reached
    cases reached
  uncancelled := rfl
  waited := rfl
  treeEmpty := ⟨rfl, rfl⟩

theorem exits_settles {stderr : String}
    (h : ((exits stderr).communicated.bind fun c =>
      ((exits stderr).settlement ((exits stderr).finalization c)).toOption.map (·.1))
        = some true) : (exits stderr).Settles := by
  obtain ⟨c, hc, settled⟩ := Option.bind_eq_some_iff.mp h
  obtain ⟨⟨answered, db'⟩, result, rfl⟩ := Option.map_eq_some_iff.mp settled
  refine ⟨c, db', hc, ?_⟩
  cases performed : (exits stderr).settlement ((exits stderr).finalization c) with
  | error e =>
      rw [performed] at result
      cases result
  | ok v =>
      rw [performed] at result
      cases result
      rfl

/-- The text of the limit's marker, written by the tool itself. -/
theorem marked_ends : (exits "Output exceeded maximum").EndsByItself :=
  exits_ends (by decide +kernel) (by decide +kernel)

theorem marked_settles : (exits "Output exceeded maximum").Settles :=
  exits_settles (by decide +kernel)

theorem marked_not_unmarked : ¬ (exits "Output exceeded maximum").Unmarked := by
  intro unmarked
  have found : contains (exits "Output exceeded maximum").toolStderr "Output exceeded maximum"
      = true := by decide +kernel
  rw [unmarked.unlimited] at found
  cases found

theorem silent_ends : (exits "").EndsByItself :=
  exits_ends (by decide +kernel) (by decide +kernel)

theorem silent_settles : (exits "").Settles := exits_settles (by decide +kernel)

theorem silent_unmarked : (exits "").Unmarked := by
  have silent : (exits "").toolStderr = "" := by decide +kernel
  refine ⟨by decide +kernel, ?_, ?_, ?_, ?_⟩
  · rw [silent]
    decide
  · rw [silent]
    decide
  · intro missing
    cases missing
  · intro denied
    cases denied

end Sample

/-- One tool is silent, the other names the marker of the output limit. -/
theorem outcome_noninterference_marked :
    ((Sample.exits "Output exceeded maximum").outcome = some (exitOutcome 1) ↔
        (Sample.exits "Output exceeded maximum").Unmarked) ∧
      ((Sample.exits "").Unmarked →
        ((Sample.exits "Output exceeded maximum").outcome = (Sample.exits "").outcome ↔
          (Sample.exits "Output exceeded maximum").Unmarked)) :=
  outcome_noninterference Sample.marked_ends Sample.silent_ends rfl Sample.marked_settles
    Sample.silent_settles

/-- The text is taken for an overflow: a tool that failed is recorded with partial results. -/
theorem marker_interferes :
    ¬ ∀ r s : SupervisedRun, r.EndsByItself → s.EndsByItself →
      r.aftermath.returncode = s.aftermath.returncode → r.Settles → s.Settles →
      r.outcome = s.outcome := by
  intro claim
  have same := claim _ _ Sample.marked_ends Sample.silent_ends rfl Sample.marked_settles
    Sample.silent_settles
  have silent := (Sample.silent_ends.outcome_iff Sample.silent_settles).mpr Sample.silent_unmarked
  rw [silent] at same
  exact Sample.marked_not_unmarked
    ((Sample.marked_ends.outcome_iff Sample.marked_settles).mp same)

end CyberAssess
