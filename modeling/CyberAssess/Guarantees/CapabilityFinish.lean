import CyberAssess.Guarantees.ReplayAgreement
import CyberAssess.Guarantees.FinishAgreement
import CyberAssess.Guarantees.ExitOutcome

/-!
# Guarantees — settling through the capability

`ExecutionDecisionCapability.finish` and `settle_execution`, called for a running execution whose
worker holds its authority and its lease and whose process is governed.

* `ExecutionCapability.Governs` is that execution, `SettlesTwice` what is promised of a call for it.
* `finish_refused`: `finish` has no start token to give, and settles no process.
* `settle_written`: what a settlement with a process leaves; `settle_again`: what it answers then.
* `capability_settlement` puts them together.
-/

namespace CyberAssess

open Python

/-- The capability of a running execution: its worker has the authority and the lease, and its process
is governed. -/
structure ExecutionCapability.Governs (k : ExecutionCapability) (db : Db) (now : Instant)
    (e : Execution) : Prop where
  executionId : k.executionId = some e.fixed.run.executionId
  organizationId : k.organizationId = e.fixed.request.organizationId
  there : e ∈ db.executions
  running : e.data.run.state = .running
  authority : authorityInvalid db.revokedTokens now e.fixed e.data = false
  claimed : e.data.dispatch.claimedWith k.workerIdentity (k.dispatchClaimToken.getD "") = true
  lease : leaseHeld now e.data.dispatch.leaseExpiresAt = true
  governed : e.data.ownership.ownershipState = .externalProcessGoverned

/-- A pair a running execution can have. -/
def runningOutcome (terminalState : RunState) (reasonCode : Option ReasonCode) : Bool :=
  isFinishState terminalState && isValidExecutionTerminalOutcome terminalState reasonCode

/-- Run, dispatch and ownership have ended with the state and the reason. -/
structure Rows.EndedWith (y : Rows) (terminalState : RunState) (reasonCode : Option ReasonCode) :
    Prop where
  state : y.run.state = terminalState
  reason : y.run.reasonCode = reasonCode
  dispatch : y.dispatch.state = expectedTerminalDispatch terminalState
  lastError : y.dispatch.lastError = reasonCode
  ownership : y.ownership.ownershipState = .terminal

/-- The call answers `True` and closes the rows, and answers `True` again with nothing changed. -/
def SettlesTwice (call : Instant → Db → Except DbError (Bool × Db)) (db : Db) (now : Instant)
    (e : Execution) (terminalState : RunState) (reasonCode : Option ReasonCode) : Prop :=
  ∃ y, call now db = .ok (true, db.setRows e y) ∧ y.EndedWith terminalState reasonCode ∧
    ∀ later, now ≤ later → call later (db.setRows e y) = .ok (true, db.setRows e y)

variable {db db' : Db} {now later : Instant} {e : Execution} {k : ExecutionCapability}

/-! ### Without a start token -/

/-- A termination is not recorded without the start token of its process. -/
theorem recordTerminal_anonymous {c : TerminalArgs} {jobEmpty : Bool}
    (h : c.identity.processStartToken = none) :
    recordTerminal k c jobEmpty now db = .ok (false, db) := by
  unfold recordTerminal
  split
  · rfl
  split
  · rfl
  split
  · rfl
  rename_i existing found
  split
  · simp [repeatsTermination, repeatedIdentityGiven, h]
  · have windows : terminalWindowsGiven existing.data.ownership existing.fixed k.workerIdentity
        jobEmpty now c.identity = false := by
      rw [Bool.eq_false_iff]
      intro valid
      simp only [terminalWindowsGiven, Bool.and_eq_true, decide_eq_true_eq, h] at valid
      obtain ⟨⟨⟨⟨⟨owned, -⟩, -⟩, -⟩, -⟩, token⟩ := valid
      unfold windowsOwnershipValid at owned
      split at owned
      · simp [token] at owned
      · cases owned
    have posix : terminalPosixGiven existing.data.ownership c.identity = false := by
      simp [terminalPosixGiven, h]
    simp [recordFirstTermination, windows, posix]
  · rfl

/-- Nor is it after the authority was revoked. -/
theorem settleConfirmed_anonymous_process {v : SettleConfirmedArgs} {jobEmpty : Bool}
    (process : v.terminationStatus.isProcess = true) (h : v.identity.processStartToken = none)
    (safe : isSafeState v.terminalState = true)
    (valid : isValidExecutionTerminalOutcome v.terminalState (some v.reasonCode) = true) :
    db.execute (.settleConfirmed v jobEmpty) now = .ok (.done false, db) := by
  have checked : v.check = .ok () := by
    unfold SettleConfirmedArgs.check
    split
    · rfl
    · rw [safe, valid]
      rfl
  have unfit : v.identityFits = false := by
    rw [SettleConfirmedArgs.identityFits, if_pos process]
    simp [IdentityArgs.wellFormed, h]
  cases found : db.addressed (.settleConfirmed v jobEmpty) with
  | none =>
      unfold Db.execute
      rw [found]
      simp only [ExecutionCall.missing, checked]
      rfl
  | some x =>
      have refused : settleExecutionAfterConfirmedTermination v db.revokedTokens jobEmpty now
          x.fixed x.data = .ok (false, x.data) := by
        rw [settleExecutionAfterConfirmedTermination, checked, unfit]
        simp only [Bool.and_false, Bool.false_and, Bool.not_false, if_true]
        rfl
      rw [Db.execute_found found]
      simp only [ExecutionCall.apply, refused]
      change Except.ok (Response.done false, db.setRows x x.data) = _
      rw [Db.setRows_same (Db.addressed_eq_some.mp found).1]

/-- A rejected settlement with a process that is no cancellation answers `False`. -/
theorem settleRevoked_other {c : SettleArgs} {jobEmpty : Bool} {attemptId : String}
    (process : c.identity.processId.isSome = true) (h : c.reasonCode ≠ some .executionCancelled) :
    settleRevoked k c jobEmpty attemptId now db = .ok (false, db) := by
  have given : c.identity.processId.isNone = false := Option.isNone_eq_false_iff.mpr process
  simp [settleRevoked, h, given]

/-- A settlement whose termination is not recorded goes on to the revoked one. -/
theorem settleExecution_unrecorded (c : SettleArgs) {jobEmpty : Bool} (attemptId : String)
    (process : c.identity.processId.isSome = true)
    (h : recordTerminal k ⟨c.terminalState, c.reasonCode, c.identity, c.status⟩ jobEmpty now db =
      .ok (false, db)) :
    settleExecution k c jobEmpty attemptId now db = .ok (false, db) ∨
      settleExecution k c jobEmpty attemptId now db =
        settleRevoked k c jobEmpty attemptId now db := by
  have given : c.identity.processId.isNone = false := Option.isNone_eq_false_iff.mpr process
  have rejected : settleInTransaction k c jobEmpty now db = .error .rejected := by
    rw [settleInTransaction, if_neg (by rw [given]; rintro ⟨⟩), settleWithProcess, h]
    rfl
  unfold settleExecution
  split
  · exact Or.inl rfl
  · rw [rejected]
    exact Or.inr rfl

/-- The default reason is no cancellation. -/
theorem terminalizedReason_cancelled {reasonCode : Option ReasonCode}
    (h : terminalizedReason reasonCode = .executionCancelled) :
    reasonCode = some .executionCancelled := by
  unfold terminalizedReason at h
  cases kept : reasonCode.filter (!·.text.isEmpty) with
  | none =>
      rw [kept] at h
      cases h
  | some reason =>
      rw [kept] at h
      cases h
      exact (Option.filter_eq_some_iff.mp kept).1

/-- **The capability's `finish` settles no process**, with any outcome of a run. -/
theorem finish_refused {terminalState : RunState} {reasonCode : Option ReasonCode}
    {processId : Option Int} {processGroupId : Option String} {jobEmpty : Bool} {attemptId : String}
    (valid : isValidExecutionTerminalOutcome terminalState reasonCode = true)
    (process : processId.isSome = true) :
    k.finish terminalState reasonCode processId processGroupId jobEmpty attemptId now db =
      .ok (false, db) := by
  rw [ExecutionCapability.finish]
  rcases settleExecution_unrecorded
      ⟨terminalState, some (terminalizedReason reasonCode), ⟨processId, processGroupId, none, none⟩, none⟩
      attemptId process (recordTerminal_anonymous rfl) with refused | revoked
  · exact refused
  rw [revoked]
  by_cases cancelled : reasonCode = some .executionCancelled
  · subst cancelled
    have state : terminalState = .cancelled := by
      cases terminalState <;> first | rfl | cases valid
    subst state
    obtain ⟨pid, rfl⟩ := Option.isSome_iff_exists.mp process
    simp only [settleRevoked, SettleArgs.status]
    cases found : db.executionRun (k.executionId.getD "") k.organizationId with
    | none => rfl
    | some existing =>
        change Except.map _ (db.execute (.settleConfirmed _ jobEmpty) now) = _
        rw [settleConfirmed_anonymous_process rfl rfl rfl rfl]
        rfl
  · exact settleRevoked_other process fun same =>
      cancelled (terminalizedReason_cancelled (Option.some.inj same))

/-! ### With the identity of the process -/

/-- The identity is the persisted one. -/
structure OwnershipRow.Persists (p : OwnershipRow) (i : IdentityArgs) : Prop where
  processId : i.processId = p.rootProcessId
  processGroupId : i.processGroupId = p.processGroupId
  processStartToken : i.processStartToken = p.rootProcessStartToken
  sessionId : i.sessionId = (p.sessionId.bind natOfDigits).map Int.ofNat

/-- The bounds `WindowsJobAttestation` reads an attestation under. -/
def OwnershipRow.WindowsRead (p : OwnershipRow) : Prop :=
  ∀ text w, p.identityAttestation = some ⟨text, .windows w⟩ →
    1 < w.rootProcessId ∧ isWindowsStartToken w.rootProcessStartToken = true

/-- The identity of a verified row. -/
def OwnershipRow.verified (p : OwnershipRow) (a : Authority) (workerIdentity : String)
    (historical : Bool) (now : Instant) : Bool :=
  if p.containerType = .windowsJob then windowsOwnershipValid p a workerIdentity historical now
  else terminalPosixIdentity p

/-- What a recorded termination has passed. -/
structure FirstTermination (k : ExecutionCapability) (c : TerminalArgs) (now : Instant) (db : Db)
    (e : Execution) : Prop where
  named : (durableExecutionEvidence k db).isSome = true
  outcome : isValidExecutionTerminalOutcome c.terminalState c.reasonCode = true
  process : (c.terminationStatus.getD .alreadyExited).isProcess = true
  verified : e.data.ownership.verified e.fixed k.workerIdentity false now = true
  given : e.data.ownership.containerType ≠ .windowsJob →
    terminalPosixGiven e.data.ownership c.identity = true
  windows : e.data.ownership.containerType = .windowsJob →
    c.identity.processGroupId = none ∧ c.identity.sessionId = none ∧
      e.data.ownership.rootProcessId = c.identity.processId ∧
      e.data.ownership.rootProcessStartToken = c.identity.processStartToken

theorem recordFirstTermination_checked {c : TerminalArgs} {jobEmpty : Bool} {executionId : String}
    (h : recordFirstTermination k executionId c jobEmpty now db e = .ok (true, db')) :
    FirstTermination k c now db e := by
  unfold recordFirstTermination at h
  simp only at h
  split at h
  · cases h
  rename_i outcome
  simp only [Bool.not_eq_true', Bool.not_eq_false, Bool.and_eq_true] at outcome
  obtain ⟨⟨-, valid⟩, process⟩ := outcome
  by_cases identity : (if e.data.ownership.containerType = .windowsJob then
      terminalWindowsGiven e.data.ownership e.fixed k.workerIdentity jobEmpty now c.identity
    else terminalPosixIdentity e.data.ownership &&
      terminalPosixGiven e.data.ownership c.identity) = true
  case neg =>
    simp only [identity, Bool.not_false, if_true] at h
    cases h
  have named : (durableExecutionEvidence k db).isSome = true := by
    simp only [identity, Bool.not_true, Bool.false_eq_true, if_false] at h
    split at h
    · cases h
    · rename_i found
      rw [found]
      rfl
  by_cases job : e.data.ownership.containerType = .windowsJob
  · rw [if_pos job] at identity
    simp only [terminalWindowsGiven, Bool.and_eq_true, decide_eq_true_eq,
      Option.isNone_iff_eq_none] at identity
    obtain ⟨⟨⟨⟨⟨owned, -⟩, pid⟩, group⟩, session⟩, token⟩ := identity
    refine ⟨named, valid, process, ?_, fun apart => absurd job apart, fun _ => ⟨group, session, pid, token⟩⟩
    rw [OwnershipRow.verified, if_pos job]
    exact owned
  · rw [if_neg job, Bool.and_eq_true] at identity
    refine ⟨named, valid, process, ?_, fun _ => identity.2, fun same => absurd same job⟩
    rw [OwnershipRow.verified, if_neg job]
    exact identity.1

/-! ### What a settlement leaves -/

/-- The arguments a settlement records a termination with. -/
def SettleArgs.terminalArgs (c : SettleArgs) : TerminalArgs :=
  ⟨c.terminalState, c.reasonCode, c.identity, c.status⟩

/-- The arguments a settlement finishes the run with. -/
def SettleArgs.finishArgs (c : SettleArgs) (k : ExecutionCapability) : FinishArgs where
  executionId := k.executionId.getD ""
  organizationId := k.organizationId
  workerIdentity := k.workerIdentity
  dispatchClaimToken := k.dispatchClaimToken.getD ""
  terminalState := c.terminalState
  reasonCode := c.reasonCode
  processId := c.identity.processId
  processGroupId := c.identity.processGroupId

/-- The rows with the proof of the termination. -/
def terminatedRows (k : ExecutionCapability) (c : SettleArgs) (now : Instant) (e : Execution)
    (d : ClaimDigest × ClaimDigest) (r : ProofRecovery) : Rows :=
  { e.data with
    ownership := e.data.ownership.terminated (terminalProof k e.fixed.run.executionId e.fixed e.data
      c.terminalArgs (c.status.getD .alreadyExited) now d r) now now }

/-- What a settlement with a process has passed, and wrote. -/
structure ProcessSettled (k : ExecutionCapability) (c : SettleArgs) (now : Instant) (db db' : Db)
    (e : Execution) (d : ClaimDigest × ClaimDigest) (r : ProofRecovery) : Prop where
  checked : FirstTermination k c.terminalArgs now db e
  evidence : WorkerEvidence k e.fixed e.data
  named : durableExecutionEvidence k db = some e
  digests : claimDigests k = some d
  recovery : proofRecoveryFields e.fixed e.data = some r
  correlated : correlationBound e.fixed = true
  complete : (c.finishArgs k).complete = true
  allowed : finishAllowed (c.finishArgs k) db.revokedTokens now e.fixed (terminatedRows k c now e d r) = true
  written : db' = db.setRows e ((terminatedRows k c now e d r).finished (c.finishArgs k) now)

/-- The transaction of a settlement with a process, of a run that is not closed. -/
theorem settleWithProcess_ok {c : SettleArgs} {jobEmpty : Bool} (h : k.Governs db now e)
    (settled : settleWithProcess k c jobEmpty now db = .ok db') :
    ∃ d r, ProcessSettled k c now db db' e d r := by
  simp only [settleWithProcess, Checked.bind_ok] at settled
  obtain ⟨z, recorded, finished⟩ := settled
  obtain ⟨_, recorded, rfl⟩ := orRejected_ok.mp recorded
  obtain ⟨v, finished, granted⟩ := orRejected_ok.mp finished
  have found : db.executionRun e.fixed.run.executionId k.organizationId = some e := by
    rw [h.organizationId]
    exact Db.executionRun_self h.there
  simp only [recordTerminal, h.executionId, found, h.governed] at recorded
  split at recorded
  · cases recorded
  have checked := recordFirstTermination_checked recorded
  obtain ⟨d, r, w⟩ := recordFirstTermination_ok h.executionId found h.governed recorded
  have named : durableExecutionEvidence k db = some e := by
    obtain ⟨x, evidence⟩ := Option.isSome_iff_exists.mp checked.named
    obtain ⟨executionId, own, stored, -⟩ := durableExecutionEvidence_some evidence
    rw [h.executionId] at own
    cases own
    rw [found] at stored
    cases stored
    exact evidence
  rw [w.written] at finished
  obtain ⟨y, hy, rfl⟩ := execute_set finished h.there
    (congrArg (·, "") (by rw [h.executionId]; rfl)) h.organizationId.symm
  obtain ⟨u, hu, rfl⟩ := respond_ok.mp hy
  cases granted
  rcases finishExecution_ok hu with ⟨-, replayed⟩ | ⟨complete, allowed, -, rfl⟩
  · have ended : e.data.run.state.isTerminal = true := (replayed rfl).2.1
    rw [h.running] at ended
    cases ended
  · exact ⟨d, r, checked, w.evidence, named, w.digests, w.recovery, w.correlated, complete, allowed,
      Db.setRows_setRows ..⟩

/-- The settlement of a revoked authority settles nothing under a live one. -/
theorem not_settleConfirmed_of_governs {v : SettleConfirmedArgs} {jobEmpty : Bool} (h : k.Governs db now e)
    (named : v.executionId = k.executionId.getD "")
    (wrote : db.answers (.settleConfirmed v jobEmpty) now = .ok (true, db')) : False := by
  obtain ⟨r, executed, granted⟩ := Db.answers_ok.mp wrote
  rcases execute_ok executed with ⟨x, -, found, -⟩ | ⟨-, ⟨refused, -⟩ | ⟨_, -, other, -⟩⟩
  · obtain ⟨there, key, -⟩ := Db.addressed_eq_some.mp found
    have own : v.executionId = e.fixed.run.executionId := by
      rw [named, h.executionId]
      rfl
    have same : x = e := by
      refine Relational.Table.eq_of_key_eq there h.there .execution (key.trans ?_)
      exact congrArg (·, "") own
    subst same
    obtain ⟨y, hy, -⟩ := execute_row found executed
    obtain ⟨u, hu, rfl⟩ := respond_ok.mp hy
    rcases settleExecutionAfterConfirmedTermination_ok hu with ⟨-, closed⟩ | ⟨-, -, -, -, settleable, -⟩
    · have ended := (closed granted).1
      rw [h.governed] at ended
      cases ended
    · simp only [confirmedSettleable, Bool.and_eq_true] at settleable
      rw [h.authority] at settleable
      exact absurd settleable.1.1.2 (by rintro ⟨⟩)
  · rw [granted] at refused
    cases refused
  · cases other

/-- **What a settlement leaves** that answers `True` with the process of a running execution. -/
theorem settle_written {c : SettleArgs} {jobEmpty : Bool} {attemptId : String} (h : k.Governs db now e)
    (process : c.identity.processId.isSome = true)
    (settled : settleExecution k c jobEmpty attemptId now db = .ok (true, db')) :
    ∃ d r, ProcessSettled k c now db db' e d r := by
  have given : c.identity.processId.isNone = false := Option.isNone_eq_false_iff.mpr process
  unfold settleExecution at settled
  split at settled
  · cases settled
  split at settled
  · rename_i transaction
    cases settled
    rw [settleInTransaction, if_neg (by rw [given]; rintro ⟨⟩)] at transaction
    exact settleWithProcess_ok h transaction
  · cases settled
  · obtain ⟨v, ⟨named, -⟩, wrote⟩ := Settlement.settleRevoked_ok settled
    exact (not_settleConfirmed_of_governs h named wrote).elim

/-- It leaves run, dispatch and ownership closed. -/
theorem ProcessSettled.ended {c : SettleArgs} {d : ClaimDigest × ClaimDigest} {r : ProofRecovery}
    (w : ProcessSettled k c now db db' e d r) :
    ((terminatedRows k c now e d r).finished (c.finishArgs k) now).EndedWith c.terminalState
      c.reasonCode where
  state := rfl
  reason := rfl
  dispatch := expected_finish _ (isTerminal_of_complete w.complete).1
  lastError := rfl
  ownership := rfl

/-! ### What it answers then -/

section Again

variable {c : SettleArgs} {d : ClaimDigest × ClaimDigest} {r : ProofRecovery}

/-- The rows a settlement leaves. -/
def settledRows (k : ExecutionCapability) (c : SettleArgs) (now : Instant) (e : Execution)
    (d : ClaimDigest × ClaimDigest) (r : ProofRecovery) : Rows :=
  (terminatedRows k c now e d r).finished (c.finishArgs k) now

/-- The evidence is found again. -/
theorem ProcessSettled.named_again (w : ProcessSettled k c now db db' e d r) (h : k.Governs db now e) :
    durableExecutionEvidence k db' = some ⟨e.fixed, settledRows k c now e d r⟩ := by
  have named := w.named
  simp only [durableExecutionEvidence, h.executionId] at named ⊢
  split at named
  · cases named
  rename_i nonblank
  rw [if_neg nonblank, w.written, h.organizationId]
  rw [executionRun_setRows h.there, Option.filter_eq_some_iff]
  refine ⟨rfl, ?_⟩
  exact (Option.filter_eq_some_iff.mp named).2

/-- A row that was never recovered has the recovery fields it had. -/
theorem Unrecovered.fields_again {x y : Rows} {a : Authority} (h : Unrecovered x r)
    (recovery : y.recovery = x.recovery) (attempts : y.attempts = x.attempts) :
    proofRecoveryFields a y = some r := by
  have attempt : confirmedAttempt y = none := by
    rw [confirmedAttempt, attempts]
    exact h.attempt
  rw [proofRecoveryFields, recovery, h.quiet, attempt, h.status, h.number, h.outcome, h.level, h.fields]
  rfl

/-- A Windows start token is not blank. -/
theorem not_isBlank_of_windowsStartToken {t : String} (h : isWindowsStartToken t = true) :
    isBlank t = false := by
  have start : t.toList.take 8 = "windows:".toList := by
    unfold isWindowsStartToken at h
    rw [List.splitAt_eq] at h
    split at h
    · rename_i parts
      simp only [Bool.and_eq_true, decide_eq_true_eq] at h
      exact (congrArg Prod.fst parts).trans h.1.1.1
    · cases h
  rw [isBlank, ← List.take_append_drop 8 t.toList, start, List.all_append]
  rfl

/-- The identity of the first call is given again. -/
theorem FirstTermination.repeated {t : TerminalArgs} (w : FirstTermination k t now db e)
    (read : e.data.ownership.WindowsRead) :
    repeatedIdentityGiven e.data.ownership t.identity = true := by
  by_cases job : e.data.ownership.containerType = .windowsJob
  · obtain ⟨group, session, pid, token⟩ := w.windows job
    have owned := w.verified
    rw [OwnershipRow.verified, if_pos job] at owned
    unfold windowsOwnershipValid at owned
    split at owned
    · rename_i text att attested
      obtain ⟨bound, start⟩ := read text att attested
      simp only [Bool.and_eq_true, decide_eq_true_eq] at owned
      obtain ⟨⟨⟨⟨⟨⟨-, root⟩, started⟩, -⟩, -⟩, -⟩, -⟩ := owned
      have named := not_isBlank_of_windowsStartToken start
      rw [repeatedIdentityGiven, if_pos job, group, session, ← pid, ← token, root, started]
      simp [bound, named]
    · cases owned
  · have posix := w.given job
    simp only [terminalPosixGiven, Bool.and_eq_true] at posix
    obtain ⟨⟨⟨⟨⟨⟨⟨pid, group⟩, token⟩, session⟩, -⟩, -⟩, -⟩, -⟩ := posix
    rw [repeatedIdentityGiven, if_neg job, pid, group, token, session]
    rfl

/-- It is the persisted one. -/
theorem FirstTermination.persists {t : TerminalArgs} (w : FirstTermination k t now db e) :
    e.data.ownership.Persists t.identity := by
  by_cases job : e.data.ownership.containerType = .windowsJob
  · obtain ⟨group, session, pid, token⟩ := w.windows job
    have owned := w.verified
    rw [OwnershipRow.verified, if_pos job] at owned
    unfold windowsOwnershipValid at owned
    split at owned
    · simp only [Bool.and_eq_true, Option.isNone_iff_eq_none] at owned
      obtain ⟨⟨⟨⟨⟨⟨⟨⟨⟨⟨⟨⟨-, groupless⟩, sessionless⟩, -⟩, -⟩, -⟩, -⟩, -⟩, -⟩, -⟩, -⟩, -⟩, -⟩ := owned
      exact ⟨pid.symm, by rw [group, groupless], token.symm, by rw [session, sessionless]; rfl⟩
    · cases owned
  · have posix := w.given job
    simp only [terminalPosixGiven, Bool.and_eq_true, decide_eq_true_eq] at posix
    obtain ⟨⟨⟨⟨-, pid⟩, group⟩, session⟩, token⟩ := posix
    exact ⟨pid.symm, group.symm, token.symm, session.symm⟩

/-- The row is verified later, its expiry not read. -/
theorem OwnershipRow.verified_later {p : OwnershipRow} {a : Authority} {workerIdentity : String}
    (h : p.verified a workerIdentity false now = true) (hl : now ≤ later) :
    p.verified a workerIdentity true later = true := by
  unfold OwnershipRow.verified at h ⊢
  split
  · rename_i job
    rw [if_pos job] at h
    unfold windowsOwnershipValid at h ⊢
    split at h
    · simp only [Bool.and_eq_true, decide_eq_true_eq, Bool.true_or, and_true] at h ⊢
      exact ⟨h.1.1, h.1.2.trans hl⟩
    · cases h
  · rename_i apart
    rw [if_neg apart] at h
    exact h

/-- The states a repeated termination is accepted with. -/
def repeatedState (s : RunState) : Bool := s = .failed || s = .timedOut || s = .cancelled

/-- The stored proof is the one the worker would write. -/
theorem ProcessSettled.bound_again (w : ProcessSettled k c now db db' e d r)
    (process : c.identity.processId.isSome = true) :
    repeatedProofBound k e.fixed.run.executionId c.terminalArgs e.fixed (settledRows k c now e d r)
      (terminalProof k e.fixed.run.executionId e.fixed e.data c.terminalArgs
        (c.status.getD .alreadyExited) now d r) d r (c.status.getD .alreadyExited) = true := by
  obtain ⟨pid, group, token, session⟩ := w.checked.persists
  obtain ⟨n, root⟩ := Option.isSome_iff_exists.mp process
  have stored : e.data.ownership.rootProcessId = some n := pid.symm.trans root
  simp only [repeatedProofBound, Bool.and_eq_true, decide_eq_true_eq]
  refine ⟨⟨⟨⟨⟨⟨rfl, ?_⟩, group⟩, token⟩, session⟩, rfl⟩, ?_⟩
  · change c.identity.processId = some (e.data.ownership.rootProcessId.getD 0)
    rw [root, stored]
    rfl
  · change e.data.ownership.rootProcessId.isSome = true
    rw [stored]
    rfl

/-- The termination is recognised later, in those states. -/
theorem ProcessSettled.repeats_iff (w : ProcessSettled k c now db db' e d r) (h : k.Governs db now e)
    (unrecovered : Unrecovered e.data r) (read : e.data.ownership.WindowsRead)
    (process : c.identity.processId.isSome = true) (hl : now ≤ later) :
    repeatsTermination k e.fixed.run.executionId c.terminalArgs later db'
      ⟨e.fixed, settledRows k c now e d r⟩ = repeatedState c.terminalState := by
  have status : c.terminalArgs.terminationStatus = some (c.status.getD .alreadyExited) := by
    have given : c.identity.processId.isNone = false :=
      Option.isNone_eq_false_iff.mpr process
    simp [SettleArgs.terminalArgs, SettleArgs.status, given]
  have valid : isValidExecutionTerminalOutcome c.terminalArgs.terminalState c.terminalArgs.reasonCode =
      true := w.checked.outcome
  have identity : repeatedIdentityGiven (settledRows k c now e d r).ownership c.terminalArgs.identity =
      true := w.checked.repeated read
  have stored : (settledRows k c now e d r).ownership.noProcessProof = some (.envelope (terminalProof k
      e.fixed.run.executionId e.fixed e.data c.terminalArgs (c.status.getD .alreadyExited) now d r)) := rfl
  have recovery : proofRecoveryFields e.fixed (settledRows k c now e d r) = some r :=
    unrecovered.fields_again rfl rfl
  have confirmed : (c.status.getD .alreadyExited).isProcess = true := w.checked.process
  have unconfirmed : r.status ≠ .confirmedTerminated := by
    rw [unrecovered.fields]
    nofun
  have verified : (settledRows k c now e d r).ownership.verified e.fixed k.workerIdentity true later =
      true := OwnershipRow.verified_later w.checked.verified hl
  unfold OwnershipRow.verified at verified
  simp only [repeatsTermination, valid, identity, stored, status, w.named_again h, w.digests, recovery,
    confirmed, w.correlated, w.bound_again process, verified, unconfirmed, decide_true, Bool.true_or,
    Option.any_some, Bool.and_true, ne_eq, not_false_eq_true]
  rfl

/-- So the worker's record answers. -/
theorem ProcessSettled.recordTerminal_again (jobEmpty : Bool) (w : ProcessSettled k c now db db' e d r)
    (h : k.Governs db now e) (unrecovered : Unrecovered e.data r) (read : e.data.ownership.WindowsRead)
    (process : c.identity.processId.isSome = true) (hl : now ≤ later) :
    recordTerminal k ⟨c.terminalState, c.reasonCode, c.identity, c.status⟩ jobEmpty later db' =
      .ok (repeatedState c.terminalState, db') := by
  have found : db'.executionRun e.fixed.run.executionId k.organizationId =
      some ⟨e.fixed, settledRows k c now e d r⟩ := by
    rw [w.written, h.organizationId]
    exact executionRun_setRows h.there
  have ended : (settledRows k c now e d r).ownership.ownershipState = .terminal := rfl
  have nonempty : e.fixed.run.executionId.isEmpty = false := by
    have complete := w.complete
    simp only [FinishArgs.complete, SettleArgs.finishArgs, h.executionId, Option.getD_some,
      Bool.and_eq_true, Bool.not_eq_true'] at complete
    exact complete.1.1.1.1.2
  simp only [recordTerminal, h.executionId, nonempty, found, ended, Bool.false_eq_true, if_false]
  rw [← w.repeats_iff h unrecovered read process hl]
  rfl

/-- The outcome of a state whose repetition is not accepted is no cancellation. -/
theorem reason_of_unrepeated {s : RunState} {reasonCode : Option ReasonCode}
    (valid : isValidExecutionTerminalOutcome s reasonCode = true) (h : repeatedState s = false) :
    reasonCode ≠ some .executionCancelled := by
  rintro rfl
  have state : s = .cancelled := by
    cases s <;> first | rfl | cases valid
  subst state
  cases h

/-- **The identical second call** answers as the state has it, and changes nothing. -/
theorem ProcessSettled.again {jobEmpty : Bool} {attemptId : String}
    (w : ProcessSettled k c now db db' e d r) (h : k.Governs db now e)
    (unrecovered : Unrecovered e.data r) (read : e.data.ownership.WindowsRead)
    (process : c.identity.processId.isSome = true) (hl : now ≤ later) :
    settleExecution k c jobEmpty attemptId later db' = .ok (repeatedState c.terminalState, db') := by
  have recorded := w.recordTerminal_again jobEmpty h unrecovered read process hl
  cases repeated : repeatedState c.terminalState with
  | false =>
      rw [repeated] at recorded
      rcases settleExecution_unrecorded c attemptId process recorded with refused | revoked
      · exact refused
      · rw [revoked]
        exact settleRevoked_other process (reason_of_unrepeated w.checked.outcome repeated)
  | true =>
      rw [repeated] at recorded
      have complete := w.complete
      have addressed : db.addressed (.finish (c.finishArgs k)) = some e := by
        refine Db.addressed_eq_some.mpr ⟨h.there, ?_, h.organizationId.symm⟩
        exact congrArg (·, "") (by rw [SettleArgs.finishArgs, h.executionId]; rfl)
      have finished : db'.execute (.finish (c.finishArgs k)) later = .ok (.done true, db') := by
        rw [w.written]
        exact execute_finish_again addressed complete (isTerminal_of_complete complete).2
          (finishReplays_finished w.allowed)
      have transaction : settleInTransaction k c jobEmpty later db' = .ok db' := by
        rw [settleInTransaction, if_neg (by rw [Option.isNone_eq_false_iff.mpr process]; rintro ⟨⟩),
          settleWithProcess, recorded]
        change orRejected Response.granted (db'.execute (.finish (c.finishArgs k)) later) = _
        rw [finished]
        rfl
      have named : ∀ t : Option String, (t.getD "").isEmpty = false → absent t = false := by
        intro t nonempty
        cases t with
        | none => cases nonempty
        | some t => exact nonempty
      simp only [FinishArgs.complete, SettleArgs.finishArgs, Bool.and_eq_true, Bool.not_eq_true'] at complete
      obtain ⟨⟨⟨⟨⟨-, executionId⟩, -⟩, -⟩, token⟩, -⟩ := complete
      rw [settleExecution, named _ executionId, named _ token, transaction]
      rfl

end Again

/-- **Settling through the capability.**  `finish` settles no running process, whatever the outcome;
`settle_execution`, where it answers `True`, does so again exactly for the states whose repetition is
accepted. -/
theorem capability_settlement {g : Gateway} (c : SettleArgs) (jobEmpty : Bool) (attemptId : String)
    (reach : db.Reachable g) (h : k.Governs db now e) (read : e.data.ownership.WindowsRead)
    (outcome : runningOutcome c.terminalState c.reasonCode = true)
    (process : c.identity.processId.isSome = true) :
    ¬SettlesTwice (k.finish c.terminalState c.reasonCode c.identity.processId c.identity.processGroupId
        jobEmpty attemptId) db now e c.terminalState c.reasonCode ∧
      ((∃ z, settleExecution k c jobEmpty attemptId now db = .ok (true, z)) →
        (SettlesTwice (settleExecution k c jobEmpty attemptId) db now e c.terminalState c.reasonCode ↔
          repeatedState c.terminalState = true)) := by
  constructor
  · rintro ⟨y, settled, -⟩
    have refused : k.finish c.terminalState c.reasonCode c.identity.processId c.identity.processGroupId
        jobEmpty attemptId now db = .ok (false, db) :=
      finish_refused (Bool.and_eq_true_iff.mp outcome).2 process
    rw [settled] at refused
    cases refused
  · rintro ⟨z, settled⟩
    obtain ⟨d, r, w⟩ := settle_written h process settled
    have closed := recoveryClosed_of_reachable reach e h.there
    have unconfirmed : e.data.recovery.status ≠ .confirmedTerminated := by
      intro confirmed
      have ended := (closed confirmed).1
      rw [h.governed] at ended
      cases ended
    have unrecovered := unrecovered_of_fields w.recovery unconfirmed
    have again : ∀ later, now ≤ later → settleExecution k c jobEmpty attemptId later z =
        .ok (repeatedState c.terminalState, z) :=
      fun later hl => w.again h unrecovered read process hl
    have written : z = db.setRows e (settledRows k c now e d r) := w.written
    constructor
    · rintro ⟨y, first, -, second⟩
      rw [settled] at first
      have same : z = db.setRows e y := congrArg Prod.snd (Except.ok.inj first)
      have repeated := again now (le_refl now)
      rw [same, second now (le_refl now)] at repeated
      exact (congrArg Prod.fst (Except.ok.inj repeated)).symm
    · intro repeated
      refine ⟨settledRows k c now e d r, ?_, w.ended, fun later hl => ?_⟩
      · rw [settled, written]
      · rw [← written, again later hl, repeated]

namespace Sample

/-- The process exits with 0. -/
def succeeding : SettleArgs where
  terminalState := .succeeded
  reasonCode := none
  identity := ⟨some 4242, some "4242", some "posix:0000-0000:77", some 4242⟩
  terminationStatus := none

theorem launched_governs :
    ∃ e : Execution, capability.Governs (tenant.afterAll gateway launched) (seconds 4) e ∧
      e.data.ownership.WindowsRead := by
  have held : ((tenant.afterAll gateway launched).executionRun "run-a" "org-a").any (fun e =>
      decide (e.data.run.state = .running) && !authorityInvalid [] (seconds 4) e.fixed e.data &&
        e.data.dispatch.claimedWith "worker-a" "dispatch-token" &&
        leaseHeld (seconds 4) e.data.dispatch.leaseExpiresAt &&
        decide (e.data.ownership.ownershipState = .externalProcessGoverned) &&
        decide (e.data.ownership.identityAttestation = governed.record.identityAttestation)) = true := by
    decide +kernel
  obtain ⟨e, found, held⟩ := (Option.any_eq_true _ _).mp held
  simp only [Bool.and_eq_true, decide_eq_true_eq, Bool.not_eq_true'] at held
  obtain ⟨⟨⟨⟨⟨running, authority⟩, claimed⟩, lease⟩, governed⟩, attestation⟩ := held
  obtain ⟨there, named, tenant⟩ := executionRun_some found
  refine ⟨e, ⟨congrArg some named.symm, tenant.symm, there, running, ?_, claimed, lease, governed⟩, ?_⟩
  · exact authority
  · intro text w windows
    rw [windows] at attestation
    cases attestation

/-- A process that succeeded is settled, once. -/
theorem succeeding_settles_once :
    ∃ e : Execution,
      ¬SettlesTwice (capability.finish .succeeded none (some 4242) (some "4242") false "attempt-a")
        (tenant.afterAll gateway launched) (seconds 4) e .succeeded none ∧
      (∃ z, settleExecution capability succeeding false "attempt-a" (seconds 4)
        (tenant.afterAll gateway launched) = .ok (true, z)) ∧
      ¬SettlesTwice (settleExecution capability succeeding false "attempt-a")
        (tenant.afterAll gateway launched) (seconds 4) e .succeeded none := by
  obtain ⟨e, governs, read⟩ := launched_governs
  have answer : (settleExecution capability succeeding false "attempt-a" (seconds 4)
      (tenant.afterAll gateway launched)).toOption.map (·.1) = some true := by
    decide +kernel
  obtain ⟨⟨v, z⟩, settled, rfl⟩ := Option.map_eq_some_iff.mp answer
  have first := Checked.toOption_eq_some.mp settled
  obtain ⟨refused, once⟩ := capability_settlement succeeding false "attempt-a"
    (reachable_afterAll initial launched) governs read rfl rfl
  refine ⟨e, refused, ⟨z, first⟩, fun twice => ?_⟩
  cases (once ⟨z, first⟩).mp twice

/-- The capability of a running, governed process does not finish it. -/
theorem launched_not_finished :
    ¬∀ (g : Gateway) (db : Db), db.Reachable g → ∀ (now : Instant) (e : Execution)
      (k : ExecutionCapability) (c : SettleArgs) (jobEmpty : Bool) (attemptId : String),
      k.Governs db now e → runningOutcome c.terminalState c.reasonCode = true →
        e.data.ownership.Persists c.identity → c.identity.processId.isSome = true →
        SettlesTwice (k.finish c.terminalState c.reasonCode c.identity.processId
          c.identity.processGroupId jobEmpty attemptId) db now e c.terminalState c.reasonCode ∧
        SettlesTwice (settleExecution k c jobEmpty attemptId) db now e c.terminalState c.reasonCode := by
  intro all
  obtain ⟨e, governs, -⟩ := launched_governs
  have persisted : ((tenant.afterAll gateway launched).executionRun "run-a" "org-a").all (fun e =>
      decide (e.data.ownership.rootProcessId = some 4242) &&
        decide (e.data.ownership.processGroupId = some "4242") &&
        decide (e.data.ownership.rootProcessStartToken = some "posix:0000-0000:77") &&
        decide ((e.data.ownership.sessionId.bind Python.natOfDigits).map Int.ofNat = some 4242)) = true := by
    decide +kernel
  have found : (tenant.afterAll gateway launched).executionRun "run-a" "org-a" = some e := by
    have own := Db.executionRun_self governs.there
    rwa [Option.some.inj governs.executionId.symm, ← governs.organizationId] at own
  rw [found] at persisted
  simp only [Option.all_some, Bool.and_eq_true, decide_eq_true_eq] at persisted
  obtain ⟨⟨⟨pid, group⟩, token⟩, session⟩ := persisted
  obtain ⟨⟨y, settled, -⟩, -⟩ := all gateway _ (reachable_afterAll initial launched) (seconds 4) e
    capability succeeding false "attempt-a" governs rfl
    ⟨pid.symm, group.symm, token.symm, session.symm⟩ rfl
  have refused : (capability.finish .succeeded none (some 4242) (some "4242") false "attempt-a" (seconds 4)
      (tenant.afterAll gateway launched)).toOption.map (·.1) = some false := by
    decide +kernel
  change capability.finish .succeeded none (some 4242) (some "4242") false "attempt-a" (seconds 4)
    (tenant.afterAll gateway launched) = _ at settled
  rw [settled] at refused
  cases refused

end Sample

end CyberAssess
