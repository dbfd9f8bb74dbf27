import CyberAssess.Guarantees.SettlementReplay
import CyberAssess.Guarantees.RecoveryLease
import CyberAssess.Guarantees.ScanLifecycle

/-!
# Guarantees — settlement and replay agree

* `Writer` lists the statements that close a child, `Settlement` the calls that reach them.
* `Writer.Replayable`: what a writer has to find, of the rows and of its own arguments.
* `settlement_replay_agrees`: the reader accepts what a settlement leaves exactly then.
-/

namespace CyberAssess

open Python

variable {g : Gateway} {db db' : Db} {now later : Instant} {e : Execution}

/-! ### Calls on the rows of one execution -/

/-- A call that found its rows wrote what they give. -/
theorem execute_row {c : ExecutionCall} {r : Response} (he : db.addressed c = some e)
    (h : db.execute c now = .ok (r, db')) :
    ∃ y, c.apply db.revokedTokens now e.fixed e.data = .ok (r, y) ∧ db' = db.setRows e y := by
  rw [Db.execute_found he, Checked.map_ok] at h
  obtain ⟨⟨r', y⟩, hy, hd⟩ := h
  cases hd
  exact ⟨y, hy, rfl⟩

/-- A call on rows that have just been written. -/
theorem execute_set {c : ExecutionCall} {r : Response} {y : Rows}
    (h : (db.setRows e y).execute c now = .ok (r, db')) (he : e ∈ db.executions)
    (hk : c.key.1.value e.fixed = (c.key.2, ""))
    (ho : e.fixed.request.organizationId = c.organizationId) :
    ∃ z, c.apply db.revokedTokens now e.fixed y = .ok (r, z) ∧
      db' = (db.setRows e y).setRows ⟨e.fixed, y⟩ z := by
  have found : (db.setRows e y).addressed c = some ⟨e.fixed, y⟩ :=
    Db.addressed_eq_some.mpr ⟨(Db.mem_setRows_self he).mpr rfl, hk, ho⟩
  obtain ⟨z, hz, rfl⟩ := execute_row found h
  exact ⟨z, hz, rfl⟩

/-- What a call answers, as the truth value its caller tests. -/
def Db.answers (db : Db) (c : ExecutionCall) (now : Instant) : Except DbError (Bool × Db) :=
  (db.execute c now).map fun r => (r.1.granted, r.2)

theorem Db.answers_ok {c : ExecutionCall} :
    db.answers c now = .ok (true, db') ↔
      ∃ r, db.execute c now = .ok (r, db') ∧ r.granted = true := by
  rw [Db.answers, Checked.map_ok]
  constructor
  · rintro ⟨⟨r, z⟩, h, same⟩
    cases congrArg Prod.snd same
    exact ⟨r, h, congrArg Prod.fst same⟩
  · rintro ⟨r, h, granted⟩
    exact ⟨(r, db'), h, by rw [granted]⟩

/-- A granted transition of ownership wrote its record, where the record is not a replay. -/
theorem transitionOwnership_row {c : TransitionOwnershipArgs} {r : Response}
    (h : db.execute (.transitionOwnership c) now = .ok (r, db')) (hr : r.granted = true)
    (he : db.executionRun c.executionId c.organizationId = some e)
    (hn : e.data.ownership.ownershipState = .terminal →
      ownershipReplays c.record e.fixed e.data.ownership = false) :
    OwnershipMove c e.fixed e.data ∧
      db' = db.setRows e { e.data with ownership := e.data.ownership.recorded c.record } := by
  obtain ⟨y, hy, rfl⟩ := execute_row (c := .transitionOwnership c) he h
  obtain ⟨v, hv, rfl⟩ := respond_ok.mp hy
  rcases transitionProcessOwnership_ok hv with ⟨rfl, -⟩ | ⟨ht, rfl, -⟩ | ⟨hm, -, rfl⟩
  · cases hr
  · rw [hn ht] at hr
    cases hr
  · exact ⟨hm, rfl⟩

/-- The rows of an execution that were written are found again. -/
theorem executionRun_setRows {y : Rows} (he : e ∈ db.executions) :
    (db.setRows e y).executionRun e.fixed.run.executionId e.fixed.request.organizationId =
      some ⟨e.fixed, y⟩ :=
  Db.executionRun_self ((Db.mem_setRows_self he).mpr rfl)

/-- The decision of an execution is the approved one. -/
theorem decision_of_reachable (h : db.Reachable g) :
    ∀ e ∈ db.executions, e.fixed.run.approvedDecisionId = e.fixed.decision.id := by
  refine reachable_executions
    (I := fun e => e.fixed.run.approvedDecisionId = e.fixed.decision.id) (g := g)
    (C := fun _ _ => True) (fun _ _ _ _ _ he _ => he) ?_ (h.mono fun _ _ _ hs => ⟨trivial, hs⟩)
  intro d ev e he
  cases he <;> rfl

/-! ### The worker's proofs -/

section Worker

variable {k : ExecutionCapability}

/-- The evidence a worker reads is of its own execution. -/
theorem durableExecutionEvidence_some (h : durableExecutionEvidence k db = some e) :
    ∃ executionId, k.executionId = some executionId ∧
      db.executionRun executionId k.organizationId = some e ∧ WorkerEvidence k e.fixed e.data := by
  unfold durableExecutionEvidence at h
  split at h
  · cases h
  rename_i executionId hk
  split at h
  · cases h
  rw [Option.filter_eq_some_iff] at h
  simp only [Bool.and_eq_true, decide_eq_true_eq] at h
  exact ⟨executionId, hk, h.1, h.2.1.1, h.2.1.2, h.2.2⟩

/-- The rows with a proof of no process. -/
def noProcessRows (k : ExecutionCapability) (c : NoProcessArgs) (now : Instant) (e : Execution)
    (reason : ReasonCode) (d : ClaimDigest × ClaimDigest) (r : ProofRecovery) : Rows :=
  { e.data with
    ownership := e.data.ownership.recorded (noProcessRecord k e.fixed.run.correlationId
      (noProcessProof k e.fixed.run.executionId e.fixed (c.terminal reason) reason now d r) now) }

/-- What a proof of no process was written of. -/
structure NoProcessWritten (k : ExecutionCapability) (c : NoProcessArgs) (now : Instant)
    (db db' : Db) (e : Execution) (reason : ReasonCode) (d : ClaimDigest × ClaimDigest)
    (r : ProofRecovery) : Prop where
  executionId : k.executionId = some e.fixed.run.executionId
  organizationId : k.organizationId = e.fixed.request.organizationId
  there : e ∈ db.executions
  coded : c.reasonCode = some reason
  registered : reason.isRegistered = true
  evidence : WorkerEvidence k e.fixed e.data
  digests : claimDigests k = some d
  recovery : proofRecoveryFields e.fixed e.data = some r
  correlated : correlationBound e.fixed = true
  unknown : e.data.ownership.ownershipState = .unknown
  written : db' = db.setRows e (noProcessRows k c now e reason d r)

theorem recordNoProcess_ok {c : NoProcessArgs} (h : recordNoProcess k c now db = .ok (true, db')) :
    ∃ e reason d r, NoProcessWritten k c now db db' e reason d r := by
  unfold recordNoProcess at h
  split at h
  · rename_i reason executionId hr hk
    split at h
    · cases h
    rename_i fits
    split at h
    · cases h
    rename_i e he
    split at h
    · rename_i d r hd hf
      simp only at h
      split at h
      · cases h
      rename_i guarded
      obtain ⟨executionId', hk', found, evidence⟩ := durableExecutionEvidence_some he
      rw [hk] at hk'
      cases hk'
      obtain ⟨there, hid, horg⟩ := executionRun_some found
      cases hid
      simp only [Bool.not_eq_true', Bool.not_eq_false, Bool.and_eq_true, decide_eq_true_eq]
        at fits guarded
      unfold catchValueError at h
      split at h
      · rename_i v z hv
        have hv' := congrArg Prod.fst (Except.ok.inj h)
        have hz := congrArg Prod.snd (Except.ok.inj h)
        cases hz
        have fresh : e.data.ownership.ownershipState = .terminal → ownershipReplays
            (noProcessRecord k e.fixed.run.correlationId (noProcessProof k e.fixed.run.executionId
              e.fixed (c.terminal reason) reason now d r) now) e.fixed e.data.ownership = false :=
          fun _ => by simp [ownershipReplays, noProcessRecord]
        obtain ⟨moved, rfl⟩ := transitionOwnership_row hv hv' found fresh
        have correlated : correlationBound e.fixed = true := by
          simp only [correlationBound, Bool.and_eq_true, decide_eq_true_eq, Bool.not_eq_true']
          exact ⟨moved.correlated, by simpa using guarded.1.2⟩
        exact ⟨e, reason, d, r, hk, horg.symm, there, hr, fits.1.1.1, evidence, hd, hf, correlated,
          moved.expected, rfl⟩
      · cases h
      · cases h
    · cases h
  · cases h

/-- The ownership row with a termination proof. -/
def OwnershipRow.terminated (p : OwnershipRow) (proof : ExecutionProof) (stamp updated : Instant) :
    OwnershipRow :=
  { p with
    ownershipState := .terminal
    noProcessProof := some (.envelope proof)
    terminalizedAt := some stamp
    updatedAt := updated }

/-- What a proof of a termination was written of, or is stored of already. -/
structure TerminalWritten (k : ExecutionCapability) (c : TerminalArgs) (now : Instant)
    (db db' : Db) (e : Execution) (status : TerminationStatus) (d : ClaimDigest × ClaimDigest)
    (r : ProofRecovery) (stamp updated : Instant) : Prop where
  executionId : k.executionId = some e.fixed.run.executionId
  organizationId : k.organizationId = e.fixed.request.organizationId
  there : e ∈ db.executions
  evidence : WorkerEvidence k e.fixed e.data
  digests : claimDigests k = some d
  recovery : proofRecoveryFields e.fixed e.data = some r
  correlated : correlationBound e.fixed = true
  process : status.isProcess = true
  windows : e.data.ownership.containerType = .windowsJob → ∃ historical, windowsOwnershipValid
    e.data.ownership e.fixed k.workerIdentity historical now = true
  written : db' = db.setRows e { e.data with
    ownership := e.data.ownership.terminated
      (terminalProof k e.fixed.run.executionId e.fixed e.data c status stamp d r) stamp updated }

/-- A first termination. -/
theorem recordFirstTermination_ok {c : TerminalArgs} {jobEmpty : Bool} {executionId : String}
    (hk : k.executionId = some executionId)
    (he : db.executionRun executionId k.organizationId = some e)
    (ho : e.data.ownership.ownershipState = .externalProcessGoverned)
    (h : recordFirstTermination k executionId c jobEmpty now db e = .ok (true, db')) :
    ∃ d r, TerminalWritten k c now db db' e (c.terminationStatus.getD .alreadyExited) d r now now := by
  obtain ⟨there, hid, horg⟩ := executionRun_some he
  unfold recordFirstTermination at h
  simp only at h
  split at h
  · cases h
  rename_i outcome
  simp only [Bool.not_eq_true', Bool.not_eq_false, Bool.and_eq_true] at outcome
  by_cases identity : (if e.data.ownership.containerType = .windowsJob then
      terminalWindowsGiven e.data.ownership e.fixed k.workerIdentity jobEmpty now c.identity
    else terminalPosixIdentity e.data.ownership &&
      terminalPosixGiven e.data.ownership c.identity) = true
  · simp only [identity, Bool.not_true, Bool.false_eq_true, if_false] at h
    split at h
    · cases h
    rename_i e' he'
    obtain ⟨executionId', hk', found, evidence⟩ := durableExecutionEvidence_some he'
    rw [hk] at hk'
    cases hk'
    rw [he] at found
    cases found
    cases hid
    split at h
    · rename_i d r hd hf
      split at h
      · cases h
      rename_i guarded
      simp only [Bool.or_eq_true, not_or, Bool.not_eq_true] at guarded
      obtain ⟨⟨v, z⟩, hv, hz⟩ := Checked.map_ok.mp h
      have granted := congrArg Prod.fst hz
      cases congrArg Prod.snd hz
      have unended : e.data.ownership.ownershipState = .terminal → ownershipReplays
          (terminalRecord e.data.ownership e.fixed.run.correlationId (terminalProof k
            e.fixed.run.executionId e.fixed e.data c (c.terminationStatus.getD .alreadyExited) now
            d r) now) e.fixed e.data.ownership = false := by
        intro ended
        rw [ho] at ended
        cases ended
      obtain ⟨moved, rfl⟩ := transitionOwnership_row hv granted he unended
      have correlated : correlationBound e.fixed = true := by
        simp only [correlationBound, Bool.and_eq_true, decide_eq_true_eq, Bool.not_eq_true']
        exact ⟨moved.correlated, guarded.1⟩
      refine ⟨d, r, hk, horg.symm, there, evidence, hd, hf, correlated, outcome.2,
        fun hw => ⟨false, ?_⟩, rfl⟩
      rw [if_pos hw] at identity
      simp only [terminalWindowsGiven, Bool.and_eq_true] at identity
      exact identity.1.1.1.1.1
    · cases h
  · simp only [identity, Bool.not_false, if_true] at h
    cases h

/-- A proof of a termination that is stored is the one this worker would write. -/
theorem repeatsTermination_ok {c : TerminalArgs} {executionId : String}
    (hk : k.executionId = some executionId)
    (he : db.executionRun executionId k.organizationId = some e)
    (ho : e.data.ownership.ownershipState = .terminal)
    (h : repeatsTermination k executionId c now db e = true) :
    ∃ status d r stamp updated, TerminalWritten k c now db db e status d r stamp updated := by
  obtain ⟨there, hid, horg⟩ := executionRun_some he
  unfold repeatsTermination at h
  simp only [Bool.and_eq_true] at h
  obtain ⟨-, stored⟩ := h
  split at stored
  · rename_i proof status e' d hp hs he' hd
    obtain ⟨executionId', hk', found, evidence⟩ := durableExecutionEvidence_some he'
    rw [hk] at hk'
    cases hk'
    rw [he] at found
    cases found
    cases hid
    simp only [Bool.and_eq_true, Option.any_eq_true] at stored
    obtain ⟨⟨⟨process, correlated⟩, r, hf, bound, -⟩, identity⟩ := stored
    simp only [repeatedProofBound, Bool.and_eq_true, decide_eq_true_eq] at bound
    obtain ⟨⟨⟨⟨⟨⟨same, -⟩, -⟩, -⟩, -⟩, stamped⟩, -⟩ := bound
    have written : proof = terminalProof k e.fixed.run.executionId e.fixed e.data c status
        proof.observedAt d r := by
      calc proof = { { proof with observedAt := 0 } with observedAt := proof.observedAt } := rfl
        _ = _ := by rw [same]; rfl
    refine ⟨status, d, r, proof.observedAt, e.data.ownership.updatedAt, hk, horg.symm, there,
      evidence, hd, hf, correlated, process, fun hw => ⟨true, ?_⟩, ?_⟩
    · rw [if_pos hw] at identity
      exact identity
    · have unchanged : e.data.ownership.terminated (terminalProof k e.fixed.run.executionId e.fixed
          e.data c status proof.observedAt d r) proof.observedAt e.data.ownership.updatedAt
            = e.data.ownership := by
        rw [← written, OwnershipRow.terminated, ← ho, ← hp, ← stamped]
      rw [unchanged]
      exact (Db.setRows_same there).symm
  · cases stored

theorem recordTerminal_ok {c : TerminalArgs} {jobEmpty : Bool}
    (h : recordTerminal k c jobEmpty now db = .ok (true, db')) :
    ∃ e status d r stamp updated, TerminalWritten k c now db db' e status d r stamp updated := by
  unfold recordTerminal at h
  split at h
  · cases h
  rename_i executionId hk
  split at h
  · cases h
  split at h
  · cases h
  rename_i e he
  split at h
  · rename_i ho
    have again : repeatsTermination k executionId c now db e = true := congrArg Prod.fst (Except.ok.inj h)
    cases congrArg Prod.snd (Except.ok.inj h)
    exact ⟨e, repeatsTermination_ok hk he ho again⟩
  · rename_i ho
    obtain ⟨d, r, w⟩ := recordFirstTermination_ok hk he ho h
    exact ⟨e, _, d, r, now, now, w⟩
  · cases h

end Worker

/-! ### Writers -/

/-- The statements that close a child, each one transaction. -/
inductive Writer where
  | worker (k : ExecutionCapability) (c : SettleArgs) (jobEmpty : Bool)
  | noProcess (k : ExecutionCapability) (c : NoProcessArgs)
  | confirmed (c : SettleConfirmedArgs) (jobEmpty : Bool)
  | recovery (c : SettleRecoveryArgs) (jobEmpty : Bool)

namespace Writer

/-- The writer commits from `db` to `db'` and answers `True`. -/
def Wrote (now : Instant) (db db' : Db) : Writer → Prop
  | .worker k c jobEmpty => settleInTransaction k c jobEmpty now db = .ok db'
  | .noProcess k c => recordNoProcess k c now db = .ok (true, db')
  | .confirmed c jobEmpty => db.answers (.settleConfirmed c jobEmpty) now = .ok (true, db')
  | .recovery c jobEmpty => db.answers (.settleRecovery c jobEmpty) now = .ok (true, db')

/-- The execution the writer was called for. -/
def executionId : Writer → Option String
  | .worker k _ _ | .noProcess k _ => k.executionId
  | .confirmed c _ => some c.executionId
  | .recovery c _ => some c.executionId

/-- Its tenant. -/
def organizationId : Writer → String
  | .worker k _ _ | .noProcess k _ => k.organizationId
  | .confirmed c _ => c.organizationId
  | .recovery c _ => c.organizationId

/-- **What a writer has to find** for the reader to accept what it leaves. -/
def Replayable (a : Authority) (x : Rows) : Writer → Prop
  | .worker k c _ => WorkerReplayable k a x ∧
      if c.identity.processId = none then x.run.processId = none ∧ x.run.processGroupId = none
      else ProcessReplayable a x ∧ (x.run.state.isTerminal = true → x.dispatch.unleased)
  | .noProcess k c => WorkerReplayable k a x ∧
      (x.run.processId = none ∧ x.run.processGroupId = none) ∧
      ∃ reason, c.reasonCode = some reason ∧ Ends x (c.terminal reason) (some reason)
  | .confirmed c _ => c.Replayable a x
  | .recovery c _ => c.Replayable a x

end Writer

/-- The rows `y` of `e` are written, and the parents stay. -/
structure Db.Wrote (db db' : Db) (e : Execution) (y : Rows) : Prop where
  there : ⟨e.fixed, y⟩ ∈ db'.executions
  parents : db'.scanRequests = db.scanRequests

/-- The columns a binding reads of a child and no writer changes. -/
structure Rows.Keeps (x y : Rows) : Prop where
  request : y.request = x.request
  revokedAt : y.decision.revokedAt = x.decision.revokedAt
  consumedAt : y.decision.consumedAt = x.decision.consumedAt
  worker : y.run.workerIdentity = x.run.workerIdentity

theorem Db.Wrote.set {y : Rows} (he : e ∈ db.executions) : db.Wrote (db.setRows e y) e y :=
  ⟨(Db.mem_setRows_self he).mpr rfl, rfl⟩

theorem Db.Wrote.again {y z : Rows} (h : db.Wrote db' e y) :
    db.Wrote (db'.setRows ⟨e.fixed, y⟩ z) e z :=
  ⟨(Db.mem_setRows_self h.there).mpr rfl, h.parents⟩

/-- What a writer leaves of `e`: its rows with a proof, explained where it found what it has to. -/
def Writer.Agrees (w : Writer) (db db' : Db) (e : Execution) (later : Instant) : Prop :=
  ∃ y p, db.Wrote db' e y ∧ e.data.Keeps y ∧ y.ownership.noProcessProof = some (.envelope p) ∧
    (Explained e.fixed y p later ↔ w.Replayable e.fixed e.data)

/-- The child is not closed: its run or its ownership row has not ended. -/
def Execution.Unfinished (e : Execution) : Prop :=
  ¬ (e.data.run.state.isTerminal = true ∧ e.data.ownership.ownershipState = .terminal)

/-- The recovery of an unfinished child is not confirmed. -/
theorem Execution.Unfinished.unconfirmed (h : e.Unfinished) (hr : e.data.RecoveryClosed) :
    e.data.recovery.status ≠ .confirmedTerminated :=
  fun hs => h ⟨(hr hs).2, (hr hs).1⟩

/-- The recovered process. -/
theorem recovery_agrees {c : SettleRecoveryArgs} {jobEmpty : Bool} (he : e ∈ db.executions)
    (hid : c.executionId = e.fixed.run.executionId)
    (horg : c.organizationId = e.fixed.request.organizationId)
    (hrun : e.fixed.run.organizationId = e.fixed.request.organizationId) (hl : now ≤ later)
    (h : (Writer.recovery c jobEmpty).Wrote now db db') :
    (Writer.recovery c jobEmpty).Agrees db db' e later := by
  have found : db.addressed (.settleRecovery c jobEmpty) = some e :=
    Db.addressed_eq_some.mpr ⟨he, congrArg (·, "") hid.symm, horg.symm⟩
  obtain ⟨r, h, granted⟩ := Db.answers_ok.mp h
  obtain ⟨y, hy, rfl⟩ := execute_row found h
  obtain ⟨v, hv, rfl⟩ := respond_ok.mp hy
  obtain rfl : v = true := granted
  rcases settleRecoveryExecution_ok hv with ⟨hf, -⟩ | ⟨hc, settleable, -, -, -, rfl⟩
  · cases hf
  · exact ⟨_, recoveryProof c now e.fixed e.data, .set he, ⟨rfl, rfl, rfl, rfl⟩, rfl,
      recovery_explained hc settleable hl hid (horg.trans hrun.symm)⟩

/-- The confirmed termination. -/
theorem confirmed_agrees {c : SettleConfirmedArgs} {jobEmpty : Bool} (he : e ∈ db.executions)
    (hid : c.executionId = e.fixed.run.executionId)
    (horg : c.organizationId = e.fixed.request.organizationId)
    (hrun : e.fixed.run.organizationId = e.fixed.request.organizationId) (hl : now ≤ later)
    (ho : e.Unfinished)
    (h : (Writer.confirmed c jobEmpty).Wrote now db db') :
    (Writer.confirmed c jobEmpty).Agrees db db' e later := by
  have found : db.addressed (.settleConfirmed c jobEmpty) = some e :=
    Db.addressed_eq_some.mpr ⟨he, congrArg (·, "") hid.symm, horg.symm⟩
  obtain ⟨r, h, granted⟩ := Db.answers_ok.mp h
  obtain ⟨y, hy, rfl⟩ := execute_row found h
  obtain ⟨v, hv, rfl⟩ := respond_ok.mp hy
  obtain rfl : v = true := granted
  rcases settleExecutionAfterConfirmedTermination_ok hv with
    ⟨-, hf⟩ | ⟨hc, hg, hb, -, settleable, -, rfl⟩
  · exact absurd ⟨(hf rfl).2.1, (hf rfl).1⟩ ho
  · obtain ⟨safe, valid⟩ := settleConfirmed_check hc hg
    obtain ⟨-, -, worker, -⟩ :=
      settledAfterTermination_run (terminationProof c now e.fixed e.data) settleable
    exact ⟨_, terminationProof c now e.fixed e.data, .set he, ⟨rfl, rfl, rfl, worker⟩, rfl,
      confirmed_explained settleable hb safe valid hl hid (horg.trans hrun.symm)⟩

/-- A step of the transaction that was not rejected. -/
theorem orRejected_ok {α : Type} {granted : α → Bool} {u : Except DbError (α × Db)} :
    orRejected granted u = .ok db' ↔ ∃ r, u = .ok (r, db') ∧ granted r = true := by
  unfold orRejected
  constructor
  · intro h
    split at h
    · rename_i r z
      split at h
      · rename_i hr
        cases h
        exact ⟨r, rfl, hr⟩
      · cases h
    · cases h
  · rintro ⟨r, rfl, hr⟩
    simp only [hr, if_true]

/-- The claim digests of a written proof of no process, and what it says of the recovery. -/
theorem NoProcessWritten.agrees {k : ExecutionCapability} {c : NoProcessArgs} {z : Db}
    {reason : ReasonCode} {d : ClaimDigest × ClaimDigest} {r : ProofRecovery}
    (h : NoProcessWritten k c now db z e reason d r) (ho : e.Unfinished)
    (hr : e.data.RecoveryClosed)
    (hrun : e.fixed.run.organizationId = e.fixed.request.organizationId) (y : Rows)
    (hb : Beside e.data y)
    (hy : y.ownership = e.data.ownership.recorded (noProcessRecord k e.fixed.run.correlationId
      (noProcessProof k e.fixed.run.executionId e.fixed (c.terminal reason) reason now d r) now)) :
    Explained e.fixed y (noProcessProof k e.fixed.run.executionId e.fixed (c.terminal reason)
        reason now d r) later ↔
      WorkerReplayable k e.fixed e.data ∧
        (y.run.processId = none ∧ y.run.processGroupId = none) ∧
        Ends y (c.terminal reason) (some reason) :=
  noProcess_worker h.evidence (unrecovered_of_fields h.recovery (ho.unconfirmed hr)) h.correlated
    h.registered h.digests hb hy rfl (h.organizationId.trans hrun.symm)

/-- A proof of no process for a run that has ended already. -/
theorem noProcess_agrees {k : ExecutionCapability} {c : NoProcessArgs} (he : e ∈ db.executions)
    (hid : k.executionId = some e.fixed.run.executionId)
    (hrun : e.fixed.run.organizationId = e.fixed.request.organizationId)
    (ho : e.Unfinished) (hr : e.data.RecoveryClosed)
    (h : (Writer.noProcess k c).Wrote now db db') :
    (Writer.noProcess k c).Agrees db db' e later := by
  obtain ⟨e', reason, d, r, w⟩ := recordNoProcess_ok h
  have same : e' = e := by
    refine Relational.Table.eq_of_key_eq w.there he .execution ?_
    exact congrArg (·, "") (Option.some.inj (w.executionId.symm.trans hid))
  cases same
  refine ⟨noProcessRows k c now e reason d r, _, w.written ▸ .set he, ⟨rfl, rfl, rfl, rfl⟩, rfl,
    (w.agrees ho hr hrun (noProcessRows k c now e reason d r) ⟨rfl, rfl, rfl, rfl⟩ rfl).trans ?_⟩
  refine and_congr_right fun _ => and_congr_right fun _ => ?_
  constructor
  · intro ends
    exact ⟨reason, w.coded, ends.state, ends.reason, ends.valid, ends.dispatch, ends.unleased⟩
  · rintro ⟨reason', coded, ends⟩
    rw [w.coded] at coded
    cases coded
    exact ⟨ends.state, ends.reason, ends.valid, ends.dispatch, ends.unleased⟩

/-- The transaction without a process. -/
theorem worker_noProcess_agrees {k : ExecutionCapability} {c : SettleArgs} {jobEmpty : Bool}
    (he : e ∈ db.executions) (hid : k.executionId = some e.fixed.run.executionId)
    (hrun : e.fixed.run.organizationId = e.fixed.request.organizationId)
    (hdec : e.fixed.run.approvedDecisionId = e.fixed.decision.id)
    (ho : e.Unfinished) (hr : e.data.RecoveryClosed) (hp : c.identity.processId = none)
    (h : (Writer.worker k c jobEmpty).Wrote now db db') :
    (Writer.worker k c jobEmpty).Agrees db db' e later := by
  have settled : settleWithoutProcess k c now db = .ok db' := by
    have transaction : settleInTransaction k c jobEmpty now db = .ok db' := h
    rwa [settleInTransaction, if_pos (by rw [hp]; rfl)] at transaction
  simp only [settleWithoutProcess, Checked.bind_ok] at settled
  obtain ⟨z, hz, settled⟩ := settled
  obtain ⟨_, recorded, rfl⟩ := orRejected_ok.mp hz
  obtain ⟨v, aborted, granted⟩ := orRejected_ok.mp settled
  obtain ⟨e', reason, d, r, w⟩ := recordNoProcess_ok recorded
  have same : e' = e := by
    refine Relational.Table.eq_of_key_eq w.there he .execution ?_
    exact congrArg (·, "") (Option.some.inj (w.executionId.symm.trans hid))
  cases same
  have coded : c.reasonCode = some reason := w.coded
  rw [w.written] at aborted
  obtain ⟨y, hy, rfl⟩ := execute_set aborted he
    (congrArg (·, "") (hdec.symm.trans w.evidence.decision)) w.organizationId.symm
  obtain ⟨u, hu, rfl⟩ := respond_ok.mp hy
  rcases abortExecutionStart_ok hu with ⟨rfl, -⟩ | ⟨hc, -, -, -, rfl⟩
  · cases granted
  obtain ⟨safe, valid⟩ := abortStart_check hc
  refine ⟨_, _, (Db.Wrote.set he).again, ⟨rfl, rfl, rfl, rfl⟩, rfl, ?_⟩
  refine Iff.trans (w.agrees ho hr hrun _ ?_ ?_) ?_
  · exact ⟨rfl, rfl, rfl, rfl⟩
  · rfl
  simp only [coded, Option.getD_some] at valid
  have replayable : (Writer.worker k c jobEmpty).Replayable e.fixed e.data ↔
      WorkerReplayable k e.fixed e.data ∧
        (e.data.run.processId = none ∧ e.data.run.processGroupId = none) := by
    rw [Writer.Replayable, if_pos hp]
  rw [replayable]
  refine and_congr_right fun _ => and_iff_left ⟨rfl, ?_, valid, expected_safe safe, rfl, rfl, rfl⟩
  exact congrArg some (by rw [coded]; rfl)

/-- The dispatch state a finished run goes with. -/
theorem expected_finish (s : RunState) (h : isFinishState s = true) :
    finishDispatchState s = expectedTerminalDispatch s := by
  cases s <;> first | rfl | cases h

/-- The finish of a run under its termination proof: it ends with the outcome given, and where
the run had ended so already its dispatch may still carry a lease. -/
theorem finish_ends {c : FinishArgs} {revokedTokens : List String} {a : Authority} {x y : Rows}
    (hp : c.processId.isSome = true) (h : finishExecution c revokedTokens now a x = .ok (true, y)) :
    (y.run.processId = x.run.processId ∧ y.run.processGroupId = x.run.processGroupId) ∧
      x.Keeps y ∧ Beside x y ∧ y.ownership = x.ownership ∧
      (Ends y c.terminalState c.reasonCode ↔
        (x.run.state.isTerminal = true → x.dispatch.unleased)) := by
  have complete_valid : c.complete = true → isFinishState c.terminalState = true ∧
      isValidExecutionTerminalOutcome c.terminalState c.reasonCode = true := by
    intro hc
    simp only [FinishArgs.complete, Bool.and_eq_true] at hc
    exact ⟨hc.1.1.1.1.1, hc.2⟩
  rcases finishExecution_ok h with ⟨rfl, replayed⟩ | ⟨hc, allowed, -, rfl⟩
  · obtain ⟨hc, ended, replays⟩ := replayed rfl
    obtain ⟨finish, valid⟩ := complete_valid hc
    simp only [finishReplays, Bool.and_eq_true, decide_eq_true_eq] at replays
    obtain ⟨⟨⟨⟨⟨⟨state, dispatch⟩, reason⟩, -⟩, -⟩, -⟩, -⟩ := replays
    refine ⟨⟨rfl, rfl⟩, ⟨rfl, rfl, rfl, rfl⟩, ⟨rfl, rfl, rfl, rfl⟩, rfl, ?_⟩
    rw [← state, expected_finish _ finish] at dispatch
    exact ⟨fun ends _ => ends.unleased, fun lease => ⟨state.symm, reason, valid, dispatch,
      lease ended⟩⟩
  · obtain ⟨finish, valid⟩ := complete_valid hc
    simp only [finishAllowed, Bool.and_eq_true, Bool.or_eq_true, decide_eq_true_eq] at allowed
    obtain ⟨⟨⟨⟨⟨⟨-, -⟩, running⟩, -⟩, -⟩, process⟩, group⟩ := allowed
    obtain ⟨pid, hpid⟩ := Option.isSome_iff_exists.mp hp
    have pid' : x.run.processId = some pid := by
      rcases process with hn | hn
      · rw [hpid] at hn
        cases hn
      · rw [hn, hpid]
    have group' : (c.processGroupId.or x.run.processGroupId) = x.run.processGroupId := by
      cases hg : c.processGroupId with
      | none => rfl
      | some n =>
          rw [hg] at group
          rcases group with hn | hn
          · cases hn
          · rw [hn]
            rfl
    have unended : x.run.state.isTerminal = true → x.dispatch.unleased := by
      intro ended
      rw [running] at ended
      cases ended
    refine ⟨⟨?_, group'⟩, ⟨rfl, rfl, rfl, rfl⟩, ⟨rfl, rfl, rfl, rfl⟩, rfl,
      iff_of_true ⟨rfl, rfl, valid, expected_finish _ finish, rfl, rfl, rfl⟩ unended⟩
    change c.processId.or x.run.processId = x.run.processId
    rw [hpid, pid']
    rfl

/-- The transaction with a process. -/
theorem worker_process_agrees {k : ExecutionCapability} {c : SettleArgs} {jobEmpty : Bool}
    (he : e ∈ db.executions) (hid : k.executionId = some e.fixed.run.executionId)
    (hrun : e.fixed.run.organizationId = e.fixed.request.organizationId)
    (ho : e.Unfinished) (hr : e.data.RecoveryClosed) (hp : c.identity.processId ≠ none)
    (hl : now ≤ later) (h : (Writer.worker k c jobEmpty).Wrote now db db') :
    (Writer.worker k c jobEmpty).Agrees db db' e later := by
  have given : c.identity.processId.isSome = true := Option.isSome_iff_ne_none.mpr hp
  have settled : settleWithProcess k c jobEmpty now db = .ok db' := by
    have transaction : settleInTransaction k c jobEmpty now db = .ok db' := h
    rwa [settleInTransaction, if_neg (by simpa using hp)] at transaction
  simp only [settleWithProcess, Checked.bind_ok] at settled
  obtain ⟨z, hz, settled⟩ := settled
  obtain ⟨_, recorded, rfl⟩ := orRejected_ok.mp hz
  obtain ⟨v, finished, granted⟩ := orRejected_ok.mp settled
  obtain ⟨e', status, d, r, stamp, updated, w⟩ := recordTerminal_ok recorded
  have same : e' = e := by
    refine Relational.Table.eq_of_key_eq w.there he .execution ?_
    exact congrArg (·, "") (Option.some.inj (w.executionId.symm.trans hid))
  cases same
  rw [w.written] at finished
  obtain ⟨y, hy, rfl⟩ := execute_set finished he
    (congrArg (·, "") (by rw [hid]; rfl)) w.organizationId.symm
  obtain ⟨u, hu, rfl⟩ := respond_ok.mp hy
  cases granted
  obtain ⟨process, keeps, beside, ownership, ends⟩ := finish_ends given hu
  refine ⟨y, _, (Db.Wrote.set he).again, ⟨keeps.request, keeps.revokedAt, keeps.consumedAt,
    keeps.worker⟩, by rw [ownership]; rfl, ?_⟩
  have windows : ∃ historical, e.data.ownership.containerType = .windowsJob →
      windowsOwnershipValid e.data.ownership e.fixed k.workerIdentity historical now = true := by
    by_cases hw : e.data.ownership.containerType = .windowsJob
    · obtain ⟨historical, valid⟩ := w.windows hw
      exact ⟨historical, fun _ => valid⟩
    · exact ⟨false, fun h => absurd h hw⟩
  obtain ⟨historical, windows⟩ := windows
  have replayable : (Writer.worker k c jobEmpty).Replayable e.fixed e.data ↔
      WorkerReplayable k e.fixed e.data ∧ ProcessReplayable e.fixed e.data ∧
        (e.data.run.state.isTerminal = true → e.data.dispatch.unleased) := by
    rw [Writer.Replayable, if_neg hp]
  rw [replayable]
  refine Iff.trans (process_worker w.evidence (unrecovered_of_fields w.recovery (ho.unconfirmed hr))
    w.correlated w.process w.digests ?_ windows hl ownership process rfl
    (w.organizationId.trans hrun.symm)) ?_
  · exact ⟨beside.recovery, beside.attempts, beside.claims, beside.worker⟩
  · exact and_congr_right fun _ => and_congr_right fun _ => ends

/-- A call for an execution that answered `True` is of its tenant. -/
theorem organization_of_granted {c : ExecutionCall} (h : db.answers c now = .ok (true, db'))
    (hc : ∀ k, c ≠ .revokeRequest k) (he : e ∈ db.executions)
    (hk : c.key = (.execution, e.fixed.run.executionId)) :
    c.organizationId = e.fixed.request.organizationId := by
  obtain ⟨r, h, granted⟩ := Db.answers_ok.mp h
  rcases execute_ok h with ⟨e', -, found, -⟩ | ⟨-, ⟨refused, -⟩ | ⟨k, -, hq, -⟩⟩
  · obtain ⟨he', key, organization⟩ := Db.addressed_eq_some.mp found
    rw [hk] at key
    cases Relational.Table.eq_of_key_eq he' he .execution key
    exact organization.symm
  · rw [granted] at refused
    cases refused
  · exact absurd hq (hc k)

/-- **Every writer**, from every reachable database. -/
theorem Writer.agrees {w : Writer} (h : db.Reachable g) (hw : w.Wrote now db db')
    (he : e ∈ db.executions) (hid : w.executionId = some e.fixed.run.executionId)
    (hrun : e.fixed.run.organizationId = e.fixed.request.organizationId) (ho : e.Unfinished)
    (hl : now ≤ later) : w.Agrees db db' e later := by
  have closed : e.data.RecoveryClosed := recoveryClosed_of_reachable h e he
  cases w with
  | worker k c jobEmpty =>
      by_cases hp : c.identity.processId = none
      · exact worker_noProcess_agrees he hid hrun (decision_of_reachable h e he) ho closed hp hw
      · exact worker_process_agrees he hid hrun ho closed hp hl hw
  | noProcess k c => exact noProcess_agrees he hid hrun ho closed hw
  | confirmed c jobEmpty =>
      have named : c.executionId = e.fixed.run.executionId := Option.some.inj hid
      have tenant := organization_of_granted hw nofun he (congrArg (Prod.mk _) named)
      exact confirmed_agrees he named tenant hrun hl ho hw
  | recovery c jobEmpty =>
      have named : c.executionId = e.fixed.run.executionId := Option.some.inj hid
      have tenant := organization_of_granted hw nofun he (congrArg (Prod.mk _) named)
      exact recovery_agrees he named tenant hrun hl hw

/-! ### Settlements -/

/-- The calls that close a child. -/
inductive Settlement where
  | execution (k : ExecutionCapability) (c : SettleArgs) (jobEmpty : Bool) (attemptId : String)
  | noProcess (k : ExecutionCapability) (c : NoProcessArgs)
  | confirmed (c : SettleConfirmedArgs) (jobEmpty : Bool)
  | recovery (c : SettleRecoveryArgs) (jobEmpty : Bool)

namespace Settlement

/-- The call. -/
def perform (now : Instant) (db : Db) : Settlement → Except DbError (Bool × Db)
  | .execution k c jobEmpty attemptId => settleExecution k c jobEmpty attemptId now db
  | .noProcess k c => recordNoProcess k c now db
  | .confirmed c jobEmpty => db.answers (.settleConfirmed c jobEmpty) now
  | .recovery c jobEmpty => db.answers (.settleRecovery c jobEmpty) now

/-- The execution it is called for. -/
def executionId : Settlement → Option String
  | .execution k _ _ _ | .noProcess k _ => k.executionId
  | .confirmed c _ => some c.executionId
  | .recovery c _ => some c.executionId

/-- The writer a call commits with.  `settle_execution` has two: its own transaction, and where
that is rejected `settle_execution_after_confirmed_termination` with the capability's columns. -/
inductive RunsAs (now : Instant) (db : Db) : Settlement → Writer → Prop where
  | worker {k : ExecutionCapability} {c : SettleArgs} {jobEmpty : Bool} {attemptId : String}
      {db' : Db} (h : settleInTransaction k c jobEmpty now db = .ok db') :
      RunsAs now db (.execution k c jobEmpty attemptId) (.worker k c jobEmpty)
  | revoked {k : ExecutionCapability} {c : SettleArgs} {jobEmpty : Bool} {attemptId : String}
      {v : SettleConfirmedArgs} (h : settleInTransaction k c jobEmpty now db = .error .rejected)
      (hv : v.executionId = k.executionId.getD "" ∧ v.organizationId = k.organizationId ∧
        v.terminalState = c.terminalState ∧ some v.reasonCode = c.reasonCode ∧
        v.attemptId = attemptId) :
      RunsAs now db (.execution k c jobEmpty attemptId) (.confirmed v jobEmpty)
  | noProcess {k : ExecutionCapability} {c : NoProcessArgs} :
      RunsAs now db (.noProcess k c) (.noProcess k c)
  | confirmed {c : SettleConfirmedArgs} {jobEmpty : Bool} :
      RunsAs now db (.confirmed c jobEmpty) (.confirmed c jobEmpty)
  | recovery {c : SettleRecoveryArgs} {jobEmpty : Bool} :
      RunsAs now db (.recovery c jobEmpty) (.recovery c jobEmpty)

/-- The settlement of a revoked cancellation commits with the other writer. -/
theorem settleRevoked_ok {k : ExecutionCapability} {c : SettleArgs} {jobEmpty : Bool}
    {attemptId : String} (h : settleRevoked k c jobEmpty attemptId now db = .ok (true, db')) :
    ∃ v : SettleConfirmedArgs, (v.executionId = k.executionId.getD "" ∧
        v.organizationId = k.organizationId ∧ v.terminalState = c.terminalState ∧
        some v.reasonCode = c.reasonCode ∧ v.attemptId = attemptId) ∧
      (Writer.confirmed v jobEmpty).Wrote now db db' := by
  simp only [settleRevoked] at h
  split at h
  · rename_i cancelled
    split at h
    · simp only [Bool.and_eq_true, decide_eq_true_eq] at cancelled
      exact ⟨_, ⟨rfl, rfl, rfl, by rw [cancelled.1]; rfl, rfl⟩, h⟩
    · cases h
  · split at h
    · rename_i cancelled
      simp only [Bool.and_eq_true, decide_eq_true_eq] at cancelled
      exact ⟨_, ⟨rfl, rfl, rfl, by rw [cancelled.1]; rfl, rfl⟩, h⟩
    · cases h

/-- **A call that answers `True` commits with one writer.** -/
theorem perform_ok {s : Settlement} (h : s.perform now db = .ok (true, db')) :
    ∃ w, s.RunsAs now db w ∧ w.Wrote now db db' := by
  cases s with
  | noProcess k c => exact ⟨_, .noProcess, h⟩
  | confirmed c jobEmpty => exact ⟨_, .confirmed, h⟩
  | recovery c jobEmpty => exact ⟨_, .recovery, h⟩
  | execution k c jobEmpty attemptId =>
      simp only [perform, settleExecution] at h
      split at h
      · cases h
      split at h
      · rename_i transaction
        cases h
        exact ⟨_, .worker transaction, transaction⟩
      · cases h
      · rename_i rejected
        obtain ⟨v, hv, wrote⟩ := settleRevoked_ok h
        exact ⟨_, .revoked rejected hv, wrote⟩

/-- The writer is called for the same execution. -/
theorem RunsAs.executionId {s : Settlement} {w : Writer} (h : s.RunsAs now db w)
    {executionId : String} (hs : s.executionId = some executionId) :
    w.executionId = some executionId := by
  cases h with
  | @revoked k c jobEmpty attemptId v _ hv =>
      have named : k.executionId = some executionId := hs
      rw [Writer.executionId, hv.1, named]
      rfl
  | _ => exact hs

end Settlement

/-! ### The child of a scan -/

section Child

variable {b : ScanLaunchBinding} {scanRequestId organizationId operationId : String}

/-- What a binding is made of. -/
theorem binding_eq_some :
    db.scanAuthorizationLaunchBinding scanRequestId organizationId operationId = some b ↔
      (!isBlank scanRequestId && !isBlank organizationId && !isBlank operationId) = true ∧
        db.scanRequest scanRequestId organizationId = some b.parent ∧
        b.parent.data.operations.find? (·.operation.operationId = operationId)
          = some b.operation ∧
        ∃ c, b.operation.child = some c ∧
          db.executions.lookup .execution (c.executionId, "") = some b.child ∧
          (b.child.fixed.request.id = c.requestId && b.child.fixed.decision.id = c.decisionId &&
            b.child.fixed.request.organizationId = organizationId &&
            b.child.fixed.decision.organizationId = organizationId &&
            b.child.fixed.run.organizationId = organizationId) = true := by
  simp only [Db.scanAuthorizationLaunchBinding]
  constructor
  · intro h
    simp only [bind, Option.bind_eq_some_iff, Option.guard_eq_some', exists_const] at h
    obtain ⟨given, parent, hp, operation, ho, c, hc, child, he, bound, hb⟩ := h
    cases hb
    exact ⟨given, hp, ho, c, hc, he, bound⟩
  · rintro ⟨given, hp, ho, c, hc, he, bound⟩
    simp only [bind, Option.bind_eq_some_iff, Option.guard_eq_some', exists_const]
    exact ⟨given, _, hp, _, ho, c, hc, _, he, bound, rfl⟩

/-- A binding reads the tenant of its child. -/
theorem binding_child
    (h : db.scanAuthorizationLaunchBinding scanRequestId organizationId operationId = some b) :
    b.child ∈ db.executions ∧ b.child.fixed.request.organizationId = b.organizationId ∧
      b.child.fixed.run.organizationId = b.organizationId := by
  obtain ⟨-, hp, -, c, -, he, bound⟩ := binding_eq_some.mp h
  simp only [Bool.and_eq_true, decide_eq_true_eq] at bound
  have parent : b.parent.fixed.organizationId = organizationId :=
    of_decide_eq_true (Option.filter_eq_some_iff.mp hp).2
  exact ⟨(Relational.Table.lookup_eq_some.mp he).1, bound.1.1.2.trans parent.symm,
    bound.2.trans parent.symm⟩

/-- The binding after rows of its child were written. -/
theorem binding_after {y : Rows}
    (h : db.scanAuthorizationLaunchBinding scanRequestId organizationId operationId = some b)
    (hw : db.Wrote db' b.child y) :
    db'.scanAuthorizationLaunchBinding scanRequestId organizationId operationId
      = some (b.after y) := by
  obtain ⟨given, hp, ho, c, hc, he, bound⟩ := binding_eq_some.mp h
  refine binding_eq_some.mpr ⟨given, ?_, ho, c, hc, ?_, bound⟩
  · rw [Db.scanRequest, hw.parents]
    exact hp
  · exact Relational.Table.lookup_eq_some.mpr
      ⟨hw.there, (Relational.Table.lookup_eq_some.mp he).2⟩

/-- What is joined stays so. -/
theorem ScanLaunchBinding.joined_after {y : Rows} (h : b.child.data.Keeps y) :
    (b.after y).Joined ↔ b.Joined := by
  have columns : assertReplayBinding (b.after y) = assertReplayBinding b := by
    simp only [assertReplayBinding, requiredBindingFields, bindingPairs,
      bindingConsistencyGroups, ScanLaunchBinding.after, ScanLaunchBinding.organizationId,
      h.request, h.revokedAt, h.consumedAt, h.worker]
    rfl
  constructor
  · rintro ⟨parent, request, approved, named, bound⟩
    exact ⟨parent, h.request ▸ request, approved, named, columns ▸ bound⟩
  · rintro ⟨parent, request, approved, named, bound⟩
    refine ⟨parent, ?_, approved, named, columns.trans bound⟩
    change replayRequestState y.request.state = true
    rw [h.request]
    exact request

/-- **Settlement and replay.**  A call that closes a child of a scan and answers `True`, from any
reachable database, leaves rows the reader accepts, at any later time, exactly when the child is
joined and its writer found what it has to. -/
theorem settlement_replay_agrees {s : Settlement} (h : db.Reachable g)
    (hs : s.perform now db = .ok (true, db'))
    (hb : db.scanAuthorizationLaunchBinding scanRequestId organizationId operationId = some b)
    (hc : s.executionId = some b.executionId) (ho : b.child.Unfinished) (hl : now ≤ later) :
    ∃ w y, s.RunsAs now db w ∧
      db'.scanAuthorizationLaunchBinding scanRequestId organizationId operationId
        = some (b.after y) ∧
      (y.run.state.isTerminal = true →
        (validateTerminalReplayProof (b.after y) later db' = .ok () ↔
          b.Joined ∧ w.Replayable b.child.fixed b.child.data)) := by
  obtain ⟨w, runs, wrote⟩ := Settlement.perform_ok hs
  obtain ⟨there, request, run⟩ := binding_child hb
  obtain ⟨y, p, rows, keeps, proof, explained⟩ :=
    Writer.agrees h wrote there (runs.executionId hc) (run.trans request.symm) ho hl
  refine ⟨w, y, runs, binding_after hb rows, fun ended => ?_⟩
  have read : db'.executionRun (b.after y).executionId (b.after y).organizationId
      = some (b.after y).child := by
    rw [show (b.after y).organizationId = b.child.fixed.request.organizationId from request.symm]
    exact Db.executionRun_self rows.there
  rw [replays_explained read ended proof, ScanLaunchBinding.joined_after keeps]
  exact and_congr_right fun _ => explained

end Child

/-! ### A recovered launch -/

namespace Sample

/-- The worker claims the child of the sample scan. -/
def scanClaim : ClaimAuthorityArgs := { claim with decisionId := "child-dec-a" }

/-- Its process exists, but whether its launch was committed is not known. -/
def scanUncertain : TransitionOwnershipArgs :=
  { uncertain with
    executionId := "child-run-a"
    record :=
      { uncertain.record with
        containerIdentity := some (posixContainerIdentity "4242" "4242")
        rootProcessStartToken := some "posix:0000-0000:77"
        processGroupId := some "4242"
        sessionId := some "4242"
        launchedAt := some (seconds 3)
        lastVerifiedAt := some (seconds 3)
        identityAttestation := some ⟨"attestation", .posix
          { bootId := "0000-0000"
            rootStartTicks := 77
            sessionId := 4242
            processGroupId := 4242
            workerGeneration := "generation-a"
            verified := true
            memberSnapshot := [⟨4242, 4242, 4242, "posix:0000-0000:77"⟩] }⟩ } }

/-- The same worker recovers it. -/
def scanRecovery : ClaimRecoveryArgs :=
  { recovery "recovery-a" with
    executionId := "child-run-a"
    owner := "worker-a"
    workerGeneration := "generation-a" }

/-- It kills the process and settles. -/
def scanSettle : Settlement :=
  .recovery
    { executionId := "child-run-a"
      organizationId := "org-a"
      owner := "worker-a"
      leaseToken := "recovery-a"
      workerGeneration := "generation-a"
      terminationStatus := .killed
      terminalState := .failed
      reasonCode := .processLaunchUncertain }
    false

/-- The database the recovery is settled in. -/
def scanOrphaned : Db :=
  scanApproved.afterAll gateway
    [(seconds 2, .call (.claimAuthority scanClaim)),
      (seconds 3, .call (.transitionOwnership scanUncertain)),
      (seconds 4, .call (.claimRecovery scanRecovery))]

theorem reachable_scanOrphaned : scanOrphaned.Reachable gateway :=
  reachable_scanApproved.afterAll _

/-- The settlement answers `True`, and the rows it leaves. -/
theorem scan_settles : ∃ b db' b', scanSettle.perform (seconds 5) scanOrphaned = .ok (true, db') ∧
    scanOrphaned.scanAuthorizationLaunchBinding "scan-req-a" "org-a" "network:nmap" = some b ∧
    scanSettle.executionId = some b.executionId ∧ b.child.Unfinished ∧
    db'.scanAuthorizationLaunchBinding "scan-req-a" "org-a" "network:nmap" = some b' ∧
    b'.child.data.run.state = .failed ∧
    b'.child.data.ownership.containerType = .posixSession ∧
    b'.child.data.ownership.launchCommitState = .uncertain ∧
    ∃ p, b'.child.data.ownership.noProcessProof = some (.envelope p) := by
  have before : (scanOrphaned.scanAuthorizationLaunchBinding "scan-req-a" "org-a"
      "network:nmap").map (fun b => (b.executionId, b.child.data.run.state))
        = some ("child-run-a", .starting) := by decide +kernel
  have answer : (scanSettle.perform (seconds 5) scanOrphaned).toOption.map (·.1) = some true := by
    decide +kernel
  have left : ((scanSettle.perform (seconds 5) scanOrphaned).toOption.bind fun r =>
      r.2.scanAuthorizationLaunchBinding "scan-req-a" "org-a" "network:nmap").map (fun b =>
        (b.child.data.run.state, b.child.data.ownership.containerType,
          b.child.data.ownership.launchCommitState,
          b.child.data.ownership.noProcessProof.any fun t => t.casesOn (fun _ => true) fun _ => false))
        = some (.failed, .posixSession, .uncertain, true) := by decide +kernel
  obtain ⟨b, hb, read⟩ := Option.map_eq_some_iff.mp before
  obtain ⟨⟨answered, db'⟩, result, true⟩ := Option.map_eq_some_iff.mp answer
  cases true
  rw [result, Option.bind_some] at left
  obtain ⟨b', hb', rows⟩ := Option.map_eq_some_iff.mp left
  simp only [Prod.mk.injEq] at read rows
  obtain ⟨state, container, launch, proof⟩ := rows
  refine ⟨b, db', b', ?_, hb, ?_, ?_, hb', state, container, launch, ?_⟩
  · cases performed : scanSettle.perform (seconds 5) scanOrphaned with
    | error e =>
        rw [performed] at result
        cases result
    | ok r =>
        rw [performed] at result
        cases result
        rfl
  · rw [read.1]
    rfl
  · rintro ⟨ended, -⟩
    rw [read.2] at ended
    cases ended
  · obtain ⟨t, stored, envelope⟩ := (Option.any_eq_true _ _).mp proof
    cases t with
    | envelope p => exact ⟨p, stored⟩
    | _ => cases envelope

end Sample

/-- The settlement of that launch, whose reader is decided by the theorem. -/
theorem settlement_replay_agrees_recovered :
    ∃ (b : ScanLaunchBinding) (db' : Db) (w : Writer) (y : Rows),
      Sample.scanSettle.RunsAs (seconds 5) Sample.scanOrphaned w ∧
      db'.scanAuthorizationLaunchBinding "scan-req-a" "org-a" "network:nmap"
        = some (b.after y) ∧
      (y.run.state.isTerminal = true →
        (validateTerminalReplayProof (b.after y) (seconds 6) db' = .ok () ↔
          b.Joined ∧ w.Replayable b.child.fixed b.child.data)) := by
  obtain ⟨b, db', -, performed, binding, named, unfinished, -⟩ := Sample.scan_settles
  exact ⟨b, db', settlement_replay_agrees Sample.reachable_scanOrphaned performed binding named
    unfinished (by decide)⟩

/-- The reader rejects what the settlement of that launch left. -/
theorem settlement_replay_disagrees :
    ¬ ∀ (g : Gateway) (db db' : Db) (now later : Instant) (s : Settlement)
      (scanRequestId organizationId operationId : String) (b b' : ScanLaunchBinding),
      db.Reachable g → s.perform now db = .ok (true, db') →
      db.scanAuthorizationLaunchBinding scanRequestId organizationId operationId = some b →
      s.executionId = some b.executionId → b.child.Unfinished → now ≤ later →
      db'.scanAuthorizationLaunchBinding scanRequestId organizationId operationId = some b' →
      b'.child.data.run.state.isTerminal = true →
      validateTerminalReplayProof b' later db' = .ok () := by
  intro claim
  obtain ⟨b, db', b', performed, binding, named, unfinished, after, state, container, launch,
    p, proof⟩ := Sample.scan_settles
  have ended : b'.child.data.run.state.isTerminal = true := by rw [state]; rfl
  have accepted := claim _ _ _ _ (seconds 6) _ _ _ _ _ _ Sample.reachable_scanOrphaned performed
    binding named unfinished (by decide) after ended
  obtain ⟨there, request, -⟩ := binding_child after
  have read : db'.executionRun b'.executionId b'.organizationId = some b'.child := by
    rw [← request]
    exact Db.executionRun_self there
  obtain ⟨-, explained⟩ := (replays_explained read ended proof).mp accepted
  have committed := (explained.process (by rw [container]; nofun)).recorded.committed
  rw [launch] at committed
  cases committed

end CyberAssess
