import CyberAssess.Database.Run

/-!
# Service — the persisted process identity

`load_durable_process_identity` of `core/execution_service.py`, which reads the identity a
cancellation is bound to, and the results the supervisor answers a cancellation with.

* `loadDurableProcessIdentity`: only an active run whose ownership row names a process has one.
* `CancellationStatus`, `CancellationStatus.confirmed`: `ProcessCancellationResult`.
* `Db.executionRun`, `Db.executionRunForRequest`: the snapshots the services read.

`[about ours]`: whether a Windows job is attached to this worker is asked of the environment.
-/

namespace CyberAssess

open Python (natOfDigits intOfText isDigits splitThree isBlank)

/-- The joined rows of one execution, by its id and tenant. -/
def Db.executionRun (db : Db) (executionId organizationId : String) : Option Execution :=
  (db.executions.lookup .execution (executionId, "")).filter
    fun e => e.fixed.request.organizationId = organizationId

/-- The rows a request has, by its id and tenant. -/
def Db.executionRunForRequest (db : Db) (requestId organizationId : String) : Option Execution :=
  (db.executions.lookup .request (requestId, "")).filter
    fun e => e.fixed.request.organizationId = organizationId

/-- An execution is read by its own id and tenant. -/
theorem Db.executionRun_self {db : Db} {e : Execution} (h : e ∈ db.executions) :
    db.executionRun e.fixed.run.executionId e.fixed.request.organizationId = some e := by
  rw [Db.executionRun, Option.filter_eq_some_iff, Relational.Table.lookup_eq_some]
  exact ⟨⟨h, rfl⟩, decide_eq_true rfl⟩

/-- So it is by its request. -/
theorem Db.executionRunForRequest_self {db : Db} {e : Execution} (h : e ∈ db.executions) :
    db.executionRunForRequest e.fixed.request.id e.fixed.request.organizationId = some e := by
  rw [Db.executionRunForRequest, Option.filter_eq_some_iff, Relational.Table.lookup_eq_some]
  exact ⟨⟨h, rfl⟩, decide_eq_true rfl⟩

/-- What is read by an id and tenant is stored, and has them. -/
theorem executionRun_some {db : Db} {e : Execution} {executionId organizationId : String}
    (h : db.executionRun executionId organizationId = some e) :
    e ∈ db.executions ∧ e.fixed.run.executionId = executionId ∧
      e.fixed.request.organizationId = organizationId := by
  rw [Db.executionRun, Option.filter_eq_some_iff, Relational.Table.lookup_eq_some,
    decide_eq_true_eq] at h
  exact ⟨h.1.1, congrArg Prod.fst h.1.2, h.2⟩

/-- So is what is read by a request. -/
theorem executionRunForRequest_some {db : Db} {e : Execution} {requestId organizationId : String}
    (h : db.executionRunForRequest requestId organizationId = some e) :
    e ∈ db.executions ∧ e.fixed.request.id = requestId ∧
      e.fixed.request.organizationId = organizationId := by
  rw [Db.executionRunForRequest, Option.filter_eq_some_iff, Relational.Table.lookup_eq_some,
    decide_eq_true_eq] at h
  exact ⟨h.1.1, congrArg Prod.fst h.1.2, h.2⟩

/-- `ProcessIdentity`. -/
structure ProcessIdentity where
  pid : Int
  processGroupId : Option Int
  startToken : String
  sessionId : Option Int
  memberSnapshot : List ProcessMember
  windowsAttestation : Option String
deriving DecidableEq, Repr

/-- `NONE` of an identity argument, or the text of its group. -/
def ProcessIdentity.args (i : ProcessIdentity) : IdentityArgs where
  processId := some i.pid
  processGroupId := i.processGroupId.map toString
  processStartToken := some i.startToken
  sessionId := i.sessionId

/-! ### The identity of a Windows job -/

/-- The Windows branch of `load_durable_process_identity`. -/
def loadWindowsIdentity (attestedJob : WindowsAttestation → Bool) (now : Instant) (a : Authority)
    (x : Rows) : Option ProcessIdentity :=
  match x.ownership.identityAttestation with
  | some ⟨text, .windows w⟩ =>
      if windowsOwnershipValid x.ownership a (x.run.workerIdentity.getD w.workerIdentity) false now &&
          (x.ownership.launchCommitState = .committed ||
            x.ownership.launchCommitState = .uncertain) &&
          a.ownershipCorrelationId = a.run.correlationId &&
          a.run.workerGeneration = w.workerGeneration && x.run.processGroupId.isNone &&
          x.run.processId.all (· = w.rootProcessId) && attestedJob w then
        some
          { pid := w.rootProcessId
            processGroupId := none
            startToken := w.rootProcessStartToken
            sessionId := none
            memberSnapshot := []
            windowsAttestation := some text }
      else none
  | _ => none

/-! ### The identity of a POSIX session -/

/-- `posix:<boot id>:<ticks>` in its three parts. -/
def startTokenParts (t : String) : Option (String × String) :=
  match splitThree t with
  | some (p, boot, ticks) =>
      if p = "posix" && bootIdShape boot && isDigits ticks then some (boot, ticks) else none
  | none => none

/-- The members of the snapshot: no pid twice, the session and boot of the root, and the root. -/
def membersBound (members : List ProcessMember) (boot startToken : String)
    (pid group session : Int) : Bool :=
  (members.map (·.pid)).Nodup &&
    members.all (fun m =>
      (m.sessionId : Int) = session &&
        match splitThree m.startToken with
        | some (p, b, ticks) => p = "posix" && b = boot && (natOfDigits ticks).any (0 < ·)
        | none => false) &&
    members.any fun m =>
      (m.pid : Int) = pid && (m.processGroupId : Int) = group && m.startToken = startToken

/-- What the attestation repeats of the row. -/
def attestationRepeats (att : PosixAttestation) (generation boot ticks : String)
    (group session : Int) : Bool :=
  att.verified && att.workerGeneration = generation && att.bootId = boot &&
    natOfDigits ticks = some att.rootStartTicks && (att.sessionId : Int) = session &&
    (att.processGroupId : Int) = group && !att.memberSnapshot.isEmpty &&
    att.memberSnapshot.length ≤ 512

/-- The POSIX branch of `load_durable_process_identity`. -/
def loadPosixIdentity (a : Authority) (x : Rows) : Option ProcessIdentity := do
  guard (x.ownership.containerType = .posixSession)
  guard (x.ownership.launchCommitState = .committed || x.ownership.launchCommitState = .uncertain)
  let pid ← x.ownership.rootProcessId
  let group ← x.ownership.processGroupId.bind intOfText
  let session ← x.ownership.sessionId.bind intOfText
  guard (1 < pid && 1 < group && 0 ≤ session)
  guard (x.ownership.containerIdentity
    = some (posixContainerIdentity (toString session) (toString group)))
  guard (x.run.processId.all (· = pid) && x.run.processGroupId.all (· = toString group))
  let startToken ← x.ownership.rootProcessStartToken
  let (boot, ticks) ← startTokenParts startToken
  let generation := x.ownership.workerGeneration.getD ""
  guard (!generation.isEmpty && generation = a.run.workerGeneration)
  let attestation ← x.ownership.identityAttestation
  guard (!isBlank attestation.text)
  match attestation.reading with
  | .posix att =>
      guard (attestationRepeats att generation boot ticks group session)
      guard (membersBound att.memberSnapshot boot startToken pid group session)
      some
        { pid := pid
          processGroupId := some group
          startToken := startToken
          sessionId := some session
          memberSnapshot := att.memberSnapshot
          windowsAttestation := none }
  | _ => none

/-- The ownership states of a process. -/
def bearsProcess : OwnershipState → Bool
  | .externalProcessGoverned | .launchUncertain | .recoveryBlocked => true
  | _ => false

/-- `load_durable_process_identity`. -/
def loadDurableProcessIdentity (attestedJob : WindowsAttestation → Bool) (now : Instant)
    (a : Authority) (x : Rows) : Option ProcessIdentity :=
  if x.run.state.isTerminal || !bearsProcess x.ownership.ownershipState then none
  else if x.ownership.containerType = .windowsJob then loadWindowsIdentity attestedJob now a x
  else loadPosixIdentity a x

/-- A row that names no process has no identity. -/
theorem loadDurableProcessIdentity_none {attestedJob : WindowsAttestation → Bool} {now : Instant}
    {a : Authority} {x : Rows} (h : bearsProcess x.ownership.ownershipState = false) :
    loadDurableProcessIdentity attestedJob now a x = none := by
  rw [loadDurableProcessIdentity, h, Bool.not_false, Bool.or_true]
  rfl

/-! ### What the supervisor answers -/

/-- `ProcessCancellationStatus`, and the `UNKNOWN` of a result that is not typed. -/
inductive CancellationStatus where
  | killed | alreadyExited | notFound | failed | recoveryBlocked | invalidRequest | unknown
deriving DecidableEq, Repr

/-- The stored text of a status. -/
def CancellationStatus.text : CancellationStatus → String
  | .killed => "KILLED"
  | .alreadyExited => "ALREADY_EXITED"
  | .notFound => "NOT_FOUND"
  | .failed => "FAILED"
  | .recoveryBlocked => "RECOVERY_BLOCKED"
  | .invalidRequest => "INVALID_REQUEST"
  | .unknown => "UNKNOWN"

/-- The settlement status a confirmed one is. -/
def CancellationStatus.confirmed : CancellationStatus → Option TerminationStatus
  | .killed => some .killed
  | .alreadyExited => some .alreadyExited
  | _ => none

/-- A call of the supervisor: its status, its waiter's timeout, or what it raises. -/
inductive SupervisorReply where
  | status (s : CancellationStatus)
  | timedOut
  | raised (error : String)
deriving DecidableEq, Repr

end CyberAssess
