import CyberAssess.Service.Settle

/-!
# Service — the launch of a POSIX process

`record_posix_launch` of `core/execution_service.py`, the writer of the identity of a governed
process.

* `PosixLaunchArgs`: what the supervisor observed of the process and its session.
* `PosixLaunchArgs.check`: the tests before anything is written, in their order.
* `PosixLaunchArgs.attestation`, `PosixLaunchArgs.record`: what is written.
* `recordPosixLaunch` is the call.

`[about ours]`: how an attestation is dumped to JSON and validated from it is a parameter; of the bounds
its fields have, those on a member's start token can fail, with a shortened text.
-/

namespace CyberAssess

open Checked (ensure)
open Python (splitThree natOfDigits isDigits isBlank)

/-- `PosixProcessAttestation.model_dump_json` at a capture time, and `model_validate_json`. -/
structure AttestationCodec where
  dump : PosixAttestation → Instant → String
  validate : String → AttestationReading

/-- A dumped attestation is a JSON object that validates to itself. -/
structure AttestationCodec.ReadsBack (codec : AttestationCodec) (att : PosixAttestation)
    (captured : Instant) : Prop where
  validates : codec.validate (codec.dump att captured) = .posix att
  object : isBlank (codec.dump att captured) = false

/-- One member of the snapshot the supervisor took. -/
structure ObservedMember where
  pid : Int
  processGroupId : Int
  sessionId : Int
  startToken : String
deriving DecidableEq, Repr

/-- The arguments of `record_posix_launch`. -/
structure PosixLaunchArgs where
  pid : Int
  processGroupId : Option Int
  sessionId : Int
  startToken : String
  memberSnapshot : List ObservedMember
deriving DecidableEq, Repr

namespace PosixLaunchArgs

/-- `process_group_id if process_group_id is not None else pid`. -/
def group (c : PosixLaunchArgs) : Int := c.processGroupId.getD c.pid

/-- `process_group_id or pid`. -/
def groupOrPid (c : PosixLaunchArgs) : Int :=
  if c.processGroupId.any (· ≠ 0) then c.group else c.pid

/-- The boot id and the ticks of `start_token`. -/
def tokenParts (c : PosixLaunchArgs) : Option (String × String) :=
  match splitThree c.startToken with
  | some (_, boot, ticks) => if !boot.isEmpty && isDigits ticks then some (boot, ticks) else none
  | none => none

/-- A member is of the session and the boot of the root. -/
def memberConsistent (c : PosixLaunchArgs) (boot : String) (m : ObservedMember) : Bool :=
  1 < m.pid && 1 < m.processGroupId && m.sessionId = c.sessionId &&
    match splitThree m.startToken with
    | some (p, b, ticks) => p = "posix" && b = boot && (natOfDigits ticks).any (0 < ·)
    | none => false

/-- The member is the root process. -/
def isRoot (c : PosixLaunchArgs) (m : ObservedMember) : Bool :=
  m.pid = c.pid && m.processGroupId = c.group && m.startToken = c.startToken

/-- `Field(min_length=10, max_length=256)` of a member's start token. -/
def tokenBounded (m : ObservedMember) : Bool :=
  10 ≤ m.startToken.length && m.startToken.length ≤ 256

/-- The tests of the arguments; the boot id and the ticks they find. -/
def check (c : PosixLaunchArgs) (k : ExecutionCapability) : Except DbError (String × String) := do
  ensure (!absent k.executionId && "posix:".toList.isPrefixOf c.startToken.toList)
    (.valueError "canonical POSIX process identity is required")
  match c.tokenParts with
  | none => .error (.valueError "POSIX process identity is malformed")
  | some (boot, ticks) => do
      ensure (0 < c.pid && 0 ≤ c.sessionId) (.valueError "POSIX process identity is malformed")
      ensure (!c.memberSnapshot.isEmpty && c.memberSnapshot.length ≤ 512)
        (.valueError "complete bounded POSIX member snapshot is required")
      ensure (c.memberSnapshot.all (c.memberConsistent boot) && (c.memberSnapshot.map (·.pid)).Nodup)
        (.valueError "POSIX member snapshot identity is inconsistent")
      ensure (c.memberSnapshot.any c.isRoot)
        (.valueError "POSIX member snapshot does not bind the root process")
      ensure (c.memberSnapshot.all tokenBounded) (.valueError "String should have 10 to 256 characters")
      .ok (boot, ticks)

/-- The member as it is attested. -/
def member (m : ObservedMember) : ProcessMember where
  pid := m.pid.toNat
  processGroupId := m.processGroupId.toNat
  sessionId := m.sessionId.toNat
  startToken := m.startToken

/-- The attestation of the launch. -/
def attestation (c : PosixLaunchArgs) (workerGeneration boot ticks : String) : PosixAttestation where
  bootId := boot
  rootStartTicks := (natOfDigits ticks).getD 0
  sessionId := c.sessionId.toNat
  processGroupId := c.group.toNat
  workerGeneration := workerGeneration
  verified := true
  memberSnapshot := c.memberSnapshot.map member

/-- The ownership record of the launch. -/
def record (c : PosixLaunchArgs) (workerGeneration correlationId : String) (attested : Attestation)
    (now : Instant) : OwnershipRecord where
  ownershipState := .externalProcessGoverned
  containerType := .posixSession
  containerIdentity := some (posixContainerIdentity (toString c.sessionId) (toString c.groupOrPid))
  rootProcessId := some c.pid
  rootProcessStartToken := some c.startToken
  processGroupId := some (toString c.groupOrPid)
  sessionId := some (toString c.sessionId)
  workerGeneration := some workerGeneration
  launchCommitState := .committed
  noProcessProof := none
  identityAttestation := some attested
  correlationId := correlationId
  launchedAt := some now
  lastVerifiedAt := some now
  terminalizedAt := none
  updatedAt := now

end PosixLaunchArgs

/-- `record_posix_launch`. -/
def recordPosixLaunch (codec : AttestationCodec) (k : ExecutionCapability) (c : PosixLaunchArgs)
    (now : Instant) (db : Db) : Except DbError (String × Db) := do
  let (boot, ticks) ← c.check k
  let text := codec.dump (c.attestation k.workerGeneration boot ticks) now
  match durableExecutionEvidence k db with
  | none => .error (.runtimeError "durable execution correlation is unavailable")
  | some e => do
      let (granted, db') ← db.execute
        (.transitionOwnership
          { executionId := k.executionId.getD ""
            organizationId := k.organizationId
            record := c.record k.workerGeneration e.fixed.run.correlationId
              ⟨text, codec.validate text⟩ now
            expectedState := .unknown
            workerIdentity := some k.workerIdentity })
        now
      ensure granted.granted (.runtimeError "durable process ownership commit failed")
      .ok (text, db')

end CyberAssess
