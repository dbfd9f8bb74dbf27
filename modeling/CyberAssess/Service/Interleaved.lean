import CyberAssess.Service.CancelExecution
import CyberAssess.Service.Coordinator

/-!
# Service — a cancellation among other writers

`cancel_request` again, where other workers and requests write to the database between its calls,
the clock moves, and any of its calls may raise.

* `Interleaving` is what happens meanwhile, `Interleaving.read` and `execute` a call among it.
* `cancelAmong` is the whole of `cancel_request`, `afterRevocationAmong` what follows a revocation
  that committed, `cancelProcessAmong` the supervisor's cancellation and its settlement.
* `cancelAmong_still`: when nothing happens meanwhile, it is `cancelRequest`.

A settlement that raises is not caught: there is no outcome then.
-/

namespace CyberAssess

open Python (isBlank)

/-- The calls of one cancellation, in their order. -/
inductive CancelPoint where
  | readRun | revoke | readBack | readOwnership | readIdentity | settle | readFinal
deriving DecidableEq, Repr

/-- What happens during one cancellation: before each of its calls others have run, and the call may
raise. -/
structure Interleaving (g : Gateway) where
  env : CancellationEnv
  clock : CancelPoint → Instant
  raises : CancelPoint → Option String
  moves : CancelPoint → Db → Db
  moved : ∀ p d, Transition.Leads (Db.step g) d (moves p d)

namespace Interleaving

variable {g : Gateway} (w : Interleaving g)

/-- A read, and the database it was made of. -/
def read {α : Type} (p : CancelPoint) (f : Db → α) (db : Db) : Db × Except String α :=
  let db := w.moves p db
  match w.raises p with
  | some x => (db, .error x)
  | none => (db, .ok (f db))

/-- A call, and the database it leaves. -/
def execute (p : CancelPoint) (c : ExecutionCall) (db : Db) : Db × Except String Bool :=
  let db := w.moves p db
  match w.raises p with
  | some x => (db, .error x)
  | none =>
      match db.execute c (w.clock p) with
      | .error x => (db, .error x.typeName)
      | .ok (r, db) => (db, .ok r.granted)

end Interleaving

/-- What a cancellation leaves, and its outcome; a call that raises leaves none. -/
abbrev Cancelling := Db × Except String CancellationOutcome

variable {g : Gateway}

/-- An outcome after a revocation that committed. -/
def revokedOutcome (executionId : Option String) (requestId processStatus : String)
    (taskStopped : Bool) (errorCode : Option String) : CancellationOutcome where
  executionId := executionId
  requestId := requestId
  authorityRevoked := true
  processStatus := processStatus
  processConfirmed := false
  durableTerminal := false
  taskStopped := taskStopped
  reasonCode := none
  errorCode := errorCode

/-- `settlePreDispatch`. -/
def settlePreDispatchAmong (w : Interleaving g) (c : RevokeRequestArgs) (e : Execution) (db : Db) :
    Cancelling :=
  match w.execute .settle
      (coordinatorSettlement w.env e.fixed.run.executionId c.organizationId
        .executionCancelledBeforeDispatch .preDispatch noIdentity
        (some e.fixed.run.workerGeneration) none) db with
  | (db, .error x) => (db, .error x)
  | (db, .ok settled) =>
      (db, .ok { revokedOutcome (some e.fixed.run.executionId) c.requestId "NOT_FOUND"
          w.env.taskStopped none with
        durableTerminal := settled
        reasonCode := some .executionCancelledBeforeDispatch })

/-- `settleNoProcess`. -/
def settleNoProcessAmong (w : Interleaving g) (c : RevokeRequestArgs) (executionId : String)
    (ownership : Execution) (db : Db) : Cancelling :=
  match w.execute .settle
      (coordinatorSettlement w.env executionId c.organizationId
        .executionCancelledBeforeProcessCreation .noExternalProcess noIdentity
        ownership.data.ownership.workerGeneration none) db with
  | (db, .error x) => (db, .error x)
  | (db, .ok settled) =>
      (db, .ok { revokedOutcome (some executionId) c.requestId
          (if settled then "NO_EXTERNAL_PROCESS" else "FAILED") w.env.taskStopped
          (if settled then none else some "EXECUTION_NO_PROCESS_SETTLEMENT_FAILED") with
        durableTerminal := settled
        reasonCode := if settled then some .executionCancelledBeforeProcessCreation else none })

/-- The run's own reason, read last; a read that raises is its error. -/
def finalReason (w : Interleaving g) (c : RevokeRequestArgs) (executionId : String) (db : Db) :
    Db × Option ReasonCode × Option String :=
  match w.read .readFinal (·.executionRun executionId c.organizationId) db with
  | (db, .error x) => (db, none, some x)
  | (db, .ok e) => (db, (e.bind (·.data.run.reasonCode)).filter (· ≠ .other ""), none)

/-- The settlement of a termination the supervisor confirmed, by the identity it confirmed. -/
def settleProcessAmong (w : Interleaving g) (c : RevokeRequestArgs) (executionId : String)
    (back ownership : Option Execution) (identity : Option ProcessIdentity)
    (reply : SupervisorReply) (db : Db) : Db × Except String (Bool × Option String) :=
  match reply.confirmed, identity with
  | some status, some i =>
      match w.execute .settle
          (coordinatorSettlement w.env executionId c.organizationId .executionCancelled status
            i.args (ownership.bind (·.data.ownership.workerGeneration))
            (back.bind (·.data.run.workerIdentity))) db with
      | (db, .error x) => (db, .error x)
      | (db, .ok settled) =>
          (db, .ok (settled,
            if settled then reply.error
            else reply.error.or (some "CONFIRMED_TERMINATION_SETTLEMENT_FAILED")))
  | some _, none =>
      (db, .ok (false, reply.error.or (some "DURABLE_PROCESS_IDENTITY_REQUIRED_FOR_SETTLEMENT")))
  | none, _ => (db, .ok (false, reply.error))

/-- The supervisor is called, and what it confirmed is settled. -/
def cancelProcessAmong (w : Interleaving g) (c : RevokeRequestArgs) (executionId : String)
    (back ownership : Option Execution) (identity : Option ProcessIdentity) (db : Db) :
    Cancelling :=
  let reply := w.env.cancelExecution executionId identity
  match settleProcessAmong w c executionId back ownership identity reply db with
  | (db, .error x) => (db, .error x)
  | (db, .ok (settled, errorCode)) =>
      let (db, stored, unread) := finalReason w c executionId db
      (db, .ok
        { executionId := some executionId
          requestId := c.requestId
          authorityRevoked := true
          processStatus := reply.processStatus
          processConfirmed := reply.confirmed.isSome
          durableTerminal := settled
          taskStopped := w.env.taskStopped
          reasonCode := stored.or (if settled then some .executionCancelled else none)
          errorCode := errorCode.or unread })

/-- The identity is read where an ownership row was. -/
def readIdentityAmong (w : Interleaving g) (c : RevokeRequestArgs) (executionId : String)
    (ownership : Option Execution) (db : Db) : Db × Option ProcessIdentity :=
  match ownership with
  | none => (db, none)
  | some _ =>
      match w.read .readIdentity (·.executionRun executionId c.organizationId) db with
      | (db, .error _) => (db, none)
      | (db, .ok e) =>
          (db, e.bind fun e =>
            loadDurableProcessIdentity w.env.attestedJob (w.clock .readIdentity) e.fixed e.data)

/-- What follows the reads after the revocation: no process was created, no identity was found, or
the supervisor is called. -/
def settleRevokedAmong (w : Interleaving g) (c : RevokeRequestArgs) (executionId : String)
    (back ownership : Option Execution) (identityError : Option String) (db : Db) : Cancelling :=
  let (db, identity) := readIdentityAmong w c executionId ownership db
  let starting := back.any (·.data.run.state = .starting)
  let required := starting || back.any (·.data.run.state = .running) ||
    ownership.any fun e => bearsProcess e.data.ownership.ownershipState
  match ownership.filter (·.data.ownership.ownershipState = .noExternalProcess), starting with
  | some e, true => settleNoProcessAmong w c executionId e db
  | _, _ =>
      if required && identity.isNone then
        (db, .ok (revokedOutcome (some executionId) c.requestId "IDENTITY_UNAVAILABLE"
          w.env.taskStopped (identityError.or (some "DURABLE_PROCESS_IDENTITY_UNAVAILABLE"))))
      else cancelProcessAmong w c executionId back ownership identity db

/-- What follows a revocation that committed. -/
def afterRevocationAmong (w : Interleaving g) (c : RevokeRequestArgs) (executionId : String)
    (db : Db) : Cancelling :=
  match w.read .readBack (·.executionRun executionId c.organizationId) db with
  | (db, .error x) =>
      (db, .ok (revokedOutcome (some executionId) c.requestId "FAILED" false (some x)))
  | (db, .ok back) =>
      match back.filter fun e => e.data.run.state = .cancelled ∧
          e.data.run.reasonCode = some .executionCancelledBeforeDispatch with
      | some e => settlePreDispatchAmong w c e db
      | none =>
          match w.read .readOwnership (·.executionRun executionId c.organizationId) db with
          | (db, .error x) => settleRevokedAmong w c executionId back none (some x) db
          | (db, .ok ownership) => settleRevokedAmong w c executionId back ownership none db

/-- `cancelWithoutRun`. -/
def cancelAbsentAmong (w : Interleaving g) (c : RevokeRequestArgs) (db : Db) : Cancelling :=
  match w.execute .revoke (.revokeRequest c) db with
  | (db, .error x) => (db, .ok (failedOutcome none c.requestId "FAILED" x))
  | (db, .ok revoked) =>
      (db, .ok
        { executionId := none
          requestId := c.requestId
          authorityRevoked := revoked
          processStatus := if revoked then "NOT_FOUND" else "FAILED"
          processConfirmed := false
          durableTerminal := revoked
          taskStopped := w.env.taskStopped
          reasonCode := if revoked then some .executionCancelledBeforeDispatch else none
          errorCode := if revoked then none else some "EXECUTION_REQUEST_NOT_FOUND" })

/-- `cancelEnded`. -/
def cancelEndedAmong (w : Interleaving g) (c : RevokeRequestArgs) (e : Execution) (db : Db) :
    Cancelling :=
  let ended : CancellationOutcome :=
    { executionId := some e.fixed.run.executionId
      requestId := c.requestId
      authorityRevoked := false
      processStatus := "FAILED"
      processConfirmed := false
      durableTerminal := true
      taskStopped := false
      reasonCode := e.data.run.reasonCode
      errorCode := none }
  match w.execute .revoke (.revokeRequest c) db with
  | (db, .error x) => (db, .ok { ended with errorCode := some x })
  | (db, .ok revoked) =>
      (db, .ok { ended with
        authorityRevoked := revoked
        processStatus := if revoked then "ALREADY_EXITED" else "FAILED"
        processConfirmed := revoked
        taskStopped := w.env.taskStopped
        errorCode := if revoked then none else some "EXECUTION_AUTHORITY_NOT_REVOKED" })

/-- `cancelActive`. -/
def cancelActiveAmong (w : Interleaving g) (c : RevokeRequestArgs) (executionId : String)
    (db : Db) : Cancelling :=
  match w.execute .revoke (.revokeRequest c) db with
  | (db, .error x) => (db, .ok (failedOutcome (some executionId) c.requestId "FAILED" x))
  | (db, .ok false) =>
      (db, .ok (failedOutcome (some executionId) c.requestId "FAILED"
        "EXECUTION_AUTHORITY_NOT_REVOKED"))
  | (db, .ok true) => afterRevocationAmong w c executionId db

/-- `cancel_request`, among what happens meanwhile. -/
def cancelAmong (w : Interleaving g) (c : RevokeRequestArgs) (db : Db) : Cancelling :=
  if isBlank c.requestId || isBlank c.organizationId || isBlank c.actor then
    (db, .ok (failedOutcome none c.requestId "INVALID_REQUEST" "INVALID_CANCELLATION_REQUEST"))
  else
    match w.read .readRun (·.executionRunForRequest c.requestId c.organizationId) db with
    | (db, .error x) => (db, .ok (failedOutcome none c.requestId "FAILED" x))
    | (db, .ok none) => cancelAbsentAmong w c db
    | (db, .ok (some e)) =>
        if e.fixed.run.executionId.isEmpty then
          (db, .ok (failedOutcome none c.requestId "FAILED" "EXECUTION_IDENTITY_MISSING"))
        else if e.data.run.state.isTerminal then cancelEndedAmong w c e db
        else cancelActiveAmong w c e.fixed.run.executionId db

/-! ### When nothing happens meanwhile -/

/-- Nothing happens, and nothing raises. -/
def Interleaving.still (g : Gateway) (env : CancellationEnv) : Interleaving g where
  env := env
  clock := fun _ => env.now
  raises := fun _ => none
  moves := fun _ db => db
  moved := fun _ db => .refl db

variable {env : CancellationEnv} {c : RevokeRequestArgs} {e : Execution} {db z : Db}
  {o : CancellationOutcome}

@[simp] theorem Interleaving.still_env : (Interleaving.still g env).env = env := rfl

@[simp] theorem Interleaving.still_clock (p : CancelPoint) :
    (Interleaving.still g env).clock p = env.now := rfl

@[simp] theorem Interleaving.still_read {α : Type} (p : CancelPoint) (f : Db → α) :
    (Interleaving.still g env).read p f db = (db, .ok (f db)) := rfl

/-- A call that returned. -/
theorem Interleaving.still_execute {p : CancelPoint} {k : ExecutionCall} {r : Response}
    (h : db.execute k env.now = .ok (r, z)) :
    (Interleaving.still g env).execute p k db = (z, .ok r.granted) := by
  simp only [Interleaving.execute, Interleaving.still]
  rw [h]

/-- A call that raised. -/
theorem Interleaving.still_raises {p : CancelPoint} {k : ExecutionCall} {x : DbError}
    (h : db.execute k env.now = .error x) :
    (Interleaving.still g env).execute p k db = (db, .error x.typeName) := by
  simp only [Interleaving.execute, Interleaving.still]
  rw [h]

theorem settlePreDispatch_still
    (h : settlePreDispatch env c.requestId c.organizationId e db = .ok (o, z)) :
    settlePreDispatchAmong (.still g env) c e db = (z, .ok o) := by
  obtain ⟨⟨r, d⟩, settled, h⟩ := Checked.bind_ok.mp h
  cases h
  rw [settlePreDispatchAmong, Interleaving.still_env, Interleaving.still_execute settled]
  rfl

theorem settleNoProcess_still
    (h : settleNoProcess env c.requestId c.organizationId e db = .ok (o, z)) :
    settleNoProcessAmong (.still g env) c e.fixed.run.executionId e db = (z, .ok o) := by
  obtain ⟨⟨r, d⟩, settled, h⟩ := Checked.bind_ok.mp h
  cases h
  rw [settleNoProcessAmong, Interleaving.still_env, Interleaving.still_execute settled]
  rfl

theorem cancelProcess_still {identity : Option ProcessIdentity}
    (h : cancelProcess env c.requestId c.organizationId e identity db = .ok (o, z)) :
    cancelProcessAmong (.still g env) c e.fixed.run.executionId (some e) (some e) identity db
      = (z, .ok o) := by
  simp only [cancelProcess] at h
  simp only [cancelProcessAmong, settleProcessAmong, finalReason, Interleaving.still_env,
    Interleaving.still_read, Option.or_none, Option.bind_some]
  split at h
  · rename_i status i hc
    obtain ⟨⟨r, d⟩, executed, h⟩ := Checked.bind_ok.mp h
    cases h
    simp only [hc, Interleaving.still_execute executed]
  · rename_i hc
    cases h
    simp only [hc]
  · rename_i hc
    cases h
    simp only [hc]

/-- Without an identity nothing is settled, whatever was read. -/
theorem cancelProcess_still_none {back ownership : Option Execution}
    (h : cancelProcess env c.requestId c.organizationId e none db = .ok (o, z)) :
    cancelProcessAmong (.still g env) c e.fixed.run.executionId back ownership none db
      = (z, .ok o) := by
  simp only [cancelProcess] at h
  simp only [cancelProcessAmong, settleProcessAmong, finalReason, Interleaving.still_env,
    Interleaving.still_read, Option.or_none]
  cases hc : (env.cancelExecution e.fixed.run.executionId none).confirmed with
  | some status | none =>
      simp only [hc] at h
      cases h
      simp only [hc]

/-- What follows the revocation, where the run is read back. -/
theorem afterRevocation_still
    (he : db.executionRun e.fixed.run.executionId c.organizationId = some e)
    (h : afterRevocation env c.requestId c.organizationId e db = .ok (o, z)) :
    afterRevocationAmong (.still g env) c e.fixed.run.executionId db = (z, .ok o) := by
  unfold afterRevocation at h
  simp only [afterRevocationAmong, Interleaving.still_read, he]
  by_cases cancelled : e.data.run.state = .cancelled ∧
      e.data.run.reasonCode = some .executionCancelledBeforeDispatch
  · rw [if_pos cancelled] at h
    have found : (some e).filter (fun e => e.data.run.state = .cancelled ∧
        e.data.run.reasonCode = some .executionCancelledBeforeDispatch) = some e :=
      Option.filter_eq_some_iff.mpr ⟨rfl, decide_eq_true cancelled⟩
    simp only [found]
    exact settlePreDispatch_still h
  rw [if_neg cancelled] at h
  have other : (some e).filter (fun e => e.data.run.state = .cancelled ∧
      e.data.run.reasonCode = some .executionCancelledBeforeDispatch) = none := by
    rw [Option.filter_some, if_neg (by simpa using cancelled)]
  simp only [other, settleRevokedAmong, readIdentityAmong, Interleaving.still_read, he,
    Option.bind_some, Interleaving.still_env, Interleaving.still_clock, Option.any_some]
  by_cases absent : e.data.ownership.ownershipState = .noExternalProcess ∧
      e.data.run.state = .starting
  · rw [if_pos absent] at h
    simp only [Option.filter_some, absent.1, absent.2, decide_true, if_true]
    exact settleNoProcess_still h
  rw [if_neg absent] at h
  split
  · rename_i e' hf hs
    obtain ⟨same, ho⟩ := Option.filter_eq_some_iff.mp hf
    cases same
    exact absurd ⟨of_decide_eq_true ho, of_decide_eq_true hs⟩ absent
  · by_cases unavailable : (e.data.run.state = .starting ∨ e.data.run.state = .running ∨
        bearsProcess e.data.ownership.ownershipState = true) ∧
        loadDurableProcessIdentity env.attestedJob env.now e.fixed e.data = none
    · rw [if_pos unavailable] at h
      cases h
      rw [if_pos (by simpa [or_assoc] using unavailable)]
      rfl
    · rw [if_neg unavailable] at h
      rw [if_neg (by simpa [or_assoc] using unavailable)]
      exact cancelProcess_still h

/-- **When nothing happens meanwhile, the cancellation is `cancelRequest`.** -/
theorem cancelAmong_still (h : cancelRequest env c db = .ok (o, z)) :
    cancelAmong (.still g env) c db = (z, .ok o) := by
  unfold cancelRequest at h
  unfold cancelAmong
  by_cases blank : (isBlank c.requestId || isBlank c.organizationId || isBlank c.actor) = true
  · rw [if_pos blank] at h ⊢
    cases h
    rfl
  rw [if_neg blank] at h ⊢
  simp only [Interleaving.still_read]
  cases hr : db.executionRunForRequest c.requestId c.organizationId with
  | none =>
      simp only [hr, cancelWithoutRun, cancelAbsentAmong] at h ⊢
      split at h
      · rename_i x hx
        cases h
        rw [Interleaving.still_raises hx]
      · rename_i r d hd
        cases h
        rw [Interleaving.still_execute hd]
        rfl
  | some e =>
      simp only [hr] at h ⊢
      by_cases missing : e.fixed.run.executionId.isEmpty = true
      · rw [if_pos missing] at h ⊢
        cases h
        rfl
      rw [if_neg missing] at h ⊢
      by_cases ended : e.data.run.state.isTerminal = true
      · rw [if_pos ended] at h ⊢
        simp only [cancelEnded, cancelEndedAmong] at h ⊢
        split at h
        · rename_i x hx
          cases h
          rw [Interleaving.still_raises hx]
        · rename_i r d hd
          cases h
          rw [Interleaving.still_execute hd]
          rfl
      · rw [if_neg ended] at h ⊢
        simp only [cancelActive, cancelActiveAmong] at h ⊢
        split at h
        · rename_i x hx
          cases h
          rw [Interleaving.still_raises hx]
        · rename_i r d hd
          rw [Interleaving.still_execute hd]
          cases hg : r.granted with
          | false =>
              simp only [hg, Bool.not_false, if_true] at h
              cases h
              rfl
          | true =>
              simp only [hg, Bool.not_true, Bool.false_eq_true, if_false] at h ⊢
              cases hb : d.executionRun e.fixed.run.executionId c.organizationId with
              | none =>
                  simp only [hb] at h
                  simp only [afterRevocationAmong, Interleaving.still_read, hb, Option.filter_none,
                    settleRevokedAmong, readIdentityAmong, Option.any_none, Bool.or_false,
                    Bool.false_and, Bool.false_eq_true, if_false]
                  exact cancelProcess_still_none h
              | some e' =>
                  simp only [hb] at h
                  have same : e.fixed.run.executionId = e'.fixed.run.executionId :=
                    (executionRun_some hb).2.1.symm
                  rw [same] at hb ⊢
                  exact afterRevocation_still hb h

end CyberAssess
