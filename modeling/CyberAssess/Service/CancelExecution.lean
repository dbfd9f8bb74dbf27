import CyberAssess.Service.Identity

/-!
# Service — the supervisor's cancellation of one execution

`ProcessSupervisor.cancel_execution` of `core/process_supervisor.py`, on the answers the operating
system gives while it runs.

* `cancelExecution` is the call: `cancelWindowsJob` the branch for a job object, `cancelSession` the
  one for a POSIX session.
* `Kernel.ObservedGone` is what a confirmed status was observed from.
* `cancelExecution_observed`: a confirmed status for a given identity was.

`[about ours]`: an observation is a function of what it is asked about, and `kill_process_tree` is
known by what it returns.  A confirmed cancellation also drops its registry entry.
-/

namespace CyberAssess

open Python (isBlank)

/-- The registries of the supervisor, at one execution. -/
structure Registered where
  pid : Option Int
  processGroupId : Option Int
  identity : Option ProcessIdentity
deriving DecidableEq, Repr

/-- Nothing is registered. -/
def Registered.none : Registered := ⟨.none, .none, .none⟩

/-- A Windows job: its members and its termination; `none` where the call raises. -/
structure WindowsJob where
  members : Option (List Int)
  terminate : Option Bool
deriving DecidableEq, Repr

/-- What the operating system answers. -/
structure Kernel where
  windows : Bool
  pidExists : Int → Bool
  processGroupExists : Option Int → Bool
  processSessionExists : Option Int → Bool
  captureIdentity : Int → Option Int → Option ProcessIdentity
  identityMatches : ProcessIdentity → Bool
  processGroupIdentityMatches : ProcessIdentity → Bool
  killProcessTree : Int → Option Int → Option ProcessIdentity → Bool
  readAttestation : String → Option WindowsAttestation
  attestedJob : WindowsAttestation → Option WindowsJob

/-- `ProcessCancellationResult`. -/
structure ProcessCancellationResult where
  executionId : String
  status : CancellationStatus
  pid : Option Int
deriving DecidableEq, Repr

/-- `start_token`, group and session of a freshly captured identity are those of the given one. -/
def ProcessIdentity.sameProcess (i j : ProcessIdentity) : Bool :=
  j.startToken = i.startToken && j.processGroupId = i.processGroupId && j.sessionId = i.sessionId

/-- `_windows_identity_attestation`; `none` where it raises. -/
def windowsIdentityAttestation (k : Kernel) (executionId : String) (i : ProcessIdentity) :
    Option WindowsAttestation := do
  let text ← i.windowsAttestation
  let w ← k.readAttestation text
  guard (i.pid = w.rootProcessId && i.startToken = w.rootProcessStartToken &&
    i.processGroupId.isNone && i.sessionId.isNone && i.memberSnapshot.isEmpty &&
    executionId = w.executionId)
  some w

/-- `KILLED` where the job had members, `ALREADY_EXITED` where it had none. -/
def WindowsJob.cancel (j : WindowsJob) : Option CancellationStatus := do
  let members ← j.members
  if members.isEmpty then some .alreadyExited
  else
    let terminated ← j.terminate
    guard terminated
    some .killed

/-- The branch of a job object. -/
def cancelWindowsJob (k : Kernel) (mapped : Registered) (executionId : String)
    (i : Option ProcessIdentity) : ProcessCancellationResult :=
  match i.or mapped.identity with
  | none =>
      -- A registered pid has no attestation to verify it by.
      ⟨executionId, if mapped.pid.isNone then .notFound else .recoveryBlocked, none⟩
  | some identity =>
      let status := do
        guard (mapped.identity.all (· = identity))
        let attestation ← windowsIdentityAttestation k executionId identity
        let job ← k.attestedJob attestation
        job.cancel
      match status with
      | some status => ⟨executionId, status, some identity.pid⟩
      | none => ⟨executionId, .recoveryBlocked, none⟩

/-- The given identity is that of a POSIX process. -/
def ProcessIdentity.isPosix (i : ProcessIdentity) : Bool :=
  1 < i.pid && i.processGroupId.any (1 < ·) && !isBlank i.startToken &&
    i.sessionId.any (0 ≤ ·)

/-- The registries agree with the given identity. -/
def Registered.agrees (r : Registered) (i : ProcessIdentity) : Bool :=
  r.pid.all (· = i.pid) && r.processGroupId.all (some · = i.processGroupId) &&
    r.identity.all (· = i)

/-- What is left of a process is signalled, once it is proven to be the one of the identity. -/
def cancelSession (k : Kernel) (pid : Int) (group : Option Int) (identity : Option ProcessIdentity) :
    CancellationStatus :=
  let rootExists := k.pidExists pid
  let groupExists := k.processGroupExists group
  let sessionExists := identity.any fun i => k.processSessionExists i.sessionId
  match identity with
  | none =>
      if rootExists || groupExists then .recoveryBlocked else .alreadyExited
  | some i =>
      if !(rootExists || groupExists || sessionExists) then .alreadyExited
      else
        -- A root that lives is captured again, and signalled by what is captured.
        let current :=
          if rootExists then (k.captureIdentity pid group).filter i.sameProcess else some i
        match current with
        | none => .recoveryBlocked
        | some j =>
            if !((!rootExists || k.identityMatches j) && k.processGroupIdentityMatches j) then
              .recoveryBlocked
            else if k.killProcessTree pid group (some j) then .killed
            else .recoveryBlocked

/-- `cancel_execution`. -/
def cancelExecution (k : Kernel) (mapped : Registered) (executionId : String)
    (identity : Option ProcessIdentity) : ProcessCancellationResult :=
  if executionId.isEmpty then ⟨executionId, .invalidRequest, none⟩
  else if k.windows then cancelWindowsJob k mapped executionId identity
  else
    match identity with
    | some i =>
        if !i.isPosix then ⟨executionId, .invalidRequest, none⟩
        else if !mapped.agrees i then ⟨executionId, .recoveryBlocked, some i.pid⟩
        else ⟨executionId, cancelSession k i.pid i.processGroupId (some i), some i.pid⟩
    | none =>
        match mapped.pid with
        | none => ⟨executionId, .notFound, none⟩
        | some pid =>
            ⟨executionId, cancelSession k pid mapped.processGroupId mapped.identity, some pid⟩

/-! ### What a confirmed status was observed from -/

/-- Nothing of the process is left: its root, its group and its session are gone, or its tree was
killed under its own identity, or its job has no members. -/
inductive Kernel.ObservedGone (k : Kernel) (executionId : String) (i : ProcessIdentity) : Prop where
  | absent (hp : k.pidExists i.pid = false) (hg : k.processGroupExists i.processGroupId = false)
      (hs : k.processSessionExists i.sessionId = false) : ObservedGone k executionId i
  | killed {j : ProcessIdentity} (hj : i.sameProcess j = true)
      (hm : k.processGroupIdentityMatches j = true)
      (hk : k.killProcessTree i.pid i.processGroupId (some j) = true) : ObservedGone k executionId i
  | job {w : WindowsAttestation} {j : WindowsJob}
      (hw : windowsIdentityAttestation k executionId i = some w) (hj : k.attestedJob w = some j)
      (he : j.members = some [] ∨ j.terminate = some true) : ObservedGone k executionId i

/-- An identity is that of its own process. -/
theorem ProcessIdentity.sameProcess_self (i : ProcessIdentity) : i.sameProcess i = true := by
  simp [ProcessIdentity.sameProcess]

/-- A job is cancelled when it is empty or terminated. -/
theorem WindowsJob.cancel_some {j : WindowsJob} {s : CancellationStatus} (h : j.cancel = some s) :
    j.members = some [] ∨ j.terminate = some true := by
  unfold WindowsJob.cancel at h
  obtain ⟨members, hm, h⟩ := Option.bind_eq_some_iff.mp h
  by_cases empty : members.isEmpty = true
  · rw [List.isEmpty_iff] at empty
    exact Or.inl (by rw [hm, empty])
  · rw [if_neg empty] at h
    obtain ⟨terminated, ht, h⟩ := Option.bind_eq_some_iff.mp h
    cases terminated with
    | true => exact Or.inr ht
    | false => cases h

variable {k : Kernel} {mapped : Registered} {executionId : String} {i : ProcessIdentity}

theorem cancelWindowsJob_observed
    (h : (cancelWindowsJob k mapped executionId (some i)).status.confirmed.isSome = true) :
    k.ObservedGone executionId i := by
  simp only [cancelWindowsJob, Option.some_or] at h
  split at h
  · rename_i status hs
    obtain ⟨-, -, hs⟩ := Option.bind_eq_some_iff.mp hs
    obtain ⟨w, hw, hs⟩ := Option.bind_eq_some_iff.mp hs
    obtain ⟨j, hj, hs⟩ := Option.bind_eq_some_iff.mp hs
    exact .job hw hj (WindowsJob.cancel_some hs)
  · cases h

theorem cancelSession_observed
    (h : (cancelSession k i.pid i.processGroupId (some i)).confirmed.isSome = true) :
    k.ObservedGone executionId i := by
  simp only [cancelSession, Option.any_some] at h
  by_cases gone : !(k.pidExists i.pid || k.processGroupExists i.processGroupId ||
      k.processSessionExists i.sessionId)
  · simp only [Bool.not_eq_true', Bool.or_eq_false_iff] at gone
    exact .absent gone.1.1 gone.1.2 gone.2
  rw [if_neg gone] at h
  split at h
  · cases h
  rename_i j hj
  by_cases matched :
      !((!k.pidExists i.pid || k.identityMatches j) && k.processGroupIdentityMatches j)
  · rw [if_pos matched] at h
    cases h
  rw [if_neg matched] at h
  by_cases killed : k.killProcessTree i.pid i.processGroupId (some j) = true
  · have same : i.sameProcess j = true := by
      by_cases root : k.pidExists i.pid = true
      · rw [if_pos root, Option.filter_eq_some_iff] at hj
        exact hj.2
      · rw [if_neg root] at hj
        cases hj
        exact i.sameProcess_self
    simp only [Bool.not_eq_true', Bool.not_eq_false, Bool.and_eq_true] at matched
    exact .killed same matched.2 killed
  · rw [if_neg killed] at h
    cases h

/-- **A status is confirmed only for a process that was observed gone**, by the identity that was
given. -/
theorem cancelExecution_observed
    (h : (cancelExecution k mapped executionId (some i)).status.confirmed.isSome = true) :
    k.ObservedGone executionId i := by
  unfold cancelExecution at h
  by_cases empty : executionId.isEmpty = true
  · rw [if_pos empty] at h
    cases h
  rw [if_neg empty] at h
  by_cases windows : k.windows = true
  · rw [if_pos windows] at h
    exact cancelWindowsJob_observed h
  rw [if_neg windows] at h
  simp only at h
  by_cases posix : (!i.isPosix) = true
  · rw [if_pos posix] at h
    cases h
  rw [if_neg posix] at h
  by_cases agrees : (!mapped.agrees i) = true
  · rw [if_pos agrees] at h
    cases h
  rw [if_neg agrees] at h
  exact cancelSession_observed h

end CyberAssess
