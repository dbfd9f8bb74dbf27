import CyberAssess.Support.DateTime

/-!
# Database — the expiry of an authority, as it is stored and tested

A request and a decision keep `expires_at.isoformat()`.  A statement compares that text with the text
of the clock, and Python reads it and compares datetimes.

* `UtcNow` is what `utc_now()` returns.
* `expiredText` and `expiredInstant` are the two comparisons; each function of `core/db.py` has its own
  test under its name.

`[about ours]`: texts are compared by their characters, as SQLite does, and PostgreSQL under `C`.  No
caller passes a `now` of its own.
-/

namespace CyberAssess

open Python

/-- `datetime.now(timezone.utc)`. -/
abbrev UtcNow := {now : DateTime // now.offset = 0}

variable (request decision : String) (now : UtcNow)

/-! ### The comparisons -/

/-- `expires_at <= ?`; its negation is `expires_at > ?`. -/
def expiredText (expiresAt : String) (now : UtcNow) : Bool := expiresAt ≤ now.1.isoformat

/-- `datetime.fromisoformat(expires_at) <= now`. -/
def expiredInstant (expiresAt : String) (now : UtcNow) : Option Bool :=
  (fromisoformat expiresAt).map fun t => decide (t.instant ≤ now.1.instant)

/-- `d.expires_at > ? AND q.expires_at > ?`. -/
def unexpiredTexts (request decision : String) (now : UtcNow) : Bool :=
  !expiredText decision now && !expiredText request now

/-- `fromisoformat(first) <= now or fromisoformat(second) <= now`. -/
def expiredInstants (first second : String) (now : UtcNow) : Option Bool := do
  if ← expiredInstant first now then return true
  expiredInstant second now

/-! ### The tests of each function -/

/-- `approve_execution_request` has the request only. -/
def approveExecutionRequest.expired : Option Bool := expiredInstant request now

/-- `claim_execution_authority`. -/
def claimExecutionAuthority.unexpired : Bool := unexpiredTexts request decision now

/-- `claim_execution_decision`. -/
def claimExecutionDecision.unexpired : Bool := unexpiredTexts request decision now

/-- `mark_execution_decision_started`. -/
def markExecutionDecisionStarted.unexpired : Bool := unexpiredTexts request decision now

/-- `finish_execution`, in its statements. -/
def finishExecution.unexpired : Bool := unexpiredTexts request decision now

/-- `finish_execution`, before them. -/
def finishExecution.expired : Option Bool := expiredInstants request decision now

/-- `list_execution_recovery_candidates`: `q.expires_at <= ? OR d.expires_at <= ?`. -/
def listExecutionRecoveryCandidates.expired : Bool :=
  expiredText request now || expiredText decision now

/-- `claim_execution_dispatch_intent`. -/
def claimExecutionDispatchIntent.expired : Option Bool := expiredInstants decision request now

/-- `reap_execution_dispatch`, of what may be reaped. -/
def reapExecutionDispatch.expired : Option Bool := expiredInstants request decision now

end CyberAssess
