import CyberAssess.Access.Principals
import CyberAssess.Findings.Correlator

/-!
# Findings — the findings table

`save_scan_record` of `core/db.py`, as far as it writes canonical findings, and
`update_finding_status` of `api/findings.py`.

* `FindingRow.upsert` is the insert with its `ON CONFLICT(id) DO UPDATE`.
* `SavedScan.saveScanRecord` correlates the findings of a scan and upserts what comes of it.
* `updateFindingStatus` sets the status and the assignee of the row with an identifier.

`[about ours]`: the columns no function here reads are left out, and so are the occurrences, the
comments and the audit events, which are rows of other tables.  A correlated finding always has the
time it was first seen, so the time of the save is not read.
-/

namespace CyberAssess

open Checked (ensure)

/-- A row of `findings`. -/
structure FindingRow where
  id : String
  organizationId : String
  projectId : Option String
  assetId : Option String
  scanId : String
  checkId : String
  category : String
  title : String
  severity : Severity
  status : LifecycleStatus
  firstSeen : Int
  lastSeen : Int
  timesObserved : Nat
  assignedTo : Option String
  contributingTools : List String
  correlationType : Option CorrelationType
  evidenceHash : String
  sla : Option SlaInfo
  fingerprint : String

namespace FindingRow

/-- `ON CONFLICT(id) DO UPDATE SET …`. -/
def refreshed (row excluded : FindingRow) : FindingRow :=
  { row with
    lastSeen := excluded.lastSeen
    timesObserved := row.timesObserved + 1
    contributingTools := excluded.contributingTools }

/-- `INSERT INTO findings … ON CONFLICT(id) DO UPDATE SET …`. -/
def upsert (excluded : FindingRow) : List FindingRow → List FindingRow
  | [] => [excluded]
  | row :: rows =>
      if row.id = excluded.id then row.refreshed excluded :: rows else row :: upsert excluded rows

/-- A new identifier is a new row. -/
theorem upsert_new {excluded : FindingRow} : ∀ {rows : List FindingRow},
    excluded.id ∉ rows.map (·.id) → upsert excluded rows = rows ++ [excluded]
  | [], _ => rfl
  | row :: rows, new => by
      rw [List.map_cons, List.mem_cons, not_or] at new
      rw [upsert, if_neg fun same => new.1 same.symm, upsert_new new.2, List.cons_append]

/-- New identifiers, no two of them the same, are new rows. -/
theorem foldl_upsert_new : ∀ {news rows : List FindingRow}, (news.map (·.id)).Nodup →
    (∀ new ∈ news, new.id ∉ rows.map (·.id)) →
      news.foldl (fun rows new => upsert new rows) rows = rows ++ news
  | [], rows, _, _ => (List.append_nil rows).symm
  | new :: news, rows, distinct, fresh => by
      rw [List.map_cons, List.nodup_cons] at distinct
      rw [List.forall_mem_cons] at fresh
      have later : ∀ next ∈ news, next.id ∉ (rows ++ [new]).map (·.id) := by
        intro next mem old
        rw [List.map_append, List.mem_append] at old
        rcases old with old | old
        · exact fresh.2 next mem old
        · have same : next.id = new.id := List.mem_singleton.mp old
          exact distinct.1 (List.mem_map.mpr ⟨next, mem, same⟩)
      rw [List.foldl_cons, upsert_new fresh.1, foldl_upsert_new distinct.2 later,
        List.append_assoc, List.singleton_append]

end FindingRow

/-! ### Saving a scan -/

/-- What is read of a `ScanJob`. -/
structure SavedScan where
  id : String
  organizationId : Option String := none
  projectId : Option String := none
  assetId : Option String := none
  findings : List Finding

namespace SavedScan

variable (scan : SavedScan)

/-- `getattr(scan_job, "organization_id", None) or "org-default"`. -/
def tenant : String := (orText scan.organizationId (some "org-default")).getD "org-default"

/-- The arguments of the correlation: no existing findings among them. -/
def context : CorrelationContext where
  assetId := scan.assetId
  organizationId := some scan.tenant
  projectId := scan.projectId

/-- `matching_check_id`. -/
def matchingCheckId (occurrences : List FindingOccurrence) (cf : CanonicalFinding) : String :=
  ((occurrences.find? fun o => o.canonicalFindingId = cf.id).map (·.checkId)).getD
    ((orText cf.cweId (some "SEC-CHECK-001")).getD "SEC-CHECK-001")

/-- The row of a canonical finding. -/
def row (occurrences : List FindingOccurrence) (cf : CanonicalFinding) : FindingRow where
  id := cf.id
  organizationId := scan.tenant
  projectId := scan.projectId
  assetId := scan.assetId
  scanId := scan.id
  checkId := matchingCheckId occurrences cf
  category := cf.category
  title := cf.title
  severity := cf.severity
  status := cf.status
  firstSeen := cf.firstSeen
  lastSeen := cf.lastSeen
  timesObserved := cf.timesObserved
  assignedTo := cf.assignedTo
  contributingTools := if cf.contributingTools.isEmpty then ["native"] else cf.contributingTools
  correlationType := cf.correlationType
  evidenceHash := cf.evidenceHash
  sla := cf.sla
  fingerprint := if cf.evidenceHash ≠ "" then cf.evidenceHash else cf.id

end SavedScan

/-- `save_scan_record`. -/
def SavedScan.saveScanRecord (h : CorrelatorHost) (d : Draws) (scan : SavedScan) (rows : List FindingRow) :
    Drawing (List FindingRow) := do
  let (canonicalFindings, occurrences) ← correlateFindings h d scan.context scan.findings
  return canonicalFindings.foldl (fun rows cf => FindingRow.upsert (scan.row occurrences cf) rows) rows

/-! ### Triage -/

/-- `FindingTriageUpdate`, without its comment. -/
structure FindingTriageUpdate where
  status : LifecycleStatus
  assignedTo : Option String := none

/-- `_organization_scope`. -/
def organizationScope (user : UserProfile) : Option String :=
  if user.isSystemAdmin then none else some user.organizationId

/-- `WHERE id = ? AND (? IS NULL OR organization_id = ?)`. -/
def FindingRow.addressed (row : FindingRow) (findingId : String) (user : UserProfile) : Bool :=
  row.id = findingId && (organizationScope user).all (row.organizationId = ·)

/-- The row after `UPDATE findings SET status = ?, assigned_to = ?, last_seen = ?`. -/
def FindingRow.triaged (row : FindingRow) (payload : FindingTriageUpdate) (now : Int) : FindingRow :=
  { row with status := payload.status, assignedTo := payload.assignedTo, lastSeen := now }

/-- `update_finding_status`, with the guard of its route. -/
def updateFindingStatus (user : UserProfile) (findingId : String) (payload : FindingTriageUpdate)
    (now : Int) (rows : List FindingRow) : Except HttpException (List FindingRow) := do
  requirePermission [.admin, .securityAnalyst, .developer] user
  let requiredScope := if payload.status = .riskAccepted then "finding:risk_accept" else "finding:triage"
  ensure ((user.isSystemAdmin && user.scopes.contains "*") || user.scopes.contains requiredScope)
    ⟨403, "Access forbidden: Credentials lack required scope '" ++ requiredScope ++ "'.", none⟩
  ensure (rows.any (·.addressed findingId user))
    ⟨404, "Finding '" ++ findingId ++ "' not found.", none⟩
  return rows.map fun row => if row.addressed findingId user then row.triaged payload now else row

/-- An update that is answered has set the rows it addresses, and there is one. -/
theorem updateFindingStatus_ok {user : UserProfile} {findingId : String}
    {payload : FindingTriageUpdate} {now : Int} {rows rows' : List FindingRow}
    (h : updateFindingStatus user findingId payload now rows = .ok rows') :
    (∃ row ∈ rows, row.addressed findingId user = true) ∧
      rows' = rows.map fun row =>
        if row.addressed findingId user then row.triaged payload now else row := by
  simp only [updateFindingStatus, Checked.bind_ok, Checked.ensure_ok] at h
  obtain ⟨-, -, -, -, -, found, same⟩ := h
  refine ⟨List.any_eq_true.mp found, ?_⟩
  cases same
  rfl

end CyberAssess
