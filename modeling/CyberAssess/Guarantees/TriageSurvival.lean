import CyberAssess.Findings.Triage
import CyberAssess.Guarantees.SlaClock

/-!
# Guarantees — triage across scans

Scans are saved, and users set the status and the assignee of canonical findings, in any order.

* `FindingsDb` is the findings table with what users have set, by organization and evidence hash.
* `Survives`: what was set stands in the one row with the hash.
* `FindingsDb.saved_rows`: every save adds a row for each cluster, under an identifier of its own.
* `triage_survives`: what was set survives a save exactly where one row has the hash and the scan leads
  no cluster with it.
-/

namespace CyberAssess

open Transition

/-- The findings table, where the draws stand, and what users have set last. -/
structure FindingsDb where
  rows : List FindingRow
  drawn : Nat
  triage : String → String → Option (LifecycleStatus × Option String)

namespace FindingsDb

/-- No scan was saved. -/
def empty : FindingsDb := ⟨[], 0, fun _ _ => none⟩

variable (s : FindingsDb)

/-- The rows of an organization with an evidence hash. -/
def holding (organizationId hash : String) : List FindingRow :=
  s.rows.filter fun row => row.organizationId = organizationId && row.evidenceHash = hash

/-- After `save_scan_record`. -/
def saved (h : CorrelatorHost) (d : Draws) (scan : SavedScan) : FindingsDb :=
  { s with
    rows := ((scan.saveScanRecord h d s.rows).run s.drawn).1
    drawn := ((scan.saveScanRecord h d s.rows).run s.drawn).2 }

/-- What users have set, after `row` is updated. -/
def setBy (row : FindingRow) (payload : FindingTriageUpdate) (organizationId hash : String) :
    Option (LifecycleStatus × Option String) :=
  if organizationId = row.organizationId ∧ hash = row.evidenceHash then
    some (payload.status, payload.assignedTo)
  else s.triage organizationId hash

/-- Where users have set a status and an assignee, one row has the hash, and it has both. -/
def Survives (organizationId hash : String) : Prop :=
  ∀ v, s.triage organizationId hash = some v →
    ∃ row, s.holding organizationId hash = [row] ∧ (row.status, row.assignedTo) = v

/-- Of what users have set, one row has the hash, and the scan leads no cluster with it. -/
def Spared (h : CorrelatorHost) (scan : SavedScan) : Prop :=
  ∀ f ∈ scan.findings, s.triage scan.tenant (f.evidenceHash h) ≠ none →
    (s.holding scan.tenant (f.evidenceHash h)).length = 1 ∧
      f.evidenceHash h ∉ leadingHashes h scan.findings

end FindingsDb

/-- What happens to the table. -/
inductive TriageAction where
  | save (scan : SavedScan)
  | update (user : UserProfile) (findingId : String) (payload : FindingTriageUpdate) (now : Int)

/-- A scan is saved, or an update is answered; a request that is refused leaves the table as it is. -/
inductive TriageStep (h : CorrelatorHost) (d : Draws) : FindingsDb → TriageAction → FindingsDb → Prop where
  | save (s : FindingsDb) (scan : SavedScan) : TriageStep h d s (.save scan) (s.saved h d scan)
  | update {s : FindingsDb} {user : UserProfile} {findingId : String} {payload : FindingTriageUpdate}
      {now : Int} {rows : List FindingRow} {row : FindingRow} (found : row ∈ s.rows)
      (addressed : row.addressed findingId user = true)
      (answered : updateFindingStatus user findingId payload now s.rows = .ok rows) :
      TriageStep h d s (.update user findingId payload now) ⟨rows, s.drawn, s.setBy row payload⟩

/-! ### What a save adds -/

section
variable {h : CorrelatorHost} {d : Draws} {c : CorrelationContext} {cs : List Cluster}
variable {bs : List (CanonicalFinding × List FindingOccurrence)} {m n : Nat}

/-- The canonical findings have the hashes of the findings that lead their clusters. -/
theorem Drawn.hashes (drawn : Drawn (Built h d c) cs m bs n) :
    bs.map (·.1.evidenceHash) = cs.map fun cluster => cluster.primary.evidenceHash h := by
  induction drawn with
  | nil n => rfl
  | cons first rest ih => rw [List.map_cons, List.map_cons, first.hash, ih]

end

/-- The rows a save adds, drawn from `m` up to `n`. -/
structure NewRows (h : CorrelatorHost) (d : Draws) (scan : SavedScan) (m n : Nat)
    (news : List FindingRow) : Prop where
  draws : m ≤ n
  drawn : ∀ row ∈ news, ∃ k, m ≤ k ∧ k < n ∧ row.id = "cfind-" ++ d.uuid k
  distinct : (news.map (·.id)).Nodup
  tenant : ∀ row ∈ news, row.organizationId = scan.tenant
  hashes : news.map (·.evidenceHash) = leadingHashes h scan.findings

/-- The identifiers of the table have been drawn, no two rows have one identifier, and what users
have set stands in some row. -/
structure FindingsDb.Sound (d : Draws) (s : FindingsDb) : Prop where
  drawn : ∀ row ∈ s.rows, ∃ k, k < s.drawn ∧ row.id = "cfind-" ++ d.uuid k
  distinct : (s.rows.map (·.id)).Nodup
  stands : ∀ organizationId hash v, s.triage organizationId hash = some v →
    ∃ row ∈ s.holding organizationId hash, (row.status, row.assignedTo) = v

namespace FindingsDb

variable {h : CorrelatorHost} {d : Draws} {s : FindingsDb} {scan : SavedScan}

theorem mem_holding {organizationId hash : String} {row : FindingRow} :
    row ∈ s.holding organizationId hash ↔
      row ∈ s.rows ∧ row.organizationId = organizationId ∧ row.evidenceHash = hash := by
  simp only [holding, List.mem_filter, Bool.and_eq_true, decide_eq_true_eq]

variable (h scan) in
/-- A save adds a row for each cluster: no identifier it draws is in the table. -/
theorem saved_rows (sound : s.Sound d) :
    ∃ news, (s.saved h d scan).rows = s.rows ++ news ∧
      NewRows h d scan s.drawn (s.saved h d scan).drawn news := by
  have drawn := drawn_mapM (build_built (h := h) (d := d) (c := scan.context))
    (clusters h scan.findings) s.drawn
  generalize built : ((clusters h scan.findings).mapM (build h d scan.context)).run s.drawn = r
    at drawn
  obtain ⟨bs, n⟩ := r
  have run : (scan.saveScanRecord h d s.rows).run s.drawn =
      ((bs.map (·.1)).foldl
        (fun rows cf => FindingRow.upsert (scan.row (bs.flatMap (·.2)) cf) rows) s.rows, n) := by
    simp only [SavedScan.saveScanRecord, correlateFindings, StateT.run_bind, built]
    rfl
  obtain ⟨ids, distinct⟩ := drawn.ids
  let news := bs.map fun b => scan.row (bs.flatMap (·.2)) b.1
  have newIds : news.map (·.id) = bs.map (·.1.id) := List.map_map
  have later : ∀ row ∈ news, ∃ k, s.drawn ≤ k ∧ k < n ∧ row.id = "cfind-" ++ d.uuid k := by
    intro row mem
    obtain ⟨b, hb, rfl⟩ := List.mem_map.mp mem
    exact ids b hb
  have fresh : ∀ row ∈ news, row.id ∉ s.rows.map (·.id) := by
    intro row mem old
    obtain ⟨k, from_, -, id⟩ := later row mem
    obtain ⟨row', hrow', same⟩ := List.mem_map.mp old
    obtain ⟨k', below, id'⟩ := sound.drawn row' hrow'
    rw [id, id'] at same
    have drawnTwice : k' = k := d.uuid_inj k' k (String.append_right_inj _ |>.mp same)
    omega
  refine ⟨news, ?_, ?_⟩
  · have added := FindingRow.foldl_upsert_new (newIds ▸ distinct) fresh
    rw [List.foldl_map] at added
    rw [saved, run, List.foldl_map]
    exact added
  · rw [saved, run]
    refine ⟨drawn.draws, later, newIds ▸ distinct, ?_, ?_⟩
    · intro row mem
      obtain ⟨b, -, rfl⟩ := List.mem_map.mp mem
      rfl
    · rw [leadingHashes, ← drawn.hashes, List.map_map]
      rfl

variable (h scan) in
/-- The rows with a hash, after a save. -/
theorem holding_saved (sound : s.Sound d) (hash : String) :
    ∃ news, (s.saved h d scan).holding scan.tenant hash = s.holding scan.tenant hash ++ news ∧
      (news = [] ↔ hash ∉ leadingHashes h scan.findings) := by
  obtain ⟨news, added, new⟩ := saved_rows h scan sound
  refine ⟨news.filter fun row => row.organizationId = scan.tenant && row.evidenceHash = hash, ?_, ?_⟩
  · rw [holding, added, List.filter_append]
    rfl
  · rw [List.filter_eq_nil_iff, ← new.hashes]
    constructor
    · intro none_ leads
      obtain ⟨row, mem, rfl⟩ := List.mem_map.mp leads
      exact none_ row mem (by simp [new.tenant row mem])
    · intro leads row mem same
      simp only [Bool.and_eq_true, decide_eq_true_eq] at same
      exact leads (List.mem_map.mpr ⟨row, mem, same.2⟩)

/-! ### Every state of a run -/

theorem Sound.saved (sound : s.Sound d) : (s.saved h d scan).Sound d := by
  obtain ⟨news, added, new⟩ := saved_rows h scan sound
  refine ⟨?_, ?_, ?_⟩
  · rw [added]
    intro row mem
    rcases List.mem_append.mp mem with old | mem
    · obtain ⟨k, below, id⟩ := sound.drawn row old
      exact ⟨k, Nat.lt_of_lt_of_le below new.draws, id⟩
    · obtain ⟨k, -, below, id⟩ := new.drawn row mem
      exact ⟨k, below, id⟩
  · rw [added, List.map_append]
    refine List.nodup_append.mpr ⟨sound.distinct, new.distinct, ?_⟩
    intro id old id' mem same
    obtain ⟨row, hrow, rfl⟩ := List.mem_map.mp old
    obtain ⟨row', hrow', rfl⟩ := List.mem_map.mp mem
    obtain ⟨k, below, drawn⟩ := sound.drawn row hrow
    obtain ⟨k', from_, -, drawn'⟩ := new.drawn row' hrow'
    rw [drawn, drawn'] at same
    have drawnTwice : k = k' := d.uuid_inj k k' (String.append_right_inj _ |>.mp same)
    omega
  · intro organizationId hash v set
    obtain ⟨row, mem, stands⟩ := sound.stands organizationId hash v set
    refine ⟨row, ?_, stands⟩
    rw [mem_holding] at mem ⊢
    exact ⟨added ▸ List.mem_append_left news mem.1, mem.2⟩

theorem Sound.update {user : UserProfile} {findingId : String} {payload : FindingTriageUpdate}
    {now : Int} {rows : List FindingRow} {row : FindingRow} (sound : s.Sound d) (found : row ∈ s.rows)
    (addressed : row.addressed findingId user = true)
    (answered : updateFindingStatus user findingId payload now s.rows = .ok rows) :
    FindingsDb.Sound d ⟨rows, s.drawn, s.setBy row payload⟩ := by
  obtain ⟨-, rfl⟩ := updateFindingStatus_ok answered
  have ids : (s.rows.map fun row =>
      if row.addressed findingId user then row.triaged payload now else row).map (·.id) =
        s.rows.map (·.id) := by
    rw [List.map_map]
    refine List.map_congr_left fun row' _ => ?_
    rw [Function.comp_apply]
    split <;> rfl
  refine ⟨?_, ids ▸ sound.distinct, ?_⟩
  · intro row' mem
    obtain ⟨old, hold, rfl⟩ := List.mem_map.mp mem
    obtain ⟨k, below, id⟩ := sound.drawn old hold
    refine ⟨k, below, ?_⟩
    rw [← id]
    split <;> rfl
  · intro organizationId hash v set
    simp only [setBy] at set
    split at set
    · -- The row that was updated has what was set.
      rename_i own
      cases set
      refine ⟨row.triaged payload now, ?_, rfl⟩
      rw [mem_holding]
      exact ⟨List.mem_map.mpr ⟨row, found, if_pos addressed⟩, own.1.symm, own.2.symm⟩
    · -- The row another setting stands in is not the one that was updated.
      rename_i other
      obtain ⟨row', mem, stands⟩ := sound.stands organizationId hash v set
      rw [mem_holding] at mem
      refine ⟨row', ?_, stands⟩
      have untouched : ¬row'.addressed findingId user = true := by
        intro addressed'
        simp only [FindingRow.addressed, Bool.and_eq_true, decide_eq_true_eq] at addressed addressed'
        have same : row' = row := List.inj_on_of_nodup_map sound.distinct mem.1 found
          (addressed'.1.trans addressed.1.symm)
        subst same
        exact other ⟨mem.2.1.symm, mem.2.2.symm⟩
      rw [mem_holding]
      exact ⟨List.mem_map.mpr ⟨row', mem.1, if_neg untouched⟩, mem.2⟩

theorem sound_of_reachable (reachable : Reachable (· = .empty) (TriageStep h d) s) : s.Sound d := by
  refine reachable.invariant ?_ ?_
  · rintro _ rfl
    exact ⟨by simp [empty], List.nodup_nil, by simp [empty]⟩
  · intro s e t sound step
    cases step with
    | save scan => exact sound.saved
    | update found addressed answered => exact sound.update found addressed answered

end FindingsDb

/-- **Triage survives a save** of a scan exactly where, under each evidence hash of the scan that a user
has triaged, there is one row and the scan leads no cluster. -/
theorem triage_survives (h : CorrelatorHost) (d : Draws) (s : FindingsDb)
    (reachable : Reachable (· = .empty) (TriageStep h d) s) (scan : SavedScan) :
    (∀ f ∈ scan.findings, (s.saved h d scan).Survives scan.tenant (f.evidenceHash h)) ↔
      s.Spared h scan := by
  have sound := FindingsDb.sound_of_reachable reachable
  refine forall₂_congr fun f _ => ?_
  obtain ⟨news, holding, none_⟩ :=
    FindingsDb.holding_saved h scan sound (f.evidenceHash h)
  constructor
  · intro survives triaged
    obtain ⟨v, set⟩ := Option.ne_none_iff_exists'.mp triaged
    obtain ⟨row, one, -⟩ := survives v set
    obtain ⟨row', mem, -⟩ := sound.stands _ _ v set
    have before : 0 < (s.holding scan.tenant (f.evidenceHash h)).length := List.length_pos_of_mem mem
    have after := congrArg List.length (holding.symm.trans one)
    rw [List.length_append, List.length_singleton] at after
    exact ⟨by omega, none_.mp (List.length_eq_zero_iff.mp (by omega))⟩
  · intro spared v set
    have triaged : s.triage scan.tenant (f.evidenceHash h) = some v := set
    obtain ⟨one, leads⟩ := spared (by rw [triaged]; exact Option.some_ne_none v)
    obtain ⟨row, only⟩ := List.length_eq_one_iff.mp one
    obtain ⟨row', mem, stands⟩ := sound.stands _ _ v triaged
    rw [only, List.mem_singleton] at mem
    subst mem
    refine ⟨row', ?_, stands⟩
    rw [holding, none_.mpr leads, List.append_nil, only]

namespace TriageSample

open CorrelationSample (host draws flaw)

/-- A scan that finds the flaw. -/
def scan : SavedScan := { id := "scan-1", assetId := some "asset-1", findings := [flaw] }

/-- An analyst who may accept risks. -/
def analyst : UserProfile where
  id := "user-1"
  username := "analyst"
  email := "analyst@example.org"
  role := .securityAnalyst
  principalType := .tenantPrincipal
  organizationId := "org-default"
  scopes := ["finding:triage", "finding:risk_accept"]
  isActive := true

/-- The risk is accepted and assigned. -/
def acceptance : FindingTriageUpdate := ⟨.riskAccepted, some "analyst"⟩

theorem accepted_reachable : ∃ s, Reachable (· = .empty) (TriageStep host draws) s ∧
    s.triage scan.tenant (flaw.evidenceHash host) = some (.riskAccepted, some "analyst") := by
  have answered : (updateFindingStatus analyst "cfind-3" acceptance 10
      (FindingsDb.empty.saved host draws scan).rows).toOption.isSome = true := by decide
  obtain ⟨rows, answered⟩ := Option.isSome_iff_exists.mp answered
  rw [Checked.toOption_eq_some] at answered
  obtain ⟨⟨row, found, addressed⟩, -⟩ := updateFindingStatus_ok answered
  have own : ∀ row ∈ (FindingsDb.empty.saved host draws scan).rows,
      row.organizationId = scan.tenant ∧ row.evidenceHash = flaw.evidenceHash host := by decide
  refine ⟨_, ⟨_, _, rfl, .more (.save .empty scan) (.single (.update found addressed answered))⟩, ?_⟩
  exact if_pos ⟨(own row found).1.symm, (own row found).2.symm⟩

end TriageSample

/-- The risk of the flaw is accepted, and the flaw is found again. -/
theorem triage_survives_acceptance : ∃ s : FindingsDb,
    s.triage TriageSample.scan.tenant (CorrelationSample.flaw.evidenceHash CorrelationSample.host) =
        some (.riskAccepted, some "analyst") ∧
      ((∀ f ∈ TriageSample.scan.findings,
          (s.saved CorrelationSample.host CorrelationSample.draws TriageSample.scan).Survives
            TriageSample.scan.tenant (f.evidenceHash CorrelationSample.host)) ↔
        s.Spared CorrelationSample.host TriageSample.scan) := by
  obtain ⟨s, reachable, set⟩ := TriageSample.accepted_reachable
  exact ⟨s, set, triage_survives CorrelationSample.host CorrelationSample.draws s reachable
    TriageSample.scan⟩

/-- The flaw is found again: the risk that was accepted has a second row. -/
theorem acceptance_forgotten : ¬ ∀ (h : CorrelatorHost) (d : Draws) (s : FindingsDb),
    Reachable (· = .empty) (TriageStep h d) s → ∀ scan : SavedScan, ∀ f ∈ scan.findings,
      (s.saved h d scan).Survives scan.tenant (f.evidenceHash h) := by
  intro claim
  obtain ⟨s, reachable, set⟩ := TriageSample.accepted_reachable
  have sound := FindingsDb.sound_of_reachable reachable
  obtain ⟨row, one, -⟩ := claim _ _ s reachable TriageSample.scan CorrelationSample.flaw
    List.mem_cons_self _ set
  obtain ⟨news, holding, none_⟩ := FindingsDb.holding_saved CorrelationSample.host
    TriageSample.scan sound (CorrelationSample.flaw.evidenceHash CorrelationSample.host)
  obtain ⟨row', mem, -⟩ := sound.stands _ _ _ set
  have leads : CorrelationSample.flaw.evidenceHash CorrelationSample.host ∈
      leadingHashes CorrelationSample.host TriageSample.scan.findings := by decide
  have added : 0 < news.length := by
    rw [List.length_pos_iff]
    exact fun empty => none_.mp empty leads
  have before : 0 < (s.holding TriageSample.scan.tenant
      (CorrelationSample.flaw.evidenceHash CorrelationSample.host)).length :=
    List.length_pos_of_mem mem
  have after := congrArg List.length (holding.symm.trans one)
  rw [List.length_append, List.length_singleton] at after
  omega

end CyberAssess
