import Mathlib.Data.List.Nodup
import CyberAssess.Scan.ManifestBuilder

/-!
# Guarantees — the manifest of a selection

What `build_scan_manifest` makes of the declared engines.

* `engineSnapshot_perm`, `selectedEngines_perm`: the engines, their tools and the selection are put
  in order before anything is made of them.
* `fleetStep_ok`: a round of the loop appends one fleet entry and the operations of its tool,
  `fleetLoop_ok` the whole loop.
* `groupOf_ownershipOf`: the owners of a tool are the engines that declare it.
* `manifest_canonical`: the order does not matter, and the manifest is complete.
-/

namespace CyberAssess

open Python
open Checked (ensure refuse require)

/-! ### The engines -/

/-- The same engine, with its tools in any order. -/
structure RegisteredEngine.SameTools (e e' : RegisteredEngine) : Prop where
  name : e.name = e'.name
  tools : Option.Rel List.Perm e.allowedToolIds e'.allowedToolIds

/-- The row of an engine does not depend on the order of its tools. -/
theorem engineRow_congr {e e' : RegisteredEngine} (h : e.SameTools e') : engineRow e' = engineRow e := by
  unfold engineRow
  rw [h.name]
  cases he : e.allowedToolIds with
  | none =>
      cases he' : e'.allowedToolIds with
      | none => rfl
      | some tools' =>
          have rel := h.tools
          rw [he, he'] at rel
          cases rel
  | some tools =>
      cases he' : e'.allowedToolIds with
      | none =>
          have rel := h.tools
          rw [he, he'] at rel
          cases rel
      | some tools' =>
          have rel := h.tools
          rw [he, he'] at rel
          cases rel with
          | some perm =>
              simp only [require, Option.elim_some, bind, Except.bind, sorted_congr perm]

/-- A row is made of the name and the tools of its engine. -/
theorem engineRow_ok {e : RegisteredEngine} {row : EngineRow} (h : engineRow e = .ok row) :
    ∃ declared, e.allowedToolIds = some declared ∧ row = (strip e.name, sorted declared) ∧
      row.2.Nodup ∧ ∀ tool ∈ row.2, tool ∈ supportedToolIds := by
  simp only [engineRow, Checked.bind_ok, Checked.exists_unit, Checked.refuse_ok, Checked.require_ok,
    Except.ok.injEq, Bool.or_eq_false_iff, Bool.not_eq_false', decide_eq_true_eq] at h
  obtain ⟨-, declared, given, ⟨distinct, supported⟩, rfl⟩ := h
  refine ⟨declared, given, rfl, distinct, fun tool ht => ?_⟩
  have known := List.any_eq_false.mp supported tool ht
  simpa using known

/-- What a snapshot is. -/
structure Snapshot (engines : List RegisteredEngine) (snapshot : List EngineRow) : Prop where
  names : (snapshot.map (·.1)).Nodup
  tools : ∀ row ∈ snapshot, row.2.Nodup
  supported : ∀ row ∈ snapshot, ∀ tool ∈ row.2, tool ∈ supportedToolIds
  declared : ∀ e ∈ engines, ∃ tools, e.allowedToolIds = some tools ∧
    (strip e.name, sorted tools) ∈ snapshot

theorem engineSnapshot_ok {engines : List RegisteredEngine} {snapshot : List EngineRow}
    (h : engineSnapshot engines = .ok snapshot) : Snapshot engines snapshot := by
  simp only [engineSnapshot, Checked.bind_ok, Checked.exists_unit, Checked.ensure_ok, Except.ok.injEq,
    decide_eq_true_eq] at h
  obtain ⟨rows, each, distinct, rfl⟩ := h
  refine ⟨((sortedBy_perm toLex rows).map _).nodup_iff.mpr distinct, fun row hr => ?_,
    fun row hr => ?_, fun e he => ?_⟩
  · obtain ⟨e, -, made⟩ := mapM_right each row (mem_sortedBy.mp hr)
    obtain ⟨-, -, -, tools, -⟩ := engineRow_ok made
    exact tools
  · obtain ⟨e, -, made⟩ := mapM_right each row (mem_sortedBy.mp hr)
    obtain ⟨-, -, -, -, supported⟩ := engineRow_ok made
    exact supported
  · obtain ⟨row, hr, made⟩ := mapM_left each e he
    obtain ⟨tools, given, rfl, -⟩ := engineRow_ok made
    exact ⟨tools, given, mem_sortedBy.mpr hr⟩

/-- Neither the order of the engines nor that of their tools is in the snapshot. -/
theorem engineSnapshot_perm {engines mid engines' : List RegisteredEngine} {snapshot : List EngineRow}
    (h : engineSnapshot engines = .ok snapshot) (perm : engines.Perm mid)
    (same : List.Forall₂ RegisteredEngine.SameTools mid engines') :
    engineSnapshot engines' = .ok snapshot := by
  simp only [engineSnapshot, Checked.bind_ok, Checked.exists_unit, Checked.ensure_ok, Except.ok.injEq,
    decide_eq_true_eq] at h ⊢
  obtain ⟨rows, each, distinct, rfl⟩ := h
  obtain ⟨rows', each', moved⟩ := mapM_perm each perm.symm
  refine ⟨rows', ?_, (moved.map _).nodup_iff.mpr distinct, sortedBy_congr toLex.injective moved⟩
  rw [mapM_congr (same.imp fun _ _ => engineRow_congr), each']

/-- The order of the selection is not in the selected engines. -/
theorem selectedEngines_perm {snapshot : List EngineRow} {raw raw' : List String} (h : raw.Perm raw') :
    selectedEngines snapshot raw' = selectedEngines snapshot raw := by
  have stripped : (raw.map strip).Perm (raw'.map strip) := h.map strip
  have blank : raw'.any isBlank = raw.any isBlank := h.symm.any_eq
  have empty : raw'.isEmpty = raw.isEmpty := h.symm.isEmpty_eq
  have distinct : decide (raw'.map strip).Nodup = decide (raw.map strip).Nodup :=
    decide_eq_decide.mpr stripped.nodup_iff.symm
  simp only [selectedEngines, blank, empty, distinct, sorted_congr stripped.symm]

/-! ### The owners of a tool -/

/-- The two loops over the snapshot append one entry for each tool of each engine. -/
theorem ownershipOf_eq (snapshot : List EngineRow) :
    ownershipOf snapshot =
      (snapshot.flatMap fun row => row.2.map fun tool => (tool, row.1)).foldl
        (fun ownership e => addTo e.1 e.2 ownership) [] := by
  rw [ownershipOf, List.foldl_flatMap]
  simp only [List.foldl_map]

/-- The owners of a tool are the engines that declare it, in the order of the snapshot. -/
theorem groupOf_ownershipOf {snapshot : List EngineRow} (tools : ∀ row ∈ snapshot, row.2.Nodup)
    (tool : String) :
    groupOf tool (ownershipOf snapshot) = (snapshot.filter (tool ∈ ·.2)).map (·.1) := by
  rw [ownershipOf_eq, groupOf_foldl]
  change (List.filter _ _).map _ = _
  induction snapshot with
  | nil => rfl
  | cons row snapshot ih =>
      have rest := ih fun row' hr => tools row' (List.mem_cons_of_mem row hr)
      have distinct := tools row List.mem_cons_self
      have here : ((row.2.map fun t => (t, row.1)).filter (·.1 = tool)).map (·.2) =
          if tool ∈ row.2 then [row.1] else [] := by
        rw [List.filter_map, List.map_map]
        change (row.2.filter (· = tool)).map (fun _ => row.1) = _
        rw [List.filter_eq, List.map_replicate]
        split_ifs with declares
        · rw [List.count_eq_one_of_mem distinct declares]
          rfl
        · rw [List.count_eq_zero.mpr declares]
          rfl
      rw [List.flatMap_cons, List.filter_append, List.map_append, rest, here, List.filter_cons]
      by_cases declares : tool ∈ row.2
      · rw [if_pos declares, if_pos (decide_eq_true declares)]
        rfl
      · rw [if_neg declares, if_neg (by rw [decide_eq_false declares]; nofun)]
        rfl

section Owners

variable {engines : List RegisteredEngine} {snapshot : List EngineRow} {selected : List String}
  {tool engineId : String}

theorem mem_selectedOwners (h : Snapshot engines snapshot) :
    engineId ∈ selectedOwners (ownershipOf snapshot) selected tool ↔
      engineId ∈ selected ∧ ∃ tools, (engineId, tools) ∈ snapshot ∧ tool ∈ tools := by
  rw [selectedOwners, groupOf_ownershipOf h.tools, List.mem_filter, decide_eq_true_eq, and_comm]
  simp only [List.mem_map, List.mem_filter, decide_eq_true_eq]
  constructor
  · rintro ⟨chosen, ⟨name, tools⟩, ⟨there, declares⟩, rfl⟩
    exact ⟨chosen, tools, there, declares⟩
  · rintro ⟨chosen, tools, there, declares⟩
    exact ⟨chosen, (engineId, tools), ⟨there, declares⟩, rfl⟩

theorem nodup_selectedOwners (h : Snapshot engines snapshot) :
    (selectedOwners (ownershipOf snapshot) selected tool).Nodup := by
  rw [selectedOwners, groupOf_ownershipOf h.tools]
  exact (h.names.sublist (List.filter_sublist.map _)).filter _

end Owners

/-! ### The loop over the fleet -/

/-- Every supported tool has its flag. -/
theorem toolEnabled_supported (config : ScanConfig) {tool : String} (h : tool ∈ supportedToolIds) :
    ∃ enabled, toolEnabled config tool = .ok enabled := by
  have flags : supportedToolIds.all (fun t => (toolEnableFields.find? (·.1 = t)).isSome) = true := by
    decide
  obtain ⟨⟨t, field⟩, found⟩ := Option.isSome_iff_exists.mp (List.all_eq_true.mp flags tool h)
  unfold toolEnabled
  rw [found]
  cases Json.get? "adapters" config with
  | none => exact ⟨_, rfl⟩
  | some v => cases v <;> exact ⟨_, rfl⟩

section Loop

variable {g : Gateway} {target : ValidatedTarget} {config : ScanConfig}
  {ownership : List (String × List String)} {selected : List String}

/-- The operations that a round appends. -/
def toolOperations (g : Gateway) (target : ValidatedTarget) (config : ScanConfig)
    (ownership : List (String × List String)) (selected : List String) (toolId : String) :
    List ScanManifestOperation :=
  match toolEnabled config toolId with
  | .error _ => []
  | .ok false =>
      (selectedOwners ownership selected toolId).map fun engineId =>
        disabledOperation g target engineId toolId
  | .ok true =>
      if toolId ∈ fleetOnlyTools then []
      else
        (selectedOwners ownership selected toolId).map fun engineId =>
          enabledOperation g target engineId toolId

variable (g target ownership selected) in
/-- A round appends one fleet entry, and the operations of its tool. -/
theorem fleetStep_ok {toolId : String} {enabled : Bool} (lists : ManifestLists)
    (h : toolEnabled config toolId = .ok enabled) :
    ∃ entry, entry.toolId = toolId ∧
      fleetStep g target config ownership selected lists toolId = .ok
        ⟨lists.operations ++ toolOperations g target config ownership selected toolId,
          lists.fleet ++ [entry]⟩ := by
  unfold fleetStep toolOperations
  rw [h]
  cases enabled with
  | false => exact ⟨_, rfl, rfl⟩
  | true =>
      simp only [bind, Except.bind, Bool.not_true, Bool.false_eq_true, if_false]
      by_cases fleetOnly : toolId ∈ fleetOnlyTools
      · rw [if_pos fleetOnly, if_pos fleetOnly, List.append_nil]
        exact ⟨_, rfl, rfl⟩
      rw [if_neg fleetOnly, if_neg fleetOnly]
      cases owned : selectedOwners ownership selected toolId with
      | nil =>
          cases getUnresolvedToolState toolId with
          | none => exact ⟨_, rfl, rfl⟩
          | some state =>
              rw [List.map_nil, List.append_nil]
              exact ⟨_, rfl, rfl⟩
      | cons owner owners => exact ⟨_, rfl, rfl⟩

variable (g target config ownership selected) in
/-- The loop appends one entry and the operations of each tool, in order. -/
theorem fleetLoop_from {tools : List String} (known : ∀ tool ∈ tools, tool ∈ supportedToolIds) :
    ∀ lists : ManifestLists, ∃ entries : List ScanFleetSnapshotEntry, entries.map (·.toolId) = tools ∧
      tools.foldlM (fleetStep g target config ownership selected) lists = .ok
        ⟨lists.operations ++ tools.flatMap (toolOperations g target config ownership selected),
          lists.fleet ++ entries⟩ := by
  induction tools with
  | nil => exact fun lists => ⟨[], rfl, by simp [pure, Except.pure]⟩
  | cons tool tools ih =>
      intro lists
      obtain ⟨enabled, flag⟩ := toolEnabled_supported config (known tool List.mem_cons_self)
      obtain ⟨entry, named, step⟩ := fleetStep_ok g target ownership selected lists flag
      obtain ⟨entries, names, rest⟩ := ih (fun t ht => known t (List.mem_cons_of_mem tool ht))
        ⟨lists.operations ++ toolOperations g target config ownership selected tool,
          lists.fleet ++ [entry]⟩
      refine ⟨entry :: entries, by rw [List.map_cons, named, names], ?_⟩
      rw [List.foldlM_cons, step]
      refine rest.trans ?_
      rw [List.flatMap_cons, List.append_assoc, List.append_assoc]
      rfl

end Loop

/-! ### The operations -/

/-- The operation id names its engine and its tool. -/
theorem toolOperationId_inj {engineId engineId' toolId toolId' : String}
    (h : toolOperationId engineId toolId = toolOperationId engineId' toolId')
    (plain : ':' ∉ toolId.toList) (plain' : ':' ∉ toolId'.toList) :
    engineId = engineId' ∧ toolId = toolId' := by
  have parts (engine tool : String) :
      (toolOperationId engine tool).toList = engine.toList ++ ':' :: tool.toList := by
    rw [toolOperationId, String.toList_append, String.toList_append, List.append_assoc]
    rfl
  have texts : (toolOperationId engineId toolId).toList = (toolOperationId engineId' toolId').toList :=
    congrArg String.toList h
  rw [parts, parts] at texts
  obtain ⟨engines, tools⟩ := cut_unique texts plain plain'
  exact ⟨String.toList_inj.mp engines, String.toList_inj.mp tools⟩

theorem supported_plain {tool : String} (h : tool ∈ supportedToolIds) : ':' ∉ tool.toList := by
  have plain : supportedToolIds.all (fun t => !t.toList.contains ':') = true := by decide
  simpa using List.all_eq_true.mp plain tool h

theorem supported_nodup : supportedToolIds.Nodup := by decide

/-- An operation of the tool, for the engine. -/
structure OperationOf (config : ScanConfig) (toolId engineId : String) (o : ScanManifestOperation) :
    Prop where
  ofTool : o.toolId = toolId
  ofEngine : o.engineId = engineId
  named : o.operationId = toolOperationId engineId toolId
  authorized : o.selectionState = .selected → toolEnabled config toolId = .ok true ∧
    ∃ policy, getOperationPolicy toolId (policyFamily engineId toolId) = some policy

section Operations

variable {g : Gateway} {target : ValidatedTarget} {config : ScanConfig}
  {ownership : List (String × List String)} {selected : List String} {toolId : String}

theorem disabledOperation_of (engineId : String) :
    OperationOf config toolId engineId (disabledOperation g target engineId toolId) := by
  unfold disabledOperation
  split
  · exact ⟨rfl, rfl, rfl, nofun⟩
  · exact ⟨rfl, rfl, rfl, nofun⟩

theorem enabledOperation_of (enabled : toolEnabled config toolId = .ok true) (engineId : String) :
    OperationOf config toolId engineId (enabledOperation g target engineId toolId) := by
  unfold enabledOperation
  split
  · exact ⟨rfl, rfl, rfl, nofun⟩
  · rename_i policy found
    exact ⟨rfl, rfl, rfl, fun _ => ⟨enabled, policy, found⟩⟩

variable (g target config ownership selected) in
/-- A round appends an operation for each owner, or none for a fleet-only tool. -/
theorem toolOperations_cases (h : toolId ∈ supportedToolIds) :
    (toolId ∈ fleetOnlyTools ∧ toolOperations g target config ownership selected toolId = []) ∨
      ∃ operation : String → ScanManifestOperation,
        (∀ engineId, OperationOf config toolId engineId (operation engineId)) ∧
        toolOperations g target config ownership selected toolId =
          (selectedOwners ownership selected toolId).map operation := by
  obtain ⟨enabled, flag⟩ := toolEnabled_supported config h
  unfold toolOperations
  rw [flag]
  cases enabled with
  | false => exact Or.inr ⟨_, disabledOperation_of, rfl⟩
  | true =>
      by_cases fleetOnly : toolId ∈ fleetOnlyTools
      · exact Or.inl ⟨fleetOnly, if_pos fleetOnly⟩
      · exact Or.inr ⟨_, enabledOperation_of flag, if_neg fleetOnly⟩

theorem mem_toolOperations (h : toolId ∈ supportedToolIds) {o : ScanManifestOperation}
    (ho : o ∈ toolOperations g target config ownership selected toolId) :
    OperationOf config toolId o.engineId o := by
  rcases toolOperations_cases g target config ownership selected h with
    ⟨-, none⟩ | ⟨operation, each, all⟩
  · rw [none] at ho
    cases ho
  · rw [all] at ho
    obtain ⟨engineId, -, rfl⟩ := List.mem_map.mp ho
    rw [(each engineId).ofEngine]
    exact each engineId

/-- The ids of one round are distinct where the owners are. -/
theorem toolOperations_nodup (h : toolId ∈ supportedToolIds)
    (owners : (selectedOwners ownership selected toolId).Nodup) :
    ((toolOperations g target config ownership selected toolId).map (·.operationId)).Nodup := by
  rcases toolOperations_cases g target config ownership selected h with
    ⟨-, none⟩ | ⟨operation, each, all⟩
  · rw [none]
    exact List.nodup_nil
  · rw [all, List.map_map]
    refine List.Nodup.map (fun e e' same => ?_) owners
    change (operation e).operationId = (operation e').operationId at same
    rw [(each e).named, (each e').named] at same
    exact (toolOperationId_inj same (supported_plain h) (supported_plain h)).1

/-- The ids of the whole loop. -/
theorem operations_nodup (owners : ∀ tool, (selectedOwners ownership selected tool).Nodup) :
    ((supportedToolIds.flatMap (toolOperations g target config ownership selected)).map
      (·.operationId)).Nodup := by
  rw [List.map_flatMap, List.nodup_flatMap]
  refine ⟨fun tool ht => toolOperations_nodup ht (owners tool), ?_⟩
  refine (List.Pairwise.and_mem.mp supported_nodup).imp ?_
  rintro tool tool' ⟨ht, ht', apart⟩ id here there
  obtain ⟨o, ho, rfl⟩ := List.mem_map.mp here
  obtain ⟨o', ho', same⟩ := List.mem_map.mp there
  rw [(mem_toolOperations ht ho).named, (mem_toolOperations ht' ho').named] at same
  exact apart (toolOperationId_inj same (supported_plain ht') (supported_plain ht)).2.symm

end Operations

/-! ### The manifest -/

section Manifest

variable {g : Gateway} {c : BuildScanManifestArgs} {m : ScanAuthorizationManifest}

/-- What the builder has made, and of what. -/
theorem buildScanManifest_ok (h : buildScanManifest g c = .ok m) :
    ∃ snapshot selected, engineSnapshot c.engines = .ok snapshot ∧
      selectedEngines snapshot c.selectedEngineIds = .ok selected ∧
      m.operations = supportedToolIds.flatMap
        (toolOperations g c.validatedTarget c.scanConfig (ownershipOf snapshot) selected) ∧
      m.engineOperations = engineOperations g c.validatedTarget selected ∧
      m.fleetSnapshot.map (·.toolId) = supportedToolIds := by
  simp only [buildScanManifest, Checked.bind_ok, Checked.exists_unit, Checked.refuse_ok,
    Except.ok.injEq] at h
  obtain ⟨-, snapshot, declared, selected, chosen, config, -, lists, looped, rfl⟩ := h
  obtain ⟨entries, names, loop⟩ := fleetLoop_from g c.validatedTarget c.scanConfig
    (ownershipOf snapshot) selected (fun _ known => known) ⟨[], []⟩
  obtain rfl := Except.ok.inj (looped.symm.trans loop)
  exact ⟨snapshot, selected, declared, chosen, rfl, rfl, names⟩

/-- What is selected are the stripped ids. -/
theorem mem_selectedEngines {snapshot : List EngineRow} {raw selected : List String}
    (h : selectedEngines snapshot raw = .ok selected) {name : String} :
    name ∈ selected ↔ ∃ id ∈ raw, strip id = name := by
  simp only [selectedEngines, Checked.bind_ok, Checked.exists_unit, Checked.refuse_ok,
    Checked.ensure_ok, Except.ok.injEq] at h
  obtain ⟨-, -, -, -, rfl⟩ := h
  rw [mem_sorted, List.mem_map]

/-- What a manifest has of the engines, the configuration and the selection. -/
structure ManifestComplete (c : BuildScanManifestArgs) (m : ScanAuthorizationManifest) : Prop where
  /-- Every supported tool is in the fleet snapshot exactly once. -/
  fleet : (m.fleetSnapshot.map (·.toolId)).Nodup ∧
    ∀ tool, tool ∈ m.fleetSnapshot.map (·.toolId) ↔ tool ∈ supportedToolIds
  /-- Operation ids are pairwise distinct. -/
  distinct : (m.operations.map (·.operationId) ++ m.engineOperations.map (·.operationId)).Nodup
  /-- A selected engine has exactly one operation for each tool it declares. -/
  complete : ∀ e ∈ c.engines, (∃ id ∈ c.selectedEngineIds, strip id = strip e.name) →
    ∀ tools, e.allowedToolIds = some tools → ∀ tool ∈ tools, tool ∉ fleetOnlyTools →
    (m.operations.filter fun o => o.engineId = strip e.name ∧ o.toolId = tool).length = 1
  /-- What is selected is enabled, and has a policy row. -/
  authorized : ∀ o ∈ m.operations, o.selectionState = .selected →
    toolEnabled c.scanConfig o.toolId = .ok true ∧
      ∃ policy, getOperationPolicy o.toolId (policyFamily o.engineId o.toolId) = some policy
  /-- An engine operation is never selected. -/
  native : ∀ o ∈ m.engineOperations, o.selectionState = .excluded

/-- The native assessment has no id of a tool operation. -/
theorem nativeAssessment_apart {o : ScanManifestOperation} {config : ScanConfig} {tool engineId : String}
    {target : ValidatedTarget} (known : tool ∈ supportedToolIds)
    (h : OperationOf config tool engineId o) : o.operationId ≠ (nativeAssessment g target).operationId := by
  intro same
  rw [h.named] at same
  have named : toolOperationId engineId tool = toolOperationId "engine:cicd_audit" "native-assessment" :=
    same
  have tools := (toolOperationId_inj named (supported_plain known) (by decide)).2
  rw [tools] at known
  revert known
  decide

/-- Elements with distinct ids, of which one is picked, with all that share its id. -/
theorem length_filter_one {α : Type} {l : List α} {a : α} {id : α → String} {p : α → Bool}
    (distinct : (l.map id).Nodup) (there : a ∈ l) (picked : p a = true)
    (same : ∀ b ∈ l, p b = true → id b = id a) : (l.filter p).length = 1 := by
  have all : (l.filter p).map id = List.replicate (l.filter p).length (id a) := by
    rw [List.eq_replicate_iff, List.length_map]
    refine ⟨rfl, fun b hb => ?_⟩
    obtain ⟨b', hb', rfl⟩ := List.mem_map.mp hb
    exact same b' (List.mem_filter.mp hb').1 (List.mem_filter.mp hb').2
  have filtered : ((l.filter p).map id).Nodup := distinct.sublist (List.filter_sublist.map id)
  rw [all] at filtered
  have atMost : (l.filter p).length ≤ 1 := List.nodup_replicate.mp filtered
  exact Nat.le_antisymm atMost (List.length_pos_of_mem (List.mem_filter.mpr ⟨there, picked⟩))

/-- **A manifest is complete.** -/
theorem manifest_complete (h : buildScanManifest g c = .ok m) : ManifestComplete c m := by
  obtain ⟨snapshot, selected, declared, chosen, operations, native, fleet⟩ := buildScanManifest_ok h
  have made := engineSnapshot_ok declared
  have ids : (m.operations.map (·.operationId)).Nodup := by
    rw [operations]
    exact operations_nodup fun tool => nodup_selectedOwners made
  have each : ∀ o ∈ m.operations, ∃ tool ∈ supportedToolIds,
      OperationOf c.scanConfig tool o.engineId o := by
    intro o ho
    rw [operations] at ho
    obtain ⟨tool, ht, there⟩ := List.mem_flatMap.mp ho
    exact ⟨tool, ht, mem_toolOperations ht there⟩
  refine ⟨?_, ?_, ?_, ?_, ?_⟩
  · rw [fleet]
    exact ⟨supported_nodup, fun _ => Iff.rfl⟩
  · rw [List.nodup_append]
    refine ⟨ids, ?_, fun id here id' there same => ?_⟩
    · rw [native, engineOperations]
      split_ifs
      · exact List.nodup_singleton _
      · exact List.nodup_nil
    · obtain ⟨o, ho, rfl⟩ := List.mem_map.mp here
      obtain ⟨o', ho', rfl⟩ := List.mem_map.mp there
      obtain ⟨tool, known, of⟩ := each o ho
      rw [native, engineOperations] at ho'
      split_ifs at ho'
      · obtain rfl := List.mem_singleton.mp ho'
        exact nativeAssessment_apart known of same
      · cases ho'
  · intro e he chosenId tools given tool ht authority
    obtain ⟨tools', given', row⟩ := made.declared e he
    obtain rfl : tools = tools' := Option.some.inj (given.symm.trans given')
    have declares : tool ∈ sorted tools := mem_sorted.mpr ht
    have known : tool ∈ supportedToolIds := made.supported _ row tool declares
    have owner : strip e.name ∈ selectedOwners (ownershipOf snapshot) selected tool :=
      (mem_selectedOwners made).mpr ⟨(mem_selectedEngines chosen).mpr chosenId, _, row, declares⟩
    rcases toolOperations_cases g c.validatedTarget c.scanConfig (ownershipOf snapshot) selected known
      with ⟨fleetOnly, -⟩ | ⟨operation, of, all⟩
    · exact absurd fleetOnly authority
    have there : operation (strip e.name) ∈ m.operations := by
      rw [operations, List.mem_flatMap]
      exact ⟨tool, known, all ▸ List.mem_map_of_mem owner⟩
    have own := of (strip e.name)
    refine length_filter_one ids there (decide_eq_true ⟨own.ofEngine, own.ofTool⟩) fun o ho picked => ?_
    obtain ⟨engine, ofTool⟩ := of_decide_eq_true picked
    obtain ⟨tool', -, made'⟩ := each o ho
    rw [own.named, made'.named, engine, ← made'.ofTool, ofTool]
  · intro o ho state
    obtain ⟨tool, -, of⟩ := each o ho
    rw [of.ofTool]
    exact of.authorized state
  · intro o ho
    rw [native, engineOperations] at ho
    split_ifs at ho
    · obtain rfl := List.mem_singleton.mp ho
      rfl
    · cases ho

/-- The same arguments, with the engines, the tools of each and the selection in any order. -/
structure BuildScanManifestArgs.Reordered (c c' : BuildScanManifestArgs) : Prop where
  engines : ∃ mid, c.engines.Perm mid ∧ List.Forall₂ RegisteredEngine.SameTools mid c'.engines
  selected : c.selectedEngineIds.Perm c'.selectedEngineIds
  others : { c' with engines := c.engines, selectedEngineIds := c.selectedEngineIds } = c

/-- The order of the arguments is not in the manifest. -/
theorem manifest_reordered {c' : BuildScanManifestArgs} {snapshot : List EngineRow}
    (valid : engineSnapshot c.engines = .ok snapshot) (h : c.Reordered c') :
    buildScanManifest g c' = buildScanManifest g c := by
  obtain ⟨⟨mid, perm, tools⟩, selected, others⟩ := h
  have snapshots : engineSnapshot c'.engines = engineSnapshot c.engines :=
    (engineSnapshot_perm valid perm tools).trans valid.symm
  have selections (snapshot : List EngineRow) :
      selectedEngines snapshot c'.selectedEngineIds = selectedEngines snapshot c.selectedEngineIds :=
    selectedEngines_perm selected
  rw [← others]
  simp only [buildScanManifest, snapshots, selections]

/-- **The manifest of a selection.**  Under valid declarations no order of the engines, of their tools
or of the selection is in it, and it is complete. -/
theorem manifest_canonical (g : Gateway) (c : BuildScanManifestArgs) {snapshot : List EngineRow}
    (valid : engineSnapshot c.engines = .ok snapshot) :
    (∀ c', c.Reordered c' → buildScanManifest g c' = buildScanManifest g c) ∧
      ∀ m, buildScanManifest g c = .ok m → ManifestComplete c m :=
  ⟨fun _ h => manifest_reordered valid h, fun _ h => manifest_complete h⟩

end Manifest

/-! ### A selection of one engine -/

namespace Sample

/-- A host without a resolver, whose digest is one text. -/
def offline : Gateway where
  lower := id
  urlparse := fun _ => .error "ValueError"
  resolveHostnameIps := fun _ => []
  resolveAtConstruction := fun _ => []
  isIpAddress := fun _ => false
  isIpAllowedForPolicy := fun _ _ => .error "ValueError"
  validatePathSandbox := fun _ => .ok ()
  abspath := id
  sha256 := fun _ => "digest"
  gatewaySeal := fun _ => "seal"
  appVersion := "15.0.0"

/-- The network engine is selected for a domain. -/
def networkScan : BuildScanManifestArgs where
  organizationId := "org-a"
  projectId := none
  assetId := "asset-a"
  assetOwner := none
  assetLifecycleStatus := none
  validatedTarget :=
    { targetId := "target-a"
      authorizationDecisionId := "authorization-a"
      integritySeal := "seal"
      organizationId := "org-a"
      projectId := none
      assetId := some "asset-a"
      workspaceId := none
      targetType := .domain
      rawValue := "example.org"
      canonicalValue := "example.org"
      authorizedScope := ["example.org"]
      resolvedAddresses := []
      selectedDestination := "example.org"
      port := none
      scheme := none
      authorizationContext := ⟨false, "gateway", false, false, false, none⟩
      policyVersion := "1" }
  profile := "full"
  selectedEngineIds := ["network"]
  engines := [⟨" network", some ["nmap"]⟩]
  requestedExpiry := 0
  scanConfig := []
  resourceBudget := []
  accountImpactBudget := []
  credentialScope := []
  emergencyStopReference := "stop-a"

end Sample

/-- The manifest of that selection. -/
theorem manifest_canonical_network :
    ∃ m, buildScanManifest Sample.offline Sample.networkScan = .ok m ∧
      ManifestComplete Sample.networkScan m ∧
      ∀ c', Sample.networkScan.Reordered c' → buildScanManifest Sample.offline c' = .ok m := by
  have valid : engineSnapshot Sample.networkScan.engines = .ok [("network", ["nmap"])] :=
    Checked.toOption_eq_some.mp (by decide +kernel)
  have returned : (buildScanManifest Sample.offline Sample.networkScan).isOk = true := by
    decide +kernel
  obtain ⟨reordered, complete⟩ := manifest_canonical Sample.offline Sample.networkScan valid
  cases built : buildScanManifest Sample.offline Sample.networkScan with
  | error e =>
      rw [built] at returned
      cases returned
  | ok m => exact ⟨m, rfl, complete m built, fun c' h => (reordered c' h).trans built⟩

end CyberAssess
