import CyberAssess.Support.JsonAssociations
import CyberAssess.Database.Run

/-!
# Guarantees — secret material in a durable manifest

What `_assert_manifest_secret_safe` says of the JSON form of the manifest it accepts.

* `walk_iff`: the walk finds no member of an object, at any depth, with material under a secret name,
  and looks at nothing else.
* `ScanAuthorizationManifest.PlainPairs`: no pair-encoded field has such material, and no list of two.
* `manifest_secret_safe`: an accepted manifest has no such member; it associates no secret name with
  material exactly where its pairs are plain.
-/

namespace CyberAssess

open Python
open Checked (bind_ok)

variable {g : Gateway}

variable (g) in
/-- The association stores no material under a secret name. -/
def Plain (name : String) (value : Json) : Prop := isSecretMember g name value = false

/-! ### The walk -/

mutual

theorem walk_iff (path : String) : ∀ j : Json,
    walkSecretSafe g path j = .ok () ↔ j.Free .member (Plain g)
  | .null => iff_of_true rfl free_null
  | .bool b => iff_of_true rfl (free_bool b)
  | .num text => iff_of_true rfl (free_num text)
  | .str s => iff_of_true rfl (free_str s)
  | .arr items => by rw [walkSecretSafe, walkItems_iff path 0 items, free_arr_member]
  | .obj members => by rw [walkSecretSafe, walkMembers_iff path members, free_obj_member]

theorem walkMembers_iff (path : String) : ∀ members : List (String × Json),
    walkMembers g path members = .ok () ↔
      ∀ m ∈ members, Plain g m.1 m.2 ∧ m.2.Free .member (Plain g)
  | [] => iff_of_true rfl nofun
  | (key, value) :: members => by
      rw [walkMembers, List.forall_mem_cons, ← walkMembers_iff path members,
        ← walk_iff (path ++ "." ++ key) value]
      cases secret : isSecretMember g key value with
      | true => simp [Plain, secret]
      | false =>
          cases inner : walkSecretSafe g (path ++ "." ++ key) value with
          | error e => simp
          | ok u => simp [Plain, secret]

theorem walkItems_iff (path : String) : ∀ (index : Nat) (items : List Json),
    walkItems g path index items = .ok () ↔ ∀ j ∈ items, j.Free .member (Plain g)
  | _, [] => iff_of_true rfl nofun
  | index, item :: items => by
      rw [walkItems, List.forall_mem_cons, ← walkItems_iff path (index + 1) items,
        ← walk_iff (path ++ "[" ++ toString index ++ "]") item]
      cases inner : walkSecretSafe g (path ++ "[" ++ toString index ++ "]") item with
      | error e => simp
      | ok u => simp

end

/-! ### The pairs -/

/-- A mapping that is written as a list of pairs. -/
def PlainField (P : String → Json → Prop) (pairs : List (String × Json)) : Prop :=
  ∀ p ∈ pairs, P p.1 p.2 ∧ p.2.Free .pair P

/-- A list of two texts, taken as a name and its value. -/
def PlainTexts (P : String → Json → Prop) (texts : List String) : Prop :=
  ∀ name text, texts = [name, text] → P name (.str text)

variable {P : String → Json → Prop}

theorem free_pairsJson {pairs : List (String × Json)} :
    (pairsJson pairs).Free .pair P ↔ PlainField P pairs := by
  have one (p : String × Json) :
      (Json.arr [.str p.1, p.2]).Free .pair P ↔ P p.1 p.2 ∧ p.2.Free .pair P := by
    rw [free_arr_pair, List.forall_mem_cons, List.forall_mem_singleton]
    constructor
    · exact fun ⟨whole, _, value⟩ => ⟨whole _ _ rfl, value⟩
    · rintro ⟨whole, value⟩
      refine ⟨?_, free_str _, value⟩
      rintro name v same
      cases same
      exact whole
  rw [pairsJson, free_map (fun _ _ text => by cases text)]
  exact forall_congr' fun p =>
    imp_congr (List.mergeSort_perm pairs _).mem_iff (one p)

/-- The pair-encoded fields of an operation are plain. -/
structure ScanManifestEngineOperation.PlainPairs (P : String → Json → Prop)
    (o : ScanManifestEngineOperation) : Prop where
  operationOptions : PlainField P o.operationOptions
  resourceBudget : PlainField P (budgetJson o.resourceBudget)
  accountImpactBudget : PlainField P (budgetJson o.accountImpactBudget)
  credentialScope : PlainField P (scopeJson o.credentialScope)

/-- The pair-encoded fields of a manifest and of its operations are plain, and so are its lists of two
texts. -/
structure ScanAuthorizationManifest.PlainPairs (P : String → Json → Prop)
    (m : ScanAuthorizationManifest) : Prop where
  targetResolvedAddresses : PlainTexts P m.targetResolvedAddresses
  targetAuthorizedScope : PlainTexts P m.targetAuthorizedScope
  targetAuthorizationContext : PlainField P m.targetAuthorizationContext.pairs
  selectedEngineIds : PlainTexts P m.selectedEngineIds
  operations : ∀ o ∈ m.operations, o.PlainPairs P
  engineOperations : ∀ o ∈ m.engineOperations, o.PlainPairs P
  resourceBudget : PlainField P (budgetJson m.resourceBudget)
  accountImpactBudget : PlainField P (budgetJson m.accountImpactBudget)
  credentialScope : PlainField P (scopeJson m.credentialScope)
  effectiveScanConfig : PlainField P m.effectiveScanConfig

theorem free_operation {o : ScanManifestEngineOperation} :
    (∀ m ∈ o.members, m.2.Free .pair P) ↔ o.PlainPairs P := by
  simp only [ScanManifestEngineOperation.members, List.forall_mem_cons, List.not_mem_nil,
    false_implies, implies_true, free_str, free_optStr, free_pairsJson, true_and, and_true]
  exact ⟨fun ⟨options, resource, account, credential⟩ => ⟨options, resource, account, credential⟩,
    fun h => ⟨h.operationOptions, h.resourceBudget, h.accountImpactBudget, h.credentialScope⟩⟩

theorem free_manifest {m : ScanAuthorizationManifest} : m.json.Free .pair P ↔ m.PlainPairs P := by
  have port : (m.targetPort.elim Json.null Json.int).Free .pair P := by
    cases m.targetPort with
    | none => exact free_null
    | some n => exact free_num _
  have operations : (Json.arr (m.operations.map (·.json))).Free .pair P ↔
      ∀ o ∈ m.operations, o.PlainPairs P := by
    rw [free_map (fun _ _ text => by cases text)]
    refine forall₂_congr fun o _ => ?_
    rw [ScanManifestOperation.json, free_obj_pair, List.forall_mem_append, free_operation]
    refine and_iff_left ?_
    simp only [List.forall_mem_cons, List.not_mem_nil, false_implies, implies_true, free_str,
      free_null, and_true]
  have engineOperations : (Json.arr (m.engineOperations.map (.obj ·.members))).Free .pair P ↔
      ∀ o ∈ m.engineOperations, o.PlainPairs P := by
    rw [free_map (fun _ _ text => by cases text)]
    exact forall₂_congr fun o _ => free_obj_pair.trans free_operation
  have fleet : (Json.arr (m.fleetSnapshot.map (·.json))).Free .pair P := by
    rw [free_map (fun _ _ text => by cases text)]
    intro entry _
    rw [ScanFleetSnapshotEntry.json, free_obj_pair]
    simp only [List.forall_mem_cons, List.not_mem_nil, false_implies, implies_true, free_str,
      free_optStr, and_true]
  rw [ScanAuthorizationManifest.json, free_obj_pair, List.forall_mem_append]
  simp only [ScanAuthorizationManifest.material, List.forall_mem_cons, List.not_mem_nil,
    false_implies, implies_true, free_str, free_optStr, free_texts, free_pairsJson, port, operations,
    engineOperations, fleet, true_and, and_true]
  constructor
  · rintro ⟨addresses, scope, context, engines, operations, engineOperations, resource, account,
      credential, config⟩
    exact ⟨addresses, scope, context, engines, operations, engineOperations, resource, account,
      credential, config⟩
  · exact fun h => ⟨h.targetResolvedAddresses, h.targetAuthorizedScope, h.targetAuthorizationContext,
      h.selectedEngineIds, h.operations, h.engineOperations, h.resourceBudget, h.accountImpactBudget,
      h.credentialScope, h.effectiveScanConfig⟩

/-- A pair-encoded mapping associates its names with their values. -/
theorem associates_pairsJson {pairs : List (String × Json)} {name : String} {value : Json}
    (h : (name, value) ∈ pairs) : (pairsJson pairs).Associates .pair name value := by
  have sorted : (name, value) ∈ sortKeys pairs := (List.mergeSort_perm pairs _).mem_iff.mpr h
  exact .inItem (List.mem_map_of_mem sorted) (.pair name value)

/-- The JSON form associates an engine operation's options with their values. -/
theorem associates_option {m : ScanAuthorizationManifest} {o : ScanManifestEngineOperation}
    {name : String} {value : Json} (ho : o ∈ m.engineOperations)
    (hp : (name, value) ∈ o.operationOptions) : m.json.Associates .pair name value := by
  have field : ("operation_options", pairsJson o.operationOptions) ∈ o.members := by
    simp [ScanManifestEngineOperation.members]
  have operation : Json.obj o.members ∈ m.engineOperations.map (.obj ·.members) :=
    List.mem_map_of_mem ho
  have list : ("engine_operations", Json.arr (m.engineOperations.map (.obj ·.members))) ∈
      m.material ++ [("manifest_hash", .str m.manifestHash)] := by
    simp [ScanAuthorizationManifest.material]
  exact .inMember list (.inItem operation (.inMember field (associates_pairsJson hp)))

/-- An accepted manifest has no member with material under a secret name; it associates no secret name
with material exactly where its pairs are plain. -/
theorem manifest_secret_safe {m : ScanAuthorizationManifest}
    (accepted : assertManifestSecretSafe g m = .ok ()) :
    m.json.Free .member (Plain g) ∧
      ((∀ f name value, m.json.Associates f name value → isSecretMember g name value = false) ↔
        m.PlainPairs (Plain g)) := by
  rw [assertManifestSecretSafe, bind_ok] at accepted
  obtain ⟨-, -, walked⟩ := accepted
  have members := (walk_iff "manifest" m.json).mp walked
  refine ⟨members, ?_⟩
  rw [← free_manifest]
  constructor
  · exact fun h name value a => h .pair name value a
  · intro pairs f name value a
    cases f with
    | member => exact members name value a
    | pair => exact pairs name value a

/-- A manifest of one engine operation with these options. -/
def Sample.withOptions (options : List (String × Json)) : ScanAuthorizationManifest where
  manifestHash := ""
  organizationId := "org-a"
  projectId := none
  assetId := "asset-a"
  assetOwner := none
  assetLifecycleStatus := none
  targetId := "target-a"
  authorizationDecisionId := "decision-a"
  targetIntegritySeal := "seal-a"
  targetPolicyVersion := "15.0.0"
  targetType := .ip
  targetRawValue := "8.8.8.8"
  targetCanonicalValue := "8.8.8.8"
  targetSelectedDestination := "8.8.8.8"
  targetResolvedAddresses := ["8.8.8.8"]
  targetAuthorizedScope := []
  targetPort := none
  targetScheme := none
  targetAuthorizationContext := ⟨false, "assert_safe_target", false, false, false, none⟩
  profile := "CUSTOM"
  selectedEngineIds := ["network"]
  engineRevision := "15.0.0"
  policyRevision := "revision-a"
  operations := []
  engineOperations := [
    { operationId := "network:native"
      engineId := "network"
      operationFamily := "network_assessment"
      classification := "ADMINISTRATOR_APPROVAL_REQUIRED"
      operationOptions := options
      operationPolicyRevision := "revision-a"
      targetId := "target-a"
      authorizationDecisionId := "decision-a"
      resourceBudget := []
      accountImpactBudget := []
      credentialScope := []
      capabilityState := "AVAILABLE"
      selectionState := .selected
      exclusionReason := none }]
  fleetSnapshot := []
  requestedExpiry := 0
  resourceBudget := []
  accountImpactBudget := []
  credentialScope := []
  emergencyStopReference := "stop-a"
  effectiveScanConfig := []

namespace Sample

/-- Accepted with no options, and with a token among them. -/
theorem withOptions_accepted :
    assertManifestSecretSafe gateway (withOptions []) = .ok () ∧
      assertManifestSecretSafe gateway (withOptions [("api_token", .str "abc")]) = .ok () := by
  constructor
  · simp only [assertManifestSecretSafe, withOptions, ScanAuthorizationManifest.json,
      ScanAuthorizationManifest.material, pairsJson, AuthorizationContext.pairs_sorted]
    decide +kernel
  · simp only [assertManifestSecretSafe, withOptions, ScanAuthorizationManifest.json,
      ScanAuthorizationManifest.material, pairsJson, AuthorizationContext.pairs_sorted]
    decide +kernel

end Sample

open Sample in
/-- A token among the options of an operation is accepted, and is associated with its name. -/
theorem manifest_secret_unsafe :
    assertManifestSecretSafe gateway (withOptions [("api_token", .str "abc")]) = .ok () ∧
      (withOptions [("api_token", .str "abc")]).json.Associates .pair "api_token" (.str "abc") ∧
      isSecretMember gateway "api_token" (.str "abc") = true := by
  exact ⟨withOptions_accepted.2, associates_option List.mem_cons_self List.mem_cons_self,
    by decide +kernel⟩

open Sample in
/-- Without options it holds of the manifest. -/
theorem manifest_secret_safe_withOptions :
    (withOptions []).json.Free .member (Plain gateway) ∧
      ((∀ f name value, (withOptions []).json.Associates f name value →
          isSecretMember gateway name value = false) ↔
        (withOptions []).PlainPairs (Plain gateway)) :=
  manifest_secret_safe withOptions_accepted.1

end CyberAssess
