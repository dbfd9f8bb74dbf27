import Mathlib
import CyberAssess.Support.Table
import CyberAssess.Support.Transition
import CyberAssess.Support.Json
import CyberAssess.Support.HashChain
import CyberAssess.Execution.Rows

/-!
# Audit — the event log

`audit_events` of `core/db.py`, its one writer and its verifier.

* `insertAuditEvent` is `_insert_audit_event_conn`: the newest row is the predecessor, and the hash
  is of the columns joined with `|` and the predecessor's hash.
* `verifyAuditLogIntegrity` walks the log, or the rows of one organization.
* `AuditLog` are the tables that sequences of insertions leave.
* `AuditTable.Chained` is what the writer keeps, `verifyFrom_intact` what the verifier asks for.

`[about ours]`: an insertion is one transaction under the chain's lock.  `hashlib` and the patterns
of `re` are parameters.
-/

namespace CyberAssess

open Python (Json)
open Checked (ensure)
open HashChain (Link Intact tip)

/-! ### Hashes and redaction -/

/-- A lower-case hexadecimal digit. -/
def isHexChar (c : Char) : Bool := c.isDigit || ('a' ≤ c && c ≤ 'f')

/-- `hashlib.sha256(text.encode("utf-8")).hexdigest()`. -/
structure Sha256 where
  hexdigest : String → String
  isHex : ∀ s, hexdigest s ≠ "" ∧ (hexdigest s).toList.all isHexChar = true

/-- The patterns of `sanitize_sensitive_text` and `_SENSITIVE_DATA_KEY`. -/
structure Sanitizer where
  sanitizeSensitiveText : String → String
  sensitiveDataKey : String → Bool

mutual

/-- `sanitize_sensitive_data`, of a value without a key. -/
def sanitizeSensitiveData (z : Sanitizer) : Json → Json
  | .obj members => .obj (sanitizeMembers z members)
  | .arr items => .arr (sanitizeItems z items)
  | .str s => .str (z.sanitizeSensitiveText s)
  | v => v

/-- The items of a list. -/
def sanitizeItems (z : Sanitizer) : List Json → List Json
  | [] => []
  | j :: js => sanitizeSensitiveData z j :: sanitizeItems z js

/-- The members of a mapping: a sensitive key redacts its value. -/
def sanitizeMembers (z : Sanitizer) : List (String × Json) → List (String × Json)
  | [] => []
  | (k, j) :: ms =>
      (k, if !k.isEmpty && z.sensitiveDataKey k then .str "[REDACTED]"
        else sanitizeSensitiveData z j) :: sanitizeMembers z ms

end

/-! ### The table -/

/-- The columns of `audit_events`, the id apart. -/
structure AuditColumns where
  sequenceNumber : Option Int
  timestamp : String
  actor : String
  organizationId : String
  action : String
  objectType : String
  objectId : String
  result : String
  sourceIp : Option String
  correlationId : Option String
  detailsJson : String
  previousEventHash : Option String
  eventHash : Option String
deriving DecidableEq, Repr

abbrev AuditRow := Relational.Row String AuditColumns

/-- `audit_events`, under its primary key. -/
abbrev AuditTable := Relational.Table Unit String String AuditColumns fun _ id => id

/-- `ORDER BY sequence_number ASC NULLS LAST, timestamp ASC, id ASC`. -/
def verificationKey (r : AuditRow) : WithTop Int ×ₗ String ×ₗ String :=
  toLex (match r.data.sequenceNumber with
    | none => ⊤
    | some n => (n : WithTop Int), toLex (r.data.timestamp, r.fixed))

/-- `ORDER BY sequence_number DESC NULLS LAST, timestamp DESC, id DESC`, upside down. -/
def recencyKey (r : AuditRow) : WithBot Int ×ₗ String ×ₗ String :=
  toLex (match r.data.sequenceNumber with
    | none => ⊥
    | some n => (n : WithBot Int), toLex (r.data.timestamp, r.fixed))

/-- The rows as the verifier reads them. -/
def inVerificationOrder (rows : List AuditRow) : List AuditRow :=
  rows.mergeSort fun a b => decide (verificationKey a ≤ verificationKey b)

/-- The row the writer links to. -/
def AuditTable.lastRow (t : AuditTable) : Option AuditRow :=
  (t.rows.mergeSort fun a b => decide (recencyKey b ≤ recencyKey a)).head?

/-- The nine columns the payload starts with. -/
def auditBody (r : AuditRow) : String :=
  r.fixed ++ "|" ++ r.data.timestamp ++ "|" ++ r.data.actor ++ "|" ++ r.data.organizationId ++ "|" ++
    r.data.action ++ "|" ++ r.data.objectType ++ "|" ++ r.data.objectId ++ "|" ++ r.data.result ++
    "|" ++ r.data.detailsJson

/-- `canonical_payload`. -/
def canonicalPayload (body : String) (previous : Option String) : String :=
  body ++ "|" ++ previous.getD ""

/-! ### The writer -/

/-- `AuditEvent`; the action is its value. -/
structure AuditEvent where
  id : String
  timestamp : String
  actor : String
  organizationId : String
  action : String
  objectType : String
  objectId : String
  result : String
  sourceIp : Option String
  correlationId : Option String
  details : List (String × Json)

/-- The row of an event, after the row it follows. -/
def auditRow (h : Sha256) (z : Sanitizer) (correlationId : String) (e : AuditEvent)
    (last : Option AuditRow) : AuditRow :=
  let previous := (last.bind (·.data.eventHash)).filter (· ≠ "")
  let row : AuditRow :=
    { fixed := e.id
      data :=
        { sequenceNumber := some ((last.bind (·.data.sequenceNumber)).getD 0 + 1)
          timestamp := e.timestamp
          actor := e.actor
          organizationId := e.organizationId
          action := e.action
          objectType := e.objectType
          objectId := e.objectId
          result := e.result
          sourceIp := e.sourceIp
          correlationId := some (e.correlationId.getD correlationId)
          detailsJson := (sanitizeSensitiveData z (.obj e.details)).dumps
          previousEventHash := previous
          eventHash := none } }
  { row with data := { row.data with
      eventHash := some (h.hexdigest (canonicalPayload (auditBody row) previous)) } }

/-- `_insert_audit_event_conn`; `correlationId` is the one of the context, or a drawn one. -/
def insertAuditEvent (h : Sha256) (z : Sanitizer) (correlationId : String) (e : AuditEvent)
    (t : AuditTable) : Except DbError AuditTable :=
  match t.insert (auditRow h z correlationId e t.lastRow) with
  | none => .error (.integrityError "audit_events.id")
  | some u => .ok u

/-- The tables sequences of insertions leave, of any tenants; one that is refused changes
nothing. -/
def AuditLog (h : Sha256) (z : Sanitizer) (t : AuditTable) : Prop :=
  Transition.Reachable (· = Relational.Table.empty)
    (fun (t : AuditTable) (e : AuditEvent × String) u =>
      insertAuditEvent h z e.2 e.1 t = .ok u ∨
        ∃ x, insertAuditEvent h z e.2 e.1 t = .error x ∧ u = t) t

/-! ### The verifier -/

/-- The loop of `verify_audit_log_integrity`. -/
def verifyFrom (h : Sha256) : Option String → List AuditRow → Bool × Option String
  | _, [] => (true, none)
  | prev, r :: rs =>
      if r.data.previousEventHash ≠ prev then (false, some r.fixed)
      else if r.data.eventHash ≠ some (h.hexdigest (canonicalPayload (auditBody r) prev)) then
        (false, some r.fixed)
      else verifyFrom h r.data.eventHash rs

/-- `WHERE organization_id = ?`, where one is given. -/
def ofOrganization (organizationId : Option String) (r : AuditRow) : Bool :=
  match organizationId with
  | none => true
  | some o => o.isEmpty || r.data.organizationId = o

/-- `verify_audit_log_integrity`. -/
def verifyAuditLogIntegrity (h : Sha256) (organizationId : Option String) (t : AuditTable) :
    Bool × Option String :=
  verifyFrom h none (inVerificationOrder (t.rows.filter (ofOrganization organizationId)))

/-! ### The chain -/

/-- What the hash column is of. -/
def auditHash (h : Sha256) (body : String) (previous : Option String) : Option String :=
  some (h.hexdigest (canonicalPayload body previous))

/-- A row as a link of the chain. -/
def auditLink (r : AuditRow) : Link String (Option String) :=
  ⟨auditBody r, r.data.previousEventHash, r.data.eventHash⟩

/-- The loop returns `(True, None)` exactly on an intact chain. -/
theorem verifyFrom_intact {h : Sha256} {prev : Option String} {rs : List AuditRow} :
    verifyFrom h prev rs = (true, none) ↔ Intact (auditHash h) prev (rs.map auditLink) := by
  induction rs generalizing prev with
  | nil => exact ⟨fun _ => trivial, fun _ => rfl⟩
  | cons r rs ih =>
      rw [verifyFrom, List.map_cons]
      split
      · rename_i hp
        exact ⟨nofun, fun hi => absurd hi.1 hp⟩
      rename_i hp
      rw [not_not] at hp
      split
      · rename_i he
        exact ⟨nofun, fun hi => absurd hi.2.1 he⟩
      · rename_i he
        rw [not_not] at he
        rw [ih]
        exact ⟨fun hi => ⟨hp, he, hi⟩, fun hi => hi.2.2⟩

/-- And it never returns `(True, id)`. -/
theorem verifyFrom_fst {h : Sha256} {prev : Option String} {rs : List AuditRow} :
    (verifyFrom h prev rs).1 = true ↔ verifyFrom h prev rs = (true, none) := by
  induction rs generalizing prev with
  | nil => exact ⟨fun _ => rfl, fun _ => rfl⟩
  | cons r rs ih =>
      rw [verifyFrom]
      split
      · exact ⟨nofun, nofun⟩
      split
      · exact ⟨nofun, nofun⟩
      · exact ih

/-- What the writer keeps: the rows are numbered from one, and chained in that order. -/
structure AuditTable.Chained (h : Sha256) (t : AuditTable) : Prop where
  numbered : t.rows.map (·.data.sequenceNumber)
    = (List.range t.rows.length).map fun n : Nat => some ((n : Int) + 1)
  intact : Intact (auditHash h) none (t.rows.map auditLink)

variable {h : Sha256} {z : Sanitizer} {t u : AuditTable}

/-- A row that is numbered, and below another. -/
def Precedes (a b : AuditRow) : Prop :=
  ∃ m n : Int, a.data.sequenceNumber = some m ∧ b.data.sequenceNumber = some n ∧ m < n

theorem Precedes.verificationKey {a b : AuditRow} (hab : Precedes a b) :
    verificationKey a < verificationKey b := by
  obtain ⟨m, n, hm, hn, hlt⟩ := hab
  rw [CyberAssess.verificationKey, CyberAssess.verificationKey, hm, hn, Prod.Lex.toLex_lt_toLex]
  exact Or.inl (WithTop.coe_lt_coe.mpr hlt)

theorem Precedes.recencyKey {a b : AuditRow} (hab : Precedes a b) :
    recencyKey a < recencyKey b := by
  obtain ⟨m, n, hm, hn, hlt⟩ := hab
  rw [CyberAssess.recencyKey, CyberAssess.recencyKey, hm, hn, Prod.Lex.toLex_lt_toLex]
  exact Or.inl (WithBot.coe_lt_coe.mpr hlt)

theorem AuditTable.Chained.pairwise (ht : t.Chained h) : t.rows.Pairwise Precedes := by
  have numbers : (t.rows.map (·.data.sequenceNumber)).Pairwise
      fun x y => ∃ m n : Int, x = some m ∧ y = some n ∧ m < n := by
    rw [ht.numbered, List.pairwise_map]
    refine List.pairwise_lt_range.imp ?_
    intro i j hij
    exact ⟨_, _, rfl, rfl, by omega⟩
  rw [List.pairwise_map] at numbers
  exact numbers

/-- Rows that precede one another are read in their order. -/
theorem inVerificationOrder_of_pairwise {rows : List AuditRow} (hr : rows.Pairwise Precedes) :
    inVerificationOrder rows = rows := by
  refine List.mergeSort_of_pairwise (hr.imp ?_)
  intro a b hab
  exact decide_eq_true hab.verificationKey.le

/-- A chained table is read in the order it was written in, whatever rows are left out. -/
theorem AuditTable.Chained.inOrder (ht : t.Chained h) (p : AuditRow → Bool) :
    inVerificationOrder (t.rows.filter p) = t.rows.filter p :=
  inVerificationOrder_of_pairwise (ht.pairwise.sublist List.filter_sublist)

/-- And its newest row is the last one. -/
theorem AuditTable.Chained.lastRow (ht : t.Chained h) : t.lastRow = t.rows.getLast? := by
  have pairwise := ht.pairwise
  rw [AuditTable.lastRow]
  generalize t.rows = rows at pairwise
  rcases List.eq_nil_or_concat rows with rfl | ⟨ls, l, rfl⟩
  · rw [List.mergeSort_nil]
    rfl
  rw [List.concat_eq_append] at pairwise ⊢
  rw [List.getLast?_concat]
  have perm := List.mergeSort_perm (ls ++ [l])
    fun a b => decide (recencyKey b ≤ recencyKey a)
  have sorted : ((ls ++ [l]).mergeSort fun a b => decide (recencyKey b ≤ recencyKey a)).Pairwise
      fun a b => decide (recencyKey b ≤ recencyKey a) = true := by
    refine List.pairwise_mergeSort ?_ ?_ _
    · intro a b c hab hbc
      simp only [decide_eq_true_eq] at hab hbc ⊢
      exact hbc.trans hab
    · intro a b
      simp only [Bool.or_eq_true, decide_eq_true_eq]
      exact le_total _ _
  generalize ((ls ++ [l]).mergeSort fun a b => decide (recencyKey b ≤ recencyKey a)) = sortedRows
    at perm sorted
  cases sortedRows with
  | nil => exact absurd perm.length_eq (by simp)
  | cons k ks =>
      have hk : k ∈ ls ++ [l] := perm.mem_iff.mp (List.mem_cons_self ..)
      have hl : l ∈ k :: ks := perm.mem_iff.mpr (by simp)
      rcases List.mem_append.mp hk with hk | hk
      · -- The newest would precede the last.
        have older : recencyKey k < recencyKey l :=
          ((List.pairwise_append.mp pairwise).2.2 k hk l (List.mem_singleton_self l)).recencyKey
        rcases List.mem_cons.mp hl with rfl | hl
        · exact absurd older (lt_irrefl _)
        · have newer := (List.pairwise_cons.mp sorted).1 l hl
          exact absurd older (not_lt.mpr (of_decide_eq_true newer))
      · rw [List.mem_singleton] at hk
        rw [hk]
        rfl

/-- What the last row's hash column holds is the tip of the chain. -/
theorem tip_auditLink {rows : List AuditRow} :
    tip none (rows.map auditLink) = rows.getLast?.bind (·.data.eventHash) := by
  rcases List.eq_nil_or_concat rows with rfl | ⟨ls, l, rfl⟩
  · rfl
  · rw [List.concat_eq_append, List.map_append, List.map_singleton, HashChain.tip_append,
      List.getLast?_concat]
    rfl

/-- A hash column of a chained table is a hash, and so not empty. -/
theorem AuditTable.Chained.tip_nonempty (ht : t.Chained h) :
    (tip none (t.rows.map auditLink)).filter (· ≠ "") = tip none (t.rows.map auditLink) := by
  have intact := ht.intact
  generalize t.rows = rows at intact
  rcases List.eq_nil_or_concat rows with rfl | ⟨ls, l, rfl⟩
  · rfl
  · rw [List.concat_eq_append, List.map_append, List.map_singleton] at intact ⊢
    rw [HashChain.tip_append, intact.last.2.2, auditHash, Option.filter_some,
      if_pos (decide_eq_true (h.isHex _).1)]

/-- **The writer keeps the chain.** -/
theorem AuditTable.Chained.insert {correlationId : String} {e : AuditEvent} (ht : t.Chained h)
    (hi : insertAuditEvent h z correlationId e t = .ok u) : u.Chained h := by
  unfold insertAuditEvent at hi
  split at hi
  · cases hi
  rename_i v hv
  cases hi
  have rows := Relational.Table.rows_insert hv
  have last := ht.lastRow
  have tipped := ht.tip_nonempty
  rw [tip_auditLink] at tipped
  constructor
  · have next : ((t.rows.getLast?.bind (·.data.sequenceNumber)).getD 0 + 1 : Int)
        = (t.rows.length : Int) + 1 := by
      have numbers := congrArg List.getLast? ht.numbered
      rw [List.getLast?_map] at numbers
      rcases hn : t.rows.length with _ | n
      · rw [List.length_eq_zero_iff.mp hn]
        rfl
      · rw [hn, List.range_succ, List.map_append, List.map_singleton,
          List.getLast?_concat] at numbers
        cases hl : t.rows.getLast? with
        | none =>
            rw [List.getLast?_eq_none_iff] at hl
            rw [hl] at hn
            cases hn
        | some l =>
            rw [hl] at numbers
            have : l.data.sequenceNumber = some ((n : Int) + 1) := Option.some.inj numbers
            rw [Option.bind_some, this]
            push_cast
            rfl
    rw [rows, List.map_append, List.length_append, List.length_singleton, List.range_succ,
      List.map_append, ht.numbered, List.map_singleton, List.map_singleton]
    congr 1
    rw [last]
    simp only [auditRow]
    rw [next]
  · rw [rows, List.map_append, List.map_singleton]
    have link : auditLink (auditRow h z correlationId e t.lastRow)
        = ⟨auditBody (auditRow h z correlationId e t.lastRow), tip none (t.rows.map auditLink),
          auditHash h (auditBody (auditRow h z correlationId e t.lastRow))
            (tip none (t.rows.map auditLink))⟩ := by
      rw [tip_auditLink, ← tipped, ← last]
      rfl
    rw [link]
    exact ht.intact.append _

/-- **Every log is chained.** -/
theorem AuditLog.chained (ht : AuditLog h z t) : t.Chained h := by
  refine Transition.Reachable.invariant (I := AuditTable.Chained h) ?_ ?_ ht
  · rintro _ rfl
    exact ⟨rfl, trivial⟩
  · rintro t e u hi (hs | ⟨x, -, rfl⟩)
    · exact hi.insert hs
    · exact hi

/-- The table after an insertion, as it was where the insertion is refused. -/
def AuditTable.after (h : Sha256) (z : Sanitizer) (t : AuditTable) (e : AuditEvent × String) :
    AuditTable :=
  match insertAuditEvent h z e.2 e.1 t with
  | .ok u => u
  | .error _ => t

/-- The log of some events. -/
def auditLogOf (h : Sha256) (z : Sanitizer) (es : List (AuditEvent × String)) : AuditTable :=
  es.foldl (AuditTable.after h z) .empty

theorem AuditLog.after (ht : AuditLog h z t) (e : AuditEvent × String) :
    AuditLog h z (t.after h z e) := by
  refine Transition.Reachable.more (e := e) ht ?_
  unfold AuditTable.after
  cases hi : insertAuditEvent h z e.2 e.1 t with
  | ok u => exact Or.inl rfl
  | error x => exact Or.inr ⟨x, rfl, rfl⟩

/-- The log of some events is one. -/
theorem auditLog_of (es : List (AuditEvent × String)) : AuditLog h z (auditLogOf h z es) := by
  have extends_log : ∀ (es : List (AuditEvent × String)) (t : AuditTable), AuditLog h z t →
      AuditLog h z (es.foldl (AuditTable.after h z) t) := by
    intro es
    induction es with
    | nil => exact fun _ ht => ht
    | cons e es ih => exact fun t ht => ih _ (ht.after e)
  exact extends_log es _ (Transition.Reachable.refl rfl)

end CyberAssess
