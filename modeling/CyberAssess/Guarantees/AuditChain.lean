import CyberAssess.Audit.Log
import CyberAssess.Support.Text

/-!
# Guarantees — the audit chain

What `verify_audit_log_integrity` accepts: of a log as it was written, and of a log that was
changed without new hashes.

* `beginning_intact`, `beginning_of_intact`: the rows it accepts are, in the columns the hash
  covers, the beginning of the log.
* `audit_log_verifies`: the whole log verifies, and the rows of an organization exactly where no
  other organization comes before one of them.
* `tampering_detected`: a changed table is refused exactly where it does not begin the log.
* `tenant_log_refused`, `source_address_unprotected`: what it refuses and what it misses.
-/

namespace CyberAssess

open HashChain (Link Intact CollisionFree)
open Python (cut_unique)

/-! ### The payload -/

/-- No hash, or one of `hexdigest`. -/
def HashColumn (h : Sha256) (p : Option String) : Prop :=
  p = none ∨ ∃ s, p = some (h.hexdigest s)

variable {h : Sha256} {z : Sanitizer} {t t' : AuditTable}

/-- The text a hash column adds has no separator. -/
theorem HashColumn.noBar {p : Option String} (hp : HashColumn h p) : '|' ∉ (p.getD "").toList := by
  rcases hp with rfl | ⟨s, rfl⟩
  · exact List.not_mem_nil
  · intro hm
    have := List.all_eq_true.mp (h.isHex s).2 _ hm
    revert this
    decide

/-- The payload tells the body and the hash before it apart. -/
theorem canonicalPayload_inj {b b' : String} {p p' : Option String} (hp : HashColumn h p)
    (hp' : HashColumn h p') (he : canonicalPayload b p = canonicalPayload b' p') :
    b = b' ∧ p = p' := by
  have texts : b.toList ++ '|' :: (p.getD "").toList = b'.toList ++ '|' :: (p'.getD "").toList := by
    have := congrArg String.toList he
    simpa [canonicalPayload] using this
  obtain ⟨hb, ht⟩ := cut_unique texts hp.noBar hp'.noBar
  refine ⟨String.toList_inj.mp hb, ?_⟩
  have same : p.getD "" = p'.getD "" := String.toList_inj.mp ht
  rcases hp with rfl | ⟨s, rfl⟩ <;> rcases hp' with rfl | ⟨s', rfl⟩
  · rfl
  · exact absurd same.symm (h.isHex s').1
  · exact absurd same (h.isHex s).1
  · exact congrArg some same

/-! ### Two chains of rows -/

/-- The payload the row's own hash should be of. -/
def rowPayload (r : AuditRow) : String := canonicalPayload (auditBody r) r.data.previousEventHash

/-- The hash tells the payloads of the rows apart. -/
def Collisionless (h : Sha256) (rs ss : List AuditRow) : Prop :=
  ∀ r ∈ rs, ∀ s ∈ ss, h.hexdigest (rowPayload r) = h.hexdigest (rowPayload s) →
    rowPayload r = rowPayload s

/-- In an intact chain the hash column before a row is none or a hash. -/
theorem previous_hashColumn {ls : List (Link String (Option String))} {p : Option String}
    (hi : Intact (auditHash h) p ls) (hp : HashColumn h p) :
    ∀ l ∈ ls, HashColumn h l.previous := by
  induction ls generalizing p with
  | nil => exact fun _ hl => absurd hl List.not_mem_nil
  | cons k ls ih =>
      obtain ⟨hk, hd, hi⟩ := hi
      have next : HashColumn h k.digest := Or.inr ⟨_, hd⟩
      intro l hl
      rcases List.mem_cons.mp hl with rfl | hl
      · rw [hk]
        exact hp
      · exact ih hi next l hl

/-- The chain starts at no hash. -/
theorem auditHash_ne_none (b : String) (p : Option String) : auditHash h b p ≠ none := nofun

/-- Rows without collisions are links without. -/
theorem Collisionless.links {rs ss : List AuditRow} (free : Collisionless h rs ss)
    (hr : Intact (auditHash h) none (rs.map auditLink))
    (hs : Intact (auditHash h) none (ss.map auditLink)) :
    CollisionFree (auditHash h) (rs.map auditLink) (ss.map auditLink) := by
  intro l hl m hm he
  have left := previous_hashColumn hr (Or.inl rfl) l hl
  have right := previous_hashColumn hs (Or.inl rfl) m hm
  obtain ⟨r, hr, rfl⟩ := List.mem_map.mp hl
  obtain ⟨s, hs, rfl⟩ := List.mem_map.mp hm
  exact canonicalPayload_inj left right (free r hr s hs (Option.some.inj he))

/-- The beginning of a log is intact. -/
theorem beginning_intact {rs ss : List AuditRow}
    (hs : Intact (auditHash h) none (ss.map auditLink))
    (hp : rs.map auditLink <+: ss.map auditLink) :
    Intact (auditHash h) none (rs.map auditLink) := hs.of_isPrefix hp

/-- **An intact chain whose last hash is of the log begins the log.** -/
theorem beginning_of_intact {rs ss : List AuditRow} (free : Collisionless h rs ss)
    (hs : Intact (auditHash h) none (ss.map auditLink))
    (hr : Intact (auditHash h) none (rs.map auditLink))
    (hl : ∀ r ∈ rs.getLast?, ∃ s ∈ ss, s.data.eventHash = r.data.eventHash) :
    rs.map auditLink <+: ss.map auditLink := by
  refine hs.isPrefix auditHash_ne_none hr (free.links hr hs) ?_
  intro m hm
  rw [List.getLast?_map] at hm
  obtain ⟨r, hr, rfl⟩ := Option.map_eq_some_iff.mp hm
  obtain ⟨s, hs, he⟩ := hl r hr
  exact ⟨auditLink s, List.mem_map_of_mem hs, he⟩

/-! ### The log as it was written -/

/-- Lists with one image under a map that tells their members apart. -/
theorem map_inj_of_mem {α β : Type} {f : α → β} :
    ∀ {as bs : List α}, (∀ a ∈ as, ∀ b ∈ bs, f a = f b → a = b) → as.map f = bs.map f → as = bs
  | [], [], _, _ => rfl
  | [], _ :: _, _, h => nomatch h
  | _ :: _, [], _, h => nomatch h
  | a :: as, b :: bs, inj, h => by
      obtain ⟨hab, h⟩ := List.cons.inj h
      rw [inj a (List.mem_cons_self ..) b (List.mem_cons_self ..) hab,
        map_inj_of_mem (fun a ha b hb => inj a (List.mem_cons_of_mem _ ha) b
          (List.mem_cons_of_mem _ hb)) h]

/-- Rows of a log whose links begin its links begin the log. -/
theorem prefix_of_links {rs : List AuditRow} (ht : t.Chained h)
    (free : Collisionless h t.rows t.rows) (hr : ∀ r ∈ rs, r ∈ t.rows)
    (hp : rs.map auditLink <+: t.rows.map auditLink) : rs <+: t.rows := by
  have apart : (t.rows.map auditLink).Nodup := by
    have := ht.intact.nodup auditHash_ne_none (free.links ht.intact ht.intact)
    exact List.Nodup.of_map _ this
  obtain ⟨ls, hls⟩ := hp
  have cut : rs.map auditLink = (t.rows.take rs.length).map auditLink := by
    rw [List.map_take, ← hls, ← List.length_map auditLink, List.take_left]
  have same : rs = t.rows.take rs.length := by
    refine map_inj_of_mem (fun r hrs s hs => ?_) cut
    exact List.inj_on_of_nodup_map apart (hr r hrs) (List.mem_of_mem_take hs)
  rw [same]
  exact List.take_prefix _ _

/-- **What the verifier says of a log**: the whole verifies, and the rows of an organization exactly
where they are the first rows of the log. -/
theorem audit_log_verifies (ht : AuditLog h z t) (free : Collisionless h t.rows t.rows) :
    verifyAuditLogIntegrity h none t = (true, none) ∧
      ∀ o, verifyAuditLogIntegrity h (some o) t = (true, none) ↔
        t.rows.filter (ofOrganization (some o)) <+: t.rows := by
  have chained := ht.chained
  have accepted : ∀ o, verifyAuditLogIntegrity h o t = (true, none) ↔
      Intact (auditHash h) none ((t.rows.filter (ofOrganization o)).map auditLink) := by
    intro o
    rw [verifyAuditLogIntegrity, chained.inOrder, verifyFrom_intact]
  constructor
  · rw [accepted]
    have all : t.rows.filter (ofOrganization none) = t.rows :=
      List.filter_eq_self.mpr fun _ _ => rfl
    rw [all]
    exact chained.intact
  · intro o
    rw [accepted]
    have within : ∀ r ∈ t.rows.filter (ofOrganization (some o)), r ∈ t.rows :=
      fun r hr => (List.mem_filter.mp hr).1
    constructor
    · intro hi
      refine prefix_of_links chained free within (beginning_of_intact ?_ chained.intact hi ?_)
      · exact fun r hr s hs => free r (within r hr) s hs
      · intro r hr
        exact ⟨r, within r (List.mem_of_getLast? hr), rfl⟩
    · intro hp
      exact beginning_intact chained.intact (hp.map _)

/-! ### A log that was changed -/

/-- No hash was computed anew: a hash that fits its row is one the log holds. -/
def HashesKept (h : Sha256) (t t' : AuditTable) : Prop :=
  ∀ r ∈ t', r.data.eventHash = auditHash h (auditBody r) r.data.previousEventHash →
    ∃ s ∈ t, s.data.eventHash = r.data.eventHash

/-- In the columns the hash covers, and the two hash columns, the table is the beginning of the
log. -/
def BeginsLog (t t' : AuditTable) : Prop :=
  (inVerificationOrder t'.rows).map auditLink <+: t.rows.map auditLink

theorem mem_inVerificationOrder {rows : List AuditRow} {r : AuditRow} :
    r ∈ inVerificationOrder rows ↔ r ∈ rows := List.mem_mergeSort

/-- **What the verifier detects.**  A table that was changed without a new hash is refused exactly
where it does not begin the log. -/
theorem tampering_detected (ht : AuditLog h z t) (free : Collisionless h t'.rows t.rows)
    (kept : HashesKept h t t') :
    (verifyAuditLogIntegrity h none t').1 = false ↔ ¬ BeginsLog t t' := by
  have all : t'.rows.filter (ofOrganization none) = t'.rows :=
    List.filter_eq_self.mpr fun _ _ => rfl
  have accepted : (verifyAuditLogIntegrity h none t').1 = true ↔
      Intact (auditHash h) none ((inVerificationOrder t'.rows).map auditLink) := by
    rw [verifyAuditLogIntegrity, all, verifyFrom_fst, verifyFrom_intact]
  rw [← Bool.not_eq_true, accepted, not_iff_not]
  constructor
  · intro hi
    refine beginning_of_intact ?_ ht.chained.intact hi ?_
    · exact fun r hr s hs => free r (mem_inVerificationOrder.mp hr) s hs
    · intro r hr
      obtain ⟨rs, hrs⟩ := List.getLast?_eq_some_iff.mp hr
      have hm : r ∈ inVerificationOrder t'.rows := List.mem_of_getLast? hr
      rw [hrs, List.map_append, List.map_singleton] at hi
      exact kept r (mem_inVerificationOrder.mp hm) hi.last.2.2
  · exact beginning_intact ht.chained.intact

/-! ### Two tenants -/

namespace Sample

/-- The payloads of the two events below. -/
def payloadA : String :=
  "aud-1|2026-01-01T00:00:00+00:00|system|org-a|LOGIN_SUCCESS|user|user-a|SUCCESS|\x7b\x7d|"

def hashA : String := "256e36cffbb4652ceb4f6e6d78180770aea88383da4c7a3330ae883763c126f2"

def payloadB : String :=
  "aud-2|2026-01-01T00:00:01+00:00|system|org-b|LOGIN_SUCCESS|user|user-b|SUCCESS|\x7b\x7d|" ++ hashA

def hashB : String := "91fde12e4c3585113813e642938ef35cc8a2b60b6fef3a37f709a6faf82a3705"

/-- SHA-256 on the two payloads. -/
def sha256 : Sha256 where
  hexdigest s := if s = payloadA then hashA else if s = payloadB then hashB else "0"
  isHex s := by
    split
    · decide
    split
    · decide
    · decide

/-- Details without credentials. -/
def sanitizer : Sanitizer := ⟨id, fun _ => false⟩

/-- A login in each of two organizations. -/
def loginA : AuditEvent where
  id := "aud-1"
  timestamp := "2026-01-01T00:00:00+00:00"
  actor := "system"
  organizationId := "org-a"
  action := "LOGIN_SUCCESS"
  objectType := "user"
  objectId := "user-a"
  result := "SUCCESS"
  sourceIp := some "192.0.2.1"
  correlationId := some "corr-a"
  details := []

def loginB : AuditEvent :=
  { loginA with
    id := "aud-2"
    timestamp := "2026-01-01T00:00:01+00:00"
    organizationId := "org-b"
    objectId := "user-b" }

/-- The log of both. -/
def auditTable : AuditTable :=
  auditLogOf sha256 sanitizer [(loginA, "corr-a"), (loginB, "corr-b")]

/-- The first event's source address is replaced, and nothing else. -/
def altered : AuditTable :=
  auditTable.update (fun r => r.fixed = "aud-1") fun r =>
    { r.data with sourceIp := some "198.51.100.7" }

/-- The first event is removed. -/
def truncated : AuditTable := auditTable.erase () "aud-1"

end Sample

/-- The log of two tenants verifies, and the second tenant's rows do not. -/
theorem audit_log_verifies_tenants :
    verifyAuditLogIntegrity Sample.sha256 none Sample.auditTable = (true, none) ∧
      ¬ verifyAuditLogIntegrity Sample.sha256 (some "org-b") Sample.auditTable = (true, none) := by
  have free : Collisionless Sample.sha256 Sample.auditTable.rows Sample.auditTable.rows := by
    unfold Collisionless
    decide +kernel
  obtain ⟨whole, tenant⟩ := audit_log_verifies (auditLog_of _ : AuditLog Sample.sha256
    Sample.sanitizer Sample.auditTable) free
  refine ⟨whole, fun hv => ?_⟩
  have first := (tenant "org-b").mp hv
  revert first
  decide +kernel

/-- An organization that is not the log's first has no log of its own that verifies. -/
theorem tenant_log_refused :
    ¬ ∀ (h : Sha256) (z : Sanitizer) (t : AuditTable), AuditLog h z t →
      verifyAuditLogIntegrity h none t = (true, none) ∧
        ∀ o, verifyAuditLogIntegrity h (some o) t = (true, none) := by
  intro claim
  have refused : verifyAuditLogIntegrity Sample.sha256 (some "org-b") Sample.auditTable
      = (false, some "aud-2") := by
    decide +kernel
  have := (claim Sample.sha256 Sample.sanitizer Sample.auditTable (auditLog_of _)).2 "org-b"
  rw [refused] at this
  cases this

/-- A log without its first event is refused. -/
theorem tampering_detected_truncated :
    (verifyAuditLogIntegrity Sample.sha256 none Sample.truncated).1 = false := by
  have free : Collisionless Sample.sha256 Sample.truncated.rows Sample.auditTable.rows := by
    unfold Collisionless
    decide +kernel
  have kept : HashesKept Sample.sha256 Sample.auditTable Sample.truncated := by
    change ∀ r ∈ Sample.truncated.rows, _ → ∃ s ∈ Sample.auditTable.rows, _
    decide +kernel
  refine (tampering_detected (auditLog_of _ : AuditLog Sample.sha256 Sample.sanitizer
    Sample.auditTable) free kept).mpr ?_
  change ¬ (inVerificationOrder Sample.truncated.rows).map auditLink <+:
    Sample.auditTable.rows.map auditLink
  decide +kernel

/-- A source address is replaced, and the log verifies. -/
theorem source_address_unprotected :
    ¬ ∀ (h : Sha256) (z : Sanitizer) (t t' : AuditTable), AuditLog h z t →
      Collisionless h t'.rows t.rows → HashesKept h t t' → t' ≠ t →
        (verifyAuditLogIntegrity h none t').1 = false := by
  intro claim
  have free : Collisionless Sample.sha256 Sample.altered.rows Sample.auditTable.rows := by
    unfold Collisionless
    decide +kernel
  have kept : HashesKept Sample.sha256 Sample.auditTable Sample.altered := by
    change ∀ r ∈ Sample.altered.rows, _ → ∃ s ∈ Sample.auditTable.rows, _
    decide +kernel
  have different : Sample.altered ≠ Sample.auditTable := by
    intro he
    have rows : Sample.altered.rows ≠ Sample.auditTable.rows := by decide +kernel
    exact rows (by rw [he])
  have numbered : Sample.altered.rows.map (·.data.sequenceNumber) = [some 1, some 2] := by
    decide +kernel
  have ordered : Sample.altered.rows.Pairwise Precedes := by
    have : (Sample.altered.rows.map (·.data.sequenceNumber)).Pairwise
        fun x y => ∃ m n : Int, x = some m ∧ y = some n ∧ m < n := by
      rw [numbered]
      simp
    rw [List.pairwise_map] at this
    exact this
  have verified : (verifyFrom Sample.sha256 none Sample.altered.rows).1 = true := by
    decide +kernel
  have refused := claim Sample.sha256 Sample.sanitizer Sample.auditTable Sample.altered
    (auditLog_of _) free kept different
  have all : Sample.altered.rows.filter (ofOrganization none) = Sample.altered.rows :=
    List.filter_eq_self.mpr fun _ _ => rfl
  rw [verifyAuditLogIntegrity, all, inVerificationOrder_of_pairwise ordered, verified] at refused
  cases refused

end CyberAssess
