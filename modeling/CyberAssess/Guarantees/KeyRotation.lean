import CyberAssess.Access.Tokens
import CyberAssess.Support.Transition

/-!
# Guarantees — rotating the signing keys

What rotations and retirements of signing keys do to the tokens already issued, over every run of
rotations, retirements and issues.

* `TokenHistory` is the ring with the tokens it issued: those whose key id has not been retired
  since, and those whose key id has.
* `TokensAnswered` says which of them are to be accepted, `Careful` which steps keep it so.
* `KeysKept` is the invariant: the ring has the key of every token that is still to be accepted
  under the token's id, and of no other token.
-/

namespace CyberAssess

open Python
open Transition
open Checked (ensure_ok bind_ok exists_unit)

/-! ### The system -/

/-- A token with the key and the key id it was signed under. -/
structure IssuedToken where
  payload : TokenPayload
  key : String
  kid : String
deriving DecidableEq, Repr

/-- The text of a token. -/
def IssuedToken.text (jwt : PyJwt) (t : IssuedToken) : String := jwt.encode t.payload t.key t.kid

/-- The token `create_access_token` signs. -/
def SigningKeys.issued (mode : OperatingMode) (keys : SigningKeys) (i : TokenIssue) : IssuedToken :=
  ⟨i.payload mode, keys.signingKey, keys.activeKeyId⟩

theorem text_issued (jwt : PyJwt) (mode : OperatingMode) (keys : SigningKeys) (i : TokenIssue) :
    (keys.issued mode i).text jwt = createAccessToken jwt mode keys i := rfl

/-- The ring, and the tokens it issued by whether their key id has been retired since. -/
structure TokenHistory where
  keys : SigningKeys
  live : List IssuedToken
  retired : List IssuedToken

/-- What is done with the ring. -/
inductive KeyEvent where
  | rotate (newKid newSecret : String)
  | retire (oldKid : String)
  | issue (i : TokenIssue)

/-- The ring at import, with no token issued. -/
def TokenHistory.start (activeKeyId jwtSecret : String) : TokenHistory :=
  ⟨.initial activeKeyId jwtSecret, [], []⟩

/-- One successful call. -/
inductive TokenHistory.Step (lower : String → String) (mode : OperatingMode) :
    TokenHistory → KeyEvent → TokenHistory → Prop where
  | rotate {s : TokenHistory} {newKid newSecret : String} {keys : SigningKeys}
      (h : rotateSigningKey lower s.keys newKid newSecret = .ok keys) :
      Step lower mode s (.rotate newKid newSecret) { s with keys := keys }
  | retire (s : TokenHistory) (oldKid : String) :
      Step lower mode s (.retire oldKid)
        { keys := retireSigningKey s.keys oldKid
          live := s.live.filter (·.kid ≠ oldKid)
          retired := s.live.filter (·.kid = oldKid) ++ s.retired }
  | issue (s : TokenHistory) (i : TokenIssue) :
      Step lower mode s (.issue i) { s with live := s.keys.issued mode i :: s.live }

/-! ### What is promised of the tokens -/

/-- The token can be presented: it is in its time, and no registry revokes it. -/
structure IssuedToken.Presentable (jwt : PyJwt) (t : IssuedToken) (revoked : Revocations)
    (now : Instant) : Prop where
  issued : seconds t.payload.iat ≤ now
  unexpired : (now : Int) < t.payload.exp * 1000000
  registry : t.text jwt ∉ revoked.registry
  jti : ∀ j ∈ t.payload.jti, j ∉ revoked.jtis

/-- Tokens issued now and tokens issued earlier under a key id that has not been retired since are
accepted, and tokens under a key id that has been retired since are not. -/
structure TokensAnswered (jwt : PyJwt) (mode : OperatingMode) (s : TokenHistory) : Prop where
  fresh : ∀ (i : TokenIssue) (revoked : Revocations) (now : Instant),
    (s.keys.issued mode i).Presentable jwt revoked now →
      decodeAccessToken jwt s.keys revoked now (createAccessToken jwt mode s.keys i) =
        .ok (i.payload mode)
  kept : ∀ t ∈ s.live, ∀ (revoked : Revocations) (now : Instant), t.Presentable jwt revoked now →
    decodeAccessToken jwt s.keys revoked now (t.text jwt) = .ok t.payload
  dropped : ∀ t ∈ s.retired, ∀ (revoked : Revocations) (now : Instant),
    ∃ e, decodeAccessToken jwt s.keys revoked now (t.text jwt) = .error e

/-- A rotation leaves an active key in the ring, gives no key id in use another secret and gives
no retired key id a secret its tokens were signed with; a retirement is not of the active key. -/
def Careful (s : TokenHistory) : KeyEvent → Prop
  | .rotate newKid newSecret =>
      (strip newKid = newKid ∨ (s.keys.store.lookup (strip newKid)).isSome) ∧
        (∀ t ∈ s.live, t.kid = newKid → t.key = strip newSecret) ∧
        ∀ t ∈ s.retired, t.kid = newKid → t.key ≠ strip newSecret
  | .retire oldKid => oldKid ≠ s.keys.activeKeyId
  | .issue _ => True

instance (s : TokenHistory) : ∀ e, Decidable (Careful s e)
  | .rotate _ _ => inferInstanceAs (Decidable (_ ∧ _ ∧ _))
  | .retire _ => inferInstanceAs (Decidable (_ ≠ _))
  | .issue _ => inferInstanceAs (Decidable True)

/-! ### The invariant -/

/-- The claims every token is issued with. -/
structure TokenPayload.Standard (p : TokenPayload) : Prop where
  iss : p.iss = jwtIssuer
  aud : p.aud = jwtAudience
  nbf : p.nbf = p.iat

theorem standard_payload (mode : OperatingMode) (i : TokenIssue) : (i.payload mode).Standard :=
  ⟨rfl, rfl, rfl⟩

/-- A presentable token with the claims of an issue has valid claims. -/
theorem validateClaims_of_presentable {jwt : PyJwt} {t : IssuedToken} {revoked : Revocations}
    {now : Instant} (std : t.payload.Standard) (h : t.Presentable jwt revoked now) :
    t.payload.validateClaims now = .ok t.payload := by
  simp only [TokenPayload.validateClaims, bind_ok, exists_unit, ensure_ok, decide_eq_true_eq]
  exact ⟨h.issued, std.nbf ▸ h.issued, h.unexpired, std.iss, std.aud, rfl⟩

/-- The ring has the active key and the key of every token still to be accepted, under ids that are
not blank, and under the id of a token that is not to be accepted it does not have its key. -/
structure KeysKept (s : TokenHistory) : Prop where
  activeNamed : isBlank s.keys.activeKeyId = false
  active : (s.keys.store.lookup s.keys.activeKeyId).isSome
  named : ∀ t ∈ s.live, isBlank t.kid = false
  standard : ∀ t ∈ s.live, t.payload.Standard
  live : ∀ t ∈ s.live, s.keys.store.lookup t.kid = some t.key
  retired : ∀ t ∈ s.retired, s.keys.store.lookup t.kid ≠ some t.key

variable {jwt : PyJwt} {mode : OperatingMode} {lower : String → String} {s s' : TokenHistory}
  {e : KeyEvent}

/-- The key a token is signed with is the one the ring has under the active id. -/
theorem KeysKept.signingKey (h : KeysKept s) :
    s.keys.store.lookup s.keys.activeKeyId = some s.keys.signingKey := by
  obtain ⟨key, hk⟩ := Option.isSome_iff_exists.mp h.active
  rw [SigningKeys.signingKey, hk]
  rfl

/-- A presentable token is accepted where the ring has its key under its id. -/
theorem accepted_of_held {keys : SigningKeys} {t : IssuedToken} {revoked : Revocations}
    {now : Instant} (named : isBlank t.kid = false) (held : keys.store.lookup t.kid = some t.key)
    (std : t.payload.Standard) (shown : t.Presentable jwt revoked now) :
    decodeAccessToken jwt keys revoked now (t.text jwt) = .ok t.payload :=
  decode_issued.mpr ⟨shown.registry, named, held, validateClaims_of_presentable std shown,
    fun j hj _ => shown.jti j hj⟩

/-- The invariant answers the tokens. -/
theorem KeysKept.answered (h : KeysKept s) : TokensAnswered jwt mode s where
  fresh i _ _ shown :=
    accepted_of_held (t := s.keys.issued mode i) h.activeNamed h.signingKey
      (standard_payload mode i) shown
  kept t ht _ _ shown :=
    accepted_of_held (h.named t ht) (h.live t ht) (h.standard t ht) shown
  dropped t ht revoked now := by
    cases hr : decodeAccessToken jwt s.keys revoked now (t.text jwt) with
    | error e => exact ⟨e, rfl⟩
    | ok p => exact absurd (decode_issued.mp hr).2.2.1 (h.retired t ht)

theorem KeysKept.start {kid secret : String} (h : isBlank kid = false) :
    KeysKept (.start kid secret) where
  activeNamed := h
  active := by
    simp only [TokenHistory.start, SigningKeys.initial, AList.lookup_isSome]
    exact AList.mem_keys.mpr (List.mem_singleton_self _)
  named := by simp [TokenHistory.start]
  standard := by simp [TokenHistory.start]
  live := by simp [TokenHistory.start]
  retired := by simp [TokenHistory.start]

/-- A successful rotation. -/
theorem rotateSigningKey_ok {keys keys' : SigningKeys} {newKid newSecret : String} :
    rotateSigningKey lower keys newKid newSecret = .ok keys' →
      isBlank newKid = false ∧ keys' = { keys with
        store := keys.store.insert newKid (strip newSecret)
        activeKeyId := strip newKid } := by
  intro h
  simp only [rotateSigningKey, bind_ok, exists_unit, ensure_ok, Bool.and_eq_true,
    Bool.not_eq_true', decide_eq_true_eq] at h
  obtain ⟨⟨named, -⟩, -, done⟩ := h
  cases done
  exact ⟨named, rfl⟩

/-- A careful rotation keeps the invariant. -/
theorem KeysKept.rotate {newKid newSecret : String} {keys : SigningKeys} (h : KeysKept s)
    (careful : Careful s (.rotate newKid newSecret))
    (hr : rotateSigningKey lower s.keys newKid newSecret = .ok keys) :
    KeysKept { s with keys := keys } := by
  obtain ⟨named, rfl⟩ := rotateSigningKey_ok hr
  obtain ⟨active, unchanged, unused⟩ := careful
  refine ⟨by simpa [isBlank_strip] using named, ?_, h.named, h.standard, ?_, ?_⟩
  · simp only [lookup_insert]
    split
    · rfl
    · exact active.resolve_left ‹_›
  · intro t ht
    simp only [lookup_insert]
    split
    · rw [unchanged t ht ‹_›]
    · exact h.live t ht
  · intro t ht
    simp only [lookup_insert]
    split
    · exact fun same => unused t ht ‹_› (Option.some.inj same).symm
    · exact h.retired t ht

/-- A ring with a key beside the active one has two. -/
theorem one_lt_keys {store : AList fun _ : String => String} {a b : String} (ne : a ≠ b)
    (ha : (store.lookup a).isSome) (hb : (store.lookup b).isSome) : 1 < store.keys.length := by
  have ma : a ∈ store.keys := AList.lookup_isSome.mp ha
  have mb : b ∈ store.keys := AList.lookup_isSome.mp hb
  match hk : store.keys with
  | [] => simp [hk] at ma
  | [c] =>
      rw [hk, List.mem_singleton] at ma mb
      exact absurd (ma.trans mb.symm) ne
  | _ :: _ :: _ => simp

/-- After a retirement of another key than the active one, the ring has nothing under the retired
id, and what it had under the others. -/
theorem lookup_retired {keys : SigningKeys} {oldKid : String} (other : oldKid ≠ keys.activeKeyId)
    (active : (keys.store.lookup keys.activeKeyId).isSome) (kid : String) :
    (retireSigningKey keys oldKid).store.lookup kid =
      if kid = oldKid then none else keys.store.lookup kid := by
  by_cases there : (keys.store.lookup oldKid).isSome = true
  · have two := one_lt_keys other there active
    simp only [retireSigningKey, there, two, decide_true, Bool.and_self, if_true, lookup_erase]
  · have gone : keys.store.lookup oldKid = none := by simpa using there
    simp only [retireSigningKey, there, Bool.false_and, Bool.false_eq_true, if_false]
    split
    · rw [‹kid = oldKid›, gone]
    · rfl

/-- A retirement of another key than the active one keeps the invariant. -/
theorem KeysKept.retire {oldKid : String} (h : KeysKept s)
    (other : oldKid ≠ s.keys.activeKeyId) :
    KeysKept
      { keys := retireSigningKey s.keys oldKid
        live := s.live.filter (·.kid ≠ oldKid)
        retired := s.live.filter (·.kid = oldKid) ++ s.retired } := by
  have after := lookup_retired other h.active
  have sameId : (retireSigningKey s.keys oldKid).activeKeyId = s.keys.activeKeyId := by
    unfold retireSigningKey
    split <;> rfl
  refine ⟨by rw [sameId]; exact h.activeNamed, ?_, ?_, ?_, ?_, ?_⟩
  · rw [sameId, after, if_neg (Ne.symm other)]
    exact h.active
  · intro t ht
    exact h.named t (List.mem_filter.mp ht).1
  · intro t ht
    exact h.standard t (List.mem_filter.mp ht).1
  · intro t ht
    obtain ⟨mem, ne⟩ := List.mem_filter.mp ht
    rw [after, if_neg (by simpa using ne)]
    exact h.live t mem
  · intro t ht
    rw [after]
    rcases List.mem_append.mp ht with ht | ht
    · obtain ⟨-, eq⟩ := List.mem_filter.mp ht
      rw [if_pos (by simpa using eq)]
      simp
    · by_cases same : t.kid = oldKid
      · simp [same]
      · rw [if_neg same]
        exact h.retired t ht

/-- An issue keeps the invariant. -/
theorem KeysKept.issue (h : KeysKept s) (i : TokenIssue) :
    KeysKept { s with live := s.keys.issued mode i :: s.live } where
  activeNamed := h.activeNamed
  active := h.active
  named := List.forall_mem_cons.mpr ⟨h.activeNamed, h.named⟩
  standard := List.forall_mem_cons.mpr ⟨standard_payload mode i, h.standard⟩
  live := List.forall_mem_cons.mpr ⟨h.signingKey, h.live⟩
  retired := h.retired

/-- A careful step keeps the invariant. -/
theorem KeysKept.step (h : KeysKept s) (careful : Careful s e)
    (hs : TokenHistory.Step lower mode s e s') : KeysKept s' := by
  cases hs with
  | rotate hr => exact h.rotate careful hr
  | retire oldKid => exact h.retire careful
  | issue i => exact h.issue i

/-! ### The result -/

/-- Over every run of careful calls from a ring whose one key id is not blank, tokens are answered
as promised. -/
theorem rotation_answers_tokens {kid secret : String} (named : isBlank kid = false)
    (run : Reachable (· = TokenHistory.start kid secret)
      (Guarded Careful (TokenHistory.Step lower mode)) s) :
    TokensAnswered jwt mode s := by
  have kept : KeysKept s := run.invariant (by rintro s rfl; exact .start named)
    fun s e s' h hs => h.step hs.1 hs.2
  exact kept.answered

/-! ### A run -/

namespace Sample

/-- The secret the ring starts with. -/
def firstSecret : String := "2b7e151628aed2a6abf7158809cf4f3c"

/-- The secret rotated in. -/
def secondSecret : String := "603deb1015ca71be2b73aef0857d7781"

/-- A viewer logs in. -/
def login : TokenIssue where
  user := ⟨"usr-1", "viewer", "viewer@local", .viewer, .tenantPrincipal, "org-1", [], true⟩
  expiresIn := 86400
  scopes := none
  now := 1700000000000000
  jti := "jti-1"

/-- The ring at import. -/
def firstKeys : SigningKeys := .initial "k-primary" firstSecret

/-- The ring after the rotation. -/
def rotatedKeys : SigningKeys :=
  ⟨firstSecret, "k-2", firstKeys.store.insert "k-2" secondSecret⟩

/-- A login under each key, and the first key retired. -/
def rotatedHistory : TokenHistory where
  keys := retireSigningKey rotatedKeys "k-primary"
  live := [rotatedKeys.issued .production login]
  retired := [firstKeys.issued .production login]

/-- The run that leads there. -/
theorem rotatedHistory_reachable :
    Reachable (· = TokenHistory.start "k-primary" firstSecret)
      (Guarded Careful (TokenHistory.Step id .production)) rotatedHistory :=
  ⟨_, [.issue login, .rotate "k-2" secondSecret, .issue login, .retire "k-primary"], rfl,
    .more ⟨trivial, .issue _ login⟩
      (.more ⟨by decide +kernel,
          .rotate (rfl : rotateSigningKey id firstKeys "k-2" secondSecret = .ok rotatedKeys)⟩
        (.more ⟨trivial, .issue _ login⟩
          (.more ⟨by decide, .retire _ "k-primary"⟩ (.refl _))))⟩

end Sample

/-- In that run the second login's token is accepted and the first login's is not. -/
theorem rotation_answers_tokens_rotated :
    TokensAnswered PyJwt.ideal .production Sample.rotatedHistory :=
  rotation_answers_tokens (by decide) Sample.rotatedHistory_reachable

/-- A key id with a space around it: the ring keeps the key under the id as given and signs under
the stripped id, so that no token issued after the rotation is accepted. -/
theorem padded_key_id_unanswered :
    ¬ ∀ (jwt : PyJwt) (lower : String → String) (mode : OperatingMode) (kid secret : String)
      (s : TokenHistory), isBlank kid = false →
      Reachable (· = TokenHistory.start kid secret) (TokenHistory.Step lower mode) s →
      TokensAnswered jwt mode s := by
  intro claimed
  let keys : SigningKeys :=
    ⟨Sample.firstSecret, "k-2", Sample.firstKeys.store.insert " k-2" Sample.secondSecret⟩
  have rotated : rotateSigningKey id Sample.firstKeys " k-2" Sample.secondSecret = .ok keys := rfl
  have run : Reachable (· = TokenHistory.start "k-primary" Sample.firstSecret)
      (TokenHistory.Step id .production) ⟨keys, [], []⟩ :=
    ⟨_, [.rotate " k-2" Sample.secondSecret], rfl, .single (.rotate rotated)⟩
  have answered := claimed PyJwt.ideal id .production "k-primary" Sample.firstSecret _ (by decide) run
  have shown : (keys.issued .production Sample.login).Presentable PyJwt.ideal ⟨[], []⟩
      1700000000000000 := ⟨by decide, by decide, by simp, by simp⟩
  have accepted := answered.fresh Sample.login ⟨[], []⟩ 1700000000000000 shown
  have held : keys.store.lookup "k-2" = some keys.signingKey := (decode_issued.mp accepted).2.2.1
  exact absurd held (by decide)

end CyberAssess
