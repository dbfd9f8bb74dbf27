import CyberAssess.Service.PosixLaunch
import CyberAssess.Guarantees.ExitOutcome
import CyberAssess.Guarantees.ReplayAgreement

/-!
# Guarantees — the POSIX identity and its readers

`record_posix_launch` writes the identity of a process; `load_durable_process_identity`,
`record_terminal`, `transition_committed_process_to_recovery_blocked` and
`settle_execution_after_confirmed_termination` read it.

* `Launched`: what a recorded launch has passed, and wrote.
* `PosixRow`: the identity columns of the written row, as numbers.
* One lemma for each reader says when it accepts the row; all but the downgrade ask for the shape of a
  boot id, which the writer does not.
* `posix_identity_agreement` puts them together.
-/

namespace CyberAssess

open Python (splitThree natOfDigits isDigits isBlank isBlank_append_left intOfText)

variable {codec : AttestationCodec} {k : ExecutionCapability} {c : PosixLaunchArgs} {now : Instant}
  {db db' : Db} {text : String}

/-! ### What the writer has tested -/

/-- What the tests of the arguments have found. -/
structure PosixLaunchArgs.Checked (c : PosixLaunchArgs) (boot ticks : String) : Prop where
  parts : c.tokenParts = some (boot, ticks)
  session : 0 ≤ c.sessionId
  nonempty : c.memberSnapshot ≠ []
  bounded : c.memberSnapshot.length ≤ 512
  consistent : ∀ m ∈ c.memberSnapshot, c.memberConsistent boot m = true
  distinct : (c.memberSnapshot.map (·.pid)).Nodup
  root : ∃ m ∈ c.memberSnapshot, c.isRoot m = true

theorem PosixLaunchArgs.check_ok {boot ticks : String} (h : c.check k = .ok (boot, ticks)) :
    c.Checked boot ticks := by
  unfold PosixLaunchArgs.check at h
  simp only [Checked.bind_ok, Checked.exists_unit] at h
  obtain ⟨-, h⟩ := h
  split at h
  · cases h
  rename_i b t parts
  simp only [Checked.bind_ok, Checked.exists_unit, Checked.ensure_ok, Bool.and_eq_true, decide_eq_true_eq,
    Bool.not_eq_true', List.all_eq_true, List.any_eq_true] at h
  obtain ⟨⟨-, session⟩, ⟨nonempty, bounded⟩, ⟨consistent, distinct⟩, root, -, same⟩ := h
  cases same
  refine ⟨parts, session, ?_, bounded, consistent, distinct, root⟩
  intro empty
  rw [empty] at nonempty
  cases nonempty

section Checked

variable {boot ticks : String} (h : c.Checked boot ticks)

include h

/-- The start token in its three parts, the ticks as a number. -/
theorem PosixLaunchArgs.Checked.token :
    ∃ n, splitThree c.startToken = some ("posix", boot, ticks) ∧ natOfDigits ticks = some n ∧ 0 < n := by
  obtain ⟨m, there, root⟩ := h.root
  have member := h.consistent m there
  simp only [PosixLaunchArgs.isRoot, Bool.and_eq_true, decide_eq_true_eq] at root
  simp only [PosixLaunchArgs.memberConsistent, Bool.and_eq_true, root.2] at member
  have parts := h.parts
  unfold PosixLaunchArgs.tokenParts at parts
  cases split : splitThree c.startToken with
  | none =>
      rw [split] at parts
      cases parts
  | some found =>
      obtain ⟨p, b, t⟩ := found
      rw [split] at parts member
      simp only [Bool.and_eq_true, decide_eq_true_eq, Option.any_eq_true] at member parts
      obtain ⟨-, ⟨rfl, rfl⟩, n, number, positive⟩ := member
      split_ifs at parts
      cases parts
      exact ⟨n, rfl, number, positive⟩

/-- The process and its group are no root or init process. -/
theorem PosixLaunchArgs.Checked.bounds : 1 < c.pid ∧ 1 < c.group ∧ c.groupOrPid = c.group := by
  obtain ⟨m, there, root⟩ := h.root
  have member := h.consistent m there
  simp only [PosixLaunchArgs.isRoot, Bool.and_eq_true, decide_eq_true_eq] at root
  simp only [PosixLaunchArgs.memberConsistent, Bool.and_eq_true, decide_eq_true_eq] at member
  obtain ⟨⟨pid, group⟩, -⟩ := root
  obtain ⟨⟨⟨lowPid, lowGroup⟩, -⟩, -⟩ := member
  rw [pid] at lowPid
  rw [group] at lowGroup
  refine ⟨lowPid, lowGroup, ?_⟩
  cases given : c.processGroupId with
  | none => simp [PosixLaunchArgs.groupOrPid, PosixLaunchArgs.group, given]
  | some n =>
      rw [PosixLaunchArgs.group, given] at lowGroup
      have low : 1 < n := lowGroup
      have nonzero : n ≠ 0 := by omega
      simp [PosixLaunchArgs.groupOrPid, given, nonzero]

/-- A member that passed, as it is attested. -/
theorem PosixLaunchArgs.Checked.member {m : ObservedMember} (there : m ∈ c.memberSnapshot) :
    ((PosixLaunchArgs.member m).pid : Int) = m.pid ∧
      ((PosixLaunchArgs.member m).processGroupId : Int) = m.processGroupId ∧
      ((PosixLaunchArgs.member m).sessionId : Int) = c.sessionId ∧ 1 < m.pid ∧ 1 < m.processGroupId ∧
      ∃ t n, splitThree m.startToken = some ("posix", boot, t) ∧ natOfDigits t = some n ∧ 0 < n := by
  have member := h.consistent m there
  simp only [PosixLaunchArgs.memberConsistent, Bool.and_eq_true, decide_eq_true_eq] at member
  obtain ⟨⟨⟨pid, group⟩, session⟩, token⟩ := member
  have nonneg := h.session
  refine ⟨?_, ?_, ?_, pid, group, ?_⟩
  · exact Int.toNat_of_nonneg (by omega)
  · exact Int.toNat_of_nonneg (by omega)
  · rw [← session]
    exact Int.toNat_of_nonneg (by omega)
  · cases split : splitThree m.startToken with
    | none =>
        rw [split] at token
        cases token
    | some found =>
        obtain ⟨p, b, t⟩ := found
        rw [split] at token
        simp only [Bool.and_eq_true, decide_eq_true_eq, Option.any_eq_true] at token
        obtain ⟨⟨rfl, rfl⟩, n, number, positive⟩ := token
        exact ⟨t, n, rfl, number, positive⟩

/-- The attested process ids are distinct. -/
theorem PosixLaunchArgs.Checked.distinct_attested :
    ((c.memberSnapshot.map PosixLaunchArgs.member).map (·.pid)).Nodup := by
  rw [List.map_map]
  refine List.Nodup.of_map (fun n : Nat => (n : Int)) ?_
  rw [List.map_map]
  have same : c.memberSnapshot.map ((fun n : Nat => (n : Int)) ∘
      ((fun m : ProcessMember => m.pid) ∘ PosixLaunchArgs.member)) = c.memberSnapshot.map (·.pid) :=
    List.map_congr_left fun m there => (h.member there).1
  rw [same]
  exact h.distinct

end Checked

/-! ### The written row -/

/-- The identity columns of the row of a launch. -/
structure PosixRow (c : PosixLaunchArgs) (generation boot ticks : String) (p : OwnershipRow) : Prop where
  state : p.ownershipState = .externalProcessGoverned
  containerType : p.containerType = .posixSession
  committed : p.launchCommitState = .committed
  containerIdentity : p.containerIdentity =
    some (posixContainerIdentity (toString c.sessionId) (toString c.group))
  processId : p.rootProcessId = some c.pid
  startToken : p.rootProcessStartToken = some c.startToken
  group : p.processGroupId = some (toString c.group)
  session : p.sessionId = some (toString c.sessionId)
  workerGeneration : p.workerGeneration = some generation
  attested : ∃ text, isBlank text = false ∧
    p.identityAttestation = some ⟨text, .posix (c.attestation generation boot ticks)⟩

/-- The record of a launch writes them. -/
theorem posixRow_recorded {boot ticks generation correlationId : String} (h : c.Checked boot ticks)
    (reads : codec.ReadsBack (c.attestation generation boot ticks) now) (p : OwnershipRow) :
    PosixRow c generation boot ticks (p.recorded (c.record generation correlationId
      ⟨codec.dump (c.attestation generation boot ticks) now,
        codec.validate (codec.dump (c.attestation generation boot ticks) now)⟩ now)) where
  state := rfl
  containerType := rfl
  committed := rfl
  containerIdentity := by rw [← h.bounds.2.2]; rfl
  processId := rfl
  startToken := rfl
  group := by rw [← h.bounds.2.2]; rfl
  session := rfl
  workerGeneration := rfl
  attested := ⟨_, reads.object, congrArg (fun r => some (Attestation.mk _ r)) reads.validates⟩

/-- What the supervisor gives for the process. -/
def PosixLaunchArgs.identity (c : PosixLaunchArgs) : IdentityArgs :=
  ⟨some c.pid, some (toString c.group), some c.startToken, some c.sessionId⟩

/-- What is loaded of it. -/
def PosixLaunchArgs.processIdentity (c : PosixLaunchArgs) : ProcessIdentity where
  pid := c.pid
  processGroupId := some c.group
  startToken := c.startToken
  sessionId := some c.sessionId
  memberSnapshot := c.memberSnapshot.map PosixLaunchArgs.member
  windowsAttestation := none

/-- The characters of a text in three parts start with the first. -/
theorem head_of_splitThree {s a b t : String} (h : splitThree s = some (a, b, t)) :
    ∃ rest, s.toList = a.toList ++ ':' :: rest := by
  have cut : ∀ {cs l r : List Char}, Python.cutColon cs = some (l, r) → cs = l ++ ':' :: r := by
    intro cs
    induction cs with
    | nil => nofun
    | cons x cs ih =>
        intro l r found
        rw [Python.cutColon] at found
        split at found
        · rename_i colon
          cases found
          rw [colon]
          rfl
        · obtain ⟨⟨l', r'⟩, later, same⟩ := Option.map_eq_some_iff.mp found
          cases same
          rw [ih later]
          rfl
  unfold splitThree at h
  split at h
  · cases h
  rename_i l r first
  split at h
  · cases h
  cases h
  exact ⟨r, by rw [String.toList_ofList]; exact cut first⟩

section Readers

variable {generation boot ticks : String} {p : OwnershipRow} (h : c.Checked boot ticks)
  (row : PosixRow c generation boot ticks p)

include h

/-- The token is no Windows token. -/
theorem PosixLaunchArgs.Checked.not_windows : isWindowsStartToken c.startToken = false := by
  obtain ⟨n, split, -⟩ := h.token
  obtain ⟨rest, text⟩ := head_of_splitThree split
  rw [Bool.eq_false_iff]
  intro windows
  unfold isWindowsStartToken at windows
  rw [List.splitAt_eq, text] at windows
  split at windows
  · rename_i parts
    simp only [Bool.and_eq_true, decide_eq_true_eq] at windows
    have start := (congrArg Prod.fst parts).trans windows.1.1.1
    have first := congrArg List.head? start
    cases first
  · cases windows

/-- The token is not blank. -/
theorem PosixLaunchArgs.Checked.not_blank : isBlank c.startToken = false := by
  obtain ⟨n, split, -⟩ := h.token
  obtain ⟨rest, text⟩ := head_of_splitThree split
  rw [isBlank, text]
  rfl

include row

/-- The columns read as the attested numbers. -/
theorem PosixRow.read : ∃ n, posixStartToken c.startToken = some (boot, n) ∧ 0 < n ∧
    (c.attestation generation boot ticks).rootStartTicks = n ∧
    p.processGroupId.bind natOfDigits = some c.group.toNat ∧
    p.sessionId.bind natOfDigits = some c.sessionId.toNat ∧ 1 < c.group.toNat := by
  obtain ⟨n, split, number, positive⟩ := h.token
  obtain ⟨-, group, -⟩ := h.bounds
  refine ⟨n, ?_, positive, ?_, ?_, ?_, by omega⟩
  · rw [posixStartToken, split]
    simp [number]
  · rw [PosixLaunchArgs.attestation, number]
    rfl
  · rw [row.group, Option.bind_some, Python.natOfDigits_toString (by omega)]
  · rw [row.session, Option.bind_some, Python.natOfDigits_toString h.session]

omit h in
/-- The attestation is the one of the columns. -/
theorem PosixRow.bound {n : Nat} (number : (c.attestation generation boot ticks).rootStartTicks = n) :
    posixAttestationBound p (c.attestation generation boot ticks) generation boot n c.group.toNat
      c.sessionId.toNat = true := by
  simp only [posixAttestationBound, row.containerIdentity, row.session, row.group, number]
  simp [PosixLaunchArgs.attestation]

/-- The member snapshot is the one of the columns. -/
theorem PosixRow.snapshot :
    memberSnapshotBound p (c.attestation generation boot ticks) boot c.group.toNat c.sessionId.toNat =
      true := by
  have members : (c.attestation generation boot ticks).memberSnapshot =
      c.memberSnapshot.map PosixLaunchArgs.member := rfl
  simp only [memberSnapshotBound, members, Bool.and_eq_true, List.length_map, decide_eq_true_eq,
    List.all_eq_true, List.any_eq_true]
  refine ⟨⟨⟨⟨?_, h.bounded⟩, h.distinct_attested⟩, ?_⟩, ?_⟩
  · have nonempty := h.nonempty
    cases snapshot : c.memberSnapshot with
    | nil => exact absurd snapshot nonempty
    | cons m ms => rfl
  · intro attested there
    obtain ⟨m, observed, rfl⟩ := List.mem_map.mp there
    obtain ⟨pid, group, session, lowPid, lowGroup, t, n, split, number, positive⟩ := h.member observed
    have token : posixStartToken m.startToken = some (boot, n) := by
      rw [posixStartToken, split]
      simp [number]
    have same : (PosixLaunchArgs.member m).sessionId = c.sessionId.toNat := by omega
    have text : (PosixLaunchArgs.member m).startToken = m.startToken := rfl
    have attestedPid : 1 < (PosixLaunchArgs.member m).pid := by omega
    have attestedGroup : 1 < (PosixLaunchArgs.member m).processGroupId := by omega
    simp [memberBound, same, text, token, attestedPid, attestedGroup, positive]
  · obtain ⟨m, observed, root⟩ := h.root
    obtain ⟨pid, group, -⟩ := h.member observed
    simp only [PosixLaunchArgs.isRoot, Bool.and_eq_true, decide_eq_true_eq] at root
    obtain ⟨⟨rootPid, rootGroup⟩, rootToken⟩ := root
    refine ⟨_, List.mem_map.mpr ⟨m, observed, rfl⟩, ?_⟩
    rw [row.processId, row.startToken, pid, rootPid]
    refine ⟨⟨rfl, ?_⟩, ?_⟩
    · rw [← rootGroup, ← group]
      rfl
    · rw [← rootToken]
      rfl

/-- `record_terminal` reads the row where the boot id has its shape. -/
theorem PosixRow.terminal : terminalPosixIdentity p = bootIdShape boot := by
  obtain ⟨n, token, positive, number, group, session, lowGroup⟩ := row.read h
  obtain ⟨text, -, attested⟩ := row.attested
  have pid := h.bounds.1
  have bound := row.bound number
  rw [terminalPosixIdentity, attested, row.startToken, group, session]
  simp only [row.processId, row.workerGeneration, token, Option.any_some, Option.getD_some, bound, pid,
    lowGroup, positive, decide_true, Bool.true_and, Bool.and_true]

/-- It takes the identity of the supervisor for the persisted one. -/
theorem PosixRow.given : terminalPosixGiven p c.identity = true := by
  obtain ⟨n, token, positive, number, group, session, lowGroup⟩ := row.read h
  obtain ⟨pid, low, -⟩ := h.bounds
  have nonneg := h.session
  have groupText : natOfDigits (toString c.group) = some c.group.toNat :=
    Python.natOfDigits_toString (by omega)
  have sessionNumber : Int.ofNat c.sessionId.toNat = c.sessionId := Int.toNat_of_nonneg nonneg
  simp only [terminalPosixGiven, PosixLaunchArgs.identity, row.processId, row.group, row.startToken, session,
    Option.bind_some, Option.any_some, Option.map_some, groupText, sessionNumber, pid, lowGroup, nonneg,
    h.not_blank, decide_true, Bool.not_false, Bool.and_self]

/-- The downgrade reads the row, whatever the boot id. -/
theorem PosixRow.valid : posixOwnershipValid p generation = true := by
  obtain ⟨n, token, positive, number, group, session, lowGroup⟩ := row.read h
  obtain ⟨text, -, attested⟩ := row.attested
  rw [posixOwnershipValid, attested, row.startToken, group, session]
  simp only [row.containerType, token, row.bound number, row.snapshot h, lowGroup, decide_true, Bool.and_self]

/-- The settlement takes the identity for a process identity where the boot id has its shape. -/
theorem PosixRow.wellFormed : c.identity.wellFormed = bootIdShape boot := by
  obtain ⟨n, token, positive, number, group, session, lowGroup⟩ := row.read h
  obtain ⟨pid, low, -⟩ := h.bounds
  have nonneg := h.session
  have groupText : natOfDigits (toString c.group) = some c.group.toNat :=
    Python.natOfDigits_toString (by omega)
  simp only [IdentityArgs.wellFormed, PosixLaunchArgs.identity, h.not_windows, Option.bind_some,
    Option.any_some, groupText, token, pid, lowGroup, nonneg, positive, decide_true, Bool.true_and,
    Bool.and_true, Bool.false_eq_true, if_false]

omit h in
/-- It is the persisted one. -/
theorem PosixRow.hasIdentity : p.hasIdentity c.identity = true := by
  simp [OwnershipRow.hasIdentity, PosixLaunchArgs.identity, row.processId, row.group, row.startToken,
    row.session]

/-- The settlement reads the row where the boot id has its shape. -/
theorem PosixRow.attests {v : SettleConfirmedArgs} {jobEmpty : Bool} {a : Authority} {x : Rows}
    (own : x.ownership = p) (generated : a.run.workerGeneration = generation)
    (kept : v.identityAttestation = p.identityAttestation) :
    settlementAttested v jobEmpty now a x = bootIdShape boot := by
  obtain ⟨n, token, -⟩ := row.read h
  obtain ⟨text, -, attested⟩ := row.attested
  have posix : p.containerType ≠ .windowsJob := by
    rw [row.containerType]
    nofun
  rw [settlementAttested, own, if_neg posix, generated, row.valid h, kept, attested, row.startToken,
    Option.bind_some, token]
  simp

/-- The run is active, and names no other process. -/
def Rows.opens (x : Rows) (c : PosixLaunchArgs) : Bool :=
  !x.run.state.isTerminal && x.run.processId.all (· = c.pid) &&
    x.run.processGroupId.all (· = toString c.group)

omit row in
/-- The attested members are those of the session. -/
theorem PosixLaunchArgs.Checked.members_bound :
    membersBound (c.memberSnapshot.map PosixLaunchArgs.member) boot c.startToken c.pid c.group
      c.sessionId = true := by
  simp only [membersBound, Bool.and_eq_true, decide_eq_true_eq, List.all_eq_true, List.any_eq_true]
  refine ⟨⟨h.distinct_attested, ?_⟩, ?_⟩
  · intro attested there
    obtain ⟨m, observed, rfl⟩ := List.mem_map.mp there
    obtain ⟨-, -, session, -, -, t, n, split, number, positive⟩ := h.member observed
    have text : (PosixLaunchArgs.member m).startToken = m.startToken := rfl
    refine ⟨session, ?_⟩
    rw [text, split]
    simp [number, positive]
  · obtain ⟨m, observed, root⟩ := h.root
    obtain ⟨pid, group, -⟩ := h.member observed
    simp only [PosixLaunchArgs.isRoot, Bool.and_eq_true, decide_eq_true_eq] at root
    obtain ⟨⟨rootPid, rootGroup⟩, rootToken⟩ := root
    exact ⟨_, List.mem_map.mpr ⟨m, observed, rfl⟩, ⟨pid.trans rootPid, group.trans rootGroup⟩, rootToken⟩

omit row in
/-- The attestation repeats the columns. -/
theorem PosixLaunchArgs.Checked.repeats :
    attestationRepeats (c.attestation generation boot ticks) generation boot ticks c.group c.sessionId =
      true := by
  obtain ⟨n, split, number, positive⟩ := h.token
  obtain ⟨-, low, -⟩ := h.bounds
  have session : ((c.attestation generation boot ticks).sessionId : Int) = c.sessionId :=
    Int.toNat_of_nonneg h.session
  have group : ((c.attestation generation boot ticks).processGroupId : Int) = c.group :=
    Int.toNat_of_nonneg (by omega)
  have length : (c.attestation generation boot ticks).memberSnapshot.length ≤ 512 := by
    rw [PosixLaunchArgs.attestation, List.length_map]
    exact h.bounded
  have nonempty : (c.attestation generation boot ticks).memberSnapshot.isEmpty = false := by
    have there := h.nonempty
    rw [PosixLaunchArgs.attestation]
    cases snapshot : c.memberSnapshot with
    | nil => exact absurd snapshot there
    | cons m ms => rfl
  rw [attestationRepeats, session, group, nonempty, number]
  simp [PosixLaunchArgs.attestation, number] at length ⊢
  exact length

/-- The identity is loaded where the boot id has its shape, of a run that is open for it. -/
theorem PosixRow.loads {attestedJob : WindowsAttestation → Bool} {a : Authority} {x : Rows}
    (own : x.ownership = p) (generated : a.run.workerGeneration = generation)
    (named : generation.isEmpty = false) :
    loadDurableProcessIdentity attestedJob now a x =
      if bootIdShape boot && x.opens c then some c.processIdentity else none := by
  obtain ⟨text, nonblank, attested⟩ := row.attested
  obtain ⟨pid, low, -⟩ := h.bounds
  obtain ⟨n, split, number, positive⟩ := h.token
  have nonneg := h.session
  have digits : isDigits ticks = true := by
    rw [natOfDigits] at number
    split_ifs at number with digits
    exact digits
  have bears : bearsProcess p.ownershipState = true := by
    rw [row.state]
    rfl
  have parts : startTokenParts c.startToken = if bootIdShape boot then some (boot, ticks) else none := by
    rw [startTokenParts, split]
    simp [digits]
  have groupText : intOfText (toString c.group) = some c.group := Python.intOfText_toString (by omega)
  have sessionText : intOfText (toString c.sessionId) = some c.sessionId :=
    Python.intOfText_toString nonneg
  have loaded : loadPosixIdentity a x =
      if bootIdShape boot && (x.run.processId.all (· = c.pid) &&
        x.run.processGroupId.all (· = toString c.group)) then some c.processIdentity else none := by
    unfold loadPosixIdentity
    simp only [own, row.containerType, row.committed, row.processId, row.group, row.session,
      row.containerIdentity, row.startToken, row.workerGeneration, attested, generated, groupText,
      sessionText, Option.bind_eq_bind, Option.bind_some, Option.getD_some, pid, low, nonneg, named,
      nonblank, decide_true, Bool.true_or, Bool.and_self, Bool.not_false, guard_true, pure, parts]
    cases names : x.run.processId.all (· = c.pid) && x.run.processGroupId.all (· = toString c.group) with
    | false => simp [guard]
    | true =>
        cases shape : bootIdShape boot with
        | false => simp [guard]
        | true =>
            have members : (c.attestation generation boot ticks).memberSnapshot =
                c.memberSnapshot.map PosixLaunchArgs.member := rfl
            simp only [guard_true, pure, Option.bind_some, if_true, h.repeats, members, h.members_bound,
              Bool.and_self]
            rfl
  rw [loadDurableProcessIdentity, own, bears, row.containerType, loaded]
  cases active : x.run.state.isTerminal with
  | true => simp [Rows.opens, active]
  | false => simp [Rows.opens, active]

end Readers

/-! ### The launch and its readers -/

/-- The rows of a launch. -/
def launchedRows (codec : AttestationCodec) (k : ExecutionCapability) (c : PosixLaunchArgs) (now : Instant)
    (e : Execution) (boot ticks : String) : Rows :=
  { e.data with
    ownership := e.data.ownership.recorded (c.record k.workerGeneration e.fixed.run.correlationId
      ⟨codec.dump (c.attestation k.workerGeneration boot ticks) now,
        codec.validate (codec.dump (c.attestation k.workerGeneration boot ticks) now)⟩ now) }

/-- What a recorded launch has passed, and wrote. -/
structure Launched (codec : AttestationCodec) (k : ExecutionCapability) (c : PosixLaunchArgs) (now : Instant)
    (db db' : Db) (e : Execution) (boot ticks : String) : Prop where
  checked : c.Checked boot ticks
  there : e ∈ db.executions
  executionId : k.executionId = some e.fixed.run.executionId
  generated : e.fixed.run.workerGeneration = k.workerGeneration
  named : k.workerGeneration.isEmpty = false
  written : db' = db.setRows e (launchedRows codec k c now e boot ticks)

theorem recordPosixLaunch_ok (h : recordPosixLaunch codec k c now db = .ok (text, db')) :
    ∃ e boot ticks, Launched codec k c now db db' e boot ticks := by
  simp only [recordPosixLaunch, Checked.bind_ok] at h
  obtain ⟨⟨boot, ticks⟩, tested, h⟩ := h
  split at h
  · cases h
  rename_i e evidence
  simp only [Checked.bind_ok, Checked.exists_unit, Checked.ensure_ok] at h
  obtain ⟨⟨r, z⟩, moved, granted, same⟩ := h
  cases same
  obtain ⟨executionId, own, found, worker⟩ := durableExecutionEvidence_some evidence
  obtain ⟨there, named, -⟩ := executionRun_some found
  have addressed : db.executionRun (k.executionId.getD "") k.organizationId = some e := by
    rw [own]
    exact found
  obtain ⟨move, written⟩ := transitionOwnership_row moved granted addressed fun _ => by
    simp [ownershipReplays, PosixLaunchArgs.record]
  refine ⟨e, boot, ticks, PosixLaunchArgs.check_ok tested, there, own.trans (congrArg some named.symm),
    worker.generation, ?_, written⟩
  have fenced := move.fenced
  simp only [ownershipFence, Bool.and_eq_true, Bool.not_eq_true', worker.generation] at fenced
  have nonblank := fenced.1.2
  rw [Bool.eq_false_iff]
  intro empty
  rw [String.isEmpty_iff] at empty
  rw [empty] at nonblank
  cases nonblank

/-- Every reader takes the row for the process that was launched. -/
structure PosixAgrees (k : ExecutionCapability) (c : PosixLaunchArgs) (a : Authority) (y : Rows) : Prop where
  loads : ∀ attestedJob later,
    loadDurableProcessIdentity attestedJob later a y = some c.processIdentity
  terminal : terminalPosixIdentity y.ownership = true ∧ terminalPosixGiven y.ownership c.identity = true
  blocks : (y.ownership.rootProcessId.any (1 < ·) && posixOwnershipValid y.ownership k.workerGeneration) =
    true
  settles : c.identity.wellFormed = true ∧ y.ownership.hasIdentity c.identity = true ∧
    ∀ (v : SettleConfirmedArgs) (jobEmpty : Bool) (later : Instant),
      v.identityAttestation = y.ownership.identityAttestation →
        settlementAttested v jobEmpty later a y = true

/-- **The identity of a recorded launch** is read by every reader exactly where its boot id has the
shape they ask for and its run is active and names no other process. -/
theorem posix_identity_agreement (h : recordPosixLaunch codec k c now db = .ok (text, db'))
    (reads : ∀ boot ticks, c.tokenParts = some (boot, ticks) →
      codec.ReadsBack (c.attestation k.workerGeneration boot ticks) now) :
    ∃ (e : Execution) (y : Rows) (boot ticks : String), e ∈ db.executions ∧
      k.executionId = some e.fixed.run.executionId ∧ db' = db.setRows e y ∧
      c.tokenParts = some (boot, ticks) ∧
      (PosixAgrees k c e.fixed y ↔ bootIdShape boot = true ∧ e.data.opens c = true) := by
  obtain ⟨e, boot, ticks, l⟩ := recordPosixLaunch_ok h
  have checked := l.checked
  have row : PosixRow c k.workerGeneration boot ticks
      (launchedRows codec k c now e boot ticks).ownership :=
    posixRow_recorded checked (reads boot ticks checked.parts) e.data.ownership
  have kept : (launchedRows codec k c now e boot ticks).opens c = e.data.opens c := rfl
  refine ⟨e, launchedRows codec k c now e boot ticks, boot, ticks, l.there, l.executionId, l.written,
    checked.parts, ?_⟩
  constructor
  · intro agrees
    have loaded := agrees.loads (fun _ => false) now
    rw [row.loads checked rfl l.generated l.named, kept] at loaded
    split_ifs at loaded with shape
    exact Bool.and_eq_true_iff.mp shape
  · rintro ⟨shape, opens⟩
    refine ⟨fun attestedJob later => ?_, ⟨?_, row.given checked⟩, ?_, ?_, row.hasIdentity, ?_⟩
    · rw [row.loads checked rfl l.generated l.named, kept, shape, opens]
      rfl
    · rw [row.terminal checked, shape]
    · rw [row.valid checked, row.processId, Option.any_some, Bool.and_true]
      exact decide_eq_true checked.bounds.1
    · rw [row.wellFormed checked, shape]
    · intro v jobEmpty later kept
      rw [row.attests checked rfl l.generated kept, shape]

namespace Sample

/-- The root of a session of its own, seen with a boot id. -/
def observed (boot : String) : PosixLaunchArgs where
  pid := 4242
  processGroupId := some 4242
  sessionId := 4242
  startToken := "posix:" ++ boot ++ ":77"
  memberSnapshot := [⟨4242, 4242, 4242, "posix:" ++ boot ++ ":77"⟩]

/-- The attested text of that process. -/
def attestedText (boot digest : String) : String :=
  "\x7b\"schema_version\":\"posix-process-attestation-v1\"," ++
    "\"proof_type\":\"PROC_START_TICKS_SESSION_GROUP\",\"boot_id\":\"" ++ boot ++
    "\",\"root_start_ticks\":77,\"session_id\":4242,\"process_group_id\":4242," ++
    "\"pidfd_supported\":false,\"pidfd_verified\":false,\"worker_generation\":\"generation-a\"," ++
    "\"captured_at\":\"1970-01-01T00:00:03Z\",\"expires_at\":\"1970-01-01T00:00:33Z\"," ++
    "\"verification_result\":\"VERIFIED\",\"member_snapshot\":[\x7b\"pid\":4242,\"process_group_id\":4242," ++
    "\"session_id\":4242,\"start_token\":\"posix:" ++ boot ++ ":77\"\x7d],\"digest\":\"" ++ digest ++ "\"\x7d"

/-- It reads as what was attested. -/
def observedCodec (boot digest : String) : AttestationCodec where
  dump := fun _ _ => attestedText boot digest
  validate := fun t =>
    if t = attestedText boot digest then
      .posix ((observed boot).attestation "generation-a" boot "77")
    else .invalid

/-- The digest of the attestation under the boot id `0000-0000`. -/
def digestOfZero : String := "b3d7e1925a2f99d0c4673006e3ba341ed2e4d431ebe0d321217780fe907d449b"

/-- The digest of the attestation under the boot id `boot`. -/
def digestOfBoot : String := "a56c35a65be7b7dfc238f62ce37b0b43abf4c0265eb031278314f592e509ae6a"

theorem observedCodec_dump (boot digest : String) (att : PosixAttestation) (captured : Instant) :
    (observedCodec boot digest).dump att captured = attestedText boot digest := rfl

theorem observedCodec_validate (boot digest : String) :
    (observedCodec boot digest).validate (attestedText boot digest) =
      .posix ((observed boot).attestation "generation-a" boot "77") := by
  unfold observedCodec
  dsimp only
  exact if_pos (Eq.refl (attestedText boot digest))

/-- The attestation of that process reads back. -/
theorem observedCodec_reads (boot digest : String) :
    (observedCodec boot digest).ReadsBack
      ((observed boot).attestation "generation-a" boot "77") (seconds 3) where
  validates :=
    (congrArg (observedCodec boot digest).validate (observedCodec_dump boot digest _ _)).trans
      (observedCodec_validate boot digest)
  object := by
    have opened : isBlank "\x7b\"schema_version\":\"posix-process-attestation-v1\"," = false := by
      decide +kernel
    rw [observedCodec_dump]
    unfold attestedText
    iterate 11 refine isBlank_append_left ?_
    exact opened

/-- Its launch is recorded and read back. -/
theorem observed_read_back :
    ∃ (e : Execution) (y : Rows), e ∈ (tenant.afterAll gateway claimed).executions ∧
      PosixAgrees capability (observed "0000-0000") e.fixed y := by
  have recorded : (recordPosixLaunch (observedCodec "0000-0000" digestOfZero) capability
      (observed "0000-0000") (seconds 3) (tenant.afterAll gateway claimed)).toOption.isSome = true := by
    decide +kernel
  obtain ⟨⟨text, db'⟩, found⟩ := Option.isSome_iff_exists.mp recorded
  have parts : (observed "0000-0000").tokenParts = some ("0000-0000", "77") := by
    decide +kernel
  obtain ⟨e, y, boot, ticks, there, -, -, same, agrees⟩ :=
    posix_identity_agreement (Checked.toOption_eq_some.mp found) fun boot ticks same => by
      rw [parts] at same
      cases same
      exact observedCodec_reads _ _
  rw [parts] at same
  cases same
  have opens : (tenant.afterAll gateway claimed).executions.rows.all (fun e =>
      e.data.opens (observed "0000-0000")) = true := by
    decide +kernel
  exact ⟨e, y, there, agrees.mpr ⟨by decide +kernel, List.all_eq_true.mp opens e there⟩⟩

/-- A launch is recorded as governed, and its identity is not read back. -/
theorem observed_unread :
    ¬∀ (g : Gateway) (db : Db), db.Reachable g → ∀ (codec : AttestationCodec) (k : ExecutionCapability)
      (c : PosixLaunchArgs) (now : Instant) (text : String) (db' : Db),
      recordPosixLaunch codec k c now db = .ok (text, db') →
        (∀ boot ticks, c.tokenParts = some (boot, ticks) →
          codec.ReadsBack (c.attestation k.workerGeneration boot ticks) now) →
        ∀ e ∈ db'.executions, k.executionId = some e.fixed.run.executionId →
          PosixAgrees k c e.fixed e.data := by
  intro all
  have recorded : (recordPosixLaunch (observedCodec "boot" digestOfBoot) capability (observed "boot")
      (seconds 3) (tenant.afterAll gateway claimed)).toOption.any (fun r => r.2.executions.rows.any fun e =>
        decide (e.fixed.run.executionId = "run-a") && !terminalPosixIdentity e.data.ownership) = true := by
    decide +kernel
  obtain ⟨⟨text, db'⟩, found, unread⟩ := (Option.any_eq_true _ _).mp recorded
  obtain ⟨e, there, unread⟩ := List.any_eq_true.mp unread
  simp only [Bool.and_eq_true, decide_eq_true_eq, Bool.not_eq_true'] at unread
  have parts : (observed "boot").tokenParts = some ("boot", "77") := by
    decide +kernel
  have agrees := all gateway _ (reachable_afterAll initial claimed) (observedCodec "boot" digestOfBoot)
    capability (observed "boot") (seconds 3) text db' (Checked.toOption_eq_some.mp found)
    (fun boot ticks same => by
      rw [parts] at same
      cases same
      exact observedCodec_reads _ _)
    e there (congrArg some unread.1.symm)
  rw [agrees.terminal.1] at unread
  cases unread.2

end Sample

end CyberAssess
