import CyberAssess.Database.ExpiryTests

/-!
# Guarantees — expiry by instant

What a text of an expiry says of the clock, and what its instant says.

* `expiredText_isoformat`: the text is compared as what the datetime shows.
* `WrittenWhereShown`: the clock is not between the two; an offset of zero leaves nothing between.
* `expiry_by_instant`: the tests of a request and a decision agree then, and only then.
-/

namespace CyberAssess

open Python

/-! ### One expiry -/

/-- The text is in the past when what it shows is, and at that reading if it shows UTC. -/
theorem expiredText_isoformat (t : DateTime) (now : UtcNow) :
    expiredText t.isoformat now = true ↔
      t.reading < now.1.reading ∨ t.reading = now.1.reading ∧ t.offset = 0 := by
  have order := DateTime.isoChars_lt now.1 t
  rw [now.2, DateTime.utc_lt_offsetChars t.offsetIn] at order
  have text : now.1.isoformat < t.isoformat ↔ now.1.isoChars < t.isoChars := by
    rw [DateTime.isoformat, DateTime.isoformat, String.lt_iff_toList_lt, String.toList_ofList,
      String.toList_ofList]
  rw [expiredText, decide_eq_true_eq, ← not_lt, text, order]
  by_cases utc : t.offset = 0
  · simp only [utc, ne_eq, not_true_eq_false, and_false, or_false, and_true]
    omega
  · simp only [utc, ne_eq, not_false_eq_true, and_true, and_false, or_false]
    omega

/-- The datetime that is read back is the one that was stored. -/
theorem expiredInstant_isoformat (t : DateTime) (now : UtcNow) :
    expiredInstant t.isoformat now = some (decide (t.instant ≤ now.1.reading)) := by
  have clock : now.1.instant = now.1.reading := by rw [DateTime.instant, now.2, sub_zero]
  rw [expiredInstant, fromisoformat_isoformat, Option.map_some, clock]

/-- An offset of zero, or a clock that is not between the instant of an expiry and what it shows. -/
def WrittenWhereShown (t : DateTime) (now : UtcNow) : Prop :=
  t.offset = 0 ∨ ¬ (t.instant ≤ now.1.reading ∧ now.1.reading ≤ t.reading ∨
    t.reading < now.1.reading ∧ now.1.reading < t.instant)

/-- The two comparisons of one expiry agree where the clock is not between. -/
theorem expiredInstant_eq_expiredText (t : DateTime) (now : UtcNow) :
    expiredInstant t.isoformat now = some (expiredText t.isoformat now) ↔ WrittenWhereShown t now := by
  rw [expiredInstant_isoformat, Option.some.injEq, Bool.eq_iff_iff, expiredText_isoformat,
    decide_eq_true_eq, WrittenWhereShown, DateTime.instant]
  by_cases utc : t.offset = 0
  · simp only [utc, true_or, and_true, sub_zero, iff_true]
    omega
  · simp only [utc, false_or, and_false, or_false]
    omega

/-! ### The tests of an authority -/

/-- The tests of a request and a decision, as they are stored, classify them alike. -/
structure ExpiryByInstant (request decision : String) (now : UtcNow) : Prop where
  approval : approveExecutionRequest.expired request now = some (expiredText request now)
  approved : expiredInstant decision now = some (expiredText decision now)
  claimAuthority : claimExecutionDispatchIntent.expired request decision now =
    some (!claimExecutionAuthority.unexpired request decision now)
  claimDecision : claimExecutionDispatchIntent.expired request decision now =
    some (!claimExecutionDecision.unexpired request decision now)
  start : claimExecutionDispatchIntent.expired request decision now =
    some (!markExecutionDecisionStarted.unexpired request decision now)
  finish : finishExecution.expired request decision now =
    some (!finishExecution.unexpired request decision now)
  recovery : reapExecutionDispatch.expired request decision now =
    some (listExecutionRecoveryCandidates.expired request decision now)

/-- Where each comparison agrees, so do the tests made of them. -/
theorem expiredInstants_eq {first second : String} {now : UtcNow}
    (h : expiredInstant first now = some (expiredText first now))
    (h' : expiredInstant second now = some (expiredText second now)) :
    expiredInstants first second now = some (expiredText first now || expiredText second now) := by
  rw [expiredInstants, h, h']
  generalize expiredText first now = a
  generalize expiredText second now = b
  cases a <;> rfl

/-- The tests agree with each other where each of the two expiries is judged alike. -/
theorem expiryByInstant_iff (request decision : String) (now : UtcNow) :
    ExpiryByInstant request decision now ↔
      expiredInstant request now = some (expiredText request now) ∧
      expiredInstant decision now = some (expiredText decision now) := by
  constructor
  · exact fun h => ⟨h.approval, h.approved⟩
  · rintro ⟨hr, hd⟩
    have texts : (!unexpiredTexts request decision now) =
        (expiredText decision now || expiredText request now) := by
      rw [unexpiredTexts, Bool.not_and, Bool.not_not, Bool.not_not]
    have dispatch : claimExecutionDispatchIntent.expired request decision now =
        some (!unexpiredTexts request decision now) :=
      (expiredInstants_eq hd hr).trans (congrArg some texts.symm)
    have reap : reapExecutionDispatch.expired request decision now =
        some (expiredText request now || expiredText decision now) := expiredInstants_eq hr hd
    refine ⟨hr, hd, dispatch, dispatch, dispatch, ?_, reap⟩
    exact reap.trans (congrArg some ((Bool.or_comm _ _).trans texts.symm))

/-- A request and a decision with any expiries, tested at any time: the tests agree if and only if the
clock is not between the instant of either expiry and what it shows. -/
theorem expiry_by_instant (request decision : DateTime) (now : UtcNow) :
    ExpiryByInstant request.isoformat decision.isoformat now ↔
      WrittenWhereShown request now ∧ WrittenWhereShown decision now := by
  rw [expiryByInstant_iff, expiredInstant_eq_expiredText, expiredInstant_eq_expiredText]

namespace Sample

/-- Noon, two hours east of UTC. -/
def noonInAthens : DateTime :=
  ⟨2026, 1, 31, 12, 0, 0, 0, 7200000000, by decide, by decide, by decide, by decide, by decide,
    by decide, by decide, by decide⟩

/-- Eleven o'clock in UTC: an hour later. -/
def eleven : UtcNow :=
  ⟨⟨2026, 1, 31, 11, 0, 0, 0, 0, by decide, by decide, by decide, by decide, by decide, by decide,
    by decide, by decide⟩, rfl⟩

example : noonInAthens.isoformat = "2026-01-31T12:00:00+02:00" := by decide

end Sample

/-- An hour after noon in Athens the statements still find the authority unexpired. -/
theorem expiry_by_spelling :
    ¬ ∀ (request decision : DateTime) (now : UtcNow),
      ExpiryByInstant request.isoformat decision.isoformat now := by
  intro h
  have agree := (h Sample.noonInAthens Sample.noonInAthens Sample.eleven).approval
  have instant : approveExecutionRequest.expired Sample.noonInAthens.isoformat Sample.eleven =
      some true := by decide +kernel
  have text : expiredText Sample.noonInAthens.isoformat Sample.eleven = false := by decide +kernel
  rw [instant, text] at agree
  cases agree

end CyberAssess
