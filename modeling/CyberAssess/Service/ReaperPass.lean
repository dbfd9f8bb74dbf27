import CyberAssess.Service.Reaper

/-!
# Service — a pass, one candidate at a time

What a pass of the reaper does to one execution is what it does when its turn comes: the
candidates have different execution ids, and every write and every supervisor call of a candidate
is under its own id.

* `Pass.Beside`: nothing of another execution moved; `reapCandidate_beside`.
* `reapExecutionAuthorityOnce_selected`, `_unselected`: a pass, from the one turn.
* `Pass.write_found`: a write on rows that are there is the call on those rows.
* `reapPreDispatch_eq`, `reapNoProcess_eq`: the two settlements without a process settle nothing.
-/

namespace CyberAssess

variable {env : ReaperEnv} {db : Db} {p q : Pass} {e : Execution} {c : ExecutionCall}
  {k : Candidate} {id : String}

/-! ### What a write leaves -/

/-- A write calls no supervisor. -/
@[simp] theorem Pass.write_cancellations : (p.write env c).2.cancellations = p.cancellations := by
  unfold Pass.write
  split <;> rfl

/-- Counting a closed execution changes neither the database nor the calls. -/
theorem Pass.close_eq (env : ReaperEnv) (c : ExecutionCall) (p : Pass) :
    (p.close env c).db = (p.write env c).2.db ∧
      (p.close env c).cancellations = (p.write env c).2.cancellations := by
  unfold Pass.close
  split
  · rename_i r q hq
    rw [hq]
    split <;> exact ⟨rfl, rfl⟩
  · rename_i q hq
    rw [hq]
    exact ⟨rfl, rfl⟩

/-! ### The turn of another candidate -/

/-- Only rows and supervisor calls of the execution `id` moved. -/
structure Pass.Beside (id : String) (p q : Pass) : Prop where
  rows : ∀ e : Execution, e.fixed.run.executionId ≠ id →
    (e ∈ q.db.executions ↔ e ∈ p.db.executions)
  revokedTokens : q.db.revokedTokens = p.db.revokedTokens
  cancellations : ∀ s : SupervisorCancellation, s.executionId ≠ id →
    (s ∈ q.cancellations ↔ s ∈ p.cancellations)

theorem Pass.Beside.refl (p : Pass) : Pass.Beside id p p :=
  ⟨fun _ _ => Iff.rfl, rfl, fun _ _ => Iff.rfl⟩

theorem Pass.Beside.trans {r : Pass} (h : Pass.Beside id p q) (h' : Pass.Beside id q r) :
    Pass.Beside id p r where
  rows e he := (h'.rows e he).trans (h.rows e he)
  revokedTokens := h'.revokedTokens.trans h.revokedTokens
  cancellations s hs := (h'.cancellations s hs).trans (h.cancellations s hs)

/-- A write under the id. -/
theorem Pass.write_beside (hk : c.key = (.execution, id)) : Pass.Beside id p (p.write env c).2 := by
  unfold Pass.write
  split
  · rename_i r z hz
    rcases execute_ok hz with ⟨e, y, he, -, rfl⟩ | ⟨-, ⟨-, rfl⟩ | ⟨k, q, rfl, -⟩⟩
    · obtain ⟨hm, hid, -⟩ := Db.addressed_eq_some.mp he
      rw [hk] at hid
      have hid : e.fixed.run.executionId = id := congrArg Prod.fst hid
      exact ⟨fun s hs => Db.mem_setRows_other hm (hid ▸ hs), rfl, fun _ _ => Iff.rfl⟩
    · exact .refl p
    · cases hk
  · exact .refl p

theorem Pass.close_beside (hk : c.key = (.execution, id)) : Pass.Beside id p (p.close env c) := by
  have h : Pass.Beside id p (p.write env c).2 := Pass.write_beside hk
  obtain ⟨hd, hc⟩ := Pass.close_eq env c p
  constructor
  · rw [hd]
    exact h.rows
  · rw [hd]
    exact h.revokedTokens
  · rw [hc]
    exact h.cancellations

/-- A supervisor call under the id. -/
theorem Pass.cancel_beside (id : String) (i : Option ProcessIdentity) :
    Pass.Beside id p (p.cancel env id i).2 where
  rows _ _ := Iff.rfl
  revokedTokens := rfl
  cancellations s hs := by
    change s ∈ p.cancellations ++ [_] ↔ _
    rw [List.mem_append, List.mem_singleton]
    constructor
    · rintro (h | rfl)
      · exact h
      · exact absurd rfl hs
    · exact Or.inl

theorem completeUncertain_beside {lease : RecoveryLease} {outcome error : String} :
    Pass.Beside k.executionId p (completeUncertain env k lease outcome error p) :=
  Pass.write_beside rfl

theorem recordUnconfirmed_beside {i : Option ProcessIdentity} {status outcome error : String} :
    Pass.Beside k.executionId p (recordUnconfirmed env k i status outcome error p) := by
  cases i with
  | none => exact .refl p
  | some i => exact Pass.write_beside rfl

theorem reapUncertain_beside : Pass.Beside k.executionId p (reapUncertain env k p) := by
  unfold reapUncertain
  split
  · exact .refl p
  have claimed : Pass.Beside k.executionId p (p.write env (.claimRecovery (recoveryClaim env k))).2 :=
    Pass.write_beside rfl
  split
  · rename_i lease q hq
    rw [hq] at claimed
    refine claimed.trans ?_
    split
    · exact completeUncertain_beside
    · rename_i i hi
      have cancelled : Pass.Beside k.executionId q (q.cancel env k.executionId (some i)).2 :=
        Pass.cancel_beside ..
      split
      all_goals
        rename_i q' hq'
        rw [hq'] at cancelled
        refine cancelled.trans ?_
      · split
        · exact Pass.close_beside rfl
        · exact completeUncertain_beside
      · exact completeUncertain_beside
      · exact .refl _
  · rename_i q hq
    rw [hq] at claimed
    exact claimed

theorem reapProcess_beside {i : Option ProcessIdentity} {g : Option String} :
    Pass.Beside k.executionId p (reapProcess env k i g p) := by
  unfold reapProcess
  split
  · exact .refl p
  have cancelled : Pass.Beside k.executionId p (p.cancel env k.executionId i).2 :=
    Pass.cancel_beside ..
  split
  all_goals
    rename_i q hq
    rw [hq] at cancelled
    refine cancelled.trans ?_
  · exact recordUnconfirmed_beside
  · exact .refl _
  · split
    · exact recordUnconfirmed_beside
    · exact .refl _
    · exact Pass.close_beside rfl

/-- A candidate moves nothing of another execution. -/
theorem reapCandidate_beside : Pass.Beside k.executionId p (reapCandidate env k p) := by
  unfold reapCandidate
  split
  · exact reapUncertain_beside
  simp only
  split
  · exact Pass.close_beside rfl
  split
  · exact Pass.close_beside rfl
  split
  · exact Pass.write_beside rfl
  · exact reapProcess_beside

/-- Other candidates move nothing of the execution `id`. -/
theorem reapCandidates_beside (env : ReaperEnv) (p : Pass) {ks : List Candidate} {e : Execution}
    (h : ∀ k ∈ ks, k.executionId ≠ e.fixed.run.executionId) :
    (e ∈ (reapCandidates env ks p).db.executions ↔ e ∈ p.db.executions) ∧
      (reapCandidates env ks p).db.revokedTokens = p.db.revokedTokens ∧
      ∀ s : SupervisorCancellation, s.executionId = e.fixed.run.executionId →
        (s ∈ (reapCandidates env ks p).cancellations ↔ s ∈ p.cancellations) := by
  induction ks generalizing p with
  | nil => exact ⟨Iff.rfl, rfl, fun _ _ => Iff.rfl⟩
  | cons k ks ih =>
      have here : Pass.Beside k.executionId p (reapCandidate env k p) := reapCandidate_beside
      have apart : k.executionId ≠ e.fixed.run.executionId := h k (List.mem_cons_self ..)
      obtain ⟨hr, ht, hc⟩ := ih (reapCandidate env k p)
        fun k' hk' => h k' (List.mem_cons_of_mem _ hk')
      refine ⟨hr.trans (here.rows e (Ne.symm apart)), ht.trans here.revokedTokens, ?_⟩
      intro s hs
      exact (hc s hs).trans (here.cancellations s (by rw [hs]; exact Ne.symm apart))

theorem reapCandidates_append {ks ls : List Candidate} :
    reapCandidates env (ks ++ ls) p = reapCandidates env ls (reapCandidates env ks p) := by
  induction ks generalizing p with
  | nil => rfl
  | cons k ks ih => exact ih

/-! ### The turn of a candidate -/

/-- The selected executions are of the database. -/
theorem mem_recoveryBatch {limit : Nat} {now : Instant} (h : e ∈ recoveryBatch limit now db) :
    e ∈ db.executions ∧ isRecoveryCandidate db.revokedTokens now e.fixed e.data = true :=
  List.mem_filter.mp (List.mem_mergeSort.mp (List.mem_of_mem_take h))

/-- They have different ids. -/
theorem recoveryBatch_nodup (limit : Nat) (now : Instant) (db : Db) :
    ((recoveryBatch limit now db).map fun e => e.fixed.run.executionId).Nodup := by
  have all : (db.executions.rows.map fun e => e.fixed.run.executionId).Nodup := by
    have := db.executions.unique .execution
    exact List.Nodup.of_map (fun s => (s, "")) (by rwa [List.map_map])
  have filtered : ((db.executions.rows.filter fun e =>
      isRecoveryCandidate db.revokedTokens now e.fixed e.data).map
        fun e => e.fixed.run.executionId).Nodup :=
    all.sublist (List.filter_sublist.map _)
  refine List.Nodup.sublist ((List.take_sublist _ _).map _) ?_
  exact (((List.mergeSort_perm _ _).map _).nodup_iff).mpr filtered

/-- Where one of them has its turn: the others before and after have other ids. -/
theorem recoveryBatch_split {limit : Nat} {now : Instant} (h : e ∈ recoveryBatch limit now db) :
    ∃ ks ls : List Candidate,
      listExecutionRecoveryCandidates limit now db
        = ks ++ candidateOf db.revokedTokens e :: ls ∧
      (∀ k ∈ ks, k.executionId ≠ e.fixed.run.executionId) ∧
      ∀ k ∈ ls, k.executionId ≠ e.fixed.run.executionId := by
  obtain ⟨es, fs, hs⟩ := List.append_of_mem h
  have nodup := recoveryBatch_nodup limit now db
  rw [hs, List.map_append, List.map_cons, List.nodup_middle, List.nodup_cons,
    List.mem_append, not_or] at nodup
  refine ⟨es.map (candidateOf db.revokedTokens), fs.map (candidateOf db.revokedTokens), ?_, ?_, ?_⟩
  · rw [listExecutionRecoveryCandidates, hs, List.map_append, List.map_cons]
  · intro k hk heq
    obtain ⟨f, hf, rfl⟩ := List.mem_map.mp hk
    exact nodup.1.1 (List.mem_map.mpr ⟨f, hf, heq⟩)
  · intro k hk heq
    obtain ⟨f, hf, rfl⟩ := List.mem_map.mp hk
    exact nodup.1.2 (List.mem_map.mpr ⟨f, hf, heq⟩)

/-- A pass leaves an execution it did not select as it was. -/
theorem reapExecutionAuthorityOnce_unselected (he : e ∈ db.executions)
    (hn : e ∉ recoveryBatch env.batchSize env.now db) :
    e ∈ (reapExecutionAuthorityOnce env db).db.executions ∧
      ∀ s ∈ (reapExecutionAuthorityOnce env db).cancellations,
        s.executionId ≠ e.fixed.run.executionId := by
  have apart : ∀ k ∈ listExecutionRecoveryCandidates env.batchSize env.now db,
      k.executionId ≠ e.fixed.run.executionId := by
    intro k hk heq
    obtain ⟨f, hf, rfl⟩ := List.mem_map.mp hk
    have same : f = e := Relational.Table.eq_of_key_eq (mem_recoveryBatch hf).1 he .execution
      (congrArg (·, "") heq)
    exact hn (same ▸ hf)
  obtain ⟨hr, -, hc⟩ := reapCandidates_beside env ⟨db, [], 0⟩ apart
  refine ⟨hr.mpr he, fun s hs heq => ?_⟩
  exact absurd ((hc s heq).mp hs) (List.not_mem_nil)

/-- A pass does to an execution it selected what `reapCandidate` does at its turn, on a pass that
has not touched the execution before. -/
theorem reapExecutionAuthorityOnce_selected (he : e ∈ recoveryBatch env.batchSize env.now db) :
    ∃ p : Pass, e ∈ p.db.executions ∧ p.db.revokedTokens = db.revokedTokens ∧
      (∀ s ∈ p.cancellations, s.executionId ≠ e.fixed.run.executionId) ∧
      (∀ y : Rows, ⟨e.fixed, y⟩ ∈ (reapExecutionAuthorityOnce env db).db.executions ↔
        ⟨e.fixed, y⟩ ∈ (reapCandidate env (candidateOf db.revokedTokens e) p).db.executions) ∧
      ∀ s : SupervisorCancellation, s.executionId = e.fixed.run.executionId →
        (s ∈ (reapExecutionAuthorityOnce env db).cancellations ↔
          s ∈ (reapCandidate env (candidateOf db.revokedTokens e) p).cancellations) := by
  obtain ⟨ks, ls, hs, hk, hl⟩ := recoveryBatch_split he
  obtain ⟨hr, ht, hc⟩ := reapCandidates_beside env ⟨db, [], 0⟩ hk
  have run : reapExecutionAuthorityOnce env db
      = reapCandidates env ls (reapCandidate env (candidateOf db.revokedTokens e)
          (reapCandidates env ks ⟨db, [], 0⟩)) := by
    rw [reapExecutionAuthorityOnce, hs, reapCandidates_append]
    rfl
  refine ⟨reapCandidates env ks ⟨db, [], 0⟩, hr.mpr (mem_recoveryBatch he).1, ht,
    fun s hs heq => absurd ((hc s heq).mp hs) List.not_mem_nil, ?_, ?_⟩
  · intro y
    rw [run]
    exact (reapCandidates_beside env _ (e := ⟨e.fixed, y⟩) hl).1
  · intro s heq
    rw [run]
    exact (reapCandidates_beside env _ (e := e) hl).2.2 s heq

/-! ### Writes on rows that are there -/

/-- A write under the execution's id and tenant is the call on its rows. -/
theorem Pass.write_found (he : e ∈ p.db.executions)
    (hk : c.key = (.execution, e.fixed.run.executionId))
    (ho : c.organizationId = e.fixed.request.organizationId) :
    p.write env c = match c.apply p.db.revokedTokens env.now e.fixed e.data with
      | .ok (r, y) => (some r, { p with db := p.db.setRows e y })
      | .error _ => (none, p) := by
  have found : p.db.addressed c = some e :=
    Db.addressed_eq_some.mpr ⟨he, by rw [hk]; rfl, ho.symm⟩
  rw [Pass.write, Db.execute_found found]
  cases hx : c.apply p.db.revokedTokens env.now e.fixed e.data <;> rfl

/-- Without a worker identity `settle-pre-dispatch` settles nothing. -/
@[simp] theorem reapPreDispatch_eq (env : ReaperEnv) (k : Candidate) (g : Option String)
    (p : Pass) : reapPreDispatch env k g p = p := by
  rw [reapPreDispatch, Pass.close, Pass.write, reaperSettlement, settleConfirmed_anonymous rfl]
  rfl

/-- And neither does `settle-no-external-process`. -/
@[simp] theorem reapNoProcess_eq (env : ReaperEnv) (k : Candidate) (o : RunState × ReasonCode)
    (g : Option String) (p : Pass) : reapNoProcess env k o g p = p := by
  rw [reapNoProcess, Pass.close, Pass.write, reaperSettlement, settleConfirmed_anonymous rfl]
  rfl

end CyberAssess
