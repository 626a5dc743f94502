import TaskAttest.Library.Pointwise
import TaskAttest.RunShapeProperties
import TaskAttest.ReceiptBindingProperties

/-! Whether a recorded outcome is backed by the recorded evidence: the exit code,
the logs and the fail-fast flag. Runs record it so; verification does not ask. -/

set_option autoImplicit false

namespace TaskAttest

open Program

/-! Evidence -/

/-- The evidence of one execution fits its outcome. -/
structure CheckExecution.Evidenced (execution : CheckExecution) : Prop where
  passed : execution.outcome = .passed →
    execution.exitCode = some 0 ∧ execution.stdout ≠ none ∧ execution.stderr ≠ none
  unspawned : execution.spawned = false →
    execution.exitCode = none ∧ execution.stdout = none ∧ execution.stderr = none

/-- A skipped outcome comes under fail-fast and after one that is not a pass. -/
def SkipsAfterFailure (failFast : Bool) (outcomes : List CheckOutcome) : Prop :=
  ∀ position : Nat, outcomes[position]? = some .skipped → failFast = true ∧
    ∃ earlier : Nat, earlier < position ∧ ∃ outcome, outcomes[earlier]? = some outcome ∧
      outcome ≠ .passed

/-- Every recorded outcome is backed by what is recorded with it. -/
structure Backed (payload : ReceiptPayload) : Prop where
  evidenced : ∀ execution ∈ payload.checks, execution.Evidenced
  skips : SkipsAfterFailure payload.invocation.failFast
    (payload.checks.map fun execution => execution.outcome)

/-! What runs record -/

/-- A skipped outcome has a cause before it, or the loop had one before it began. -/
theorem OutcomesFrom.skipped_cause {failFast stop : Bool} {outcomes : List CheckOutcome}
    (allowed : OutcomesFrom failFast stop outcomes) (stopped : stop = true → failFast = true)
    {position : Nat} (skipped : outcomes[position]? = some .skipped) :
    failFast = true ∧ (stop = true ∨
      ∃ earlier : Nat, earlier < position ∧ ∃ outcome, outcomes[earlier]? = some outcome ∧
        outcome ≠ .passed) := by
  induction outcomes generalizing stop position with
  | nil => simp at skipped
  | cons outcome rest ih =>
      obtain ⟨flag, later⟩ := allowed
      cases position with
      | zero =>
          have set := flag.mpr (Option.some.inj skipped)
          exact ⟨stopped set, .inl set⟩
      | succ position =>
          have next : (failFast && outcome != .passed) = true → failFast = true := by
            intro set
            exact (Bool.and_eq_true_iff.mp set).1
          obtain ⟨fast, set | ⟨earlier, before, cause, found, failed⟩⟩ := ih later next skipped
          · have failed : outcome ≠ .passed := by simpa [fast] using set
            exact ⟨fast, .inr ⟨0, Nat.succ_pos _, outcome, rfl, failed⟩⟩
          · exact ⟨fast, .inr ⟨earlier + 1, Nat.succ_lt_succ before, cause, found, failed⟩⟩

section Run

variable [Sha2] {world : World} {here : CheckWorld} {store : StateStore}
  {invocation : Invocation} {discovery : DiscoveryReport}

private theorem executeCheck_unspawned {check : CheckDefinition} {maxLogBytes : UInt64}
    {execution : CheckExecution} {before after : RunState}
    (ran : executeCheck world here store check maxLogBytes before = .ok execution after)
    (unspawned : execution.spawned = false) : execution.exitCode = none := by
  obtain ⟨_, _, _, _, ⟨error, _, failing⟩ | ⟨_, _, _, supervising⟩⟩ := executeCheck_cases ran
  · rw [spawnFailedExecution_eq] at failing
    cases failing
    rfl
  · obtain ⟨_, _, _, unskipped, unfailed⟩ := supervisedExecution_silent supervising
    simp [CheckExecution.spawned, unskipped, unfailed] at unspawned

private theorem runCheck_unspawned {position : Nat} {stop : Bool} {check : CheckDefinition}
    {execution : CheckExecution} {before after : RunState}
    (ran : runCheck world store invocation position stop check before = .ok execution after)
    (unspawned : execution.spawned = false) : execution.exitCode = none := by
  obtain ⟨announced, between, rfl, ⟨rfl, skipping⟩ | ⟨rfl, executing⟩, rfl⟩ := runCheck_cases ran
  · rw [skippedExecution_eq] at skipping
    cases skipping
    rfl
  · exact executeCheck_unspawned executing unspawned

private theorem runLoop_unspawned {checks : List CheckDefinition} {position : Nat} {stop : Bool}
    {executions : List CheckExecution} {before after : RunState}
    (ran : runLoop world store invocation position stop checks before = .ok executions after) :
    ∀ execution ∈ executions, execution.spawned = false → execution.exitCode = none := by
  induction checks generalizing position stop executions before with
  | nil =>
      obtain ⟨rfl, rfl⟩ := runLoop_nil ran
      exact List.forall_mem_nil _
  | cons check rest ih =>
      obtain ⟨execution, others, between, rfl, executing, looping⟩ := runLoop_cons ran
      exact List.forall_mem_cons.mpr ⟨runCheck_unspawned executing, ih looping⟩

private theorem evidenced_of_recorded {maxLogBytes : UInt64} {execution : CheckExecution}
    {state : RunState} {entries : List (CheckDefinition × SuperviseState)}
    (recorded : Recorded store maxLogBytes state execution entries)
    (code : execution.spawned = false → execution.exitCode = none) : execution.Evidenced := by
  cases recorded with
  | skipped outcome stdout stderr =>
      refine ⟨fun passed => ?_, fun unspawned => ⟨code unspawned, stdout, stderr⟩⟩
      rw [outcome] at passed
      cases passed
  | spawnFailed outcome stdout stderr =>
      refine ⟨fun passed => ?_, fun unspawned => ⟨code unspawned, stdout, stderr⟩⟩
      rw [outcome] at passed
      cases passed
  | supervised known limit started outcome exited stdout stderr stdoutStored stderrStored set =>
      obtain ⟨unskipped, unfailed⟩ := @supervisedOutcome_spawned maxLogBytes _ _ _
      rw [← outcome] at unskipped unfailed
      constructor
      · intro passed
        obtain ⟨_, _, succeeded⟩ := supervisedOutcome_eq_passed_iff.mp (outcome.symm.trans passed)
        exact ⟨exited.trans succeeded, by simp [stdout], by simp [stderr]⟩
      · intro unspawned
        simp [CheckExecution.spawned, unskipped, unfailed] at unspawned

variable [JsonDiagnostics]

/-- Whatever a run returns is backed. -/
theorem runChecks_backed {receipt : Receipt} {start final : RunState}
    (ran : runChecks world store discovery invocation start = .ok receipt final) :
    Backed receipt.payload := by
  obtain ⟨_, _, ⟨_, _, _, _, assembled⟩, result⟩ := runChecks_ok ran
  obtain ⟨_, _, recorded⟩ := result.recorded
  obtain ⟨_, looping, _⟩ := runChecks_looped ran
  have sameInvocation : receipt.payload.invocation = invocation := by
    rw [assembled]
    rfl
  constructor
  · intro execution member
    obtain ⟨_, _, known⟩ := recorded.exists_right member
    exact evidenced_of_recorded known (runLoop_unspawned looping execution member)
  · intro position skipped
    rw [sameInvocation]
    obtain ⟨failFast, impossible | cause⟩ := (runLoop_reports looping).2.skipped_cause
      (fun stopped => absurd stopped Bool.false_ne_true) skipped
    · cases impossible
    · exact ⟨failFast, cause⟩

end Run

/-! What verification accepts -/

section Relabelling

variable [Sha2] {store : StateStore} {disk : Disk} {payload : ReceiptPayload}

/-- The payload with its outcome recomputed from its executions. -/
def ReceiptPayload.recomputed (payload : ReceiptPayload) : ReceiptPayload :=
  { payload with outcome := expectedOutcome payload }

/-- The payload with other outcomes of its checks, recomputed. -/
def ReceiptPayload.relabelled (payload : ReceiptPayload) (label : CheckExecution → CheckOutcome) :
    ReceiptPayload :=
  ReceiptPayload.recomputed { payload with
    checks := payload.checks.map fun execution => { execution with outcome := label execution } }

/-- The receipt of a relabelled payload, with digest and identifier recomputed. -/
def relabel (payload : ReceiptPayload) (label : CheckExecution → CheckOutcome) : Receipt :=
  buildReceipt (payload.relabelled label)

omit [Sha2] in
private theorem references_relabelled (label : CheckExecution → CheckOutcome) :
    (payload.relabelled label).references = payload.references := by
  simp only [ReceiptPayload.references, ReceiptPayload.relabelled, ReceiptPayload.recomputed,
    List.flatMap_map]
  rfl

omit [Sha2] in
private theorem ids_relabelled (label : CheckExecution → CheckOutcome) :
    ((payload.relabelled label).checks.map fun execution => execution.check.id) =
      payload.checks.map fun execution => execution.check.id := by
  simp [ReceiptPayload.relabelled, ReceiptPayload.recomputed, Function.comp_def]

omit [Sha2] in
private theorem executed_relabelled (label : CheckExecution → CheckOutcome) (id : String) :
    (∃ execution ∈ (payload.relabelled label).checks, execution.check.id = id) ↔
      ∃ execution ∈ payload.checks, execution.check.id = id := by
  rw [← List.mem_map, ids_relabelled, List.mem_map]

omit [Sha2] in
private theorem ordered_relabelled (label : CheckExecution → CheckOutcome) :
    (∀ execution ∈ (payload.relabelled label).checks,
      execution.startedUnixMs ≤ execution.completedUnixMs) ↔
      ∀ execution ∈ payload.checks, execution.startedUnixMs ≤ execution.completedUnixMs := by
  simp [ReceiptPayload.relabelled, ReceiptPayload.recomputed]

/-- No rule of verification but the recomputation reads an outcome of a check. -/
theorem soundPayload_relabelled_iff (label : CheckExecution → CheckOutcome) :
    SoundPayload store disk (payload.relabelled label) ↔
      SoundPayload store disk payload.recomputed := by
  constructor
  · intro sound
    exact {
      schema := sound.schema
      source := sound.source
      sourceUnchanged := sound.sourceUnchanged
      clock := sound.clock
      executed := fun id => (sound.executed id).trans (executed_relabelled label id)
      distinct := ids_relabelled label ▸ sound.distinct
      executionClock := (ordered_relabelled label).mp sound.executionClock
      references := references_relabelled label ▸ sound.references
      outcome := rfl
      blobs := references_relabelled label ▸ sound.blobs }
  · intro sound
    exact {
      schema := sound.schema
      source := sound.source
      sourceUnchanged := sound.sourceUnchanged
      clock := sound.clock
      executed := fun id => (sound.executed id).trans (executed_relabelled label id).symm
      distinct := (ids_relabelled label).symm ▸ sound.distinct
      executionClock := (ordered_relabelled label).mpr sound.executionClock
      references := (references_relabelled label).symm ▸ sound.references
      outcome := rfl
      blobs := (references_relabelled label).symm ▸ sound.blobs }

omit [Sha2] in
/-- Evidence that a pass needs is evidence that a skip must not have. -/
theorem exists_unbacked_label (some : payload.checks ≠ []) :
    ∃ label, ¬Backed (payload.relabelled label) := by
  obtain ⟨execution, member⟩ := List.exists_mem_of_ne_nil _ some
  have relabelled : ∀ outcome, { execution with outcome } ∈
      (payload.relabelled fun _ => outcome).checks := by
    intro outcome
    exact List.mem_map_of_mem member
  by_cases exited : execution.exitCode = none
  · refine ⟨fun _ => .passed, fun backed => ?_⟩
    obtain ⟨succeeded, _⟩ := (backed.evidenced _ (relabelled .passed)).passed rfl
    rw [exited] at succeeded
    cases succeeded
  · refine ⟨fun _ => .skipped, fun backed => ?_⟩
    exact exited ((backed.evidenced _ (relabelled .skipped)).unspawned rfl).1

variable [JsonDiagnostics]

/-- The receipts of runs are backed. Verification does not ask for it: whatever the
outcomes of a payload are relabelled to, only a payload without executions, or one
that breaks another rule, has none but backed versions that verify. -/
theorem verified_backed_iff (store : StateStore) (disk : Disk) (payload : ReceiptPayload) :
    (∀ (world : World) (discovery : DiscoveryReport) (invocation : Invocation)
      (start final : RunState) (receipt : Receipt),
      runChecks world store discovery invocation start = .ok receipt final →
      Backed receipt.payload) ∧
    ((∀ label, Verifies store disk (relabel payload label) →
        Backed (relabel payload label).payload) ↔
      payload.checks = [] ∨ ¬SoundPayload store disk payload.recomputed) := by
  refine ⟨fun _ _ _ _ _ _ => runChecks_backed, ?_, ?_⟩
  · intro backed
    by_contra! executed
    obtain ⟨some, sound⟩ := executed
    obtain ⟨label, unbacked⟩ := exists_unbacked_label some
    have verified : Verifies store disk (relabel payload label) :=
      verifies_iff_sound.mpr (sound_buildReceipt_iff.mpr ((soundPayload_relabelled_iff label).mpr
        sound))
    exact unbacked (backed label verified)
  · intro cause label verified
    rcases cause with none | unsound
    · have empty : (relabel payload label).payload.checks = [] := by
        simp [relabel, buildReceipt, ReceiptPayload.relabelled, ReceiptPayload.recomputed, none]
      refine ⟨?_, ?_⟩
      · rw [empty]
        exact List.forall_mem_nil _
      · rw [empty]
        exact fun position skipped => absurd skipped (by simp)
    · have sound := sound_buildReceipt_iff.mp (verifies_iff_sound.mp verified)
      exact absurd ((soundPayload_relabelled_iff label).mp sound) unsound

end Relabelling

/-- A check that exited with code 101 and was recorded as failed. -/
def failedPayload : ReceiptPayload :=
  { samplePayload with
    checks := [{ sampleExecution with outcome := .failed, exitCode := some 101 }]
    outcome := .failed }

private theorem soundPayload_failedPayload [Sha2] {store : StateStore} {disk : Disk} :
    SoundPayload store disk failedPayload where
  schema := rfl
  source := rfl
  sourceUnchanged := (@soundPayload_samplePayload _ store disk).sourceUnchanged
  clock := (@soundPayload_samplePayload _ store disk).clock
  executed := by
    simp [failedPayload, samplePayload, sampleDiscovery, sampleExecution, sampleCheck]
  distinct := List.nodup_singleton _
  executionClock := by simp [failedPayload, sampleExecution]
  references := by
    simp [ReceiptPayload.references, failedPayload, sampleExecution, CheckExecution.references]
  outcome := rfl
  blobs := by
    simp [ReceiptPayload.references, failedPayload, sampleExecution, CheckExecution.references]

/-- Relabelled as passed it verifies, and nothing backs the outcome. -/
theorem relabelledFailure_verifies :
    @Verifies standardSha2 ⟨"/state"⟩ Disk.empty (@buildReceipt standardSha2 failedPayload) ∧
      @Verifies standardSha2 ⟨"/state"⟩ Disk.empty
        (@relabel standardSha2 failedPayload fun _ => .passed) ∧
      (@relabel standardSha2 failedPayload fun _ => .passed).payload.outcome = .passed ∧
      ((@relabel standardSha2 failedPayload fun _ => .passed).payload.checks.map
        fun execution => (execution.outcome, execution.exitCode, execution.stdout)) =
          [(.passed, some 101, none)] ∧
      ¬Backed (@relabel standardSha2 failedPayload fun _ => .passed).payload := by
  let _ : Sha2 := standardSha2
  have recomputed : SoundPayload ⟨"/state"⟩ Disk.empty failedPayload.recomputed :=
    soundPayload_failedPayload
  refine ⟨?_, ?_, rfl, rfl, ?_⟩
  · exact verifies_iff_sound.mpr (sound_buildReceipt_iff.mpr soundPayload_failedPayload)
  · exact verifies_iff_sound.mpr (sound_buildReceipt_iff.mpr
      ((soundPayload_relabelled_iff _).mpr recomputed))
  · intro backed
    have succeeded := ((backed.evidenced _ (List.mem_singleton_self _)).passed rfl).1
    cases succeeded

end TaskAttest
