import TaskAttest.ExecuteProperties
import TaskAttest.VerifyProperties

/-! Whole runs: what the loop records of the selected checks, and when a run gets
as far as a stored receipt. -/

set_option autoImplicit false

namespace TaskAttest

open Program

section Loop

variable [Sha2] {world : World} {store : StateStore} {invocation : Invocation}

/-- A turn may begin and end with steps that supervise nothing. -/
theorem Executed.within {maxLogBytes : UInt64} {check : CheckDefinition}
    {execution : CheckExecution} {first before after last : RunState}
    (executed : Executed world store maxLogBytes check execution before after)
    (earlier : Advances first before) (sameBefore : before.supervised = first.supervised)
    (later : Advances after last) (sameAfter : last.supervised = after.supervised) :
    Executed world store maxLogBytes check execution first last where
  definition := executed.definition
  clock := executed.clock
  advances := (earlier.trans executed.advances).trans later
  recorded := by
    obtain ⟨entries, supervised, recorded⟩ := executed.recorded
    exact ⟨entries, by rw [sameAfter, supervised, sameBefore], recorded.advances later⟩

/-- A turn announces its check, skips or executes it, and reports how it ended. -/
theorem runCheck_cases {position : Nat} {stop : Bool} {check : CheckDefinition}
    {execution : CheckExecution} {before after : RunState}
    (ran : runCheck world store invocation position stop check before = .ok execution after) :
    ∃ announced between, announced = before.progressed world .checkStarted (some check.id) none
        none ∧
      (stop = true ∧ skippedExecution world check announced = .ok execution between ∨
        stop = false ∧ executeCheck world (world.check position) store check
          invocation.limits.maxLogBytesPerCheck announced = .ok execution between) ∧
      after = between.progressed world .checkFinished (some execution.check.id)
        (some execution.outcome) none := by
  simp only [runCheck, skipOrExecute, bind_ok_iff, onProgress, pure_apply] at ran
  obtain ⟨_, announced, ⟨⟩, execution, between, executing, _, _, ⟨⟩, ⟨⟩⟩ := ran
  refine ⟨_, between, rfl, ?_, rfl⟩
  cases stop with
  | true => exact .inl ⟨rfl, executing⟩
  | false => exact .inr ⟨rfl, executing⟩

theorem runLoop_nil {position : Nat} {stop : Bool} {executions : List CheckExecution}
    {before after : RunState}
    (ran : runLoop world store invocation position stop [] before = .ok executions after) :
    executions = [] ∧ after = before := by
  cases ran
  exact ⟨rfl, rfl⟩

/-- A loop is a turn and the loop over the other checks. -/
theorem runLoop_cons {position : Nat} {stop : Bool} {check : CheckDefinition}
    {rest : List CheckDefinition} {executions : List CheckExecution} {before after : RunState}
    (ran : runLoop world store invocation position stop (check :: rest) before =
      .ok executions after) :
    ∃ execution others between, executions = execution :: others ∧
      runCheck world store invocation position stop check before = .ok execution between ∧
      runLoop world store invocation (position + 1)
        (invocation.failFast && execution.outcome != .passed) rest between = .ok others after := by
  simp only [runLoop, bind_ok_iff, pure_apply, EStateM.Result.ok.injEq] at ran
  obtain ⟨execution, between, turned, others, _, looping, rfl, rfl⟩ := ran
  exact ⟨execution, others, between, rfl, turned, looping⟩

theorem runCheck_ok {position : Nat} {stop : Bool} {check : CheckDefinition}
    {execution : CheckExecution} {before after : RunState}
    (ran : runCheck world store invocation position stop check before = .ok execution after) :
    Executed world store invocation.limits.maxLogBytesPerCheck check execution before after := by
  obtain ⟨announced, between, rfl, turn, rfl⟩ := runCheck_cases ran
  have executed : Executed world store invocation.limits.maxLogBytesPerCheck check execution
      (before.progressed world .checkStarted (some check.id) none none) between := by
    rcases turn with ⟨_, skipping⟩ | ⟨_, executing⟩
    · exact skippedExecution_ok skipping
    · exact executeCheck_ok executing
  exact executed.within (.progressed _ _ _ _ _) rfl (.progressed _ _ _ _ _) rfl

/-- What the loop leaves: one execution for each check in order, each recorded,
and no supervision besides theirs. -/
structure LoopResult (world : World) (store : StateStore) (maxLogBytes : UInt64)
    (checks : List CheckDefinition) (executions : List CheckExecution)
    (before after : RunState) : Prop where
  definitions : (executions.map fun execution => execution.check) = checks
  clock : ∀ execution ∈ executions, ∃ earlier later, earlier ≤ later ∧
    execution.startedUnixMs = world.clock earlier ∧ execution.completedUnixMs = world.clock later
  advances : Advances before after
  recorded : ∃ entries : List (List (CheckDefinition × SuperviseState)),
    after.supervised = before.supervised ++ entries.flatten ∧
      List.Forall₂ (Recorded store maxLogBytes after) executions entries

private theorem runLoop_ok {checks : List CheckDefinition} {position : Nat} {stop : Bool}
    {executions : List CheckExecution} {before after : RunState}
    (ran : runLoop world store invocation position stop checks before = .ok executions after) :
    LoopResult world store invocation.limits.maxLogBytesPerCheck checks executions before
      after := by
  induction checks generalizing position stop executions before with
  | nil =>
      obtain ⟨rfl, rfl⟩ := runLoop_nil ran
      exact ⟨rfl, List.forall_mem_nil _, .refl _, [], by simp, .nil⟩
  | cons check rest ih =>
      obtain ⟨execution, others, between, rfl, executing, looping⟩ := runLoop_cons ran
      have executed := runCheck_ok executing
      have looped := ih looping
      obtain ⟨entries, supervised, recorded⟩ := executed.recorded
      obtain ⟨otherEntries, otherSupervised, othersRecorded⟩ := looped.recorded
      refine ⟨?_, ?_, executed.advances.trans looped.advances, entries :: otherEntries, ?_,
        .cons (recorded.advances looped.advances) othersRecorded⟩
      · rw [List.map_cons, executed.definition, looped.definitions]
      · exact List.forall_mem_cons.mpr ⟨executed.clock, looped.clock⟩
      · rw [otherSupervised, supervised, List.flatten_cons, List.append_assoc]

end Loop

/-! The whole run -/

section Run

variable [Sha2] {world : World} {store : StateStore} {discovery : DiscoveryReport}
  {invocation : Invocation}

/-- What is known of a run that returns a receipt. -/
structure RunResult (world : World) (store : StateStore) (discovery : DiscoveryReport)
    (invocation : Invocation) (start final : RunState) (executions : List CheckExecution)
    (payload : ReceiptPayload) : Prop where
  source : identifySource world.after = .ok payload.sourceAfter
  payload : ∃ earlier later durationMs, earlier ≤ later ∧
    payload = assemblePayload world discovery invocation executions payload.sourceAfter
      final.cancelledAtOutcome (world.clock earlier) (world.clock later) durationMs
  looped : LoopResult world store invocation.limits.maxLogBytesPerCheck (selectedChecks discovery)
    executions start final

theorem LoopResult.within {maxLogBytes : UInt64} {checks : List CheckDefinition}
    {executions : List CheckExecution} {first before after last : RunState}
    (looped : LoopResult world store maxLogBytes checks executions before after)
    (earlier : Advances first before) (sameBefore : before.supervised = first.supervised)
    (later : Advances after last) (sameAfter : last.supervised = after.supervised) :
    LoopResult world store maxLogBytes checks executions first last where
  definitions := looped.definitions
  clock := looped.clock
  advances := (earlier.trans looped.advances).trans later
  recorded := by
    obtain ⟨entries, supervised, recorded⟩ := looped.recorded
    exact ⟨entries, by rw [sameAfter, supervised, sameBefore],
      recorded.imp fun _ _ known => known.advances later⟩

/-- A payload is assembled from a loop that returned and a source that was identified. -/
theorem collectEvidence_cases {payload : ReceiptPayload} {before after : RunState}
    (ran : collectEvidence world store discovery invocation before = .ok payload after) :
    ∃ executions looped source,
      runLoop world store invocation 0 false (selectedChecks discovery)
        (before.observed world) = .ok executions looped ∧
      identifySource world.after = .ok source ∧
      payload = assemblePayload world discovery invocation executions source
        (looped.observed world).cancelled (world.clock before.moment)
        (world.clock (looped.moment + 1)) (world.elapsed (looped.moment + 2)) ∧
      after = { looped.observed world with
        cancelledAtOutcome := (looped.observed world).cancelled }.observed world := by
  simp only [collectEvidence, bind_ok_iff, unixTimeMs, elapsedMs, isCancelled, pure_apply] at ran
  obtain ⟨_, _, ⟨⟩, executions, looped, looping, source, named, identifying, _, _, ⟨⟩, _, _, ⟨⟩,
    _, _, ⟨⟩, ⟨⟩⟩ := ran
  cases identified : identifySource world.after with
  | error error =>
      rw [identified] at identifying
      cases identifying
  | ok found =>
      rw [identified] at identifying
      cases identifying
      exact ⟨executions, looped, source, looping, rfl, rfl, rfl⟩

theorem collectEvidence_ok {payload : ReceiptPayload} {before after : RunState}
    (ran : collectEvidence world store discovery invocation before = .ok payload after) :
    RunResult world store discovery invocation before after payload.checks payload := by
  obtain ⟨executions, looped, source, looping, identified, rfl, rfl⟩ := collectEvidence_cases ran
  have result := runLoop_ok looping
  refine ⟨identified, ⟨before.moment, looped.moment + 1, _, ?_, rfl⟩, ?_⟩
  · exact Nat.le_succ_of_le (Nat.le_of_succ_le result.advances.moment)
  · refine result.within (.observed before) rfl ⟨.refl, ?_, ?_, fun _ member => member⟩ rfl
    · exact Nat.le_add_right _ 2
    · intro set
      simp [RunState.observed, set]

/-- Once the checks have run and the source is identified, the payload is collected. -/
theorem collectEvidence_eq {start looped : RunState} {executions : List CheckExecution}
    {source : SourceIdentity}
    (executed : runLoop world store invocation 0 false (selectedChecks discovery)
      (start.observed world) = .ok executions looped)
    (identified : identifySource world.after = .ok source) :
    collectEvidence world store discovery invocation start =
      .ok (assemblePayload world discovery invocation executions source
          (looped.observed world).cancelled (world.clock start.moment)
          (world.clock (looped.moment + 1)) (world.elapsed (looped.moment + 2)))
        ({ looped.observed world with
          cancelledAtOutcome := (looped.observed world).cancelled }.observed world) := by
  have named : ofExcept (identifySource world.after) looped = .ok source looped := by
    rw [identified]
    rfl
  have started : unixTimeMs world start = .ok (world.clock start.moment) (start.observed world) :=
    rfl
  rw [collectEvidence, bind_of_ok started, bind_of_ok executed,
    bind_of_ok named]
  rfl

variable [JsonDiagnostics]

/-- A run that returns stores the receipt of what it collected, and announces it. -/
theorem runChecks_cases {receipt : Receipt} {before after : RunState}
    (ran : runChecks world store discovery invocation before = .ok receipt after) :
    ∃ payload collected path stored,
      collectEvidence world store discovery invocation before = .ok payload collected ∧
      storeReceipt world.process world.publish store (buildReceipt payload) collected =
        .ok path stored ∧
      receipt = buildReceipt payload ∧
      after = stored.progressed world .receiptStored none none (some receipt.receiptId) := by
  simp only [runChecks, bind_ok_iff, onProgress, pure_apply] at ran
  obtain ⟨payload, collected, collecting, path, stored, storing, _, _, ⟨⟩, ⟨⟩⟩ := ran
  exact ⟨payload, collected, path, stored, collecting, storing, rfl, rfl⟩

theorem runChecks_ok {receipt : Receipt} {before after : RunState}
    (ran : runChecks world store discovery invocation before = .ok receipt after) :
    receipt = buildReceipt receipt.payload ∧
      RunResult world store discovery invocation before after receipt.payload.checks
        receipt.payload := by
  obtain ⟨payload, collected, path, stored, collecting, storing, rfl, rfl⟩ := runChecks_cases ran
  refine ⟨rfl, ?_⟩
  obtain ⟨source, assembled, looped⟩ := collectEvidence_ok collecting
  simp only [storeReceipt] at storing
  split at storing
  · rename_i target next disk written
    cases storing
    have kept := @writeReceipt_extends collected.disk world.publish _ store world.process
      collected.jsonSequence (buildReceipt payload)
    rw [written] at kept
    refine ⟨source, assembled, looped.within (.refl _) rfl ?_ rfl⟩
    refine ⟨kept, Nat.le_succ _, ?_, fun _ member => member⟩
    intro set
    simp [RunState.progressed, RunState.observed, set]
  · cases storing

/-- A collected payload that the store takes ends the run. -/
theorem runChecks_eq {start collected : RunState} {payload : ReceiptPayload} {path : String}
    {next : Nat} {disk : Disk}
    (collecting : collectEvidence world store discovery invocation start = .ok payload collected)
    (written : store.writeReceipt world.process world.publish (buildReceipt payload)
      collected.jsonSequence collected.disk = (.ok path, next, disk)) :
    runChecks world store discovery invocation start = .ok (buildReceipt payload)
      ({ collected with jsonSequence := next, disk }.progressed world .receiptStored none none
        (some (buildReceipt payload).receiptId)) := by
  have storing : storeReceipt world.process world.publish store (buildReceipt payload) collected =
      .ok path { collected with jsonSequence := next, disk } := by
    simp only [storeReceipt, written]
  rw [runChecks, bind_of_ok collecting]
  simp only [bind_of_ok storing]
  rfl

/-- When the source cannot be identified after the checks, there is no receipt. -/
theorem runChecks_of_unidentified {start looped : RunState} {executions : List CheckExecution}
    {error : TaskError}
    (executed : runLoop world store invocation 0 false (selectedChecks discovery)
      (start.observed world) = .ok executions looped)
    (unidentified : identifySource world.after = .error error) :
    runChecks world store discovery invocation start = .error error looped := by
  have failed : ofExcept (identifySource world.after) looped = .error error looped := by
    rw [unidentified]
    rfl
  have started : unixTimeMs world start = .ok (world.clock start.moment) (start.observed world) :=
    rfl
  rw [runChecks]
  refine bind_of_error ?_
  rw [collectEvidence, bind_of_ok started, bind_of_ok executed]
  exact bind_of_error failed

end Run

end TaskAttest
