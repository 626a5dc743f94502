import TaskAttest.RunReceiptProperties

/-! The log limit under every interleaving of the two capture threads and the
polling loop. -/

set_option autoImplicit false

namespace TaskAttest

/-- A thread has counted a chunk beyond the limit and has not said so yet. -/
def CaptureThread.Owes (maxLogBytes : UInt64) (thread : CaptureThread) : Prop :=
  ∃ chunk combined, thread.phase = .flagging chunk combined ∧
    maxLogBytes.toNat < combined.toNat + chunk.length

/-- The budget as one thread knows it, with what the other thread owes. -/
structure BudgetKept (maxLogBytes : UInt64) (thread : CaptureThread) (budget : LogBudget)
    (others : Prop) : Prop where
  flagged : budget.limitExceeded = true → maxLogBytes.toNat < budget.totalBytes.toNat
  behind : ∀ {chunk : List UInt8} {combined : UInt64}, thread.phase = .flagging chunk combined →
    combined.toNat + chunk.length ≤ budget.totalBytes.toNat
  owed : maxLogBytes.toNat < budget.totalBytes.toNat →
    budget.limitExceeded = true ∨ thread.Owes maxLogBytes ∨ others

/-- A step that leaves the budget alone and begins no flagging keeps what is known. -/
theorem BudgetKept.idle {maxLogBytes : UInt64} {before after : CaptureThread} {budget : LogBudget}
    {others : Prop} (kept : BudgetKept maxLogBytes before budget others)
    (notBefore : ∀ chunk combined, before.phase ≠ .flagging chunk combined)
    (notAfter : ∀ chunk combined, after.phase ≠ .flagging chunk combined) :
    BudgetKept maxLogBytes after budget others where
  flagged := kept.flagged
  behind := fun flagging => absurd flagging (notAfter _ _)
  owed := by
    intro beyond
    rcases kept.owed beyond with flagged | ⟨chunk, combined, flagging, _⟩ | others
    · exact .inl flagged
    · exact absurd flagging (notBefore _ _)
    · exact .inr (.inr others)

/-- What the other thread knows after a step of the first. -/
theorem BudgetKept.after {maxLogBytes : UInt64} {first second : CaptureThread}
    {budget added : LogBudget}
    (kept : BudgetKept maxLogBytes first added (second.Owes maxLogBytes))
    (grown : budget.totalBytes.toNat ≤ added.totalBytes.toNat) {others : Prop}
    (before : BudgetKept maxLogBytes second budget others) :
    BudgetKept maxLogBytes second added (first.Owes maxLogBytes) where
  flagged := kept.flagged
  behind := fun flagging => (before.behind flagging).trans grown
  owed := fun beyond => (kept.owed beyond).imp_right Or.symm

private theorem flag_limitExceeded_iff {maxLogBytes : UInt64} {budget : LogBudget}
    {chunk : List UInt8}
    {combined : UInt64}     (bounded : combined.toNat + chunk.length < 2 ^ 64) :
    (budget.flag maxLogBytes chunk combined).limitExceeded = true ↔
      budget.limitExceeded = true ∨ maxLogBytes.toNat < combined.toNat + chunk.length := by
  have length : (chunkBytes chunk).toNat = chunk.length := by
    rw [chunkBytes, UInt64.toNat_ofNat', Nat.min_eq_left (by omega), Nat.mod_eq_of_lt (by omega)]
  have sum : (saturatingAdd combined (chunkBytes chunk)).toNat = combined.toNat + chunk.length := by
    rw [toNat_saturatingAdd (by omega), length]
  have beyond : saturatingAdd combined (chunkBytes chunk) > maxLogBytes ↔
      maxLogBytes.toNat < combined.toNat + chunk.length := by
    rw [gt_iff_lt, UInt64.lt_iff_toNat_lt, sum]
  unfold LogBudget.flag
  split
  · rename_i exceeds
    exact iff_of_true rfl (.inr (beyond.mp exceeds))
  · rename_i within
    exact ⟨.inl, fun either => either.resolve_right fun exceeds => within (beyond.mpr exceeds)⟩

section Threads

variable [Sha2] {path : String} {maxLogBytes : UInt64}

/-- One step of a thread: what it counts beyond the limit it owes, until it has set the flag. -/
theorem captureStep_budget {before after : CaptureThread} {budget added : LogBudget}
    {counted : Nat} {others : Prop}
    (step : CaptureStep path maxLogBytes (before, budget) (after, added))
    (invariant : before.Invariant path) (othersBounded : counted ≤ maxFileBytes)
    (total : budget.totalBytes.toNat = before.counted + counted)
    (kept : BudgetKept maxLogBytes before budget others) :
    BudgetKept maxLogBytes after added others ∧
      budget.totalBytes.toNat ≤ added.totalBytes.toNat := by
  obtain ⟨_, addedTotal⟩ := captureStep_invariant step invariant othersBounded total
  have idle (reading : before.phase = .reading ∨ before.phase = .syncing) (chunk : List UInt8)
      (combined : UInt64) : before.phase ≠ .flagging chunk combined := by
    rcases reading with phase | phase <;> simp [phase]
  cases step with
  | read chunk running reading nonempty short fits =>
      exact ⟨kept.idle (idle (.inl reading)) (by simp [CaptureThread.absorb]), Nat.le_refl _⟩
  | readFails error running reading =>
      exact ⟨kept.idle (idle (.inl reading)) (by simp [CaptureThread.fail]), Nat.le_refl _⟩
  | writeFails chunk torn error running reading short isPrefix =>
      exact ⟨kept.idle (idle (.inl reading)) (by simp [CaptureThread.fail]), Nat.le_refl _⟩
  | endOfStream running reading =>
      exact ⟨kept.idle (idle (.inl reading)) (by simp), Nat.le_refl _⟩
  | sync running syncing =>
      exact ⟨kept.idle (idle (.inr syncing)) (by simp), Nat.le_refl _⟩
  | syncFails error running syncing =>
      exact ⟨kept.idle (idle (.inr syncing)) (by simp [CaptureThread.fail]), Nat.le_refl _⟩
  | panic running => exact ⟨⟨kept.flagged, kept.behind, kept.owed⟩, Nat.le_refl _⟩
  | @count _ _ chunk running counting =>
      have pending := invariant.pending
      simp only [CaptureThread.counted, CaptureThread.pending, counting, List.length_nil,
        Nat.sub_zero] at total addedTotal pending
      have grown : (budget.add chunk).totalBytes.toNat =
          budget.totalBytes.toNat + chunk.length := by omega
      refine ⟨⟨?_, ?_, ?_⟩, by omega⟩
      · intro flagged
        have earlier := kept.flagged flagged
        omega
      · intro other combined flagging
        cases flagging
        exact grown.ge
      · intro beyond
        exact .inr (.inl ⟨chunk, _, rfl, grown ▸ beyond⟩)
  | @flag _ _ chunk combined running flagging =>
      have small := (budget.totalBytes).toNat_lt
      have behind := kept.behind flagging
      have flag := @flag_limitExceeded_iff maxLogBytes budget chunk combined (by omega)
      obtain ⟨_, _, _, phase, _⟩ := before.keepTail_fields chunk
      rw [LogBudget.flag_totalBytes]
      refine ⟨⟨?_, ?_, ?_⟩, Nat.le_refl _⟩
      · intro set
        rw [LogBudget.flag_totalBytes]
        rcases flag.mp set with already | exceeds
        · exact kept.flagged already
        · omega
      · intro other later again
        rw [phase] at again
        cases again
      · intro beyond
        rw [LogBudget.flag_totalBytes] at beyond
        rcases kept.owed beyond with flagged | ⟨own, ownCombined, ownFlagging, exceeds⟩ | others
        · exact .inl (flag.mpr (.inl flagged))
        · rw [flagging] at ownFlagging
          cases ownFlagging
          exact .inl (flag.mpr (.inr exceeds))
        · exact .inr (.inr others)

end Threads

/-! The whole supervision -/

section Supervisions

variable [Sha2] {setup : SuperviseSetup}

structure BudgetInvariant (setup : SuperviseSetup) (state : SuperviseState) : Prop where
  stdout : BudgetKept setup.maxLogBytes state.stdout state.budget
    (state.stderr.Owes setup.maxLogBytes)
  stderr : BudgetKept setup.maxLogBytes state.stderr state.budget
    (state.stdout.Owes setup.maxLogBytes)
  terminating : state.phase = .terminating .logLimit →
    setup.maxLogBytes.toNat < state.budget.totalBytes.toNat
  forced : ∀ {status : ExitStatus}, state.phase = .joining (some .logLimit) status →
    setup.maxLogBytes.toNat < state.budget.totalBytes.toNat

omit [Sha2] in
private theorem budgetInvariant_initial : BudgetInvariant setup setup.initial where
  stdout := ⟨nofun, nofun, fun beyond => absurd beyond (Nat.not_lt_zero _)⟩
  stderr := ⟨nofun, nofun, fun beyond => absurd beyond (Nat.not_lt_zero _)⟩
  terminating := nofun
  forced := nofun

private theorem budgetInvariant_step {before after : SuperviseState}
    (step : SuperviseStep setup before after) (invariant : SuperviseInvariant setup before)
    (kept : BudgetInvariant setup before) : BudgetInvariant setup after := by
  obtain ⟨stdout, stderr, terminating, forced⟩ := kept
  cases step with
  | cancel => exact ⟨stdout, stderr, terminating, forced⟩
  | expire => exact ⟨stdout, stderr, terminating, forced⟩
  | exit status running => exact ⟨stdout, stderr, terminating, forced⟩
  | stdout step =>
      obtain ⟨first, grown⟩ := captureStep_budget step invariant.stdout
        (counted_le invariant.stderr) invariant.total stdout
      exact ⟨first, first.after grown stderr, fun phase => (terminating phase).trans_le grown,
        fun phase => (forced phase).trans_le grown⟩
  | stderr step =>
      obtain ⟨second, grown⟩ := captureStep_budget step invariant.stderr
        (counted_le invariant.stdout) (invariant.total.trans (Nat.add_comm _ _)) stderr
      exact ⟨second.after grown stdout, second, fun phase => (terminating phase).trans_le grown,
        fun phase => (forced phase).trans_le grown⟩
  | stillRunning waiting running => exact ⟨stdout, stderr, nofun, nofun⟩
  | hasExited waiting hasExited => exact ⟨stdout, stderr, nofun, nofun⟩
  | waitFails error waiting => exact ⟨stdout, stderr, nofun, nofun⟩
  | stop checking holds =>
      refine ⟨stdout, stderr, ?_, nofun⟩
      intro stopping
      cases stopping
      exact stdout.flagged holds
  | @proceed reason checking holds =>
      cases reason <;> exact ⟨stdout, stderr, nofun, nofun⟩
  | terminate status stopping running =>
      refine ⟨stdout, stderr, nofun, ?_⟩
      intro other joining
      cases joining
      exact terminating stopping
  | alreadyExited stopping hasExited =>
      refine ⟨stdout, stderr, nofun, ?_⟩
      intro other joining
      cases joining
      exact terminating stopping
  | terminationFails error stopping => exact ⟨stdout, stderr, nofun, nofun⟩
  | wake sleeping => exact ⟨stdout, stderr, nofun, nofun⟩

private theorem budgetInvariant_run {state : SuperviseState}
    (run : Transition.Run (SuperviseStep setup) setup.initial state) :
    BudgetInvariant setup state := by
  induction run with
  | refl => exact budgetInvariant_initial
  | tail earlier step ih => exact budgetInvariant_step step (superviseInvariant_run earlier) ih

/-- Both threads are done: the counter is exact and the flag says whether it is beyond. -/
theorem superviseRun_exact {state : SuperviseState} {stdout stderr : Capture}
    (run : Transition.Run (SuperviseStep setup) setup.initial state)
    (stdoutDone : state.stdout.phase = .finished (.ok stdout))
    (stderrDone : state.stderr.phase = .finished (.ok stderr)) :
    state.budget.totalBytes.toNat = stdout.bytes.toNat + stderr.bytes.toNat ∧
      (state.budget.limitExceeded = true ↔
        setup.maxLogBytes.toNat < stdout.bytes.toNat + stderr.bytes.toNat) := by
  have invariant := superviseInvariant_run run
  have kept := budgetInvariant_run run
  have total : state.budget.totalBytes.toNat = stdout.bytes.toNat + stderr.bytes.toNat := by
    rw [invariant.total, counted_finished invariant.stdout stdoutDone,
      counted_finished invariant.stderr stderrDone]
  refine ⟨total, ?_⟩
  rw [← total]
  refine ⟨kept.stdout.flagged, fun beyond => ?_⟩
  rcases kept.stdout.owed beyond with flagged | ⟨_, _, flagging, _⟩ | ⟨_, _, flagging, _⟩
  · exact flagged
  · rw [stdoutDone] at flagging
    cases flagging
  · rw [stderrDone] at flagging
    cases flagging

/-- The outcome of a supervised check with respect to the log limit. -/
theorem supervisedOutcome_limit {supervision : Supervision setup}
    {forced : Option StopReason} {status : ExitStatus} {stdout stderr : Capture}
    (returned : supervision.result = .ok (forced, status, stdout, stderr)) :
    (supervisedOutcome setup.maxLogBytes forced status supervision.ended.budget =
        .logLimitExceeded →
      setup.maxLogBytes.toNat < stdout.bytes.toNat + stderr.bytes.toNat) ∧
    (setup.maxLogBytes.toNat < stdout.bytes.toNat + stderr.bytes.toNat →
      supervisedOutcome setup.maxLogBytes forced status supervision.ended.budget ∈
        [CheckOutcome.logLimitExceeded, .timedOut, .cancelled]) := by
  obtain ⟨joining, stdoutJoined, stderrJoined⟩ := Supervision.result_joined returned
  obtain ⟨total, _⟩ := superviseRun_exact supervision.reached (joinCapture_ok stdoutJoined)
    (joinCapture_ok stderrJoined)
  have kept := budgetInvariant_run supervision.reached
  have beyond : supervision.ended.budget.totalBytes > setup.maxLogBytes ↔
      setup.maxLogBytes.toNat < stdout.bytes.toNat + stderr.bytes.toNat := by
    rw [gt_iff_lt, UInt64.lt_iff_toNat_lt, total]
  unfold supervisedOutcome
  cases forced with
  | some reason =>
      constructor
      · intro limited
        cases reason with
        | logLimit => exact total ▸ kept.forced joining
        | cancellation => cases limited
        | deadline => cases limited
      · intro _
        cases reason <;> simp [StopReason.outcome]
  | none =>
      constructor
      · intro limited
        by_cases exceeds : supervision.ended.budget.totalBytes > setup.maxLogBytes
        · exact beyond.mp exceeds
        · simp only [if_neg exceeds] at limited
          split at limited <;> cases limited
      · intro exceeds
        simp only [if_pos (beyond.mpr exceeds)]
        exact List.mem_cons_self ..

end Supervisions

/-! The record of a check -/

section Records

variable [Sha2]

open Program

/-- A record that is not of a failed start comes from a supervision. -/
theorem executeCheck_supervision {world : World} {here : CheckWorld} {store : StateStore}
    {check : CheckDefinition} {maxLogBytes : UInt64} {execution : CheckExecution}
    {before after : RunState}
    (ran : executeCheck world here store check maxLogBytes before = .ok execution after) :
    execution.outcome = .spawnFailed ∧ execution.stdout = none ∨
      ∃ (setup : SuperviseSetup) (supervision : Supervision setup) (forced : Option StopReason)
        (status : ExitStatus) (stdout stderr : Capture),
        setup.maxLogBytes = maxLogBytes ∧
        supervision.result = .ok (forced, status, stdout, stderr) ∧
        execution.outcome = supervisedOutcome maxLogBytes forced status supervision.ended.budget ∧
        execution.stdout = some (logReference stdout) ∧
        execution.stderr = some (logReference stderr) := by
  obtain ⟨_, _, _, _, ⟨error, _, failing⟩ | ⟨_, _, _, supervising⟩⟩ := executeCheck_cases ran
  · rw [spawnFailedExecution_eq] at failing
    cases failing
    exact .inl ⟨rfl, rfl⟩
  · obtain ⟨_, _, _, _, _, _, _, _, _, returned, _, _, rfl, rfl⟩ :=
      supervisedExecution_cases supervising
    exact .inr ⟨_, _, _, _, _, _, rfl, returned, rfl, rfl, rfl⟩

/-- The log limit is exact: for the counter and the flag in every state of a
supervision, and for what is recorded of a check. -/
theorem logLimit_exact :
    (∀ (setup : SuperviseSetup) (state : SuperviseState),
      Transition.Run (SuperviseStep setup) setup.initial state →
      (state.budget.limitExceeded = true →
        setup.maxLogBytes.toNat < state.budget.totalBytes.toNat) ∧
      ∀ stdout stderr : Capture, state.stdout.phase = .finished (.ok stdout) →
        state.stderr.phase = .finished (.ok stderr) →
        state.budget.totalBytes.toNat = stdout.bytes.toNat + stderr.bytes.toNat ∧
        (state.budget.limitExceeded = true ↔
          setup.maxLogBytes.toNat < stdout.bytes.toNat + stderr.bytes.toNat)) ∧
    ∀ (world : World) (here : CheckWorld) (store : StateStore) (check : CheckDefinition)
      (maxLogBytes : UInt64) (execution : CheckExecution) (before after : RunState),
      executeCheck world here store check maxLogBytes before = .ok execution after →
      (execution.outcome ≠ .spawnFailed → ∃ stdout stderr,
        execution.stdout = some stdout ∧ execution.stderr = some stderr) ∧
      (execution.outcome = .logLimitExceeded → ∃ stdout stderr,
        execution.stdout = some stdout ∧ execution.stderr = some stderr ∧
        maxLogBytes.toNat < stdout.bytes.toNat + stderr.bytes.toNat) ∧
      ∀ stdout stderr : LogReference, execution.stdout = some stdout →
        execution.stderr = some stderr →
        maxLogBytes.toNat < stdout.bytes.toNat + stderr.bytes.toNat →
        execution.outcome ∈ [CheckOutcome.logLimitExceeded, .timedOut, .cancelled] := by
  constructor
  · intro setup state run
    refine ⟨(budgetInvariant_run run).stdout.flagged, ?_⟩
    intro stdout stderr stdoutDone stderrDone
    exact superviseRun_exact run stdoutDone stderrDone
  · intro world here store check maxLogBytes execution before after ran
    rcases executeCheck_supervision ran with ⟨failed, missing⟩ |
      ⟨setup, supervision, forced, status, stdout, stderr, rfl, returned, outcome, first, second⟩
    · rw [failed, missing]
      exact ⟨fun started => absurd rfl started, nofun, nofun⟩
    · obtain ⟨limited, beyond⟩ := supervisedOutcome_limit returned
      rw [outcome, first, second]
      refine ⟨fun _ => ⟨_, _, rfl, rfl⟩, fun exceeded => ⟨_, _, rfl, rfl, limited exceeded⟩, ?_⟩
      intro stdoutReference stderrReference sameStdout sameStderr exceeds
      cases sameStdout
      cases sameStderr
      exact beyond exceeds

end Records

section Sample

attribute [local instance] standardSha2

/-- A limit of one byte, and a check that writes one to each stream. -/
def strictSetup : SuperviseSetup where
  checkId := "unit"
  maxLogBytes := 1
  stdoutPath := stdoutLog
  stderrPath := stderrLog
  cancelled := false

/-- Neither stream is beyond the limit, both together are. -/
theorem logLimit_exact_over :
    ((passing.ended strictSetup).budget.limitExceeded = true ↔
      1 < (passing.capture stdoutLog).bytes.toNat + (passing.capture stderrLog).bytes.toNat) ∧
    ∃ execution after, executeCheck (passing.world fun _ => 1) passing.here quietStore quietCheck 1
        (.start Disk.empty 0 0 false) = .ok execution after ∧
      execution.outcome = .logLimitExceeded ∧
      ∃ stdout stderr, execution.stdout = some stdout ∧ execution.stderr = some stderr ∧
        1 < stdout.bytes.toNat + stderr.bytes.toNat := by
  obtain ⟨settled, recorded⟩ := logLimit_exact
  obtain ⟨_, flagged⟩ := (settled strictSetup _ (passing.ended_reached strictSetup)).2 _ _ rfl rfl
  obtain ⟨after, ran, _⟩ := @Chunk.executeCheck_eq _ passing (fun _ => 1) quietCheck 1
    (.start Disk.empty 0 0 false) rfl Chunk.fresh_empty rfl
  obtain ⟨_, limited, _⟩ := recorded _ _ _ _ _ _ _ _ ran
  exact ⟨flagged, _, after, ran, rfl, limited rfl⟩

end Sample

end TaskAttest
