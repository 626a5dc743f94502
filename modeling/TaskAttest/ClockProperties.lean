import TaskAttest.RunShapeProperties

/-! What of a run depends on the wall clock: the times it records, and with them
whether its receipt verifies. -/

set_option autoImplicit false

namespace TaskAttest

open Program

/-! Everything but the times -/

/-- An execution without its times. -/
def CheckExecution.untimed (execution : CheckExecution) : CheckExecution :=
  { execution with startedUnixMs := 0, completedUnixMs := 0 }

/-- A progress event without its time. -/
def Emitted.untimed (emitted : Emitted) : Emitted :=
  { emitted with event := { emitted.event with unixMs := 0 } }

/-- Two states of a run that differ in the times of their events only. -/
def SameButTimes (first second : RunState) : Prop :=
  ∃ events, second = { first with events } ∧
    events.map Emitted.untimed = first.events.map Emitted.untimed

def SameUntimed (first second : CheckExecution) : Prop := first.untimed = second.untimed

/-! Parts of a run that know nothing of events -/

section Eventless

variable {Value : Type}

/-- An end of a run, with other events. -/
def withEvents (events : List Emitted) :
    EStateM.Result TaskError RunState Value → EStateM.Result TaskError RunState Value
  | .ok value state => .ok value { state with events }
  | .error fault state => .error fault { state with events }

/-- The program neither reads nor writes events. -/
def Eventless (program : RunM Value) : Prop :=
  ∀ (state : RunState) (events : List Emitted),
    program { state with events } = withEvents events (program state)

theorem Eventless.related {program : RunM Value} (eventless : Eventless program) :
    Related SameButTimes Eq program program := by
  intro before beside ⟨events, other, same⟩
  have kept : program before = withEvents before.events (program before) :=
    eventless before before.events
  rw [other, eventless before events]
  cases ran : program before with
  | ok value after =>
      rw [ran] at kept
      injection kept with _ known
      have state : after.events = before.events := by rw [known]
      exact .ok rfl ⟨events, rfl, by rw [same, state]⟩
  | error fault after =>
      rw [ran] at kept
      injection kept with _ known
      have state : after.events = before.events := by rw [known]
      exact .error ⟨events, rfl, by rw [same, state]⟩

private theorem eventless_ofExcept (result : Except TaskError Value) :
    Eventless (ofExcept result) := by
  intro state events
  cases result <;> rfl

private theorem eventless_onDisk (operation : Disk → Except TaskError Value × Disk) :
    Eventless (onDisk operation) := by
  intro state events
  simp only [onDisk]
  rcases operation state.disk with ⟨value | fault, disk⟩ <;> rfl

private theorem eventless_createFile (allocation : Allocation) (faults : Nat → Option IoError) :
    Eventless (createFile allocation faults) := by
  intro state events
  simp only [createFile]
  rcases allocation.run faults allocationAttempts state.logSequence state.disk with
    ⟨value | fault, next, disk⟩ <;> rfl

private theorem eventless_discardFile (fault : Option IoError) (path : String) :
    Eventless (discardFile fault path) := fun _ _ => rfl

private theorem eventless_pure (value : Value) :
    Eventless (pure value : RunM Value) := fun _ _ => rfl

theorem Eventless.bind {Next : Type} {program : RunM Value} {next : Value → RunM Next}
    (eventless : Eventless program) (continued : ∀ value, Eventless (next value)) :
    Eventless (program >>= next) := by
  intro state events
  simp only [Bind.bind, EStateM.bind, eventless state events]
  cases program state with
  | ok value after => exact continued value after events
  | error fault after => rfl

theorem Eventless.onFailure {action : RunM Value} {cleanup : RunM Unit}
    (eventless : Eventless action) (cleaned : Eventless cleanup) :
    Eventless (onFailure action cleanup) := by
  intro state events
  simp only [TaskAttest.onFailure, eventless state events]
  cases action state with
  | ok value after => rfl
  | error fault after =>
      simp only [withEvents, cleaned after events]
      cases cleanup after <;> rfl

end Eventless

section Check

variable [Sha2] {world : World} {here : CheckWorld} {store : StateStore}

private theorem eventless_createCaptureFiles : Eventless (createCaptureFiles world here store) :=
  (eventless_createFile _ _).bind fun _ =>
    ((eventless_createFile _ _).onFailure (eventless_discardFile _ _)).bind fun _ =>
      eventless_pure _

private theorem eventless_discardCaptures (paths : String × String) :
    Eventless (discardCaptures here paths) :=
  (eventless_discardFile _ _).bind fun _ => eventless_discardFile _ _

private theorem eventless_spawnChild {check : CheckDefinition} {workingDirectory : String}
    {paths : String × String} :
    Eventless (spawnChild world here check workingDirectory paths) := by
  intro state events
  simp only [spawnChild]
  cases here.hasStdout <;> cases here.hasStderr <;> rfl

private theorem eventless_superviseChild {check : CheckDefinition} {maxLogBytes : UInt64}
    {paths : String × String} : Eventless (superviseChild here check maxLogBytes paths) := by
  intro state events
  simp only [superviseChild]
  split <;> rfl

private theorem eventless_persistCapture {faults : BlobFaults} {capture : Capture} :
    Eventless (persistCapture store faults capture) :=
  (eventless_onDisk _).bind fun _ => eventless_pure _

end Check

/-! A run on two clocks -/

section Clock

variable [Sha2]

/-- The same surroundings with another wall clock. -/
def World.withClock (world : World) (clock : Nat → UInt64) : World := { world with clock }

variable {world : World} {clock : Nat → UInt64} {here : CheckWorld} {store : StateStore}
  {invocation : Invocation}

private theorem related_unixTimeMs : Related SameButTimes (fun _ _ => True) (unixTimeMs world)
    (unixTimeMs (world.withClock clock)) := by
  intro before beside ⟨events, other, same⟩
  rw [other]
  exact .ok trivial ⟨events, rfl, same⟩

private theorem related_elapsedMs : Related SameButTimes Eq (elapsedMs world)
    (elapsedMs (world.withClock clock)) := by
  intro before beside ⟨events, other, same⟩
  rw [other]
  exact .ok rfl ⟨events, rfl, same⟩

private theorem related_onProgress {state : ProgressState} {checkId : Option String}
    {outcome : Option CheckOutcome} {receiptId : Option String} :
    Related SameButTimes Eq (onProgress world state checkId outcome receiptId)
      (onProgress (world.withClock clock) state checkId outcome receiptId) := by
  intro before beside ⟨events, other, same⟩
  rw [other]
  refine .ok rfl ⟨_, rfl, ?_⟩
  simp only [RunState.progressed, List.map_append, same]
  rfl

private theorem related_spawnFailedExecution {check : CheckDefinition}
    {started startedBeside : UInt64} {paths : String × String} {error : IoError} :
    Related SameButTimes SameUntimed (spawnFailedExecution world here check started paths error)
      (spawnFailedExecution (world.withClock clock) here check startedBeside paths error) := by
  refine (eventless_discardCaptures paths).related.bind fun _ _ _ => ?_
  refine related_unixTimeMs.bind fun _ _ _ => ?_
  refine related_elapsedMs.bind fun _ _ sameDuration => ?_
  rw [sameDuration]
  exact .pure rfl

private theorem related_supervisedExecution {check : CheckDefinition}
    {maxLogBytes started startedBeside : UInt64} {paths : String × String} :
    Related SameButTimes SameUntimed
      (supervisedExecution world here store check maxLogBytes started paths)
      (supervisedExecution (world.withClock clock) here store check maxLogBytes startedBeside
        paths) := by
  refine eventless_superviseChild.related.bind fun _ _ sameResult => ?_
  rw [sameResult]
  refine eventless_persistCapture.related.bind fun _ _ sameStdout => ?_
  refine eventless_persistCapture.related.bind fun _ _ sameStderr => ?_
  refine related_unixTimeMs.bind fun _ _ _ => ?_
  refine related_elapsedMs.bind fun _ _ sameDuration => ?_
  rw [sameStdout, sameStderr, sameDuration]
  exact .pure rfl

private theorem related_executeCheck {check : CheckDefinition} {maxLogBytes : UInt64} :
    Related SameButTimes SameUntimed (executeCheck world here store check maxLogBytes)
      (executeCheck (world.withClock clock) here store check maxLogBytes) := by
  refine related_unixTimeMs.bind fun _ _ _ => ?_
  refine (eventless_ofExcept _).related.bind fun _ _ sameDirectory => ?_
  refine eventless_createCaptureFiles.related.bind fun _ _ samePaths => ?_
  rw [sameDirectory, samePaths]
  cases here.spawn with
  | some error => exact related_spawnFailedExecution
  | none => exact eventless_spawnChild.related.bind fun _ _ _ => related_supervisedExecution

private theorem related_skippedExecution {check : CheckDefinition} :
    Related SameButTimes SameUntimed (skippedExecution world check)
      (skippedExecution (world.withClock clock) check) :=
  related_unixTimeMs.bind fun _ _ _ => .pure rfl

private theorem related_runCheck {position : Nat} {stop : Bool} {check : CheckDefinition} :
    Related SameButTimes SameUntimed (runCheck world store invocation position stop check)
      (runCheck (world.withClock clock) store invocation position stop check) := by
  refine related_onProgress.bind fun _ _ _ => ?_
  have executed : Related SameButTimes SameUntimed
      (skipOrExecute world store invocation position stop check)
      (skipOrExecute (world.withClock clock) store invocation position stop check) := by
    cases stop with
    | true => exact related_skippedExecution
    | false => exact related_executeCheck
  refine executed.bind fun _ _ alike => ?_
  have sameCheck : _ = _ := congrArg CheckExecution.check alike
  have sameOutcome : _ = _ := congrArg CheckExecution.outcome alike
  simp only [CheckExecution.untimed] at sameCheck sameOutcome
  rw [sameCheck, sameOutcome]
  exact related_onProgress.bind fun _ _ _ => .pure alike

private theorem related_runLoop {checks : List CheckDefinition} {position : Nat} {stop : Bool} :
    Related SameButTimes (List.Forall₂ SameUntimed)
      (runLoop world store invocation position stop checks)
      (runLoop (world.withClock clock) store invocation position stop checks) := by
  induction checks generalizing position stop with
  | nil => exact .pure .nil
  | cons check rest ih =>
      refine related_runCheck.bind fun _ _ alike => ?_
      have sameOutcome : _ = _ := congrArg CheckExecution.outcome alike
      simp only [CheckExecution.untimed] at sameOutcome
      rw [sameOutcome]
      exact ih.bind fun _ _ others => .pure (.cons alike others)

end Clock

/-! When the clock is read -/

section Times

variable [Sha2] {world : World} {here : CheckWorld} {store : StateStore}
  {invocation : Invocation}

private theorem supervisedExecution_times {check : CheckDefinition} {maxLogBytes started : UInt64}
    {paths : String × String} {execution : CheckExecution} {before after : RunState}
    (ran : supervisedExecution world here store check maxLogBytes started paths before =
      .ok execution after) :
    execution.startedUnixMs = started ∧ execution.completedUnixMs = world.clock before.moment ∧
      after.moment = before.moment + 1 := by
  obtain ⟨_, _, _, _, _, _, _, _, _, _, _, _, rfl, rfl⟩ := supervisedExecution_cases ran
  exact ⟨rfl, rfl, rfl⟩

private theorem executeCheck_times {check : CheckDefinition} {maxLogBytes : UInt64}
    {execution : CheckExecution} {before after : RunState}
    (ran : executeCheck world here store check maxLogBytes before = .ok execution after) :
    execution.startedUnixMs = world.clock before.moment ∧
      execution.completedUnixMs = world.clock (before.moment + 1) ∧
      after.moment = before.moment + 2 := by
  obtain ⟨_, paths, created, creating, rest⟩ := executeCheck_cases ran
  obtain ⟨_, createdShape⟩ := createCaptureFiles_ok creating
  have createdMoment : created.moment = before.moment + 1 := by
    rw [createdShape]
    rfl
  rcases rest with ⟨error, _, failing⟩ | ⟨_, spawned, starting, supervising⟩
  · rw [spawnFailedExecution_eq] at failing
    cases failing
    exact ⟨rfl, congrArg world.clock createdMoment, congrArg (· + 1) createdMoment⟩
  · obtain ⟨process, _, spawnedShape⟩ := spawnChild_ok starting
    have spawnedMoment : spawned.moment = before.moment + 1 := by
      rw [spawnedShape]
      exact createdMoment
    obtain ⟨started, completed, moment⟩ := supervisedExecution_times supervising
    rw [spawnedMoment] at completed moment
    exact ⟨started, completed, moment⟩

/-- The readings of a turn: one for each event, two for an execution, one for a skip. -/
theorem runCheck_times {position : Nat} {stop : Bool} {check : CheckDefinition}
    {execution : CheckExecution} {before after : RunState}
    (ran : runCheck world store invocation position stop check before = .ok execution after) :
    (stop = false ∧ execution.startedUnixMs = world.clock (before.moment + 1) ∧
      execution.completedUnixMs = world.clock (before.moment + 2) ∧
      after.moment = before.moment + 4) ∨
    (stop = true ∧ execution.startedUnixMs = execution.completedUnixMs ∧
      after.moment = before.moment + 3) := by
  obtain ⟨announced, between, rfl, ⟨rfl, skipping⟩ | ⟨rfl, executing⟩, rfl⟩ := runCheck_cases ran
  · rw [skippedExecution_eq] at skipping
    cases skipping
    exact .inr ⟨rfl, rfl, rfl⟩
  · obtain ⟨started, completed, moment⟩ := executeCheck_times executing
    exact .inl ⟨rfl, started, completed, congrArg (· + 1) moment⟩

/-- How many of the executions were not skipped. -/
def executedCount (executions : List CheckExecution) : Nat :=
  executions.countP fun execution => execution.outcome != .skipped

/-- What a part of the loop reads: each check that is executed takes four readings,
each that is skipped takes three. -/
structure Readings (world : World) (executions : List CheckExecution) (before after : RunState) :
    Prop where
  moment : after.moment = before.moment + 3 * executions.length + executedCount executions
  inOrder : (∀ execution ∈ executions, execution.startedUnixMs ≤ execution.completedUnixMs) ↔
    ∀ position < executedCount executions,
      world.clock (before.moment + 4 * position + 1) ≤
        world.clock (before.moment + 4 * position + 2)

private theorem runLoop_skips {checks : List CheckDefinition} {position : Nat}
    {executions : List CheckExecution} {before after : RunState}
    (failFast : invocation.failFast = true)
    (ran : runLoop world store invocation position true checks before = .ok executions after) :
    executedCount executions = 0 ∧ after.moment = before.moment + 3 * executions.length ∧
      ∀ execution ∈ executions, execution.startedUnixMs ≤ execution.completedUnixMs := by
  induction checks generalizing position executions before with
  | nil =>
      obtain ⟨rfl, rfl⟩ := runLoop_nil ran
      exact ⟨rfl, rfl, List.forall_mem_nil _⟩
  | cons check rest ih =>
      obtain ⟨execution, others, between, rfl, executing, looping⟩ := runLoop_cons ran
      have skipped := (runCheck_reports executing).2.mp rfl
      obtain ⟨impossible, _⟩ | ⟨_, same, moment⟩ := runCheck_times executing
      · cases impossible
      rw [failFast, skipped] at looping
      obtain ⟨none, othersMoment, ordered⟩ := ih looping
      refine ⟨?_, ?_, List.forall_mem_cons.mpr ⟨UInt64.le_of_eq same, ordered⟩⟩
      · rw [executedCount, List.countP_cons_of_neg (by simp [skipped])]
        exact none
      · rw [othersMoment, moment, List.length_cons]
        omega

private theorem runLoop_readings {checks : List CheckDefinition} {position : Nat}
    {executions : List CheckExecution} {before after : RunState}
    (ran : runLoop world store invocation position false checks before = .ok executions after) :
    Readings world executions before after := by
  induction checks generalizing position executions before with
  | nil =>
      obtain ⟨rfl, rfl⟩ := runLoop_nil ran
      exact ⟨rfl, by simp [executedCount]⟩
  | cons check rest ih =>
      obtain ⟨execution, others, between, rfl, executing, looping⟩ := runLoop_cons ran
      have unskipped : execution.outcome ≠ .skipped := fun skipped =>
        Bool.false_ne_true ((runCheck_reports executing).2.mpr skipped)
      obtain ⟨_, started, completed, moment⟩ | ⟨impossible, _⟩ := runCheck_times executing
      · have count : executedCount (execution :: others) = executedCount others + 1 :=
          List.countP_cons_of_pos (by simp [unskipped])
        have later : Readings world others between after := by
          cases stop : invocation.failFast && execution.outcome != .passed with
          | false =>
              rw [stop] at looping
              exact ih looping
          | true =>
              have failFast : invocation.failFast = true := (Bool.and_eq_true_iff.mp stop).1
              rw [stop] at looping
              obtain ⟨none, othersMoment, ordered⟩ := runLoop_skips failFast looping
              refine ⟨by rw [othersMoment, none, Nat.add_zero], iff_of_true ordered ?_⟩
              rw [none]
              exact fun position impossible => absurd impossible (Nat.not_lt_zero position)
        refine ⟨?_, ?_⟩
        · rw [later.moment, moment, count, List.length_cons]
          omega
        · rw [List.forall_mem_cons, later.inOrder, count, started, completed, moment,
            Nat.forall_lt_succ_left]
          have shift : ∀ position, before.moment + 4 * (position + 1) =
              before.moment + 4 + 4 * position := by omega
          simp only [shift, Nat.mul_zero, Nat.add_zero]
      · cases impossible

end Times

/-! Whether the receipt verifies -/

/-- No completion time is read below the start time it belongs to, in a run of so
many checks of which so many are executed. -/
structure ClockInOrder (clock : Nat → UInt64) (checks executed : Nat) : Prop where
  run : clock 0 ≤ clock (3 * checks + executed + 2)
  check : ∀ position < executed, clock (4 * position + 2) ≤ clock (4 * position + 3)

private theorem executedCount_eq {executions others : List CheckExecution}
    (same : List.Forall₂ SameUntimed executions others) :
    executedCount executions = executedCount others := by
  induction same with
  | nil => rfl
  | cons first _ ih =>
      have outcome : _ = _ := congrArg CheckExecution.outcome first
      simp only [CheckExecution.untimed] at outcome
      simp only [executedCount, List.countP_cons, outcome] at ih ⊢
      rw [ih]

section Executed

variable [Sha2] {world : World} {store : StateStore} {discovery : DiscoveryReport}
  {invocation : Invocation} {clock : Nat → UInt64}

/-- How many checks a run executes before fail-fast stops it. The wall clock has no
say in it, so it is counted with a clock that stands still. -/
def executedChecks (world : World) (store : StateStore) (discovery : DiscoveryReport)
    (invocation : Invocation) (start : RunState) : Nat :=
  let stopped := world.withClock fun _ => 0
  match runLoop stopped store invocation 0 false (selectedChecks discovery)
      (start.observed stopped) with
  | .ok executions _ => executedCount executions
  | .error .. => 0

/-- Two clocks lead the loop to alike ends. -/
theorem runLoop_ends (other : Nat → UInt64) (start : RunState) :
    Ends SameButTimes (List.Forall₂ SameUntimed)
      (runLoop (world.withClock clock) store invocation 0 false (selectedChecks discovery)
        (start.observed (world.withClock clock)))
      (runLoop (world.withClock other) store invocation 0 false (selectedChecks discovery)
        (start.observed (world.withClock other))) :=
  @related_runLoop _ (world.withClock clock) other store invocation (selectedChecks discovery) 0
    false _ _ ⟨_, rfl, rfl⟩

private theorem executedChecks_eq {start looped : RunState} {executions : List CheckExecution}
    (ran : runLoop (world.withClock clock) store invocation 0 false (selectedChecks discovery)
      (start.observed (world.withClock clock)) = .ok executions looped) :
    executedChecks world store discovery invocation start = executedCount executions := by
  have ends := @runLoop_ends _ world store discovery invocation clock (fun _ => 0) start
  rw [ran] at ends
  simp only [executedChecks]
  cases stopped : runLoop (world.withClock fun _ => 0) store invocation 0 false
    (selectedChecks discovery) (start.observed (world.withClock fun _ => 0)) <;>
    rw [stopped] at ends <;> cases ends
  rename_i same _
  exact (executedCount_eq same).symm

end Executed

section Verdict

variable [Sha2] [JsonDiagnostics] {world : World} {store : StateStore}
  {discovery : DiscoveryReport} {invocation : Invocation} {clock other : Nat → UInt64}
  {disk : Disk} {logSequence jsonSequence : Nat} {receipt : Receipt} {start final : RunState}

/-- Two clocks lead to the same answer of the token. -/
theorem cancelledAtOutcome_eq {otherReceipt : Receipt} {otherFinal : RunState}
    (ran : runChecks (world.withClock clock) store discovery invocation start = .ok receipt final)
    (otherRan : runChecks (world.withClock other) store discovery invocation start =
      .ok otherReceipt otherFinal) :
    otherFinal.cancelledAtOutcome = final.cancelledAtOutcome := by
  obtain ⟨looped, looping, _, _, seen, _⟩ := runChecks_looped ran
  obtain ⟨otherLooped, otherLooping, _, _, otherSeen, _⟩ := runChecks_looped otherRan
  have ends := @runLoop_ends _ world store discovery invocation clock other start
  rw [looping, otherLooping] at ends
  cases ends
  rename_i same
  obtain ⟨events, shape, _⟩ := same
  rw [seen, otherSeen, shape]
  rfl

/-- Without a cancellation the verdict is a matter of the report and of the clock. -/
theorem verifies_iff_clockInOrder
    (ran : runChecks (world.withClock clock) store discovery invocation
      (.start disk logSequence jsonSequence false) = .ok receipt final)
    (unset : final.cancelledAtOutcome = false) :
    Verifies store final.disk receipt ↔ (discovery.SelectionAgrees ∧
        ((selectedChecks discovery).map fun check => check.id).Nodup) ∧
      ClockInOrder clock (selectedChecks discovery).length
        (executedChecks world store discovery invocation
          (.start disk logSequence jsonSequence false)) := by
  obtain ⟨looped, looping, started, completed, _, _⟩ := runChecks_looped ran
  obtain ⟨moment, inOrder⟩ := runLoop_readings looping
  have length : receipt.payload.checks.length = (selectedChecks discovery).length := by
    rw [← (runChecks_ok ran).2.looped.definitions, List.length_map]
  have begun : ((RunState.start disk logSequence jsonSequence false).observed
      (world.withClock clock)).moment = 1 := rfl
  have last : looped.moment + 1 =
      3 * (selectedChecks discovery).length + executedCount receipt.payload.checks + 2 := by
    rw [moment, begun, length]
    omega
  have shift : ∀ position, 1 + 4 * position + 1 = 4 * position + 2 ∧
      1 + 4 * position + 2 = 4 * position + 3 := by omega
  rw [runChecks_verdict_iff disk logSequence jsonSequence false ran, executedChecks_eq looping,
    started, completed, inOrder, begun, last, unset]
  simp only [(shift _).1, (shift _).2]
  constructor
  · intro verified
    obtain ⟨agrees, distinct, run, check, _⟩ := verified
    exact ⟨⟨agrees, distinct⟩, run, check⟩
  · intro verified
    obtain ⟨⟨agrees, distinct⟩, run, check⟩ := verified
    exact ⟨agrees, distinct, run, check, fun set => absurd set Bool.false_ne_true⟩

/-- In a run that is never cancelled the receipt verifies exactly when the report is
consistent and the clock was not stepped back between the readings that are
compared; of two runs that differ in the clock only, both verify or neither does
exactly when this is so on both clocks or on neither. -/
theorem runChecks_clock_iff (disk : Disk) (logSequence jsonSequence : Nat) {receipt : Receipt}
    {final : RunState}
    (ran : runChecks world store discovery invocation
      (.start disk logSequence jsonSequence false) = .ok receipt final)
    (unset : final.cancelled = false) :
    (Verifies store final.disk receipt ↔ (discovery.SelectionAgrees ∧
        ((selectedChecks discovery).map fun check => check.id).Nodup) ∧
      ClockInOrder world.clock (selectedChecks discovery).length
        (executedChecks world store discovery invocation
          (.start disk logSequence jsonSequence false))) ∧
    ∀ (clock : Nat → UInt64) (otherReceipt : Receipt) (otherFinal : RunState),
      runChecks (world.withClock clock) store discovery invocation
        (.start disk logSequence jsonSequence false) = .ok otherReceipt otherFinal →
      ((Verifies store otherFinal.disk otherReceipt ↔ Verifies store final.disk receipt) ↔
        (discovery.SelectionAgrees →
          ((selectedChecks discovery).map fun check => check.id).Nodup →
          (ClockInOrder clock (selectedChecks discovery).length
              (executedChecks world store discovery invocation
                (.start disk logSequence jsonSequence false)) ↔
            ClockInOrder world.clock (selectedChecks discovery).length
              (executedChecks world store discovery invocation
                (.start disk logSequence jsonSequence false))))) := by
  have ownClock : runChecks (world.withClock world.clock) store discovery invocation
      (.start disk logSequence jsonSequence false) = .ok receipt final := ran
  obtain ⟨_, _, _, _, _, set⟩ := runChecks_looped ran
  have seen : final.cancelledAtOutcome = false := by
    cases known : final.cancelledAtOutcome with
    | false => rfl
    | true => exact (set known).symm.trans unset
  refine ⟨verifies_iff_clockInOrder ownClock seen, fun clock otherReceipt otherFinal otherRan => ?_⟩
  rw [verifies_iff_clockInOrder ownClock seen, verifies_iff_clockInOrder otherRan
    ((cancelledAtOutcome_eq ownClock otherRan).trans seen), and_congr_right_iff, and_imp]

end Verdict

/-! A run of one check on two clocks -/

section Sample

attribute [local instance] standardSha2 endOfInputDiagnostics

def clockPayload (clock : Nat → UInt64) : ReceiptPayload :=
  passing.payload clock quietDiscovery quietInvocation quietCheck []

/-- A clock that is stepped back while the check runs. -/
def steppedClock (moment : Nat) : UInt64 := if moment ≤ 2 then 2 else 1

private theorem roomMembers_clockPayload_le {clock : Nat → UInt64}
    (known : (clock = fun _ => 1) ∨ clock = steppedClock) :
    4 * Json.Value.roomMembers .pretty 1 (clockPayload clock).fields ≤ 4000000 := by
  rcases known with rfl | rfl
  · decide +kernel
  · decide +kernel

private theorem runChecks_clock {clock : Nat → UInt64}
    (known : (clock = fun _ => 1) ∨ clock = steppedClock) :
    ∃ final, runChecks (passing.world clock) quietStore quietDiscovery quietInvocation
        quietStart = .ok (buildReceipt (clockPayload clock)) final ∧
      final.cancelled = false ∧ final.cancelledAtOutcome = false := by
  obtain ⟨final, ran, unset, unseen, _⟩ := @Chunk.runChecks_returns _ passing clock quietCheck []
    quietInvocation _ quietDiscovery quietDisk (clockPayload clock) selectedChecks_quietDiscovery rfl (.inl rfl)
    Chunk.fresh_quiet (FileSystem.lookup_create_self _ _) quietDisk_receipts
    rfl
    (length_document_le (roomMembers_clockPayload_le known))
  exact ⟨final, ran, unset, unseen⟩

/-- Two runs of one passing check that differ in the clock only: the receipt of the one on a
steady clock verifies, that of the one on a clock stepped back does not. -/
theorem steppedClock_receipt_does_not_verify :
    quietDiscovery.SelectionAgrees ∧
    ((selectedChecks quietDiscovery).map fun check => check.id).Nodup ∧
    (∃ final, runChecks (passing.world fun _ => 1) quietStore quietDiscovery quietInvocation
        quietStart = .ok (buildReceipt (clockPayload fun _ => 1)) final ∧
      final.cancelled = false ∧
      Verifies quietStore final.disk (buildReceipt (clockPayload fun _ => 1))) ∧
    ∃ final, runChecks ((passing.world fun _ => 1).withClock steppedClock) quietStore
        quietDiscovery quietInvocation quietStart =
          .ok (buildReceipt (clockPayload steppedClock)) final ∧
      final.cancelled = false ∧
      ¬Verifies quietStore final.disk (buildReceipt (clockPayload steppedClock)) := by
  have distinct : ((selectedChecks quietDiscovery).map fun check => check.id).Nodup :=
    selectedChecks_quietDiscovery ▸ List.nodup_singleton _
  obtain ⟨steady, ran, unset, unseen⟩ := runChecks_clock (.inl rfl)
  obtain ⟨stepped, steppedRan, steppedUnset, _⟩ := runChecks_clock (.inr rfl)
  refine ⟨quietDiscovery_selectionAgrees, distinct, ⟨steady, ran, unset, ?_⟩, stepped, steppedRan,
    steppedUnset, ?_⟩
  · rw [runChecks_verdict_iff quietDisk 0 0 false ran, unseen]
    exact ⟨quietDiscovery_selectionAgrees, distinct, UInt64.le_refl _,
      List.forall_mem_singleton.mpr (UInt64.le_refl _), fun set => absurd set Bool.false_ne_true⟩
  · intro valid
    have ordered := (verifies_iff_sound.mp valid).payload.clock
    have inverted : ¬(2 : UInt64) ≤ 1 := by decide
    exact inverted ordered

theorem runChecks_clock_iff_stepped :
    ∃ final, runChecks (passing.world steppedClock) quietStore quietDiscovery quietInvocation
        quietStart = .ok (buildReceipt (clockPayload steppedClock)) final ∧
      (clockPayload steppedClock).checks.map (fun execution => execution.outcome) = [.passed] ∧
      (Verifies quietStore final.disk (buildReceipt (clockPayload steppedClock)) ↔
        (quietDiscovery.SelectionAgrees ∧
          ((selectedChecks quietDiscovery).map fun check => check.id).Nodup) ∧
        ClockInOrder steppedClock (selectedChecks quietDiscovery).length
          (executedChecks (passing.world steppedClock) quietStore quietDiscovery quietInvocation
            quietStart)) := by
  obtain ⟨final, ran, unset, _⟩ := runChecks_clock (.inr rfl)
  exact ⟨final, ran, by decide, (runChecks_clock_iff quietDisk 0 0 ran unset).1⟩

end Sample

end TaskAttest
