import TaskAttest.RunReceiptProperties

/-! The shape of a run: which checks are executed, in what order, with which
outcomes, and the progress events that report them. -/

set_option autoImplicit false

namespace TaskAttest

open Program

/-! What a turn leaves -/

/-- A process was started for the check. -/
def CheckExecution.spawned (execution : CheckExecution) : Bool :=
  execution.outcome != .skipped && execution.outcome != .spawnFailed

/-- What an event says besides its number and its time. -/
def ProgressEvent.content (event : ProgressEvent) :
    ProgressState × Option String × Option CheckOutcome × Option String :=
  (event.state, event.checkId, event.outcome, event.receiptId)

/-- The two events of a check. -/
def CheckExecution.contents (execution : CheckExecution) :
    List (ProgressState × Option String × Option CheckOutcome × Option String) :=
  [(.checkStarted, some execution.check.id, none, none),
    (.checkFinished, some execution.check.id, some execution.outcome, none)]

namespace RunState

def eventNumbers (state : RunState) : List UInt64 :=
  state.events.map fun emitted => emitted.event.sequence

def eventContents (state : RunState) :
    List (ProgressState × Option String × Option CheckOutcome × Option String) :=
  state.events.map fun emitted => emitted.event.content

def spawnedChecks (state : RunState) : List CheckDefinition :=
  state.spawned.map SpawnedProcess.check

end RunState

/-- The numbers that `count` events take after a given number. -/
def eventNumbersFrom (sequence : UInt64) : Nat → List UInt64
  | 0 => []
  | count + 1 => (sequence + 1) :: eventNumbersFrom (sequence + 1) count

private theorem eventNumbersFrom_add {sequence : UInt64} (first second : Nat) :
    eventNumbersFrom sequence (first + second) =
      eventNumbersFrom sequence first ++
        eventNumbersFrom (sequence + UInt64.ofNat first) second := by
  induction first generalizing sequence with
  | zero => simp [eventNumbersFrom]
  | succ first ih =>
      have step : sequence + 1 + UInt64.ofNat first = sequence + UInt64.ofNat (first + 1) := by
        rw [UInt64.ofNat_add, UInt64.add_assoc, UInt64.add_comm 1]
        rfl
      rw [Nat.succ_add, eventNumbersFrom, eventNumbersFrom, ih, step, List.cons_append]

/-- From the start of a run the numbers are those from one on. -/
theorem eventNumbersFrom_ofNat (start count : Nat) :
    eventNumbersFrom (UInt64.ofNat start) count =
      (List.range' (start + 1) count).map UInt64.ofNat := by
  induction count generalizing start with
  | zero => rfl
  | succ count ih =>
      have next : UInt64.ofNat start + 1 = UInt64.ofNat (start + 1) := by
        rw [UInt64.ofNat_add]
        rfl
      rw [eventNumbersFrom, next, ih, List.range'_succ, List.map_cons]

/-- What a part of a run adds to the events and to the processes. -/
structure Reports (executions : List CheckExecution) (before after : RunState) : Prop where
  contents : after.eventContents =
    before.eventContents ++ executions.flatMap CheckExecution.contents
  numbers : after.eventNumbers =
    before.eventNumbers ++ eventNumbersFrom before.sequence (2 * executions.length)
  sequence : after.sequence = before.sequence + UInt64.ofNat (2 * executions.length)
  spawned : after.spawnedChecks = before.spawnedChecks ++
    (executions.filter CheckExecution.spawned).map fun execution => execution.check

theorem Reports.refl (state : RunState) : Reports [] state state := by
  constructor
  · simp
  · simp [eventNumbersFrom]
  · simp
  · simp

theorem Reports.trans {first second : List CheckExecution} {before between after : RunState}
    (earlier : Reports first before between) (later : Reports second between after) :
    Reports (first ++ second) before after := by
  have twice : 2 * (first ++ second).length = 2 * first.length + 2 * second.length := by
    rw [List.length_append, Nat.mul_add]
  constructor
  · rw [later.contents, earlier.contents, List.flatMap_append, List.append_assoc]
  · rw [later.numbers, earlier.numbers, earlier.sequence, twice, eventNumbersFrom_add,
      List.append_assoc]
  · rw [later.sequence, earlier.sequence, twice, UInt64.ofNat_add, UInt64.add_assoc]
  · rw [later.spawned, earlier.spawned, List.filter_append, List.map_append, List.append_assoc]

section Turn

variable [Sha2] {world : World} {here : CheckWorld} {store : StateStore}
  {invocation : Invocation}

/-- No event is emitted while a check executes, and its process is the only one. -/
structure Silent (check : CheckDefinition) (execution : CheckExecution)
    (before after : RunState) : Prop where
  events : after.events = before.events
  sequence : after.sequence = before.sequence
  spawned : after.spawnedChecks =
    before.spawnedChecks ++ if execution.spawned then [check] else []

private theorem skippedExecution_silent {check : CheckDefinition} {execution : CheckExecution}
    {before after : RunState}
    (ran : skippedExecution world check before = .ok execution after) :
    Silent check execution before after ∧ execution.outcome = .skipped := by
  rw [skippedExecution_eq] at ran
  cases ran
  exact ⟨⟨rfl, rfl, (List.append_nil _).symm⟩, rfl⟩

omit [Sha2] in
theorem supervisedOutcome_spawned {maxLogBytes : UInt64} {forced : Option StopReason}
    {status : ExitStatus} {budget : LogBudget} :
    supervisedOutcome maxLogBytes forced status budget ≠ .skipped ∧
      supervisedOutcome maxLogBytes forced status budget ≠ .spawnFailed := by
  unfold supervisedOutcome
  split
  · rename_i reason
    cases reason <;> simp [StopReason.outcome]
  · split
    · simp
    · split <;> simp

theorem supervisedExecution_silent {check : CheckDefinition} {maxLogBytes startedUnixMs : UInt64}
    {paths : String × String} {execution : CheckExecution} {before after : RunState}
    (ran : supervisedExecution world here store check maxLogBytes startedUnixMs paths before =
      .ok execution after) :
    after.events = before.events ∧ after.sequence = before.sequence ∧
      after.spawned = before.spawned ∧ execution.outcome ≠ .skipped ∧
      execution.outcome ≠ .spawnFailed := by
  obtain ⟨_, _, _, _, _, _, _, _, _, _, _, _, rfl, rfl⟩ := supervisedExecution_cases ran
  exact ⟨rfl, rfl, rfl, supervisedOutcome_spawned⟩

private theorem executeCheck_silent {check : CheckDefinition} {maxLogBytes : UInt64}
    {execution : CheckExecution} {before after : RunState}
    (ran : executeCheck world here store check maxLogBytes before = .ok execution after) :
    Silent check execution before after ∧ execution.outcome ≠ .skipped := by
  obtain ⟨_, paths, created, creating, rest⟩ := executeCheck_cases ran
  obtain ⟨_, createdShape⟩ := createCaptureFiles_ok creating
  rcases rest with ⟨error, _, failing⟩ | ⟨_, spawned, starting, supervising⟩
  · rw [spawnFailedExecution_eq] at failing
    cases failing
    rw [createdShape]
    exact ⟨⟨rfl, rfl, (List.append_nil _).symm⟩, CheckOutcome.noConfusion⟩
  · obtain ⟨process, started, spawnedShape⟩ := spawnChild_ok starting
    obtain ⟨events, sequence, processes, unskipped, unfailed⟩ :=
      supervisedExecution_silent supervising
    have ran : execution.spawned = true := by
      simp [CheckExecution.spawned, unskipped, unfailed]
    refine ⟨⟨?_, ?_, ?_⟩, unskipped⟩
    · rw [events, spawnedShape, createdShape]
      rfl
    · rw [sequence, spawnedShape, createdShape]
      rfl
    · rw [RunState.spawnedChecks, processes, spawnedShape, createdShape, if_pos ran,
        List.map_append, List.map_singleton, started]
      rfl

private theorem progressed_numbers {run : RunState} (state : ProgressState)
    (checkId : Option String) (outcome : Option CheckOutcome) (receiptId : Option String) :
    (run.progressed world state checkId outcome receiptId).eventNumbers =
      run.eventNumbers ++ [run.sequence + 1] := by
  simp [RunState.eventNumbers, RunState.progressed]

private theorem progressed_contents {run : RunState} (state : ProgressState)
    (checkId : Option String) (outcome : Option CheckOutcome) (receiptId : Option String) :
    (run.progressed world state checkId outcome receiptId).eventContents =
      run.eventContents ++ [(state, checkId, outcome, receiptId)] := by
  simp [RunState.eventContents, RunState.progressed, ProgressEvent.content]

/-- A turn announces its check, and reports the outcome it ended with. -/
theorem runCheck_reports {position : Nat} {stop : Bool} {check : CheckDefinition}
    {execution : CheckExecution} {before after : RunState}
    (ran : runCheck world store invocation position stop check before = .ok execution after) :
    Reports [execution] before after ∧ (stop = true ↔ execution.outcome = .skipped) := by
  have definition := (runCheck_ok ran).definition
  obtain ⟨announced, between, rfl, turn, rfl⟩ := runCheck_cases ran
  have silent : Silent check execution
      (before.progressed world .checkStarted (some check.id) none none) between ∧
        (stop = true ↔ execution.outcome = .skipped) := by
    rcases turn with ⟨rfl, skipping⟩ | ⟨rfl, executing⟩
    · obtain ⟨silent, skipped⟩ := skippedExecution_silent skipping
      exact ⟨silent, fun _ => skipped, fun _ => rfl⟩
    · obtain ⟨silent, unskipped⟩ := executeCheck_silent executing
      exact ⟨silent, fun stopped => absurd stopped Bool.false_ne_true,
        fun skipped => absurd skipped unskipped⟩
  obtain ⟨⟨events, sequence, spawned⟩, stopped⟩ := silent
  refine ⟨⟨?_, ?_, ?_, ?_⟩, stopped⟩
  · have same : between.eventContents = (before.progressed world .checkStarted (some check.id)
        none none).eventContents := congrArg (List.map _) events
    rw [progressed_contents, same, progressed_contents, List.append_assoc, ← definition]
    rfl
  · have same : between.eventNumbers = (before.progressed world .checkStarted (some check.id)
        none none).eventNumbers := congrArg (List.map _) events
    rw [progressed_numbers, same, progressed_numbers, sequence, List.append_assoc]
    rfl
  · simp only [RunState.progressed, sequence, UInt64.add_assoc]
    rfl
  · have kept : (between.progressed world .checkFinished (some execution.check.id)
        (some execution.outcome) none).spawnedChecks = between.spawnedChecks := rfl
    rw [kept, spawned, List.filter_singleton]
    cases execution.spawned <;> simp [definition] <;> rfl

/-- The outcomes of a loop that begins with the given stop flag. -/
def OutcomesFrom (failFast : Bool) : Bool → List CheckOutcome → Prop
  | _, [] => True
  | stop, outcome :: rest =>
      (stop = true ↔ outcome = .skipped) ∧
        OutcomesFrom failFast (failFast && outcome != .passed) rest

theorem runLoop_reports {checks : List CheckDefinition} {position : Nat} {stop : Bool}
    {executions : List CheckExecution} {before after : RunState}
    (ran : runLoop world store invocation position stop checks before = .ok executions after) :
    Reports executions before after ∧ OutcomesFrom invocation.failFast stop
      (executions.map fun execution => execution.outcome) := by
  induction checks generalizing position stop executions before with
  | nil =>
      obtain ⟨rfl, rfl⟩ := runLoop_nil ran
      exact ⟨.refl _, trivial⟩
  | cons check rest ih =>
      obtain ⟨execution, others, between, rfl, executing, looping⟩ := runLoop_cons ran
      obtain ⟨reported, stopped⟩ := runCheck_reports executing
      obtain ⟨othersReported, outcomes⟩ := ih looping
      exact ⟨reported.trans othersReported, stopped, outcomes⟩

end Turn

/-! Which outcomes a run can have -/

private theorem OutcomesFrom.not_skipped {stop : Bool} {outcomes : List CheckOutcome}
    (allowed : OutcomesFrom false stop outcomes) (running : stop = false) :
    .skipped ∉ outcomes := by
  induction outcomes generalizing stop with
  | nil => simp
  | cons outcome rest ih =>
      obtain ⟨stopped, later⟩ := allowed
      rw [List.mem_cons, not_or]
      refine ⟨fun skipped => ?_, ih later rfl⟩
      rw [running] at stopped
      exact Bool.false_ne_true (stopped.mpr skipped.symm)

theorem OutcomesFrom.stopped {outcomes : List CheckOutcome}
    (allowed : OutcomesFrom true true outcomes) :
    outcomes = List.replicate outcomes.length .skipped := by
  induction outcomes with
  | nil => rfl
  | cons outcome rest ih =>
      obtain ⟨stopped, later⟩ := allowed
      have skipped := stopped.mp rfl
      rw [skipped] at later ⊢
      rw [List.length_cons, List.replicate_succ, ← ih later]

/-- Passed checks; then, if anything follows, one that did not pass and skipped ones. -/
def StopsAtFailure (outcomes : List CheckOutcome) : Prop :=
  ∃ count rest, outcomes = List.replicate count .passed ++ rest ∧
    (rest = [] ∨ ∃ failure skipped, failure ≠ .passed ∧ failure ≠ .skipped ∧
      rest = failure :: List.replicate skipped .skipped)

private theorem OutcomesFrom.stopsAtFailure {outcomes : List CheckOutcome}
    (allowed : OutcomesFrom true false outcomes) : StopsAtFailure outcomes := by
  induction outcomes with
  | nil => exact ⟨0, [], rfl, .inl rfl⟩
  | cons outcome rest ih =>
      obtain ⟨stopped, later⟩ := allowed
      by_cases passed : outcome = .passed
      · rw [passed] at later
        obtain ⟨count, others, rest_eq, shape⟩ := ih later
        exact ⟨count + 1, others, by rw [passed, rest_eq]; rfl, shape⟩
      · have stop : (true && outcome != .passed) = true := by simp [passed]
        rw [stop] at later
        have unskipped : outcome ≠ .skipped := fun skipped =>
          Bool.false_ne_true (stopped.mpr skipped)
        exact ⟨0, outcome :: rest, rfl, .inr ⟨outcome, rest.length, passed, unskipped, by
          rw [← later.stopped]⟩⟩

/-! The whole run -/

section Run

variable [Sha2] [JsonDiagnostics] {world : World} {store : StateStore}
  {discovery : DiscoveryReport} {invocation : Invocation}

omit [JsonDiagnostics] in
private theorem collectEvidence_reports {payload : ReceiptPayload} {before after : RunState}
    (ran : collectEvidence world store discovery invocation before = .ok payload after) :
    Reports payload.checks before after ∧ OutcomesFrom invocation.failFast false
      (payload.checks.map fun execution => execution.outcome) := by
  obtain ⟨executions, looped, source, looping, _, rfl, rfl⟩ := collectEvidence_cases ran
  obtain ⟨⟨contents, numbers, sequence, spawned⟩, outcomes⟩ := runLoop_reports looping
  exact ⟨⟨contents, numbers, sequence, spawned⟩, outcomes⟩

/-- The last event is emitted when the receipt can be read back from the store. -/
def AnnouncedWhenStored (world : World) (store : StateStore) (receipt : Receipt)
    (final : RunState) : Prop :=
  ∃ before : RunState, IsStored store before.disk receipt ∧
    final = before.progressed world .receiptStored none none (some receipt.receiptId)

omit [Sha2] in
private theorem storeReceipt_ok {process : Nat} {faults : PublishFaults} {receipt : Receipt}
    {path : String} {before after : RunState}
    (stored : storeReceipt process faults store receipt before = .ok path after) :
    IsStored store after.disk receipt ∧
      after = { before with jsonSequence := after.jsonSequence, disk := after.disk } := by
  simp only [storeReceipt] at stored
  split at stored
  · rename_i target next disk written
    cases stored
    obtain ⟨named, ⟨_, read⟩ | ⟨existing, read, same, rfl⟩⟩ := writeReceipt_ok written
    · exact ⟨⟨_, _, named, read, rfl⟩, rfl⟩
    · exact ⟨⟨_, _, named, read, same⟩, rfl⟩
  · cases stored

/-- The parts of a run that returned a receipt. -/
theorem runChecks_looped {receipt : Receipt} {start final : RunState}
    (ran : runChecks world store discovery invocation start = .ok receipt final) :
    ∃ looped, runLoop world store invocation 0 false (selectedChecks discovery)
        (start.observed world) = .ok receipt.payload.checks looped ∧
      receipt.payload.startedUnixMs = world.clock start.moment ∧
      receipt.payload.completedUnixMs = world.clock (looped.moment + 1) ∧
      final.cancelledAtOutcome = (looped.observed world).cancelled ∧
      (final.cancelledAtOutcome = true → final.cancelled = true) := by
  obtain ⟨payload, collected, path, stored, collecting, storing, rfl, rfl⟩ := runChecks_cases ran
  obtain ⟨_, storedShape⟩ := storeReceipt_ok storing
  obtain ⟨executions, looped, source, looping, _, rfl, rfl⟩ := collectEvidence_cases collecting
  refine ⟨looped, looping, rfl, rfl, ?_, ?_⟩
  · rw [storedShape]
    rfl
  · rw [storedShape]
    intro set
    simp only [RunState.progressed, RunState.observed] at set ⊢
    simp [set]

/-- The shape of a run that returned a receipt. -/
structure RunShape (world : World) (store : StateStore) (discovery : DiscoveryReport)
    (invocation : Invocation) (final : RunState) (receipt : Receipt) : Prop where
  checks : (receipt.payload.checks.map fun execution => execution.check) =
    selectedChecks discovery
  inOrder : (receipt.payload.checks.map fun execution => execution.check).Sublist discovery.checks
  once : (receipt.payload.checks.map fun execution => execution.check.id).Nodup
  keepsGoing : invocation.failFast = false →
    .skipped ∉ receipt.payload.checks.map fun execution => execution.outcome
  failsFast : invocation.failFast = true →
    StopsAtFailure (receipt.payload.checks.map fun execution => execution.outcome)
  spawned : final.spawnedChecks =
    (receipt.payload.checks.filter CheckExecution.spawned).map fun execution => execution.check
  skipped : ∀ execution ∈ receipt.payload.checks, execution.outcome = .skipped →
    execution.check ∉ final.spawnedChecks
  numbers : final.eventNumbers =
    (List.range' 1 (2 * receipt.payload.checks.length + 1)).map UInt64.ofNat
  contents : final.eventContents = receipt.payload.checks.flatMap CheckExecution.contents ++
    [(.receiptStored, none, none, some receipt.receiptId)]
  stored : AnnouncedWhenStored world store receipt final

omit [Sha2] [JsonDiagnostics] in
/-- Of checks with distinct identifiers, a skipped one is none of the spawned ones. -/
theorem not_spawned_of_skipped {executions : List CheckExecution} {execution : CheckExecution}
    (distinct : (executions.map fun execution => execution.check.id).Nodup)
    (member : execution ∈ executions) (skipped : execution.outcome = .skipped) :
    execution.check ∉ (executions.filter CheckExecution.spawned).map
      fun execution => execution.check := by
  intro spawned
  obtain ⟨other, listed, same⟩ := List.mem_map.mp spawned
  obtain ⟨included, started⟩ := List.mem_filter.mp listed
  have equal : other = execution :=
    List.inj_on_of_nodup_map distinct included member (congrArg CheckDefinition.id same)
  rw [equal, CheckExecution.spawned, skipped] at started
  exact Bool.false_ne_true started

/-- Every run of a report with distinct identifiers has this shape. -/
theorem runChecks_shape (disk : Disk) (logSequence jsonSequence : Nat) (cancelled : Bool)
    {receipt : Receipt} {final : RunState}
    (distinct : (discovery.checks.map fun check => check.id).Nodup)
    (ran : runChecks world store discovery invocation
      (.start disk logSequence jsonSequence cancelled) = .ok receipt final) :
    RunShape world store discovery invocation final receipt := by
  have definitions := (runChecks_ok ran).2.looped.definitions
  have once : (receipt.payload.checks.map fun execution => execution.check.id).Nodup := by
    have ids := nodup_selectedChecks distinct definitions
    rwa [List.map_map] at ids
  obtain ⟨payload, collected, path, stored, collecting, storing, rfl, rfl⟩ := runChecks_cases ran
  obtain ⟨reported, outcomes⟩ := collectEvidence_reports collecting
  obtain ⟨readable, shape⟩ := storeReceipt_ok storing
  let final := stored.progressed world .receiptStored none none
    (some (buildReceipt payload).receiptId)
  have kept : stored.eventNumbers = collected.eventNumbers ∧
      stored.eventContents = collected.eventContents ∧ stored.sequence = collected.sequence ∧
      stored.spawnedChecks = collected.spawnedChecks := by
    rw [shape]
    exact ⟨rfl, rfl, rfl, rfl⟩
  obtain ⟨sameNumbers, sameContents, sameSequence, sameSpawned⟩ := kept
  have spawned : final.spawnedChecks =
      (payload.checks.filter CheckExecution.spawned).map fun execution => execution.check :=
    sameSpawned.trans reported.spawned
  exact {
    checks := definitions
    inOrder := by
      rw [definitions]
      exact List.filter_sublist
    once
    keepsGoing := by
      intro failFast
      rw [failFast] at outcomes
      exact outcomes.not_skipped rfl
    failsFast := by
      intro failFast
      rw [failFast] at outcomes
      exact outcomes.stopsAtFailure
    spawned
    skipped := by
      intro execution member skipped listed
      rw [spawned] at listed
      exact not_spawned_of_skipped once member skipped listed
    numbers := by
      have last : collected.sequence + 1 = UInt64.ofNat (2 * payload.checks.length + 1) := by
        rw [reported.sequence, UInt64.ofNat_add]
        exact congrArg (· + 1) (UInt64.zero_add _)
      have earlier : collected.eventNumbers =
          (List.range' 1 (2 * payload.checks.length)).map UInt64.ofNat :=
        reported.numbers.trans (eventNumbersFrom_ofNat 0 _)
      rw [progressed_numbers, sameNumbers, sameSequence, earlier, last, List.range'_concat,
        List.map_append, Nat.one_mul, Nat.add_comm 1]
      rfl
    contents := by
      rw [progressed_contents, sameContents, reported.contents]
      rfl
    stored := ⟨stored, readable, rfl⟩ }

end Run

/-! Two checks, the first of which fails, in a run that fails fast -/

section Sample

attribute [local instance] standardSha2 endOfInputDiagnostics

def failing : Chunk := { passing with status := ⟨some 1⟩ }

def lintCheck : CheckDefinition := { quietCheck with id := "lint" }

def pairDiscovery : DiscoveryReport :=
  { quietDiscovery with
    checks := [lintCheck, quietCheck]
    selection := [
      { checkId := "lint", selected := true, reason := "all discovered checks" },
      { checkId := "unit", selected := true, reason := "all discovered checks" }] }

def failFastInvocation : Invocation := { quietInvocation with failFast := true }

def failingPayload : ReceiptPayload :=
  failing.payload (fun _ => 1) pairDiscovery failFastInvocation lintCheck [quietCheck]

private theorem roomMembers_failingPayload_le :
    4 * Json.Value.roomMembers .pretty 1 failingPayload.fields ≤ 4000000 := by
  decide +kernel

theorem runChecks_shape_failFast :
    ∃ final, runChecks (failing.world fun _ => 1) quietStore pairDiscovery failFastInvocation
        quietStart = .ok (buildReceipt failingPayload) final ∧
      (failingPayload.checks.map fun execution => (execution.check.id, execution.outcome)) =
        [("lint", .failed), ("unit", .skipped)] ∧
      RunShape (failing.world fun _ => 1) quietStore pairDiscovery failFastInvocation final
        (buildReceipt failingPayload) := by
  have distinct : (pairDiscovery.checks.map fun check => check.id).Nodup := by decide
  obtain ⟨final, ran, _⟩ := @Chunk.runChecks_returns _ failing (fun _ => 1) lintCheck [quietCheck]
    failFastInvocation _ pairDiscovery quietDisk failingPayload rfl rfl (.inr ⟨rfl, by decide⟩)
    Chunk.fresh_quiet (FileSystem.lookup_create_self _ _) quietDisk_receipts rfl
    (length_document_le roomMembers_failingPayload_le)
  exact ⟨final, ran, by decide, runChecks_shape quietDisk 0 0 false distinct ran⟩

end Sample

end TaskAttest
