import TaskAttest.CancellationProperties

/-! The progress events of a run, however far it gets: every check is announced in order
and reported before the next, the receipt comes last, and the numbers have no gap. -/

set_option autoImplicit false

namespace TaskAttest

open Program

/-! The events and the order they come in -/

def startedEvent (check : CheckDefinition) (sequence unixMs : UInt64) : ProgressEvent where
  schemaVersion := progressSchemaVersion
  sequence
  unixMs
  state := .checkStarted
  checkId := some check.id
  outcome := none
  receiptId := none

def finishedEvent (check : CheckDefinition) (outcome : CheckOutcome) (sequence unixMs : UInt64) :
    ProgressEvent where
  schemaVersion := progressSchemaVersion
  sequence
  unixMs
  state := .checkFinished
  checkId := some check.id
  outcome := some outcome
  receiptId := none

def storedEvent (receiptId : String) (sequence unixMs : UInt64) : ProgressEvent where
  schemaVersion := progressSchemaVersion
  sequence
  unixMs
  state := .receiptStored
  checkId := none
  outcome := none
  receiptId := some receiptId

/-- What a run over some checks reports after so many events, with the outcomes of the
checks it finished and the receipt it stored. A run may end after any event. -/
inductive Narrates : List CheckDefinition → UInt64 → List ProgressEvent →
    List CheckOutcome → Option String → Prop where
  | ended (checks : List CheckDefinition) (count : UInt64) : Narrates checks count [] [] none
  | started {check : CheckDefinition} {rest : List CheckDefinition} {count : UInt64}
      (unixMs : UInt64) :
      Narrates (check :: rest) count [startedEvent check (count + 1) unixMs] [] none
  | finished {check : CheckDefinition} {rest : List CheckDefinition} {count : UInt64}
      {events : List ProgressEvent} {outcomes : List CheckOutcome} {stored : Option String}
      (startedUnixMs finishedUnixMs : UInt64) (outcome : CheckOutcome) :
      Narrates rest (count + 1 + 1) events outcomes stored →
      Narrates (check :: rest) count
        (startedEvent check (count + 1) startedUnixMs ::
          finishedEvent check outcome (count + 1 + 1) finishedUnixMs :: events)
        (outcome :: outcomes) stored
  | stored {count : UInt64} (receiptId : String) (unixMs : UInt64) :
      Narrates [] count [storedEvent receiptId (count + 1) unixMs] [] (some receiptId)

namespace Narrates

variable {checks : List CheckDefinition} {count : UInt64} {events : List ProgressEvent}
  {outcomes : List CheckOutcome} {stored : Option String}

/-- The numbers of the events have no gap. -/
theorem sequences (narrates : Narrates checks count events outcomes stored) :
    events.map ProgressEvent.sequence =
      (List.range events.length).map fun position => count + 1 + UInt64.ofNat position := by
  induction narrates with
  | ended _ _ => rfl
  | started _ => simp [startedEvent]
  | stored _ _ => simp [storedEvent]
  | @finished _ _ count events _ _ _ _ _ _ ih =>
      simp only [List.map_cons, List.length_cons, List.range_succ_eq_map, List.map_map, ih]
      refine congrArg₂ _ (by simp [startedEvent]) (congrArg₂ _ (by simp [finishedEvent]) ?_)
      apply List.map_congr_left
      intro position _
      simp only [Function.comp_apply, Nat.succ_eq_add_one, UInt64.ofNat_add, UInt64.reduceOfNat,
        UInt64.add_assoc, UInt64.add_comm (UInt64.ofNat position)]

/-- Each event is of the version of the program. -/
theorem versions (narrates : Narrates checks count events outcomes stored) :
    ∀ event ∈ events, event.schemaVersion = progressSchemaVersion := by
  induction narrates with
  | ended _ _ => exact List.forall_mem_nil _
  | started _ => exact List.forall_mem_singleton.mpr rfl
  | stored _ _ => exact List.forall_mem_singleton.mpr rfl
  | finished _ _ _ _ ih =>
      exact List.forall_mem_cons.mpr ⟨rfl, List.forall_mem_cons.mpr ⟨rfl, ih⟩⟩

/-- Once the receipt is reported, every check was. -/
theorem complete (narrates : Narrates checks count events outcomes stored)
    (reported : stored.isSome = true) : outcomes.length = checks.length := by
  induction narrates with
  | ended _ _ => cases reported
  | started _ => cases reported
  | stored _ _ => rfl
  | finished _ _ _ _ ih => simp [ih reported]

/-- The first of the events are what a run that ended sooner reports. -/
theorem take (narrates : Narrates checks count events outcomes stored) (number : Nat) :
    ∃ told kept, Narrates checks count (events.take number) told kept ∧ told <+: outcomes := by
  induction narrates generalizing number with
  | ended checks count => exact ⟨[], none, by simpa using .ended checks count, List.prefix_rfl⟩
  | @started check rest count unixMs =>
      cases number with
      | zero => exact ⟨[], none, .ended _ _, List.prefix_rfl⟩
      | succ number => exact ⟨[], none, by simpa using .started unixMs, List.prefix_rfl⟩
  | @stored count receiptId unixMs =>
      cases number with
      | zero => exact ⟨[], none, .ended _ _, List.prefix_rfl⟩
      | succ number => exact ⟨[], _, by simpa using .stored receiptId unixMs, List.prefix_rfl⟩
  | finished startedUnixMs finishedUnixMs outcome _ ih =>
      match number with
      | 0 => exact ⟨[], none, .ended _ _, List.nil_prefix⟩
      | 1 => exact ⟨[], none, .started startedUnixMs, List.nil_prefix⟩
      | number + 2 =>
          obtain ⟨told, kept, narrates, earlier⟩ := ih number
          exact ⟨outcome :: told, kept, .finished startedUnixMs finishedUnixMs outcome narrates,
            (List.prefix_cons_inj outcome).mpr earlier⟩

end Narrates

/-! The run -/

section Run

variable [Sha2] {world : World} {store : StateStore} {invocation : Invocation}

/-- The events a state has beyond another's. -/
structure Reported (checks : List CheckDefinition) (before after : RunState)
    (outcomes : List CheckOutcome) (stored : Option String) : Prop where
  narrated : ∃ events, after.events.map Emitted.event = before.events.map Emitted.event ++ events ∧
    Narrates checks before.sequence events outcomes stored

/-- A turn that ends well reports its check twice; one that fails only announces it. -/
theorem runCheck_tells (position : Nat) (stop : Bool) (check : CheckDefinition)
    (before : RunState) :
    (∃ execution after, runCheck world store invocation position stop check before =
        .ok execution after ∧ execution.check = check ∧
      after.sequence = before.sequence + 1 + 1 ∧ ∃ startedUnixMs finishedUnixMs,
        after.events.map Emitted.event = before.events.map Emitted.event ++
          [startedEvent check (before.sequence + 1) startedUnixMs,
            finishedEvent check execution.outcome (before.sequence + 1 + 1) finishedUnixMs]) ∨
    ∃ error after, runCheck world store invocation position stop check before =
        .error error after ∧ ∃ startedUnixMs,
      after.events.map Emitted.event = before.events.map Emitted.event ++
        [startedEvent check (before.sequence + 1) startedUnixMs] := by
  have announcing : onProgress world .checkStarted (some check.id) none none before =
      .ok () (before.announced world check) := rfl
  have silent := (@skipOrExecute_unannounced _ world store check invocation position stop
    (before.announced world check)).toUnreported
  have announced : (before.announced world check).events.map Emitted.event =
      before.events.map Emitted.event ++
        [startedEvent check (before.sequence + 1) (world.clock before.moment)] := by
    simp [RunState.announced, RunState.progressed, startedEvent]
  cases ran : skipOrExecute world store invocation position stop check
      (before.announced world check) with
  | ok execution between =>
      rw [finalState_of_ok ran] at silent
      have turned : runCheck world store invocation position stop check before =
          .ok execution (between.turned world execution) := by
        rw [runCheck, bind_of_ok announcing, bind_of_ok ran]
        rfl
      have same := (runCheck_ok turned).definition
      have counted : between.sequence = before.sequence + 1 := silent.sequence
      refine .inl ⟨execution, _, turned, same, ?_, world.clock before.moment,
        world.clock between.moment, ?_⟩
      · show between.sequence + 1 = _
        rw [counted]
      · simp only [RunState.turned, RunState.progressed, List.map_append, silent.events, announced,
          counted, same]
        simp [finishedEvent]
  | error error between =>
      rw [finalState_of_error ran] at silent
      refine .inr ⟨error, between, ?_, world.clock before.moment, ?_⟩
      · rw [runCheck, bind_of_ok announcing, bind_of_error ran]
      · rw [silent.events, announced]

/-- The loop reports its turns, up to the one that fails. -/
theorem runLoop_tells (checks : List CheckDefinition) (position : Nat) (stop : Bool)
    (before : RunState) :
    (∃ executions after, runLoop world store invocation position stop checks before =
        .ok executions after ∧ ∀ last outcomes stored,
      Reported [] after last outcomes stored → Reported checks before last
        (executions.map CheckExecution.outcome ++ outcomes) stored) ∨
    ∃ error after, runLoop world store invocation position stop checks before =
        .error error after ∧ ∃ outcomes, Reported checks before after outcomes none := by
  induction checks generalizing position stop before with
  | nil => exact .inl ⟨[], before, rfl, fun _ _ _ reported => reported⟩
  | cons check rest ih =>
      rcases @runCheck_tells _ world store invocation position stop check before with
        ⟨execution, between, turned, same, counted, startedUnixMs, finishedUnixMs,
          reports⟩ | ⟨error, after, failed, startedUnixMs, reports⟩
      · have extend : ∀ last outcomes stored, Reported rest between last outcomes stored →
            Reported (check :: rest) before last (execution.outcome :: outcomes) stored := by
          intro last outcomes stored reported
          obtain ⟨events, more, narrates⟩ := reported.narrated
          rw [counted] at narrates
          refine ⟨_, ?_, .finished startedUnixMs finishedUnixMs execution.outcome narrates⟩
          rw [more, reports, List.append_assoc]
          rfl
        rcases ih (position + 1) (invocation.failFast && execution.outcome != .passed) between with
          ⟨executions, after, looped, later⟩ | ⟨error, after, failed, outcomes, reported⟩
        · refine .inl ⟨execution :: executions, after, ?_, ?_⟩
          · rw [runLoop, bind_of_ok turned, bind_of_ok looped]
            rfl
          · exact fun last outcomes stored ended => extend _ _ _ (later last outcomes stored ended)
        · refine .inr ⟨error, after, ?_, _, extend _ _ _ reported⟩
          rw [runLoop, bind_of_ok turned, bind_of_error failed]
      · refine .inr ⟨error, after, ?_, [], _, reports, .started startedUnixMs⟩
        rw [runLoop, bind_of_error failed]

omit [Sha2] in
theorem Reported.silent {before after : RunState} (silent : Unreported before after)
    (checks : List CheckDefinition) : Reported checks before after [] none :=
  ⟨[], by rw [silent.events, List.append_nil], .ended _ _⟩

omit [Sha2] in
/-- What is reported after a silent step is reported after the state before it. -/
theorem Reported.of_silent {checks : List CheckDefinition} {first before last : RunState}
    {outcomes : List CheckOutcome} {stored : Option String} (silent : Unreported first before)
    (reported : Reported checks before last outcomes stored) :
    Reported checks first last outcomes stored := by
  obtain ⟨events, more, narrates⟩ := reported.narrated
  rw [silent.events] at more
  rw [silent.sequence] at narrates
  exact ⟨events, more, narrates⟩

theorem Reported.stored {before between : RunState} (silent : Unreported before between)
    (receiptId : String) :
    Reported [] before (between.progressed world .receiptStored none none (some receiptId)) []
      (some receiptId) := by
  refine ⟨[storedEvent receiptId (before.sequence + 1) (world.clock between.moment)], ?_,
    .stored _ _⟩
  simp only [RunState.progressed, List.map_append, silent.events, silent.sequence]
  rfl

private theorem collectEvidence_tells (discovery : DiscoveryReport) (before : RunState) :
    (∃ payload after, collectEvidence world store discovery invocation before =
        .ok payload after ∧ ∀ last outcomes stored, Reported [] after last outcomes stored →
      Reported (selectedChecks discovery) before last
        (payload.checks.map CheckExecution.outcome ++ outcomes) stored) ∨
    ∃ error after, collectEvidence world store discovery invocation before =
        .error error after ∧ ∃ outcomes,
      Reported (selectedChecks discovery) before after outcomes none := by
  have started : unixTimeMs world before =
      .ok (world.clock before.moment) (before.observed world) := rfl
  have observed : Unreported before (before.observed world) := ⟨rfl, rfl⟩
  rcases @runLoop_tells _ world store invocation (selectedChecks discovery) 0 false
    (before.observed world) with ⟨executions, looped, ran, reports⟩ |
      ⟨error, after, failed, outcomes, reported⟩
  · cases identified : identifySource world.after with
    | error error =>
        have failed : ofExcept (identifySource world.after) looped = .error error looped := by
          rw [identified]
          rfl
        refine .inr ⟨error, looped, ?_, _,
          .of_silent observed (reports looped [] none (.silent (.refl looped) []))⟩
        rw [collectEvidence, bind_of_ok started, bind_of_ok ran]
        exact bind_of_error failed
    | ok source =>
        refine .inl ⟨_, _, collectEvidence_eq ran identified, ?_⟩
        intro last outcomes stored later
        have silent : Unreported looped ({ looped.observed world with
            cancelledAtOutcome := (looped.observed world).cancelled }.observed world) := ⟨rfl, rfl⟩
        exact .of_silent observed (reports last outcomes stored (.of_silent silent later))
  · refine .inr ⟨error, after, ?_, outcomes, .of_silent observed reported⟩
    rw [collectEvidence, bind_of_ok started]
    exact bind_of_error failed

/-- A program that reports what it ends with, and some of it when it fails. -/
def Tells {Value : Type} (checks : List CheckDefinition)
    (told : Value → List CheckOutcome × Option String) (program : RunM Value) : Prop :=
  ∀ before, (∃ value after, program before = .ok value after ∧
      Reported checks before after (told value).1 (told value).2) ∨
    ∃ error after, program before = .error error after ∧
      ∃ outcomes, Reported checks before after outcomes none

namespace Tells

variable {Value Other : Type} {checks : List CheckDefinition}
  {told : Value → List CheckOutcome × Option String}

omit [Sha2] in
theorem throw (error : TaskError) :
    Tells checks told (MonadExcept.throw error : RunM Value) :=
  fun before => .inr ⟨error, before, rfl, [], .silent (.refl before) checks⟩

omit [Sha2] in
/-- What comes before the first report reports nothing. -/
theorem after {program : RunM Other} {next : Other → RunM Value}
    (unreported : Framed Unreported program) (later : ∀ value, Tells checks told (next value)) :
    Tells checks told (program >>= next) := by
  intro before
  have silent := unreported before
  cases ran : program before with
  | error error after =>
      rw [finalState_of_error ran] at silent
      exact .inr ⟨error, after, bind_of_error ran, [], .silent silent checks⟩
  | ok value between =>
      rw [finalState_of_ok ran] at silent
      rw [bind_of_ok ran]
      rcases later value between with ⟨result, after, ended, reported⟩ |
        ⟨error, after, failed, outcomes, reported⟩
      · exact .inl ⟨result, after, ended, .of_silent silent reported⟩
      · exact .inr ⟨error, after, failed, outcomes, .of_silent silent reported⟩

omit [Sha2] in
theorem map {program : RunM Value} (tells : Tells checks told program)
    {convert : Value → Other} {told' : Other → List CheckOutcome × Option String}
    (same : ∀ value, told' (convert value) = told value) :
    Tells checks told' (program >>= fun value => pure (convert value)) := by
  intro before
  rcases tells before with ⟨value, after, ended, reported⟩ | ⟨error, after, failed, reported⟩
  · rw [← same] at reported
    exact .inl ⟨convert value, after, by rw [bind_of_ok ended]; rfl, reported⟩
  · exact .inr ⟨error, after, bind_of_error failed, reported⟩

end Tells

omit [Sha2] in
/-- What the reports say of a receipt. -/
def Receipt.told (receipt : Receipt) : List CheckOutcome × Option String :=
  (receipt.payload.checks.map CheckExecution.outcome, some receipt.receiptId)

/-- The reports of a run that ends well are those of all its checks and of the receipt. -/
theorem runChecks_tells [JsonDiagnostics] (discovery : DiscoveryReport) :
    Tells (selectedChecks discovery) Receipt.told
      (runChecks world store discovery invocation) := by
  intro before
  rcases @collectEvidence_tells _ world store invocation discovery before with
    ⟨payload, collected, collecting, reports⟩ | ⟨error, after, failed, reported⟩
  · have silent := (@storeReceipt_idle store _ world.process world.publish
      (buildReceipt payload)).reportsNothing collected
    cases storing : storeReceipt world.process world.publish store (buildReceipt payload)
        collected with
    | error error after =>
        rw [finalState_of_error storing] at silent
        refine .inr ⟨error, after, ?_, _, reports after [] none (.silent silent [])⟩
        rw [runChecks, bind_of_ok collecting]
        exact bind_of_error storing
    | ok path stored =>
        rw [finalState_of_ok storing] at silent
        refine .inl ⟨buildReceipt payload, stored.progressed world .receiptStored none none
          (some (buildReceipt payload).receiptId), ?_, ?_⟩
        · rw [runChecks, bind_of_ok collecting]
          simp only [bind_of_ok storing]
          rfl
        · have ended := reports _ [] _ (@Reported.stored _ world _ _ silent
            (buildReceipt payload).receiptId)
          rwa [List.append_nil] at ended
  · refine .inr ⟨error, after, ?_, reported⟩
    rw [runChecks]
    exact bind_of_error failed

end Run

end TaskAttest
