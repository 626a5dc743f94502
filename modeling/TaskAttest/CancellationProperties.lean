import TaskAttest.BudgetProperties
import TaskAttest.CleanupProperties
import TaskAttest.IdleProperties

/-! What happens to the checks that start after the token was set. -/

set_option autoImplicit false

namespace TaskAttest

open Program Interleaving

section Checks

variable [Sha2] {world : World} {here : CheckWorld} {store : StateStore}
  {check : CheckDefinition} {maxLogBytes startedUnixMs : UInt64} {paths : String × String}

/-- What is recorded of a check whose program could be started says that it was. -/
theorem executeCheck_spawns {execution : CheckExecution} {before after : RunState}
    (ran : executeCheck world here store check maxLogBytes before = .ok execution after) :
    execution.outcome = .spawnFailed ∨
      ∃ process, process.check = check ∧ after.spawned = before.spawned ++ [process] := by
  obtain ⟨_, paths, created, creating, rest⟩ := executeCheck_cases ran
  rcases rest with ⟨error, _, failing⟩ | ⟨_, spawned, starting, supervising⟩
  · rw [spawnFailedExecution_eq] at failing
    cases failing
    exact .inl rfl
  · obtain ⟨process, known, shape⟩ := spawnChild_ok starting
    have later := (@supervisedExecution_idle _ world here store check maxLogBytes
      (world.clock before.moment) paths spawned).spawned
    rw [finalState_of_ok supervising] at later
    have early : created.spawned = before.spawned := by
      rw [(createCaptureFiles_ok creating).2]
      rfl
    exact .inr ⟨process, known, by rw [later, shape, early]⟩

end Checks

/-! The turns of the loop -/

/-- One turn of the loop: whether fail-fast stops it, whether the token was set when the
check was announced, the processes it starts and the outcome it records. -/
structure Turn where
  check : CheckDefinition
  stopped : Bool
  cancelled : Bool
  processes : List SpawnedProcess
  recorded : Option CheckOutcome

section Turns

variable [Sha2] {world : World} {store : StateStore} {invocation : Invocation}

/-- The state when a check was announced. -/
def RunState.announced (world : World) (state : RunState) (check : CheckDefinition) : RunState :=
  state.progressed world .checkStarted (some check.id) none none

/-- The state when a turn has ended well. -/
def RunState.turned (world : World) (state : RunState) (execution : CheckExecution) : RunState :=
  state.progressed world .checkFinished (some execution.check.id) (some execution.outcome) none

/-- How a turn ends. -/
def turnEnd (world : World) (store : StateStore) (invocation : Invocation) (position : Nat)
    (stop : Bool) (check : CheckDefinition) (state : RunState) :
    Except TaskError CheckExecution × RunState :=
  outcome (skipOrExecute world store invocation position stop check)
    (state.announced world check)

def turn (world : World) (store : StateStore) (invocation : Invocation) (position : Nat)
    (stop : Bool) (check : CheckDefinition) (state : RunState) : Turn :=
  let ended := turnEnd world store invocation position stop check state
  { check
    stopped := stop
    cancelled := (state.announced world check).cancelled
    processes := ended.2.spawned.drop (state.announced world check).spawned.length
    recorded := ended.1.toOption.map (·.outcome) }

/-- The turns of the loop up to its end or to the first failure. -/
def turns (world : World) (store : StateStore) (invocation : Invocation) :
    Nat → Bool → List CheckDefinition → RunState → List Turn
  | _, _, [], _ => []
  | position, stop, check :: rest, state =>
      let ended := turnEnd world store invocation position stop check state
      turn world store invocation position stop check state ::
        match ended.1 with
        | .error _ => []
        | .ok execution =>
            turns world store invocation (position + 1)
              (invocation.failFast && execution.outcome != .passed) rest
              (ended.2.turned world execution)

/-! The loop is its turns -/

private theorem turnEnd_unannounced {position : Nat} {stop : Bool} {check : CheckDefinition}
    {state : RunState} : Unannounced (state.announced world check)
      (turnEnd world store invocation position stop check state).2 := by
  have silent := (@skipOrExecute_unannounced _ world store check invocation position stop)
    (state.announced world check)
  unfold turnEnd outcome
  cases ran : skipOrExecute world store invocation position stop check
      (state.announced world check) with
  | ok execution after => rwa [finalState_of_ok ran] at silent
  | error error after => rwa [finalState_of_error ran] at silent

private theorem turn_spawned (position : Nat) (stop : Bool) (check : CheckDefinition)
    (state : RunState) :
    (turnEnd world store invocation position stop check state).2.spawned =
      state.spawned ++ (turn world store invocation position stop check state).processes := by
  obtain ⟨processes, grown⟩ := (@turnEnd_unannounced _ world store invocation position stop check
    state).spawned
  simp only [turn, ← grown, List.drop_left]
  rfl

private theorem turn_events (position : Nat) (stop : Bool) (check : CheckDefinition)
    (state : RunState) :
    (turnEnd world store invocation position stop check state).2.events =
      (state.announced world check).events :=
  turnEnd_unannounced.events

/-- The announcements of checks, each with whether the token was set. -/
def announcements (events : List Emitted) : List (Option String × Bool) :=
  (events.filter fun emitted => emitted.event.state == .checkStarted).map fun emitted =>
    (emitted.event.checkId, emitted.cancelled)

private theorem announcements_announced (state : RunState) (check : CheckDefinition) :
    announcements (state.announced world check).events =
      announcements state.events ++ [(some check.id, (state.announced world check).cancelled)] := by
  simp [announcements, RunState.announced, RunState.progressed]

private theorem announcements_finished (state : RunState) (check : Option String)
    (recorded : Option CheckOutcome) :
    announcements (state.progressed world .checkFinished check recorded none).events =
      announcements state.events := by
  simp [announcements, RunState.progressed]

private theorem runCheck_turned {position : Nat} {stop : Bool} {check : CheckDefinition}
    {state after : RunState} {execution : CheckExecution}
    (ended : turnEnd world store invocation position stop check state = (.ok execution, after)) :
    runCheck world store invocation position stop check state =
      .ok execution (after.turned world execution) := by
  have announcing : onProgress world .checkStarted (some check.id) none none state =
      .ok () (state.announced world check) := rfl
  unfold turnEnd outcome at ended
  cases ran : skipOrExecute world store invocation position stop check
      (state.announced world check) with
  | error error final =>
      rw [ran] at ended
      cases ended
  | ok other final =>
      rw [ran] at ended
      cases ended
      rw [runCheck, bind_of_ok announcing, bind_of_ok ran]
      rfl

private theorem runCheck_failed {position : Nat} {stop : Bool} {check : CheckDefinition}
    {state after : RunState} {error : TaskError}
    (ended : turnEnd world store invocation position stop check state = (.error error, after)) :
    runCheck world store invocation position stop check state = .error error after := by
  have announcing : onProgress world .checkStarted (some check.id) none none state =
      .ok () (state.announced world check) := rfl
  unfold turnEnd outcome at ended
  cases ran : skipOrExecute world store invocation position stop check
      (state.announced world check) with
  | ok other final =>
      rw [ran] at ended
      cases ended
  | error other final =>
      rw [ran] at ended
      cases ended
      rw [runCheck, bind_of_ok announcing, bind_of_error ran]

/-- What the turns of a loop say of its end. -/
structure Traced (state : RunState) (turns : List Turn)
    (ended : Except TaskError (List CheckExecution) × RunState) : Prop where
  spawned : ended.2.spawned = state.spawned ++ turns.flatMap (·.processes)
  announced : announcements ended.2.events = announcements state.events ++
    turns.map fun turn => (some turn.check.id, turn.cancelled)
  recorded : ∀ executions, ended.1 = .ok executions →
    turns.map (·.recorded) = executions.map fun execution => some execution.outcome

/-- What the loop starts, announces and records is what its turns do. -/
theorem runLoop_traced (position : Nat) (stop : Bool) (checks : List CheckDefinition)
    (state : RunState) :
    Traced state (turns world store invocation position stop checks state)
      (outcome (runLoop world store invocation position stop checks) state) := by
  induction checks generalizing position stop state with
  | nil =>
      refine ⟨(List.append_nil _).symm, (List.append_nil _).symm, ?_⟩
      intro executions returned
      cases returned
      rfl
  | cons check rest ih =>
      have spawned := @turn_spawned _ world store invocation position stop check state
      have events := @turn_events _ world store invocation position stop check state
      have announced := @announcements_announced _ world state check
      cases ending : turnEnd world store invocation position stop check state with
      | mk result between =>
          rw [ending] at spawned events
          simp only at spawned events
          rw [← events] at announced
          cases result with
          | error error =>
              have ran := runCheck_failed ending
              simp only [turns, ending, outcome, runLoop, bind_of_error ran]
              refine ⟨by simp [spawned], by rw [announced]; rfl, ?_⟩
              intro executions returned
              cases returned
          | ok execution =>
              have ran := runCheck_turned ending
              obtain ⟨laterSpawned, laterAnnounced, laterRecorded⟩ := ih (position + 1)
                (invocation.failFast && execution.outcome != .passed)
                (between.turned world execution)
              have recorded : (turn world store invocation position stop check state).recorded =
                  some execution.outcome := by
                simp only [turn, ending]
                rfl
              have finished : announcements (between.turned world execution).events =
                  announcements between.events := announcements_finished _ _ _
              have joined : (between.turned world execution).spawned = between.spawned := rfl
              simp only [turns, ending, outcome, runLoop, bind_of_ok ran]
              cases later : runLoop world store invocation (position + 1)
                  (invocation.failFast && execution.outcome != .passed) rest
                  (between.turned world execution) with
              | error error final =>
                  simp only [outcome, later] at laterSpawned laterAnnounced
                  simp only [bind_of_error later]
                  refine ⟨?_, ?_, ?_⟩
                  · rw [laterSpawned, joined, spawned, List.flatMap_cons, List.append_assoc]
                  · rw [laterAnnounced, finished, announced, List.append_assoc]
                    rfl
                  · intro executions returned
                    cases returned
              | ok executions final =>
                  simp only [outcome, later] at laterSpawned laterAnnounced laterRecorded
                  simp only [bind_of_ok later]
                  refine ⟨?_, ?_, ?_⟩
                  · simp only [pure_apply]
                    rw [laterSpawned, joined, spawned, List.flatMap_cons, List.append_assoc]
                  · simp only [pure_apply]
                    rw [laterAnnounced, finished, announced, List.append_assoc]
                    rfl
                  · intro all returned
                    cases returned
                    rw [List.map_cons, recorded, laterRecorded executions rfl]
                    rfl

/-! Turns after the token was set -/

/-- A stopped turn starts nothing. -/
theorem turn_stopped (position : Nat) (check : CheckDefinition) (state : RunState) :
    (turn world store invocation position true check state).processes = [] ∧
      (turn world store invocation position true check state).recorded = some .skipped := by
  have skipped : outcome (skipOrExecute world store invocation position true check)
      (state.announced world check) = outcome (skippedExecution world check)
        (state.announced world check) := rfl
  unfold turn turnEnd
  rw [skipped]
  refine ⟨?_, rfl⟩
  exact List.drop_length

/-- A turn that is not stopped starts a process, or records something else. -/
theorem turn_started (position : Nat) (check : CheckDefinition) (state : RunState) :
    ¬((turn world store invocation position false check state).processes = [] ∧
      (turn world store invocation position false check state).recorded ∈
        [some .cancelled, some .skipped]) := by
  intro quiet
  obtain ⟨nothing, recorded⟩ := quiet
  cases ran : executeCheck world (world.check position) store check
      invocation.limits.maxLogBytesPerCheck (state.announced world check) with
  | error error after =>
      have ended : turnEnd world store invocation position false check state =
          (.error error, after) := outcome_of_error ran
      simp only [turn, ended, Except.toOption] at recorded
      simp at recorded
  | ok execution after =>
      have ended : turnEnd world store invocation position false check state =
          (.ok execution, after) := outcome_of_ok ran
      simp only [turn, ended, Except.toOption] at recorded nothing
      rcases executeCheck_spawns ran with failed | ⟨process, _, shape⟩
      · simp [failed] at recorded
      · rw [shape, List.drop_left] at nothing
        cases nothing

/-- Every turn of the loop is one of these. -/
theorem mem_turns {position : Nat} {stop : Bool} {checks : List CheckDefinition}
    {state : RunState} {member : Turn}
    (found : member ∈ turns world store invocation position stop checks state) :
    ∃ position stop check state,
      member = turn world store invocation position stop check state := by
  induction checks generalizing position stop state with
  | nil => cases found
  | cons check rest ih =>
      rw [turns] at found
      rcases List.mem_cons.mp found with first | later
      · exact ⟨_, _, _, _, first⟩
      · split at later
        · cases later
        · exact ih later

/-- What the loop does is what its turns do, and the checks that start after the token was set
stay unstarted, and are recorded as cancelled or skipped, exactly when fail-fast stops every
one of them. -/
theorem turns_cancellation_iff (world : World) (store : StateStore) (invocation : Invocation)
    (checks : List CheckDefinition) (state : RunState) :
    Traced state (turns world store invocation 0 false checks state)
      (outcome (runLoop world store invocation 0 false checks) state) ∧
    ((∀ turn ∈ turns world store invocation 0 false checks state, turn.cancelled = true →
      turn.processes = [] ∧ turn.recorded ∈ [some CheckOutcome.cancelled, some .skipped]) ↔
    ∀ turn ∈ turns world store invocation 0 false checks state, turn.cancelled = true →
      turn.stopped = true) := by
  refine ⟨runLoop_traced 0 false checks state, ?_⟩
  constructor
  · intro stays turn member cancelled
    have quiet := stays turn member cancelled
    obtain ⟨position, stop, check, state, rfl⟩ := mem_turns member
    cases stop with
    | true => rfl
    | false => exact absurd quiet (turn_started position check state)
  · intro stopped turn member cancelled
    have halted := stopped turn member cancelled
    obtain ⟨position, stop, check, state, rfl⟩ := mem_turns member
    cases halted
    obtain ⟨nothing, skipped⟩ := @turn_stopped _ world store invocation position check state
    exact ⟨nothing, by rw [skipped]; simp⟩

end Turns

/-! A run whose token is set from the start -/

section Sample

variable [Sha2]

def cancelledWorld : World := quietWorld false (unbornRepository [] [])

def cancelledStart : RunState := .start quietDisk 0 0 true

private theorem turnEnd_cancelled : ∃ after,
    turnEnd cancelledWorld quietStore quietInvocation 0 false quietCheck cancelledStart =
      (.ok quietExecution, after) ∧ after.spawned = [⟨quietCheck, "/repo", []⟩] :=
  ⟨_, outcome_of_ok (executeCheck_quiet_eq rfl rfl rfl), rfl⟩

private theorem turns_cancelled :
    turns cancelledWorld quietStore quietInvocation 0 false [quietCheck] cancelledStart =
      [⟨quietCheck, false, true, [⟨quietCheck, "/repo", []⟩], some .passed⟩] := by
  obtain ⟨after, ended, spawned⟩ := turnEnd_cancelled
  simp only [turns, turn, ended, spawned]
  rfl

end Sample

section StandardHash

attribute [local instance] standardSha2

/-- A check announced after the token was set is started, and passes before the loop has
looked at the token. -/
theorem cancelled_check_is_started : ∃ turn ∈
    turns cancelledWorld quietStore quietInvocation 0 false [quietCheck] cancelledStart,
    turn.cancelled = true ∧ turn.processes ≠ [] ∧ turn.recorded = some .passed := by
  rw [turns_cancelled]
  exact ⟨_, List.mem_singleton_self _, rfl, List.cons_ne_nil _ _, rfl⟩

end StandardHash

end TaskAttest
