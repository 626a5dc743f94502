import TaskAttest.ExecuteProperties

/-! What the operations of a run leave alone: most report nothing and start no child, and
what happens between the two events of a check reports nothing. -/

set_option autoImplicit false

namespace TaskAttest

open Program

/-! What reports nothing -/

structure Unreported (before after : RunState) : Prop where
  events : after.events = before.events
  sequence : after.sequence = before.sequence

namespace Unreported

theorem refl (state : RunState) : Unreported state state := ⟨rfl, rfl⟩

theorem trans {first second third : RunState} (earlier : Unreported first second)
    (later : Unreported second third) : Unreported first third :=
  ⟨later.events.trans earlier.events, later.sequence.trans earlier.sequence⟩

end Unreported

/-- Nothing is reported, and children are only added to those there were. -/
structure Unannounced (before after : RunState) : Prop extends Unreported before after where
  spawned : before.spawned <+: after.spawned

theorem Unannounced.trans {first second third : RunState} (earlier : Unannounced first second)
    (later : Unannounced second third) : Unannounced first third :=
  ⟨earlier.toUnreported.trans later.toUnreported, earlier.spawned.trans later.spawned⟩

/-- Nothing is reported, and no child is started. -/
structure Idle (before after : RunState) : Prop extends Unreported before after where
  spawned : after.spawned = before.spawned

namespace Idle

theorem refl (state : RunState) : Idle state state := ⟨.refl state, rfl⟩

theorem trans {first second third : RunState} (earlier : Idle first second)
    (later : Idle second third) : Idle first third :=
  ⟨earlier.toUnreported.trans later.toUnreported, later.spawned.trans earlier.spawned⟩

end Idle

/-- An operation that reports nothing and starts no child, however it ends. -/
def StaysIdle {Value : Type} (action : RunM Value) : Prop := Framed Idle action

namespace StaysIdle

variable {Value Other : Type}

theorem bind {program : RunM Value} {next : Value → RunM Other} (idle : StaysIdle program)
    (later : ∀ value, StaysIdle (next value)) : StaysIdle (program >>= next) :=
  Framed.bind (fun earlier later => earlier.trans later) idle later

theorem pure (value : Value) : StaysIdle (Pure.pure value : RunM Value) :=
  Framed.pure Idle.refl value

theorem throw (error : TaskError) : StaysIdle (MonadExcept.throw error : RunM Value) :=
  Framed.throw Idle.refl error

theorem reportsNothing {program : RunM Value} (idle : StaysIdle program) :
    Framed Unreported program := Framed.mono idle Idle.toUnreported

private theorem unannounced {program : RunM Value} (idle : StaysIdle program) :
    Framed Unannounced program :=
  Framed.mono idle fun kept => ⟨kept.toUnreported, kept.spawned ▸ List.prefix_refl _⟩

theorem ofExcept (result : Except TaskError Value) : StaysIdle (TaskAttest.ofExcept result) := by
  cases result <;> exact fun _ => ⟨⟨rfl, rfl⟩, rfl⟩

theorem onDisk (operation : Disk → Except TaskError Value × Disk) :
    StaysIdle (TaskAttest.onDisk operation) := by
  intro state
  unfold finalState TaskAttest.onDisk
  cases operation state.disk with
  | mk result disk => cases result <;> exact ⟨⟨rfl, rfl⟩, rfl⟩

theorem createFile (allocation : Allocation) (faults : Nat → Option IoError) :
    StaysIdle (TaskAttest.createFile allocation faults) := by
  intro state
  unfold finalState TaskAttest.createFile
  obtain ⟨result, sequence, disk⟩ :=
    allocation.run faults allocationAttempts state.logSequence state.disk
  cases result <;> exact ⟨⟨rfl, rfl⟩, rfl⟩

theorem discardFile (fault : Option IoError) (path : String) :
    StaysIdle (TaskAttest.discardFile fault path) := fun _ => ⟨⟨rfl, rfl⟩, rfl⟩

theorem onFailure {action : RunM Value} {cleanup : RunM Unit} (idle : StaysIdle action)
    (cleaned : StaysIdle cleanup) : StaysIdle (TaskAttest.onFailure action cleanup) := by
  intro state
  have first := idle state
  cases ran : action state with
  | ok value between =>
      rw [finalState_of_ok ran] at first
      simp only [finalState, TaskAttest.onFailure, ran]
      exact first
  | error error between =>
      rw [finalState_of_error ran] at first
      have second := cleaned between
      simp only [finalState, TaskAttest.onFailure, ran] at second ⊢
      cases cleaning : cleanup between <;> simp only [cleaning] at second ⊢ <;>
        exact first.trans second

end StaysIdle

section Checks

variable [Sha2] {world : World} {here : CheckWorld} {store : StateStore}
  {check : CheckDefinition} {maxLogBytes startedUnixMs : UInt64} {paths : String × String}

theorem unixTimeMs_idle : StaysIdle (unixTimeMs world) := fun _ => ⟨⟨rfl, rfl⟩, rfl⟩

theorem elapsedMs_idle : StaysIdle (elapsedMs world) := fun _ => ⟨⟨rfl, rfl⟩, rfl⟩

private theorem discardCaptures_idle : StaysIdle (discardCaptures here paths) :=
  StaysIdle.bind (.discardFile _ _) fun _ => .discardFile _ _

theorem createCaptureFiles_idle : StaysIdle (createCaptureFiles world here store) := by
  apply StaysIdle.bind (.createFile _ _)
  intro stdoutPath
  apply StaysIdle.bind (.onFailure (.createFile _ _) (.discardFile _ _))
  exact fun _ => .pure _

theorem spawnFailedExecution_idle (error : IoError) :
    StaysIdle (spawnFailedExecution world here check startedUnixMs paths error) := by
  apply StaysIdle.bind discardCaptures_idle
  intro _
  apply StaysIdle.bind unixTimeMs_idle
  intro _
  apply StaysIdle.bind elapsedMs_idle
  exact fun _ => .pure _

/-- A child that was started is all that is new. -/
theorem spawnChild_started (directory : String) (before : RunState) :
    Unreported before (finalState (spawnChild world here check directory paths) before) ∧
      (finalState (spawnChild world here check directory paths) before).spawned =
        before.spawned ++ [{
          check
          workingDirectory := directory
          environment := forwardEnvironment world.environment check.passEnvironment }] := by
  cases hasStdout : here.hasStdout <;> cases hasStderr : here.hasStderr <;>
    simp only [finalState, spawnChild, hasStdout, hasStderr, bind, EStateM.bind, modify_apply,
      discardCaptures_apply, throw_apply, Bool.not_true, Bool.not_false, Bool.false_eq_true,
      if_false, if_true, pure_apply, and_true] <;>
    exact ⟨rfl, rfl⟩

private theorem superviseChild_idle : StaysIdle (superviseChild here check maxLogBytes paths) := by
  intro state
  unfold finalState superviseChild
  simp only
  cases (here.supervise ⟨check.id, maxLogBytes, paths.1, paths.2, state.cancelled⟩).result <;>
    exact ⟨⟨rfl, rfl⟩, rfl⟩

theorem supervisedExecution_idle : StaysIdle
    (supervisedExecution world here store check maxLogBytes startedUnixMs paths) := by
  have persisted (faults : BlobFaults) (capture : Capture) :
      StaysIdle (persistCapture store faults capture) :=
    StaysIdle.bind (.onDisk _) fun _ => .pure _
  apply StaysIdle.bind superviseChild_idle
  intro supervised
  apply StaysIdle.bind (persisted _ _)
  intro _
  apply StaysIdle.bind (persisted _ _)
  intro _
  apply StaysIdle.bind unixTimeMs_idle
  intro _
  apply StaysIdle.bind elapsedMs_idle
  exact fun _ => .pure _

/-- Whatever becomes of a check reports nothing. -/
theorem executeCheck_unannounced :
    Framed Unannounced (executeCheck world here store check maxLogBytes) := by
  have either {Value Other : Type} {program : RunM Value} {next : Value → RunM Other}
      (first : Framed Unannounced program) (later : ∀ value, Framed Unannounced (next value)) :
      Framed Unannounced (program >>= next) :=
    Framed.bind (fun earlier later => earlier.trans later) first later
  apply either unixTimeMs_idle.unannounced
  intro started
  apply either (StaysIdle.ofExcept _).unannounced
  intro directory
  apply either createCaptureFiles_idle.unannounced
  intro paths
  cases here.spawn with
  | some error => exact (spawnFailedExecution_idle error).unannounced
  | none =>
      have starts : Framed Unannounced (spawnChild world here check directory paths) := by
        intro before
        obtain ⟨silent, added⟩ := @spawnChild_started _ world here check paths directory before
        exact ⟨silent, added ▸ List.prefix_append ..⟩
      exact either starts fun _ => supervisedExecution_idle.unannounced

theorem skippedExecution_idle : StaysIdle (skippedExecution world check) :=
  StaysIdle.bind unixTimeMs_idle fun _ => .pure _

theorem skipOrExecute_unannounced {invocation : Invocation} (position : Nat) (stop : Bool) :
    Framed Unannounced (skipOrExecute world store invocation position stop check) :=
  Framed.ite skippedExecution_idle.unannounced executeCheck_unannounced

omit [Sha2] in
theorem storeReceipt_idle [JsonDiagnostics] {process : Nat} {faults : PublishFaults}
    (receipt : Receipt) : StaysIdle (storeReceipt process faults store receipt) := by
  intro state
  unfold finalState storeReceipt
  obtain ⟨result, jsonSequence, disk⟩ :=
    store.writeReceipt process faults receipt state.jsonSequence state.disk
  cases result <;> exact ⟨⟨rfl, rfl⟩, rfl⟩

end Checks

end TaskAttest
