import TaskAttest.OriginProperties
import TaskAttest.StreamProperties

/-! The children of a run, however it ends: for each selected check at most one, started
inside of the repository, with the variables it may have and no others. -/

set_option autoImplicit false

namespace TaskAttest

open Interleaving Program

/-! The environment of a child -/

section Environment

variable {environment : Environment} {name value : String}

private theorem mem_forwardEnvironment {explicit : List String} :
    (name, value) ∈ forwardEnvironment environment explicit ↔
      (name ∈ safeEnvironment ∨ name ∈ explicit) ∧ environment name = some value := by
  simp only [forwardEnvironment, List.mem_filterMap, mem_sortedSet, List.mem_append,
    Option.map_eq_some_iff, Prod.mk.injEq]
  constructor
  · intro forwarded
    obtain ⟨_, allowed, _, found, rfl, rfl⟩ := forwarded
    exact ⟨allowed, found⟩
  · intro forwarded
    obtain ⟨allowed, found⟩ := forwarded
    exact ⟨name, allowed, value, found, rfl, rfl⟩

private theorem mem_forwardedEnvironmentNames {checks : List CheckDefinition} :
    name ∈ forwardedEnvironmentNames environment checks ↔
      (name ∈ safeEnvironment ∨ ∃ check ∈ checks, name ∈ check.passEnvironment) ∧
        (environment name).isSome = true := by
  simp only [forwardedEnvironmentNames, mem_sortedSet, List.mem_filter, List.mem_append,
    List.mem_flatMap]

/-- What a child finds in its environment is named in the receipt. -/
theorem forwarded_named {checks : List CheckDefinition} {check : CheckDefinition}
    (member : check ∈ checks)
    (forwarded : (name, value) ∈ forwardEnvironment environment check.passEnvironment) :
    name ∈ forwardedEnvironmentNames environment checks := by
  obtain ⟨allowed, found⟩ := mem_forwardEnvironment.mp forwarded
  rw [mem_forwardedEnvironmentNames, found]
  exact ⟨allowed.imp_right fun asked => ⟨check, member, asked⟩, rfl⟩

end Environment

/-! Children -/

section Children

variable [Sha2] {world : World} {here : CheckWorld} {store : StateStore} {position : Nat}
  {check : CheckDefinition} {checks rest : List CheckDefinition} {Value Other : Type}

/-- A child that was started inside of the repository, with the variables that are
forwarded for its check. -/
structure Confined (world : World) (here : CheckWorld) (process : SpawnedProcess) : Prop where
  resolved : here.canonicalize (pathJoin world.after.root process.check.command.workingDirectory) =
    .ok process.workingDirectory
  inside : startsWith process.workingDirectory world.after.root = true
  directory : here.isDir process.workingDirectory = true
  environment : process.environment =
    forwardEnvironment world.environment process.check.passEnvironment

/-- The children of some checks, from a position on. A run may end after any of them. -/
inductive Children (world : World) : Nat → List CheckDefinition → List SpawnedProcess → Prop where
  | ended (position : Nat) (checks : List CheckDefinition) : Children world position checks []
  | without {position : Nat} {check : CheckDefinition} {rest : List CheckDefinition}
      {processes : List SpawnedProcess} :
      Children world (position + 1) rest processes →
      Children world position (check :: rest) processes
  | started {position : Nat} {process : SpawnedProcess} {rest : List CheckDefinition}
      {processes : List SpawnedProcess} :
      Confined world (world.check position) process →
      Children world (position + 1) rest processes →
      Children world position (process.check :: rest) (process :: processes)

namespace Children

variable {processes others : List SpawnedProcess}

/-- They come in the order of the checks, and no check has two. -/
theorem ordered (children : Children world position checks processes) :
    (processes.map SpawnedProcess.check).Sublist checks := by
  induction children with
  | ended _ _ => exact List.nil_sublist _
  | without _ ih => exact ih.cons _
  | started _ _ ih => exact ih.cons_cons _

private theorem confined (children : Children world position checks processes) :
    ∀ process ∈ processes, ∃ position, Confined world (world.check position) process := by
  induction children with
  | ended _ _ => exact List.forall_mem_nil _
  | without _ ih => exact ih
  | started confined _ ih => exact List.forall_mem_cons.mpr ⟨⟨_, confined⟩, ih⟩

theorem turn (children : Children world position [check] processes)
    (later : Children world (position + 1) rest others) :
    Children world position (check :: rest) (processes ++ others) := by
  cases children with
  | ended _ _ => exact .without later
  | without none =>
      cases none
      exact .without later
  | started confined none =>
      cases none
      exact .started confined later

end Children

/-- An operation that starts no child, however it ends. -/
def StartsNothing (action : RunM Value) : Prop :=
  Framed (fun before after : RunState => after.spawned = before.spawned) action

omit [Sha2] in
private theorem StaysIdle.startsNothing {action : RunM Value} (idle : StaysIdle action) :
    StartsNothing action := Framed.mono idle Idle.spawned

omit [Sha2] in
theorem StartsNothing.bind {program : RunM Value} {next : Value → RunM Other}
    (none : StartsNothing program) (later : ∀ value, StartsNothing (next value)) :
    StartsNothing (program >>= next) :=
  Framed.bind (fun earlier later => later.trans earlier) none later

/-- An operation whose children are those of some checks, however it ends. -/
def Starts (world : World) (position : Nat) (checks : List CheckDefinition)
    (action : RunM Value) : Prop :=
  Framed (fun before after : RunState => ∃ processes,
    after.spawned = before.spawned ++ processes ∧ Children world position checks processes) action

namespace Starts

variable {program : RunM Value} {next : Value → RunM Other}

theorem nothing (none : StartsNothing program) : Starts world position checks program :=
  fun before => ⟨[], by rw [none before, List.append_nil], .ended _ _⟩

theorem after (none : StartsNothing program)
    (continued : ∀ {value before between}, program before = .ok value between →
      Starts world position checks (next value)) :
    Starts world position checks (program >>= next) := by
  intro before
  have same := none before
  cases ran : program before with
  | error error after =>
      rw [finalState_of_error ran] at same
      rw [finalState_of_error (bind_of_error ran)]
      exact ⟨[], by rw [same, List.append_nil], .ended _ _⟩
  | ok value between =>
      obtain ⟨processes, grown, children⟩ := continued ran between
      rw [finalState_of_ok ran] at same
      rw [finalState, bind_of_ok ran]
      exact ⟨processes, by rw [← same]; exact grown, children⟩

/-- The children of one check, and then those of the others. -/
theorem turn (starts : Starts world position [check] program)
    (continued : ∀ value, Starts world (position + 1) rest (next value)) :
    Starts world position (check :: rest) (program >>= next) := by
  intro before
  obtain ⟨processes, grown, children⟩ := starts before
  cases ran : program before with
  | error error after =>
      rw [finalState_of_error ran] at grown
      rw [finalState_of_error (bind_of_error ran)]
      refine ⟨processes, grown, ?_⟩
      rw [← List.append_nil processes]
      exact children.turn (.ended _ _)
  | ok value between =>
      obtain ⟨others, more, later⟩ := continued value between
      rw [finalState_of_ok ran] at grown
      rw [finalState, bind_of_ok ran]
      refine ⟨processes ++ others, ?_, children.turn later⟩
      rw [← List.append_assoc, ← grown]
      exact more

private theorem followed (starts : Starts world position checks program)
    (none : ∀ value, StartsNothing (next value)) :
    Starts world position checks (program >>= next) := by
  intro before
  obtain ⟨processes, grown, children⟩ := starts before
  cases ran : program before with
  | error error after =>
      rw [finalState_of_error ran] at grown
      rw [finalState_of_error (bind_of_error ran)]
      exact ⟨processes, grown, children⟩
  | ok value between =>
      have same := none value between
      rw [finalState_of_ok ran] at grown
      rw [finalState, bind_of_ok ran]
      exact ⟨processes, same.trans grown, children⟩

end Starts

/-! The run -/

private theorem onProgress_startsNothing (state : ProgressState) (checkId : Option String)
    (outcome : Option CheckOutcome) (receiptId : Option String) :
    StartsNothing (onProgress world state checkId outcome receiptId) := fun _ => rfl

private theorem resolveWorkingDirectory_ok {root relative directory : String}
    (resolved : resolveWorkingDirectory here root relative = .ok directory) :
    here.canonicalize (pathJoin root relative) = .ok directory ∧
      startsWith directory root = true ∧ here.isDir directory = true := by
  unfold resolveWorkingDirectory at resolved
  cases found : here.canonicalize (pathJoin root relative) with
  | error error =>
      rw [found] at resolved
      cases resolved
  | ok path =>
      rw [found] at resolved
      simp only at resolved
      split at resolved
      · cases resolved
      · rename_i accepted
        cases resolved
        exact ⟨rfl, by simpa using accepted⟩

/-- A child is started where the directory of its check was resolved. -/
theorem executeCheck_starts {maxLogBytes : UInt64} :
    Starts world position [check] (executeCheck world (world.check position) store check
      maxLogBytes) := by
  apply Starts.after unixTimeMs_idle.startsNothing
  intro startedUnixMs _ _ _
  apply Starts.after (StaysIdle.ofExcept _).startsNothing
  intro directory before _ resolving
  have resolved : resolveWorkingDirectory (world.check position) world.after.root
      check.command.workingDirectory = .ok directory := by
    unfold ofExcept at resolving
    split at resolving
    · rename_i known
      cases resolving
      exact known
    · cases resolving
  obtain ⟨canonical, inside, isDirectory⟩ := resolveWorkingDirectory_ok resolved
  apply Starts.after createCaptureFiles_idle.startsNothing
  intro paths _ _ _
  cases (world.check position).spawn with
  | some error => exact .nothing (spawnFailedExecution_idle error).startsNothing
  | none =>
      apply Starts.followed
      · intro before
        have confined : Confined world (world.check position) {
            check
            workingDirectory := directory
            environment := forwardEnvironment world.environment check.passEnvironment } :=
          ⟨canonical, inside, isDirectory, rfl⟩
        exact ⟨_, (spawnChild_started directory before).2, .started confined (.ended _ [])⟩
      · exact fun _ => supervisedExecution_idle.startsNothing

private theorem runCheck_starts {invocation : Invocation} (stop : Bool) :
    Starts world position [check] (runCheck world store invocation position stop check) := by
  apply Starts.after (onProgress_startsNothing _ _ _ _)
  intro _ _ _ _
  apply Starts.followed
  · exact Framed.ite (Starts.nothing skippedExecution_idle.startsNothing) executeCheck_starts
  · exact fun _ => .bind (onProgress_startsNothing _ _ _ _) fun _ _ => rfl

private theorem runLoop_starts {invocation : Invocation} (stop : Bool) :
    Starts world position checks (runLoop world store invocation position stop checks) := by
  induction checks generalizing position stop with
  | nil => exact .nothing fun _ => rfl
  | cons check rest ih =>
      rw [runLoop]
      apply Starts.turn (runCheck_starts stop)
      exact fun _ => .followed (ih _) fun _ _ => rfl

private theorem runChecks_starts [JsonDiagnostics] {discovery : DiscoveryReport}
    {invocation : Invocation} :
    Starts world 0 (selectedChecks discovery) (runChecks world store discovery invocation) := by
  have collects : Starts world 0 (selectedChecks discovery)
      (collectEvidence world store discovery invocation) := by
    apply Starts.after unixTimeMs_idle.startsNothing
    intro _ _ _ _
    apply Starts.followed (runLoop_starts false)
    intro executions
    apply StartsNothing.bind (StaysIdle.ofExcept _).startsNothing
    intro sourceAfter
    apply StartsNothing.bind fun _ => rfl
    intro cancelled
    apply StartsNothing.bind unixTimeMs_idle.startsNothing
    intro completedUnixMs
    exact .bind elapsedMs_idle.startsNothing fun _ _ => rfl
  apply Starts.followed collects
  intro payload
  apply StartsNothing.bind (storeReceipt_idle _).startsNothing
  intro _
  exact .bind (onProgress_startsNothing _ _ _ _) fun _ _ => rfl

/-! The command -/

variable [JsonDiagnostics] [Packages] {arguments : RunArguments} {running : CommandWorld}

/-- Up to the receipt in the store, the children are those of the checks that are selected. -/
theorem attest_starts {git : GitContext} {discovery : DiscoveryReport}
    (discovered : discoverRun running arguments = .ok (git, discovery)) :
    Starts (running.running git) 0 (selectedChecks discovery)
      (attest running arguments).alone := by
  simp only [attest, Calls.alone_bind]
  apply Starts.after (preflightReceiptOut_idle _).startsNothing
  intro _ _ _ _
  simp only [discovered, Calls.alone_lift_ok, pure_bind, Among.alone_lift]
  apply Starts.after (createStore_idle _).startsNothing
  intro store _ _ _
  apply Starts.after (StaysIdle.ofExcept _).startsNothing
  intro _ _ _ _
  rw [Among.alone_runChecks]
  exact .followed runChecks_starts fun _ _ => rfl

/-- Without a discovery report nothing is started. -/
theorem attest_undiscovered {error : TaskError}
    (failed : discoverRun running arguments = .error error) :
    StartsNothing (attest running arguments).alone := by
  simp only [attest, Calls.alone_bind]
  apply StartsNothing.bind (preflightReceiptOut_idle _).startsNothing
  intro _
  simp only [failed, Among.alone_lift]
  intro before
  rw [finalState_of_error (bind_of_error (show ofExcept (.error error) before =
    .error error before from rfl))]

/-- What comes after the receipt starts nothing. -/
theorem run_spawned (before : RunState) :
    (finalState (run running arguments).alone before).spawned =
      (finalState (attest running arguments).alone before).spawned := by
  have publishes (store : StateStore) (receipt : Receipt) : StartsNothing
      ((publishReceipt running store receipt arguments.receiptOut).alone >>= fun _ =>
        (Calls.lift (emitReceipt arguments.format running.output)).alone >>= fun _ =>
          (pure (if receipt.payload.outcome = .passed then 0 else 1) : RunM UInt8)) := by
    apply StartsNothing.bind (publishReceipt_idle store receipt arguments.receiptOut).startsNothing
    intro _
    rw [Among.alone_lift]
    exact .bind (StaysIdle.ofExcept _).startsNothing fun _ _ => rfl
  simp only [run, Calls.alone_bind, Calls.alone_pure]
  cases attested : (attest running arguments).alone before with
  | error error after =>
      rw [finalState_of_error attested, finalState_of_error (bind_of_error attested)]
  | ok value after =>
      obtain ⟨store, receipt⟩ := value
      rw [finalState_of_ok attested, finalState, bind_of_ok attested]
      exact publishes store receipt after

/-- What a run with this report starts. -/
structure StartedBy (world : CommandWorld) (arguments : RunArguments) (git : GitContext)
    (discovery : DiscoveryReport) (config : TaskAttestConfig) (before after : RunState) : Prop where
  ordered : (after.spawned.map SpawnedProcess.check).Sublist (selectedChecks discovery)
  origin : ∀ process ∈ after.spawned,
    Origin { world.workspace with root := git.root } config process.check
  confined : ∀ process ∈ after.spawned, ∃ position,
    Confined (world.running git) ((world.running git).check position) process
  environment : ∀ process ∈ after.spawned, ∀ name value, (name, value) ∈ process.environment ↔
    (name ∈ safeEnvironment ∨ name ∈ process.check.passEnvironment) ∧
      world.run.environment name = some value
  named : ∀ {store receipt stored}, (attest world arguments).alone before =
      .ok (store, receipt) stored →
    ∀ process ∈ after.spawned, ∀ name value, (name, value) ∈ process.environment →
      name ∈ receipt.payload.environment.forwardedNames

omit [Sha2] [JsonDiagnostics] [Packages] in
private theorem selectedChecks_mem {discovery : DiscoveryReport}
    (member : check ∈ selectedChecks discovery) : check ∈ discovery.checks :=
  List.mem_of_mem_filter member

private theorem attest_forwards {git : GitContext} {discovery : DiscoveryReport}
    {store : StateStore} {receipt : Receipt} {before stored : RunState}
    (discovered : discoverRun running arguments = .ok (git, discovery))
    (attested : (attest running arguments).alone before = .ok (store, receipt) stored) :
    receipt.payload.environment.forwardedNames =
      forwardedEnvironmentNames running.run.environment (selectedChecks discovery) := by
  simp only [attest, Calls.alone_bind, bind_ok_iff, discovered, Calls.alone_lift_ok, pure_apply,
    EStateM.Result.ok.injEq, Among.alone_runChecks, Calls.alone_pure] at attested
  obtain ⟨_, _, _, _, _, ⟨rfl, rfl⟩, _, _, _, _, _, _, _, _, ran, same, _⟩ := attested
  cases same
  obtain ⟨_, ⟨_, ⟨_, _, _, _, assembled⟩, _⟩⟩ := runChecks_ok ran
  rw [assembled]
  rfl

/-- Whatever is started for checks, however the command ends, belongs to a selected one of
its report, each at most once and in order; runs inside of the repository; comes from the
files that were read or from the configuration; and has only variables that the receipt
names. -/
theorem run_starts_only (world : CommandWorld) (arguments : RunArguments) (disk : Disk) :
    let before : RunState := .start disk 0 0 false
    let after := finalState (run world arguments).alone before
    (∃ error, discoverRun world arguments = .error error ∧ after.spawned = []) ∨
    ∃ git discovery config configSource, discoverRun world arguments = .ok (git, discovery) ∧
      readConfiguration { world.workspace with root := git.root } = .ok (config, configSource) ∧
      StartedBy world arguments git discovery config before after := by
  intro before after
  have same : after.spawned = (finalState (attest world arguments).alone before).spawned :=
    run_spawned before
  cases discovered : discoverRun world arguments with
  | error error => exact .inl ⟨error, rfl, same.trans (attest_undiscovered discovered before)⟩
  | ok found =>
      obtain ⟨git, discovery⟩ := found
      obtain ⟨processes, grown, children⟩ := attest_starts discovered before
      have spawned : after.spawned = processes := same.trans grown
      have reported : ∃ source, discoverChecks { world.workspace with root := git.root } source
          arguments.changed arguments.check = .ok discovery := by
        simp only [discoverRun, except_bind_ok_iff, except_pure_ok_iff] at discovered
        obtain ⟨_, _, source, _, report, made, same⟩ := discovered
        cases same
        exact ⟨source, made⟩
      obtain ⟨source, reported⟩ := reported
      obtain ⟨config, configSource, read, origin⟩ := discoverChecks_origin reported
      have selected (process : SpawnedProcess) (member : process ∈ processes) :
          process.check ∈ selectedChecks discovery :=
        children.ordered.subset (List.mem_map_of_mem member)
      have forwards (process : SpawnedProcess) (member : process ∈ processes) :
          process.environment =
            forwardEnvironment world.run.environment process.check.passEnvironment := by
        obtain ⟨_, confined⟩ := children.confined process member
        exact confined.environment
      refine .inr ⟨git, discovery, config, configSource, rfl, read, ?_⟩
      rw [← spawned] at children selected forwards
      refine ⟨children.ordered, ?_, children.confined, ?_, ?_⟩
      · exact fun process member => origin _ (selectedChecks_mem (selected process member))
      · intro process member name value
        rw [forwards process member, mem_forwardEnvironment]
      · intro store receipt stored attested process member name value forwarded
        rw [attest_forwards discovered attested]
        rw [forwards process member] at forwarded
        exact forwarded_named (selected process member) forwarded

end Children

end TaskAttest
