import TaskAttest.ProcessGroup
import TaskAttest.SuperviseProperties

/-! The supervision on the processes of a host: it refines the supervision of an abstract
child, it leaves no process of the group running, and it ends. -/

set_option autoImplicit false

namespace TaskAttest

open Processes Transition

section Signals

variable {host signalled : CheckHost} {child now : Nat} {signal : Signal}

private theorem signalProcessGroup_follows
    (sent : signalProcessGroup host child signal = .ok signalled) :
    Follows host signalled := by
  unfold signalProcessGroup at sent
  split at sent <;> cases sent
  · exact .signal child signal
  · exact .refl

private theorem trySignalProcessGroup_follows :
    Follows host (trySignalProcessGroup host child signal) := by
  unfold trySignalProcessGroup
  split
  · exact signalProcessGroup_follows ‹_›
  · exact .refl

private theorem signalProcessGroup_silenced (sound : host.Sound child)
    (sent : signalProcessGroup host child .kill = .ok signalled) : signalled.Silenced := by
  unfold signalProcessGroup at sent
  split at sent <;> cases sent
  · exact sound.silenced
  · rename_i missing
    exact sound.silenced_of_undelivered (by rw [missing]; exact nofun)

private theorem trySignalProcessGroup_silenced (sound : host.Sound child) :
    (trySignalProcessGroup host child .kill).Silenced := by
  unfold trySignalProcessGroup
  split
  · exact signalProcessGroup_silenced sound ‹_›
  · rename_i refused
    refine sound.silenced_of_undelivered fun delivered => ?_
    rw [signalProcessGroup, delivered] at refused
    exact nomatch refused

private theorem processGroupExists_silenced (sound : host.Sound child)
    (missing : processGroupExists host child = false) : host.Silenced := by
  refine sound.silenced_of_undelivered fun delivered => ?_
  rw [processGroupExists, delivered] at missing
  exact nomatch missing

private theorem terminateStep_follows {before after : CheckHost × TerminatePhase}
    (step : TerminateStep child now before after) : Follows before.1 after.1 := by
  cases step with
  | signalled sent => exact signalProcessGroup_follows sent
  | killed sent => exact signalProcessGroup_follows sent
  | swept => exact trySignalProcessGroup_follows
  | hasExited _ => exact .reap _
  | reaped _ => exact .reap _
  | signalFails | within | elapsed | stillRunning | tryFails | wake | killFails | waitFails =>
      exact .refl

private theorem orphanStep_follows {before after : CheckHost × OrphanPhase}
    (step : OrphanStep child now before after) : Follows before.1 after.1 := by
  cases step with
  | stopped => exact trySignalProcessGroup_follows
  | finished => exact trySignalProcessGroup_follows
  | missing | found | wake => exact .refl

end Signals

/-! What every step keeps -/

/-- The status of the child, once it has been taken. -/
def PollPhase.reaped? : PollPhase → Option ExitStatus
  | .orphaned status _ | .joining _ status => some status
  | .terminating _ (.sweeping status) | .terminating _ (.done (.ok status)) => some status
  | _ => none

/-- The group has been killed, or it was gone. -/
def PollPhase.quiet : PollPhase → Bool
  | .joining _ _ | .orphaned _ .done => true
  | .terminating _ .reaping | .terminating _ (.done (.ok _)) => true
  | _ => false

structure GroupInvariant (setup : GroupSetup) (state : GroupState) : Prop where
  sound : state.host.Sound setup.child
  present : state.phase.reaped? = none → setup.child ∈ state.host.pids
  quiet : state.phase.quiet = true → state.host.Silenced

section Supervision

variable [Sha2] {setup : GroupSetup} {before after state : GroupState}

omit [Sha2] in
private theorem groupInvariant_initial {host : CheckHost} (spawned : setup.Spawned host)
    (elapsed : Nat) : GroupInvariant setup (setup.initial host elapsed) where
  sound := by
    constructor
    · intro pid member loyal
      by_cases same : pid = setup.child
      · subst same
        exact ⟨spawned.leads, spawned.permitted⟩
      · exact nomatch loyal.symm.trans (spawned.others pid member same).1
    · intro pid status ended channel
      by_cases same : pid = setup.child
      · subst same
        exact nomatch spawned.runs.2.symm.trans ended.2
      · exact (spawned.others pid ended.1 same).2 channel
  present _ := spawned.runs.1
  quiet := nofun

theorem streamStep_follows {stream : Stream} {path : String} {maxLogBytes : UInt64}
    {before after : CheckHost × CaptureThread × LogBudget}
    (step : StreamStep stream path maxLogBytes before after) : Follows before.1 after.1 := by
  cases step with
  | read => exact .drain _ _
  | writeFails => exact .drain _ _
  | readFails | endOfStream | panic | work => exact .refl

omit [Sha2] in
theorem loopStep_follows (step : LoopStep setup before after) :
    Follows before.host after.host := by
  cases step with
  | hasExited => exact .reap _
  | orphans _ step => exact orphanStep_follows step
  | terminates _ step => exact terminateStep_follows step
  | stillRunning | waitFails | stop | proceed | wake | exited | terminated | terminationFails =>
      exact .refl

theorem groupStep_follows (step : GroupStep setup before after) :
    Follows before.host after.host := by
  rcases step with step | step | step
  · exact loopStep_follows step
  · cases step with
    | stdout step | stderr step => exact streamStep_follows step
  · cases step with
    | processes step => exact step_follows step
    | time | cancel => exact .refl

omit [Sha2] in
private theorem orphanStep_invariant {status : ExitStatus} {host : CheckHost}
    {phase next : OrphanPhase}
    (invariant : GroupInvariant setup before) (orphaned : before.phase = .orphaned status phase)
    (step : OrphanStep setup.child before.now (before.host, phase) (host, next)) :
    GroupInvariant setup { before with host, phase := .orphaned status next } where
  sound := (orphanStep_follows step).sound invariant.sound
  present := nofun
  quiet := by
    intro quiet
    cases step with
    | missing missing => exact processGroupExists_silenced invariant.sound missing
    | finished => exact trySignalProcessGroup_silenced invariant.sound
    | found | stopped | wake => exact nomatch quiet

omit [Sha2] in
private theorem terminateStep_invariant {reason : StopReason} {host : CheckHost}
    {phase next : TerminatePhase} (invariant : GroupInvariant setup before)
    (terminating : before.phase = .terminating reason phase)
    (step : TerminateStep setup.child before.now (before.host, phase) (host, next)) :
    GroupInvariant setup { before with host, phase := .terminating reason next } := by
  have present (kept : (PollPhase.terminating reason phase).reaped? = none) :
      setup.child ∈ before.host.pids := invariant.present (by rw [terminating, kept])
  have signalled {signal : Signal} {signalled : CheckHost}
      (sent : signalProcessGroup before.host setup.child signal = .ok signalled) :
      signalled.pids = before.host.pids := by
    unfold signalProcessGroup at sent
    split at sent <;> cases sent <;> rfl
  refine ⟨(terminateStep_follows step).sound invariant.sound, ?_, ?_⟩
  · intro kept
    cases step with
    | signalled sent => exact signalled sent ▸ present rfl
    | killed sent => exact signalled sent ▸ present rfl
    | signalFails | within | elapsed | stillRunning | tryFails | wake | killFails | waitFails =>
        exact present rfl
    | hasExited | swept | reaped => exact nomatch kept
  · intro quiet
    cases step with
    | swept => exact trySignalProcessGroup_silenced invariant.sound
    | killed sent => exact signalProcessGroup_silenced invariant.sound sent
    | reaped _ => exact (Follows.reap _).silenced (invariant.quiet (by rw [terminating]; rfl))
    | signalled | signalFails | within | elapsed | stillRunning | tryFails | wake | killFails
    | hasExited | waitFails => exact nomatch quiet

omit [Sha2] in
private theorem loopStep_invariant (step : LoopStep setup before after)
    (invariant : GroupInvariant setup before) : GroupInvariant setup after := by
  obtain ⟨sound, present, quiet⟩ := invariant
  cases step with
  | stillRunning polling _ =>
      exact ⟨sound, fun _ => present (by rw [polling]; rfl), nofun⟩
  | hasExited _ _ => exact ⟨(Follows.reap _).sound sound, nofun, nofun⟩
  | waitFails _ polling => exact ⟨sound, fun _ => present (by rw [polling]; rfl), nofun⟩
  | stop checking _ => exact ⟨sound, fun _ => present (by rw [checking]; rfl), nofun⟩
  | @proceed reason checking _ =>
      refine ⟨sound, fun _ => present (by rw [checking]; rfl), fun quiet => ?_⟩
      cases reason <;> exact nomatch quiet
  | wake sleeping _ => exact ⟨sound, fun _ => present (by rw [sleeping]; rfl), nofun⟩
  | orphans orphaned step => exact orphanStep_invariant ⟨sound, present, quiet⟩ orphaned step
  | exited done => exact ⟨sound, nofun, fun _ => quiet (by rw [done]; rfl)⟩
  | terminates terminating step =>
      exact terminateStep_invariant ⟨sound, present, quiet⟩ terminating step
  | terminated done => exact ⟨sound, nofun, fun _ => quiet (by rw [done]; rfl)⟩
  | terminationFails done => exact ⟨sound, fun _ => present (by rw [done]; rfl), nofun⟩

/-- The readers and the outside keep it too: the child stays until the loop takes it, and
silence stays silence. -/
theorem groupStep_invariant (step : GroupStep setup before after)
    (invariant : GroupInvariant setup before) : GroupInvariant setup after := by
  rcases step with step | step | step
  · exact loopStep_invariant step invariant
  · have read {stream : Stream} {path : String} {thread reader : CaptureThread}
        {host : CheckHost} {budget : LogBudget}
        (step : StreamStep stream path setup.maxLogBytes (before.host, thread, before.budget)
          (host, reader, budget)) :
        host.Sound setup.child ∧ (before.phase.reaped? = none → setup.child ∈ host.pids) ∧
          (before.phase.quiet = true → host.Silenced) := by
      have follows := streamStep_follows step
      refine ⟨follows.sound invariant.sound, fun kept => ?_,
        fun quiet => follows.silenced (invariant.quiet quiet)⟩
      have present := invariant.present kept
      cases step <;> exact present
    cases step with
    | stdout step =>
        obtain ⟨sound, present, quiet⟩ := read step
        exact ⟨sound, present, quiet⟩
    | stderr step =>
        obtain ⟨sound, present, quiet⟩ := read step
        exact ⟨sound, present, quiet⟩
  · cases step with
    | processes step =>
        have follows := step_follows step
        exact ⟨follows.sound invariant.sound, fun kept => step_child step (invariant.present kept),
          fun quiet => follows.silenced (invariant.quiet quiet)⟩
    | time _ => exact ⟨invariant.sound, invariant.present, invariant.quiet⟩
    | cancel => exact ⟨invariant.sound, invariant.present, invariant.quiet⟩

theorem groupRun_invariant {host : CheckHost} {elapsed : Nat} (spawned : setup.Spawned host)
    (run : Run (GroupStep setup) (setup.initial host elapsed) state) :
    GroupInvariant setup state :=
  @run_invariant _ _ (GroupInvariant setup) groupStep_invariant _ _ run
    (groupInvariant_initial spawned elapsed)

end Supervision

/-! The supervision of an abstract child -/

def PollPhase.abstract : PollPhase → SupervisePhase
  | .polling | .orphaned _ _ => .waiting
  | .checking reason => .checking reason
  | .sleeping _ => .sleeping
  | .terminating reason _ => .terminating reason
  | .joining forced status => .joining forced status
  | .failed error => .failed error

/-- What the loop can know of the child: whether there is a status to take. -/
def lifeState : Life ExitStatus → ChildState
  | .ended status => .exited status
  | .running | .dying => .running

def GroupState.childState (setup : GroupSetup) (state : GroupState) : ChildState :=
  match state.phase.reaped? with
  | some status => .exited status
  | none => lifeState (state.host.process setup.child).life

def GroupState.abstract (setup : GroupSetup) (state : GroupState) : SuperviseState where
  child := state.childState setup
  cancelled := state.cancelled
  expired := setup.deadline ≤ state.now
  stdout := state.stdout
  stderr := state.stderr
  budget := state.budget
  phase := state.phase.abstract

section Refinement

variable [Sha2] {setup : GroupSetup} {before after state : GroupState}

omit [Sha2] in
private theorem childState_reaped {status : ExitStatus}
    (reaped : state.phase.reaped? = some status) :
    state.childState setup = .exited status := by
  rw [GroupState.childState, reaped]

omit [Sha2] in
private theorem childState_ended {status : ExitStatus} (kept : state.phase.reaped? = none)
    (ended : state.host.Ended setup.child status) : state.childState setup = .exited status := by
  rw [GroupState.childState, kept, ended.2]
  rfl

omit [Sha2] in
private theorem childState_running (invariant : GroupInvariant setup state)
    (kept : state.phase.reaped? = none) (unended : ∀ status, ¬state.host.Ended setup.child status) :
    state.childState setup = .running := by
  rw [GroupState.childState, kept]
  have member := invariant.present kept
  cases life : (state.host.process setup.child).life with
  | running => rfl
  | dying => rfl
  | ended status => exact absurd ⟨member, life⟩ (unended status)

omit [Sha2] in
private theorem lifeState_receive (process : Process ExitStatus Stream) (signal : Signal) :
    lifeState (process.receive signal).life = lifeState process.life := by
  unfold Process.receive
  split
  · rename_i running
    split <;> simp [lifeState, running]
  · rename_i running
    split <;> simp [lifeState, running]
  · rfl

omit [Sha2] in
private theorem lifeState_signalled {host signalled : CheckHost} {child pid : Nat} {signal : Signal}
    (sent : signalProcessGroup host child signal = .ok signalled) :
    lifeState (signalled.process pid).life = lifeState (host.process pid).life := by
  unfold signalProcessGroup at sent
  split at sent <;> cases sent
  · show lifeState (Process.life (if _ then _ else _)) = _
    split
    · exact lifeState_receive _ _
    · rfl
  · rfl

omit [Sha2] in
/-- The termination of the group is one step of the abstract supervision, its last. -/
theorem terminateStep_childState {reason : StopReason} {host : CheckHost}
    {phase next : TerminatePhase} (terminating : before.phase = .terminating reason phase)
    (step : TerminateStep setup.child before.now (before.host, phase) (host, next)) :
    GroupState.childState setup { before with host, phase := .terminating reason next } =
      before.childState setup := by
  have kept (unreaped : (PollPhase.terminating reason phase).reaped? = none)
      (also : (PollPhase.terminating reason next).reaped? = none)
      (same : lifeState (host.process setup.child).life =
        lifeState (before.host.process setup.child).life) :
      GroupState.childState setup { before with host, phase := .terminating reason next } =
        before.childState setup := by
    rw [GroupState.childState, GroupState.childState, terminating, unreaped]
    simp only [also, same]
  cases step with
  | signalled sent => exact kept rfl rfl (lifeState_signalled sent)
  | killed sent => exact kept rfl rfl (lifeState_signalled sent)
  | signalFails | within | elapsed | stillRunning | tryFails | wake | killFails | waitFails =>
      exact kept rfl rfl rfl
  | hasExited ended =>
      exact (childState_reaped rfl).trans (childState_ended (by rw [terminating]; rfl) ended).symm
  | reaped ended =>
      exact (childState_reaped rfl).trans (childState_ended (by rw [terminating]; rfl) ended).symm
  | swept => exact (childState_reaped rfl).trans (childState_reaped (by rw [terminating]; rfl)).symm

omit [Sha2] in
private theorem abstract_phase {phase : PollPhase} (same : phase.reaped? = before.phase.reaped?) :
    GroupState.abstract setup { before with phase } =
      { before.abstract setup with phase := phase.abstract } := by
  simp only [GroupState.abstract, GroupState.childState, same]

omit [Sha2] in
private theorem abstract_same {host : CheckHost} {phase : PollPhase}
    (child : GroupState.childState setup { before with host, phase } = before.childState setup)
    (same : phase.abstract = before.phase.abstract) :
    GroupState.abstract setup { before with host, phase } = before.abstract setup := by
  simp only [GroupState.abstract, child, same]

omit [Sha2] in
private theorem stops_abstract (reason : StopReason) :
    setup.stops before reason = reason.holds (before.abstract setup) := by
  cases reason <;> rfl

theorem moves {poll phase : PollPhase} (here : before.phase = poll)
    (same : phase.reaped? = poll.reaped?)
    (step : SuperviseStep setup.toSuperviseSetup (before.abstract setup)
      { before.abstract setup with phase := phase.abstract }) :
    Run (SuperviseStep setup.toSuperviseSetup) (before.abstract setup)
      (GroupState.abstract setup { before with phase }) := by
  rw [show GroupState.abstract setup { before with phase } = _ from
    abstract_phase (here ▸ same)]
  exact .single step

theorem stays {host : CheckHost} {phase : PollPhase}
    (child : GroupState.childState setup { before with host, phase } = before.childState setup)
    (same : phase.abstract = before.phase.abstract) :
    Run (SuperviseStep setup.toSuperviseSetup) (before.abstract setup)
      (GroupState.abstract setup { before with host, phase }) := by
  rw [show GroupState.abstract setup { before with host, phase } = _ from abstract_same child same]

/-- A step of the loop is a step of the abstract loop, or none. -/
theorem loopStep_refines (step : LoopStep setup before after)
    (invariant : GroupInvariant setup before) :
    Run (SuperviseStep setup.toSuperviseSetup) (before.abstract setup) (after.abstract setup) := by
  have phase {poll : PollPhase} (here : before.phase = poll) :
      (before.abstract setup).phase = poll.abstract := congrArg PollPhase.abstract here
  have kept {poll : PollPhase} (here : before.phase = poll) : poll.reaped? = before.phase.reaped? :=
    congrArg PollPhase.reaped? here.symm
  cases step with
  | stillRunning polling unended =>
      have running := childState_running invariant (kept polling).symm unended
      exact moves polling rfl (.stillRunning (phase polling) running)
  | hasExited polling ended =>
      have exited := childState_ended (kept polling).symm ended
      exact stays ((childState_reaped rfl).trans exited.symm) (phase polling).symm
  | waitFails error polling => exact moves polling rfl (.waitFails error (phase polling))
  | stop checking holds =>
      exact moves checking rfl (.stop (phase checking) ((stops_abstract _).symm.trans holds))
  | @proceed reason checking holds =>
      have proceeds := @SuperviseStep.proceed _ setup.toSuperviseSetup _ reason (phase checking)
        ((stops_abstract _).symm.trans holds)
      have next : (reason.next before.now).abstract = reason.otherwise := by cases reason <;> rfl
      refine moves checking ?_ (next ▸ proceeds)
      cases reason <;> rfl
  | wake sleeping _ => exact moves sleeping rfl (.wake (phase sleeping))
  | orphans orphaned _ =>
      refine stays (Eq.trans (childState_reaped rfl) ?_) (phase orphaned).symm
      exact (childState_reaped (kept orphaned).symm).symm
  | exited done =>
      exact moves done rfl (.hasExited (phase done) (childState_reaped (kept done).symm))
  | terminates terminating step =>
      exact stays (terminateStep_childState terminating step) (phase terminating).symm
  | terminated done =>
      exact moves done rfl (.alreadyExited (phase done) (childState_reaped (kept done).symm))
  | terminationFails done => exact moves done rfl (.terminationFails _ (phase done))

theorem streamStep_capture {stream : Stream} {path : String} {maxLogBytes : UInt64}
    {host read : CheckHost} {thread reader : CaptureThread} {budget spent : LogBudget}
    (step : StreamStep stream path maxLogBytes (host, thread, budget) (read, reader, spent)) :
    CaptureStep path maxLogBytes (thread, budget) (reader, spent) ∧
      read.process = host.process := by
  cases step with
  | read running reading nonempty short fits _ =>
      exact ⟨.read _ running reading nonempty short fits, rfl⟩
  | writeFails torn error running reading _ short isPrefix _ =>
      exact ⟨.writeFails _ torn error running reading short isPrefix, rfl⟩
  | readFails error running reading => exact ⟨.readFails error running reading, rfl⟩
  | endOfStream running reading _ _ => exact ⟨.endOfStream running reading, rfl⟩
  | panic unfinished => exact ⟨.panic unfinished, rfl⟩
  | work _ step => exact ⟨step, rfl⟩

omit [Sha2] in
private theorem abstract_stdout {host : CheckHost} {stdout : CaptureThread} {budget : LogBudget}
    (same : host.process = before.host.process) :
    GroupState.abstract setup { before with host, stdout, budget } =
      { before.abstract setup with stdout, budget } := by
  simp only [GroupState.abstract, GroupState.childState, same]

omit [Sha2] in
private theorem abstract_stderr {host : CheckHost} {stderr : CaptureThread} {budget : LogBudget}
    (same : host.process = before.host.process) :
    GroupState.abstract setup { before with host, stderr, budget } =
      { before.abstract setup with stderr, budget } := by
  simp only [GroupState.abstract, GroupState.childState, same]

private theorem readerStep_refines (step : ReaderStep setup before after) :
    SuperviseStep setup.toSuperviseSetup (before.abstract setup) (after.abstract setup) := by
  cases step with
  | stdout step =>
      obtain ⟨captured, same⟩ := streamStep_capture step
      rw [abstract_stdout same]
      exact .stdout captured
  | stderr step =>
      obtain ⟨captured, same⟩ := streamStep_capture step
      rw [abstract_stderr same]
      exact .stderr captured

omit [Sha2] in
/-- The loop sees nothing of a process before its end. -/
theorem lifeState_evolves {host : CheckHost} {before after : Process ExitStatus Stream}
    (evolves : Evolves host before after) :
    lifeState after.life = lifeState before.life ∨
      lifeState before.life = .running ∧ ∃ status, lifeState after.life = .exited status := by
  by_cases running : before.life = .running
  · rw [running]
    cases life : after.life with
    | running => exact .inl rfl
    | dying => exact .inl rfl
    | ended status => exact .inr ⟨rfl, status, rfl⟩
  · rcases evolves.still running with rfl | ⟨dying, status, rfl⟩
    · exact .inl rfl
    · rw [dying]
      exact .inr ⟨rfl, status, rfl⟩

/-- Of what happens to the processes, only the end of the child matters to the loop. -/
theorem outsideStep_refines (step : OutsideStep setup before after)
    (invariant : GroupInvariant setup before) :
    Run (SuperviseStep setup.toSuperviseSetup) (before.abstract setup) (after.abstract setup) := by
  cases step with
  | @processes host step =>
      have abstracted {child : ChildState}
          (same : GroupState.childState setup { before with host } = child) :
          GroupState.abstract setup { before with host } =
            { before.abstract setup with child } := by
        simp only [GroupState.abstract, same]
      have child (kept : before.phase.reaped? = none) (host : CheckHost) :
          GroupState.childState setup { before with host } =
            lifeState (host.process setup.child).life := by
        simp only [GroupState.childState, kept]
      cases kept : before.phase.reaped? with
      | some status =>
          rw [abstracted (childState_reaped kept), ← childState_reaped kept]
          exact .refl
      | none =>
          have present := invariant.present kept
          rcases step_follows step _ (step_child step present) with ⟨_, evolves⟩ | ⟨missing, _⟩
          · rcases lifeState_evolves evolves with same | ⟨running, status, exited⟩
            · rw [abstracted ((child kept host).trans (same.trans (child kept before.host).symm))]
              exact .refl
            · rw [abstracted ((child kept host).trans exited)]
              exact .single (.exit status ((child kept before.host).trans running))
          · exact absurd present missing
  | @time now later =>
      by_cases same : decide (setup.deadline ≤ now) = decide (setup.deadline ≤ before.now)
      · have unchanged : GroupState.abstract setup { before with now } = before.abstract setup := by
          simp only [GroupState.abstract, GroupState.childState, same]
        rw [unchanged]
      · have passed : decide (setup.deadline ≤ now) = true := by
          refine decide_eq_true (Decidable.byContradiction fun early => same ?_)
          rw [decide_eq_false early, decide_eq_false fun before => early (before.trans later)]
        have expired : GroupState.abstract setup { before with now } =
            { before.abstract setup with expired := true } := by
          simp only [GroupState.abstract, GroupState.childState, passed]
        rw [expired]
        exact .single .expire
  | cancel => exact .single .cancel

private theorem groupStep_refines (step : GroupStep setup before after)
    (invariant : GroupInvariant setup before) :
    Run (SuperviseStep setup.toSuperviseSetup) (before.abstract setup) (after.abstract setup) := by
  rcases step with step | step | step
  · exact loopStep_refines step invariant
  · exact .single (readerStep_refines step)
  · exact outsideStep_refines step invariant

theorem groupRun_refines {host : CheckHost} {elapsed : Nat} (spawned : setup.Spawned host)
    (run : Run (GroupStep setup) (setup.initial host elapsed) state) :
    Run (SuperviseStep setup.toSuperviseSetup)
      ((setup.initial host elapsed).abstract setup) (state.abstract setup) := by
  induction run with
  | refl => exact .refl
  | tail earlier step ih =>
      exact ih.trans (groupStep_refines step (groupRun_invariant spawned earlier))

/-- The deadline may have passed when the loop begins. -/
theorem initial_refines {host : CheckHost} {elapsed : Nat} (spawned : setup.Spawned host) :
    Run (SuperviseStep setup.toSuperviseSetup) setup.toSuperviseSetup.initial
      ((setup.initial host elapsed).abstract setup) := by
  have child : (setup.initial host elapsed).childState setup = .running := by
    show lifeState (host.process setup.child).life = _
    rw [spawned.runs.2]
    rfl
  have same : (setup.initial host elapsed).abstract setup =
      { setup.toSuperviseSetup.initial with expired := decide (setup.deadline ≤ elapsed) } := by
    rw [GroupState.abstract, child]
    rfl
  rw [same]
  cases decide (setup.deadline ≤ elapsed) with
  | false => exact .refl
  | true => exact .single .expire

omit [Sha2] in
theorem result_abstract (state : GroupState) :
    (state.abstract setup).result = state.result := by
  obtain ⟨_, _, _, _, _, _, phase⟩ := state
  cases phase <;> rfl

/-- What a supervision on the processes of a host returns, a supervision of an abstract child
returns, and it ends with the same threads and the same budget. -/
theorem supervision_refined {host : CheckHost} {elapsed : Nat}
    {result : Except TaskError (Option StopReason × ExitStatus × Capture × Capture)}
    (spawned : setup.Spawned host)
    (run : Run (GroupStep setup) (setup.initial host elapsed) state)
    (returned : state.result = some result) :
    ∃ supervision : Supervision setup.toSuperviseSetup,
      supervision.result = result ∧ supervision.ended = state.abstract setup := by
  have same : (state.abstract setup).result = some result := (result_abstract state).trans returned
  have reached := (initial_refines spawned).trans (groupRun_refines spawned run)
  refine ⟨⟨state.abstract setup, reached, by rw [same]; rfl⟩, ?_, rfl⟩
  simp only [Supervision.result, same, Option.get_some]

end Refinement

/-! A child that leaves two processes behind -/

section Sample

variable [Sha2]

def byteSetup : GroupSetup where
  checkId := "rust/test"
  maxLogBytes := 10
  stdoutPath := "stdout.log"
  stderrPath := "stderr.log"
  cancelled := false
  child := 7
  maxRuntimeMs := 1000

def byteHost : CheckHost where
  pids := {1, 7}
  process pid :=
    { group := if pid = 7 then 7 else 1, life := .running, handlesTerm := false,
      permitted := true, loyal := pid = 7, holds := fun _ => pid = 7 }
  buffer _ := []
  sent _ := []

omit [Sha2] in
theorem byteHost_spawned : byteSetup.Spawned byteHost where
  runs := ⟨by decide, rfl⟩
  leads := rfl
  permitted := rfl
  loyal := rfl
  others pid _ other := ⟨decide_eq_false other, fun _ => decide_eq_false other⟩
  empty _ := ⟨rfl, rfl⟩

/-- The child has started a helper and a daemon. -/
def helperHost : CheckHost :=
  { byteHost.set 8 (byteHost.process 7) with pids := insert 8 byteHost.pids }

def daemonHost : CheckHost :=
  { helperHost.set 9 (helperHost.process 7) with pids := insert 9 helperHost.pids }

/-- The daemon leaves the group and closes the pipes. -/
def movedHost : CheckHost :=
  daemonHost.set 9 { daemonHost.process 9 with group := 9, loyal := false }

def halfClosedHost : CheckHost :=
  movedHost.set 9 { movedHost.process 9 with
    holds := Function.update (movedHost.process 9).holds .stdout false }

def closedHost : CheckHost :=
  halfClosedHost.set 9 { halfClosedHost.process 9 with
    holds := Function.update (halfClosedHost.process 9).holds .stderr false }

/-- The child and the helper write a byte each, then the child exits. -/
def writtenHost : CheckHost := (closedHost.write .stdout [65]).write .stdout [66]

def exitedHost : CheckHost := writtenHost.set 7 ((writtenHost.process 7).finish ⟨some 0⟩)

/-- The helper has got the signal of the loop. -/
def signalledHost : CheckHost :=
  trySignalProcessGroup (trySignalProcessGroup (exitedHost.reap 7) 7 .term) 7 .kill

def deadHost : CheckHost := signalledHost.set 8 ((signalledHost.process 8).finish ⟨none⟩)

def byteThread : CaptureThread := CaptureThread.initial.absorb [65, 66]

/-- The loop has ended what it found, and the threads have not begun to read. -/
def byteJoining : GroupState :=
  { byteSetup.initial byteHost 30 with
    now := 130, host := signalledHost, phase := .joining none ⟨some 0⟩ }

def byteEnd : GroupState :=
  { byteJoining with
    host := deadHost.drain .stdout []
    stdout := { byteThread.keepTail [65, 66] with
      phase := .finished (.ok ((byteThread.keepTail [65, 66]).capture "stdout.log")) }
    stderr := { CaptureThread.initial with
      phase := .finished (.ok (CaptureThread.initial.capture "stderr.log")) }
    budget := ⟨2, false⟩ }

omit [Sha2] in
private theorem exitedHost_reached : Run (Step 7) byteHost exitedHost := by
  have helper : Step 7 byteHost helperHost :=
    @Step.fork _ _ _ 7 byteHost 7 8 ⟨by decide, rfl⟩ ⟨by decide, by decide⟩
  have daemon : Step 7 helperHost daemonHost :=
    @Step.fork _ _ _ 7 helperHost 7 9 ⟨by decide, rfl⟩ ⟨by decide, by decide⟩
  have moves : Step 7 daemonHost movedHost :=
    @Step.move _ _ _ 7 daemonHost 9 9 ⟨by decide, rfl⟩ (.inl rfl)
  have halfCloses : Step 7 movedHost halfClosedHost :=
    @Step.close _ _ _ 7 movedHost 9 .stdout ⟨by decide, rfl⟩
  have closes : Step 7 halfClosedHost closedHost :=
    @Step.close _ _ _ 7 halfClosedHost 9 .stderr ⟨by decide, rfl⟩
  have writes : Step 7 closedHost (closedHost.write .stdout [65]) :=
    @Step.write _ _ _ 7 closedHost 7 .stdout [65] ⟨by decide, rfl⟩ rfl
  have helperWrites : Step 7 (closedHost.write .stdout [65]) writtenHost :=
    @Step.write _ _ _ 7 (closedHost.write .stdout [65]) 8 .stdout [66] ⟨by decide, rfl⟩ rfl
  have exits : Step 7 writtenHost exitedHost :=
    @Step.exit _ _ _ 7 writtenHost 7 ⟨some 0⟩ ⟨by decide, rfl⟩
  exact .head helper (.head daemon (.head moves (.head halfCloses (.head closes
    (.head writes (.head helperWrites (.single exits)))))))

/-- What the processes do, they do beside the loop. -/
private theorem processes_reached {setup : GroupSetup} {state : GroupState} {host : CheckHost}
    (run : Run (Step setup.child) state.host host) :
    Run (GroupStep setup) state { state with host } := by
  induction run with
  | refl => exact .refl
  | tail _ step ih => exact ih.tail (.inr (.inr (.processes step)))

theorem byteJoining_reached :
    Run (GroupStep byteSetup) (byteSetup.initial byteHost 30) byteJoining := by
  have exited : exitedHost.Ended 7 ⟨some 0⟩ := ⟨by decide, rfl⟩
  have found : processGroupExists (exitedHost.reap 7) 7 = true := by decide
  have later : 30 ≤ 130 := by decide
  refine .trans (processes_reached exitedHost_reached) ?_
  refine .head (.inl (.hasExited rfl exited)) ?_
  refine .head (.inl (.orphans rfl (.found found))) ?_
  refine .head (.inl (.orphans rfl .stopped)) ?_
  refine .head (.inr (.inr (.time later))) ?_
  refine .head (.inl (.orphans rfl (.wake (Nat.le_refl 130)))) ?_
  refine .head (.inl (.orphans rfl .finished)) ?_
  exact .single (.inl (.exited rfl))

omit [Sha2] in
private theorem deadHost_closed (stream : Stream) : deadHost.holders stream = ∅ := by
  cases stream <;> decide

theorem byteEnd_reached :
    Run (GroupStep byteSetup) (byteSetup.initial byteHost 30) byteEnd := by
  have reader {before after : GroupState} (step : ReaderStep byteSetup before after) :
      GroupStep byteSetup before after := .inr (.inl step)
  have dies : Step 7 signalledHost deadHost :=
    @Step.die _ _ _ 7 signalledHost 8 ⟨none⟩ (by decide) rfl
  refine byteJoining_reached.trans ?_
  refine .head (.inr (.inr (.processes dies))) ?_
  refine .head (reader (.stdout
    (.read rfl rfl (List.cons_ne_nil 65 [66]) (by decide) (by decide) rfl))) ?_
  refine .head (reader (.stdout (.work nofun (.count rfl rfl)))) ?_
  refine .head (reader (.stdout (.work nofun (.flag rfl rfl)))) ?_
  refine .head (reader (.stdout (.endOfStream rfl rfl rfl (deadHost_closed .stdout)))) ?_
  refine .head (reader (.stdout (.work nofun (.sync rfl rfl)))) ?_
  refine .head (reader (.stderr (.endOfStream rfl rfl rfl (deadHost_closed .stderr)))) ?_
  exact .single (reader (.stderr (.work nofun (.sync rfl rfl))))

theorem byteEnd_result : byteEnd.result = some (.ok (none, ⟨some 0⟩,
    (byteThread.keepTail [65, 66]).capture "stdout.log",
    CaptureThread.initial.capture "stderr.log")) := rfl

end Sample

attribute [local instance] standardSha2

theorem byteEnd_refined :
    ∃ supervision : Supervision byteSetup.toSuperviseSetup,
      supervision.result = .ok (none, ⟨some 0⟩,
        (byteThread.keepTail [65, 66]).capture "stdout.log",
        CaptureThread.initial.capture "stderr.log") ∧
      supervision.ended = byteEnd.abstract byteSetup :=
  supervision_refined byteHost_spawned byteEnd_reached byteEnd_result

end TaskAttest
