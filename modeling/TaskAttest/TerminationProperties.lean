import TaskAttest.ProcessGroupProperties

/-! How a supervision ends: the loop takes a bounded number of steps, no loyal process of
the check runs when it is over, the threads come to the end of their streams, and the logs
are all that was written. -/

set_option autoImplicit false

namespace TaskAttest

open Processes Transition

/-! The loop -/

/-- How often the loop can sleep before a deadline. -/
def polls (deadline now : Nat) : Nat := (deadline - now + (pollInterval - 1)) / pollInterval

private theorem polls_le (deadline : Nat) {now later : Nat} (passed : now ≤ later) :
    polls deadline later ≤ polls deadline now := by
  simp only [polls, pollInterval]
  omega

/-- A sleep before the deadline leaves one less. -/
theorem polls_sleep {deadline now : Nat} (early : now < deadline) :
    polls deadline (now + pollInterval) + 1 = polls deadline now := by
  simp only [polls, pollInterval]
  omega

private theorem polls_sleep_le (deadline now : Nat) :
    polls deadline (now + pollInterval) ≤ polls deadline now - 1 := by
  simp only [polls, pollInterval]
  omega

/-- A bound on the steps of `terminate_process_tree` that are left. -/
def TerminatePhase.rank (now : Nat) : TerminatePhase → Nat
  | .signalling => 3 * polls terminationGracePeriod 0 + 5
  | .waiting deadline => 3 * polls deadline now + 4
  | .trying deadline => 3 * max (polls deadline now) 1 + 3
  | .sleeping deadline wake => 3 * polls deadline (max now wake) + 5
  | .killing => 2
  | .sweeping _ | .reaping => 1
  | .done _ => 0

def OrphanPhase.rank : OrphanPhase → Nat
  | .probing => 4
  | .stopping => 3
  | .pausing _ => 2
  | .finishing => 1
  | .done => 0

/-- The loop goes round, until it stops the child or finds that it has exited. -/
def PollPhase.looping : PollPhase → Bool
  | .polling | .checking _ | .sleeping _ => true
  | .orphaned _ _ | .terminating _ _ | .joining _ _ | .failed _ => false

/-- How often the loop can still move, with a bound on its steps in the round. -/
def PollPhase.rank (now : Nat) (round : PollPhase → Nat) : PollPhase → Nat
  | .orphaned _ phase => phase.rank + 1
  | .terminating _ phase => phase.rank now + 1
  | .joining _ _ | .failed _ => 0
  -- A termination takes 66 steps at most, what follows an exit fewer.
  | phase => round phase + 67

/-- Five steps go round; only the deadline ends it. -/
def PollPhase.untilDeadline (deadline now : Nat) : PollPhase → Nat
  | .polling => 5 * polls deadline now + 3
  | .checking .cancellation => 5 * polls deadline now + 2
  | .checking .logLimit => 5 * polls deadline now + 1
  | .checking .deadline => 5 * polls deadline now
  | .sleeping wake => 5 * polls deadline (max now wake) + 4
  | _ => 0

/-- When the loop looks at a reason. -/
def StopReason.position : StopReason → Nat
  | .cancellation => 1
  | .logLimit => 2
  | .deadline => 3

/-- The way to a reason that holds. -/
def PollPhase.untilReason (reason : StopReason) : PollPhase → Nat
  | .polling => reason.position
  | .checking other =>
      if other.position ≤ reason.position then reason.position - other.position
      else reason.position + 5 - other.position
  | .sleeping _ => reason.position + 1
  | _ => 0

section Ranks

variable {child now : Nat} {host after : CheckHost}

private theorem terminateStep_lowers {phase next : TerminatePhase}
    (step : TerminateStep child now (host, phase) (after, next)) :
    next.rank now < phase.rank now := by
  cases step with
  | signalled _ =>
      have grace : polls (now + terminationGracePeriod) now = polls terminationGracePeriod 0 := by
        simp only [polls, terminationGracePeriod, pollInterval]
        omega
      simp only [TerminatePhase.rank, grace]
      omega
  | @within _ deadline early =>
      have left := polls_sleep early
      simp only [TerminatePhase.rank]
      omega
  | @stillRunning _ deadline _ =>
      have left := polls_sleep_le deadline now
      have woken : max now (now + pollInterval) = now + pollInterval := by omega
      simp only [TerminatePhase.rank, woken]
      omega
  | wake woken =>
      simp only [TerminatePhase.rank, Nat.max_eq_left woken]
      omega
  | signalFails | elapsed | hasExited | tryFails | swept | killed | killFails | reaped
  | waitFails =>
      simp only [TerminatePhase.rank]
      omega

private theorem orphanStep_lowers {phase next : OrphanPhase}
    (step : OrphanStep child now (host, phase) (after, next)) : next.rank < phase.rank := by
  cases step <;> simp [OrphanPhase.rank]

private theorem terminatePhase_later {later : Nat} (passed : now ≤ later) (phase : TerminatePhase) :
    phase.rank later ≤ phase.rank now := by
  cases phase with
  | waiting grace =>
      have := polls_le grace passed
      simp only [TerminatePhase.rank]
      omega
  | trying grace =>
      have := polls_le grace passed
      simp only [TerminatePhase.rank]
      omega
  | sleeping grace wake =>
      have := @polls_le grace (max now wake) (max later wake) (by omega)
      simp only [TerminatePhase.rank]
      omega
  | signalling | sweeping | killing | reaping | done => exact Nat.le_refl _

private theorem rank_later {later : Nat} {round after : PollPhase → Nat} (passed : now ≤ later)
    (phase : PollPhase) (rounds : after phase ≤ round phase) :
    phase.rank later after ≤ phase.rank now round := by
  cases phase with
  | terminating reason phase => exact Nat.add_le_add_right (terminatePhase_later passed phase) 1
  | polling | checking | sleeping => exact Nat.add_le_add_right rounds 67
  | orphaned | joining | failed => exact Nat.le_refl _

private theorem untilDeadline_later {deadline later : Nat} (passed : now ≤ later)
    (phase : PollPhase) :
    phase.untilDeadline deadline later ≤ phase.untilDeadline deadline now := by
  have left := polls_le deadline passed
  cases phase with
  | polling => simp only [PollPhase.untilDeadline]; omega
  | checking reason => cases reason <;> simp only [PollPhase.untilDeadline] <;> omega
  | sleeping wake =>
      have := @polls_le deadline (max now wake) (max later wake) (by omega)
      simp only [PollPhase.untilDeadline]
      omega
  | terminating | orphaned | joining | failed => exact Nat.le_refl _

/-- The grace period is over at most that much later. -/
def TerminatePhase.InGrace (now : Nat) : TerminatePhase → Prop
  | .waiting deadline | .trying deadline | .sleeping deadline _ =>
      deadline ≤ now + terminationGracePeriod
  | _ => True

private theorem TerminatePhase.InGrace.rank_le {phase : TerminatePhase}
    (grace : phase.InGrace now) :
    phase.rank now ≤ 65 := by
  have left {deadline : Nat} (soon : deadline ≤ now + terminationGracePeriod) :
      polls deadline now ≤ 20 := by
    simp only [polls, pollInterval, terminationGracePeriod] at soon ⊢
    omega
  cases phase with
  | waiting deadline =>
      have := left grace
      simp only [TerminatePhase.rank]
      omega
  | trying deadline =>
      have := left grace
      simp only [TerminatePhase.rank]
      omega
  | sleeping deadline wake =>
      have := left grace
      have := @polls_le deadline now (max now wake) (by omega)
      simp only [TerminatePhase.rank]
      omega
  | signalling | sweeping | killing | reaping | done => simp [TerminatePhase.rank, polls,
      terminationGracePeriod, pollInterval]

private theorem terminateStep_inGrace {phase next : TerminatePhase} (grace : phase.InGrace now)
    (step : TerminateStep child now (host, phase) (after, next)) : next.InGrace now := by
  cases step with
  | signalled _ => exact Nat.le_refl _
  | within _ => exact grace
  | stillRunning _ => exact grace
  | wake _ => exact grace
  | signalFails | elapsed | hasExited | tryFails | swept | killed | killFails | reaped
  | waitFails => trivial

end Ranks

section Loop

variable [Sha2] {setup : GroupSetup} {before after state : GroupState}

omit [Sha2] in
private theorem loopStep_lowers {round next : PollPhase → Nat} (step : LoopStep setup before after)
    (rounds : after.phase.looping = true → next after.phase < round before.phase) :
    after.phase.rank after.now next < before.phase.rank before.now round := by
  cases step with
  | stillRunning polling _ =>
      rw [polling] at rounds ⊢
      exact Nat.add_lt_add_right (rounds rfl) 67
  | hasExited polling _ =>
      simp only [polling, PollPhase.rank, OrphanPhase.rank]
      omega
  | waitFails _ polling => simp [polling, PollPhase.rank]
  | stop checking _ =>
      have termination : TerminatePhase.signalling.rank before.now = 65 := rfl
      simp only [checking, PollPhase.rank, termination]
      omega
  | @proceed reason checking holds =>
      rw [checking] at rounds ⊢
      cases reason <;> exact Nat.add_lt_add_right (rounds rfl) 67
  | wake sleeping woken =>
      rw [sleeping] at rounds ⊢
      exact Nat.add_lt_add_right (rounds rfl) 67
  | orphans orphaned step =>
      rw [orphaned]
      exact Nat.add_lt_add_right (orphanStep_lowers step) 1
  | exited done => simp [done, PollPhase.rank]
  | terminates terminating step =>
      rw [terminating]
      exact Nat.add_lt_add_right (terminateStep_lowers step) 1
  | terminated done => simp [done, PollPhase.rank]
  | terminationFails done => simp [done, PollPhase.rank]

/-- The readers and the outside leave the loop where it is. -/
theorem beside_phase (step : ReaderStep setup before after ∨ OutsideStep setup before after) :
    after.phase = before.phase ∧ before.now ≤ after.now := by
  rcases step with step | step
  · cases step <;> exact ⟨rfl, Nat.le_refl _⟩
  · cases step with
    | processes => exact ⟨rfl, Nat.le_refl _⟩
    | time passed => exact ⟨rfl, passed⟩
    | cancel => exact ⟨rfl, Nat.le_refl _⟩

omit [Sha2] in
private theorem loopStep_untilDeadline (step : LoopStep setup before after)
    (looping : after.phase.looping = true) :
    after.phase.untilDeadline setup.deadline after.now <
      before.phase.untilDeadline setup.deadline before.now := by
  cases step with
  | stillRunning polling _ => simp [polling, PollPhase.untilDeadline]
  | @proceed reason checking holds =>
      cases reason with
      | cancellation => simp [checking, PollPhase.untilDeadline, StopReason.next]
      | logLimit => simp [checking, PollPhase.untilDeadline, StopReason.next]
      | deadline =>
          have early : before.now < setup.deadline := by
            simpa [GroupSetup.stops] using holds
          have left := polls_sleep early
          have woken : max before.now (before.now + pollInterval) = before.now + pollInterval := by
            omega
          simp only [checking, PollPhase.untilDeadline, StopReason.next, woken]
          omega
  | wake sleeping woken =>
      simp only [sleeping, PollPhase.untilDeadline, Nat.max_eq_left woken]
      omega
  | waitFails | hasExited | stop | orphans | exited | terminates | terminated
  | terminationFails => exact absurd looping Bool.false_ne_true

omit [Sha2] in
/-- A round comes nearer to a reason that holds. -/
theorem loopStep_untilReason {reason : StopReason} (step : LoopStep setup before after)
    (holds : setup.stops before reason = true) (looping : after.phase.looping = true) :
    after.phase.untilReason reason < before.phase.untilReason reason := by
  cases step with
  | stillRunning polling _ =>
      cases reason <;> simp [polling, PollPhase.untilReason, StopReason.position]
  | @proceed other checking passed =>
      have different : other ≠ reason := by
        intro same
        subst same
        exact absurd holds (Bool.eq_false_iff.mp passed)
      cases other <;> cases reason <;>
        simp_all [PollPhase.untilReason, StopReason.position, StopReason.next]
  | wake sleeping _ => simp [sleeping, PollPhase.untilReason]
  | waitFails | hasExited | stop | orphans | exited | terminates | terminated
  | terminationFails => exact absurd looping Bool.false_ne_true

omit [Sha2] in
private theorem loopStep_frame (step : LoopStep setup before after) :
    after.budget = before.budget ∧ after.cancelled = before.cancelled ∧
      after.now = before.now := by
  cases step <;> exact ⟨rfl, rfl, rfl⟩

private theorem streamStep_limit {stream : Stream} {path : String} {maxLogBytes : UInt64}
    {host read : CheckHost} {thread reader : CaptureThread} {budget spent : LogBudget}
    (step : StreamStep stream path maxLogBytes (host, thread, budget) (read, reader, spent))
    (exceeded : budget.limitExceeded = true) : spent.limitExceeded = true := by
  cases (streamStep_capture step).1 with
  | count => exact exceeded
  | flag =>
      unfold LogBudget.flag
      split
      · rfl
      · exact exceeded
  | read | readFails | writeFails | endOfStream | sync | syncFails | panic => exact exceeded

/-- A reason to stop the child stays one. -/
theorem groupStep_stops {reason : StopReason} (step : GroupStep setup before after)
    (holds : setup.stops before reason = true) : setup.stops after reason = true := by
  rcases step with step | step | step
  · obtain ⟨budget, cancelled, now⟩ := loopStep_frame step
    cases reason <;> simpa only [GroupSetup.stops, budget, cancelled, now] using holds
  · cases step with
    | stdout step | stderr step =>
        cases reason with
        | logLimit => exact streamStep_limit step holds
        | cancellation | deadline => exact holds
  · cases step with
    | processes => cases reason <;> exact holds
    | time passed =>
        cases reason with
        | deadline => exact decide_eq_true ((of_decide_eq_true holds).trans passed)
        | cancellation | logLimit => exact holds
    | cancel =>
        cases reason with
        | cancellation => rfl
        | logLimit | deadline => exact holds

def PollPhase.InGrace (now : Nat) : PollPhase → Prop
  | .terminating _ phase => phase.InGrace now
  | _ => True

private theorem groupStep_inGrace (step : GroupStep setup before after)
    (grace : before.phase.InGrace before.now) : after.phase.InGrace after.now := by
  rcases step with step | step
  · cases step with
    | terminates terminating step =>
        rw [terminating] at grace
        exact terminateStep_inGrace grace step
    | @proceed reason => cases reason <;> trivial
    | stillRunning | hasExited | waitFails | stop | wake | orphans | exited | terminated
    | terminationFails => trivial
  · obtain ⟨same, passed⟩ := beside_phase step
    rw [same]
    cases here : before.phase with
    | terminating reason phase =>
        rw [here] at grace
        cases phase with
        | waiting | trying | sleeping => exact grace.trans (Nat.add_le_add_right passed _)
        | signalling | killing | sweeping | reaping | done => trivial
    | polling | checking | sleeping | orphaned | joining | failed => trivial

omit [Sha2] in
private theorem PollPhase.InGrace.rank_le {phase : PollPhase} {now : Nat}
    (grace : phase.InGrace now)
    (reason : StopReason) : phase.rank now (PollPhase.untilReason reason) ≤ 71 := by
  cases phase with
  | terminating _ phase =>
      have := TerminatePhase.InGrace.rank_le grace
      simp only [PollPhase.rank]
      omega
  | orphaned _ phase => cases phase <;> simp [PollPhase.rank, OrphanPhase.rank]
  | checking other =>
      cases other <;> cases reason <;>
        simp [PollPhase.rank, PollPhase.untilReason, StopReason.position]
  | polling | sleeping =>
      cases reason <;> simp [PollPhase.rank, PollPhase.untilReason, StopReason.position]
  | joining | failed => simp [PollPhase.rank]

/-- What the loop waits for when it cannot go on at once: its time to wake, or, when it has
killed the child, the death that is pending. -/
inductive Awaited (setup : GroupSetup) (state : GroupState) : GroupState → Prop where
  | nothing : Awaited setup state state
  | time {now : Nat} : state.now ≤ now → Awaited setup state { state with now }
  | death {reason : StopReason} (status : ExitStatus) :
      state.phase = .terminating reason .reaping → setup.child ∈ state.host.pids →
      (state.host.process setup.child).life = .dying →
      Awaited setup state { state with
        host := state.host.set setup.child
          ((state.host.process setup.child).finish status) }

/-- A system call of the loop has failed. -/
def PollPhase.failing : PollPhase → Bool
  | .failed _ | .terminating _ (.done (.error _)) => true
  | _ => false

omit [Sha2] in
private theorem signalProcessGroup_ok (invariant : GroupInvariant setup state)
    (present : setup.child ∈ state.host.pids)
    (loyal : (state.host.process setup.child).loyal = true) (signal : Signal) :
    ∃ signalled, signalProcessGroup state.host setup.child signal = .ok signalled := by
  cases delivery : state.host.delivery setup.child with
  | delivered => exact ⟨_, by rw [signalProcessGroup, delivery]⟩
  | noProcess => exact ⟨_, by rw [signalProcessGroup, delivery]⟩
  | notPermitted =>
      obtain ⟨group, permitted⟩ := invariant.sound.loyal _ present loyal
      have member := Host.mem_members.mpr ⟨present, group⟩
      rw [Host.delivery, if_neg (Finset.ne_empty_of_mem member),
        if_pos ⟨_, member, permitted⟩] at delivery
      cases delivery

omit [Sha2] in
private theorem orphans_move {status : ExitStatus} {phase : OrphanPhase}
    (here : state.phase = .orphaned status phase) :
    ∃ waited next, Awaited setup state waited ∧ LoopStep setup waited next ∧
      next.phase.failing = false := by
  cases phase with
  | probing =>
      cases found : processGroupExists state.host setup.child with
      | false => exact ⟨state, _, .nothing, .orphans here (.missing found), rfl⟩
      | true => exact ⟨state, _, .nothing, .orphans here (.found found), rfl⟩
  | stopping => exact ⟨state, _, .nothing, .orphans here .stopped, rfl⟩
  | pausing wake =>
      exact ⟨_, _, .time (Nat.le_max_left state.now wake),
        .orphans here (.wake (Nat.le_max_right _ _)), rfl⟩
  | finishing => exact ⟨state, _, .nothing, .orphans here .finished, rfl⟩
  | done => exact ⟨state, _, .nothing, .exited here, rfl⟩

omit [Sha2] in
private theorem termination_moves {reason : StopReason} {phase : TerminatePhase}
    (invariant : GroupInvariant setup state) (here : state.phase = .terminating reason phase)
    (loyal : state.phase.reaped? = none → (state.host.process setup.child).loyal = true)
    (unfailed : state.phase.failing = false) :
    ∃ waited next, Awaited setup state waited ∧ LoopStep setup waited next ∧
      next.phase.failing = false := by
  have present := invariant.present
  rw [here] at loyal present unfailed
  cases phase with
  | signalling =>
      obtain ⟨_, sent⟩ := signalProcessGroup_ok invariant (present rfl) (loyal rfl) .term
      exact ⟨state, _, .nothing, .terminates here (.signalled sent), rfl⟩
  | waiting deadline =>
      by_cases early : state.now < deadline
      · exact ⟨state, _, .nothing, .terminates here (.within early), rfl⟩
      · exact ⟨state, _, .nothing, .terminates here (.elapsed (Nat.le_of_not_lt early)), rfl⟩
  | trying deadline =>
      by_cases ended : ∃ status, state.host.Ended setup.child status
      · obtain ⟨status, ended⟩ := ended
        exact ⟨state, _, .nothing, .terminates here (.hasExited ended), rfl⟩
      · exact ⟨state, _, .nothing, .terminates here (.stillRunning (not_exists.mp ended)), rfl⟩
  | sleeping deadline wake =>
      exact ⟨_, _, .time (Nat.le_max_left state.now wake),
        .terminates here (.wake (Nat.le_max_right _ _)), rfl⟩
  | sweeping status => exact ⟨state, _, .nothing, .terminates here .swept, rfl⟩
  | killing =>
      obtain ⟨_, sent⟩ := signalProcessGroup_ok invariant (present rfl) (loyal rfl) .kill
      exact ⟨state, _, .nothing, .terminates here (.killed sent), rfl⟩
  | reaping =>
      -- The signal is pending, or the child has ended.
      cases life : (state.host.process setup.child).life with
      | running =>
          have silenced := invariant.quiet (by rw [here]; rfl) _ ⟨present rfl, life⟩
          exact nomatch silenced.symm.trans (loyal rfl)
      | dying =>
          have ended : (state.host.set setup.child
              ((state.host.process setup.child).finish ⟨none⟩)).Ended setup.child ⟨none⟩ :=
            ⟨present rfl, by rw [Host.set_process_self]; rfl⟩
          exact ⟨_, _, .death ⟨none⟩ here (present rfl) life, .terminates here (.reaped ended),
            rfl⟩
      | ended status =>
          exact ⟨state, _, .nothing, .terminates here (.reaped ⟨present rfl, life⟩), rfl⟩
  | done result =>
      cases result with
      | ok status => exact ⟨state, _, .nothing, .terminated here, rfl⟩
      | error error => exact nomatch unfailed

omit [Sha2] in
/-- As long as the child is loyal, the loop goes on at once, or when time has passed, or
when the killed child is dead. -/
theorem loop_moves (invariant : GroupInvariant setup state)
    (loyal : state.phase.reaped? = none → (state.host.process setup.child).loyal = true)
    (unfailed : state.phase.failing = false)
    (before : ∀ forced status, state.phase ≠ .joining forced status) :
    ∃ waited next, Awaited setup state waited ∧ LoopStep setup waited next ∧
      next.phase.failing = false := by
  cases here : state.phase with
  | polling =>
      by_cases ended : ∃ status, state.host.Ended setup.child status
      · obtain ⟨status, ended⟩ := ended
        exact ⟨state, _, .nothing, .hasExited here ended, rfl⟩
      · exact ⟨state, _, .nothing, .stillRunning here (not_exists.mp ended), rfl⟩
  | checking reason =>
      cases holds : setup.stops state reason with
      | true => exact ⟨state, _, .nothing, .stop here holds, rfl⟩
      | false => exact ⟨state, _, .nothing, .proceed here holds, by cases reason <;> rfl⟩
  | sleeping wake =>
      exact ⟨_, _, .time (Nat.le_max_left state.now wake),
        .wake here (Nat.le_max_right _ _), rfl⟩
  | orphaned status phase => exact orphans_move here
  | terminating reason phase => exact termination_moves invariant here loyal unfailed
  | joining forced status => exact absurd here (before forced status)
  | failed error => exact nomatch unfailed.symm.trans (congrArg PollPhase.failing here)

/-- What goes on beside the loop. -/
def BesideStep (setup : GroupSetup) (before after : GroupState) : Prop :=
  ReaderStep setup before after ∨ OutsideStep setup before after

/-- The steps of the loop that are left, by its deadline. -/
def GroupState.loopLeft (setup : GroupSetup) (state : GroupState) : Nat :=
  state.phase.rank state.now (PollPhase.untilDeadline setup.deadline state.now)

/-- The steps of the loop that are left when there is a reason to stop the child. -/
def GroupState.stopLeft (reason : StopReason) (state : GroupState) : Nat :=
  state.phase.rank state.now (PollPhase.untilReason reason)

private theorem loop_bounded {start finish : GroupState} {count : Nat}
    (counted : CountedRun (LoopStep setup) (BesideStep setup) start count finish) :
    count + finish.loopLeft setup ≤ start.loopLeft setup := by
  refine @CountedRun.count_le _ _ _ _ _ _ (fun _ => True) (GroupState.loopLeft setup)
    (fun _ _ => trivial) (fun step _ => loopStep_lowers step (loopStep_untilDeadline step))
    (fun step _ => ?_) counted trivial
  obtain ⟨same, passed⟩ := beside_phase step
  rw [GroupState.loopLeft, same]
  exact rank_later passed _ (untilDeadline_later passed _)

private theorem stop_bounded {start finish : GroupState} {count : Nat} {reason : StopReason}
    (counted : CountedRun (LoopStep setup) (BesideStep setup) start count finish)
    (holds : setup.stops start reason = true) :
    count + finish.stopLeft reason ≤ start.stopLeft reason := by
  refine @CountedRun.count_le _ _ _ _ _ _ (fun state => setup.stops state reason = true)
    (GroupState.stopLeft reason) groupStep_stops
    (fun step holds => loopStep_lowers step (loopStep_untilReason step holds))
    (fun step _ => ?_) counted holds
  obtain ⟨same, passed⟩ := beside_phase step
  rw [GroupState.stopLeft, same]
  exact rank_later passed _ (Nat.le_refl _)

/-- The loop ends: its steps are bounded by the deadline of the check, and by a constant as
soon as there is a reason to stop the child. As long as the child is loyal, the loop can go on
without a failure until it joins the threads: at once, when time has passed, or when the
killed child is dead. -/
theorem loop_ends {host : CheckHost} {elapsed : Nat} (spawned : setup.Spawned host)
    (run : Run (GroupStep setup) (setup.initial host elapsed) state) :
    (∀ {count : Nat} {later : GroupState}, CountedRun (LoopStep setup) (BesideStep setup)
      (setup.initial host elapsed) count later → count ≤ 5 * polls setup.deadline 0 + 70) ∧
    (∀ {reason : StopReason}, setup.stops state reason = true →
      ∀ {count : Nat} {later : GroupState}, CountedRun (LoopStep setup) (BesideStep setup)
        state count later → count ≤ 71) ∧
    (state.phase.failing = false → (∀ forced status, state.phase ≠ .joining forced status) →
      (state.phase.reaped? = none → (state.host.process setup.child).loyal = true) →
      ∃ waited next, Awaited setup state waited ∧ LoopStep setup waited next ∧
        next.phase.failing = false) := by
  refine ⟨fun counted => ?_, fun {reason} holds _ _ counted => ?_, fun unfailed before loyal =>
    loop_moves (groupRun_invariant spawned run) loyal unfailed before⟩
  · have bounded := loop_bounded counted
    have fewer := polls_le setup.deadline (Nat.zero_le elapsed)
    have first : (setup.initial host elapsed).loopLeft setup =
        5 * polls setup.deadline elapsed + 70 := rfl
    omega
  · have bounded := stop_bounded counted holds
    have grace : state.phase.InGrace state.now :=
      @run_invariant _ _ (fun state : GroupState => state.phase.InGrace state.now)
        groupStep_inGrace _ _ run trivial
    have few : state.stopLeft reason ≤ 71 := grace.rank_le reason
    omega

end Loop

section

attribute [local instance] standardSha2

/-- A child that handles SIGTERM and runs past its deadline has been killed. -/
def overdueHost : CheckHost :=
  ((byteHost.set 7 { byteHost.process 7 with handlesTerm := true }).signal 7 .term).signal 7 .kill

def overdueReaping : GroupState :=
  { byteSetup.initial byteHost 1000 with
    now := 1500, host := overdueHost, phase := .terminating .deadline .reaping }

private theorem overdueReaping_counted :
    CountedRun (LoopStep byteSetup) (BesideStep byteSetup) (byteSetup.initial byteHost 1000) 7
      overdueReaping := by
  let running : CheckHost := byteHost.set 7 { byteHost.process 7 with handlesTerm := true }
  have handles : Step 7 byteHost running := .handle true ⟨by decide, rfl⟩
  have unended (status : ExitStatus) : ¬running.Ended 7 status := fun ended => nomatch ended.2
  have started := CountedRun.other (@CountedRun.refl _ (LoopStep byteSetup) (BesideStep byteSetup)
    (byteSetup.initial byteHost 1000)) (.inr (.processes handles))
  have polled := started.own (.stillRunning rfl unended)
  have overdue := ((polled.own (.proceed rfl rfl)).own (.proceed rfl rfl)).own (.stop rfl rfl)
  have signalled := overdue.own (.terminates rfl (.signalled rfl))
  have late : 1000 ≤ 1500 := by decide
  have waited := signalled.other (.inr (.time late))
  exact (waited.own (.terminates rfl (.elapsed (Nat.le_refl 1500)))).own
    (.terminates rfl (.killed rfl))

theorem overdueReaping_ends :
    7 ≤ 5 * polls byteSetup.deadline 0 + 70 ∧ 2 ≤ 71 ∧
      ∃ waited next, Awaited byteSetup overdueReaping waited ∧ LoopStep byteSetup waited next ∧
        next.phase.failing = false := by
  obtain ⟨total, stopped, goes⟩ := loop_ends byteHost_spawned overdueReaping_counted.run
  let dead : CheckHost := overdueHost.set 7 ((overdueHost.process 7).finish ⟨none⟩)
  have dies : Step 7 overdueHost dead :=
    @Step.die _ _ _ 7 overdueHost 7 ⟨none⟩ (by decide) rfl
  have ended : dead.Ended 7 ⟨none⟩ := ⟨by decide, rfl⟩
  have died := CountedRun.other (@CountedRun.refl _ (LoopStep byteSetup) (BesideStep byteSetup)
    overdueReaping) (.inr (.processes dies))
  have joined := (died.own (.terminates rfl (.reaped ended))).own (.terminated rfl)
  exact ⟨total overdueReaping_counted, @stopped .deadline rfl _ _ joined,
    goes rfl nofun fun _ => rfl⟩

end

/-! The processes of the check -/

section Silence

variable [Sha2] {setup : GroupSetup} {state : GroupState} {host : CheckHost} {elapsed : Nat}

/-- When the loop waits for the child it has killed, and from the joins on, no process of
the check runs that has kept its group and its rights, and none will. -/
theorem loyal_silenced (spawned : setup.Spawned host)
    (run : Run (GroupStep setup) (setup.initial host elapsed) state)
    (quiet : state.phase.quiet = true) {later : GroupState}
    (after : Run (GroupStep setup) state later) {pid : Nat} (runs : later.host.Runs pid) :
    (later.host.process pid).loyal = false := by
  have silenced : later.host.Silenced :=
    @run_invariant _ _ (fun state : GroupState => state.host.Silenced)
      (fun step silenced => (groupStep_follows step).silenced silenced) _ _ after
      ((groupRun_invariant spawned run).quiet quiet)
  exact silenced pid runs

end Silence

section

attribute [local instance] standardSha2

/-- The daemon, which had left the group, still runs. -/
theorem byteEnd_silenced : (byteEnd.host.process 9).loyal = false :=
  loyal_silenced byteHost_spawned byteEnd_reached rfl .refl ⟨by decide, rfl⟩

end

/-! The pipes -/

section Pipes

variable [Sha2] {stream : Stream} {path : String} {maxLogBytes : UInt64}
  {host after : CheckHost} {thread reader : CaptureThread} {budget spent : LogBudget}

/-- What a thread has read and what is in its pipe is what was written; at the end of the
stream the pipe is empty, and nobody can write to it. -/
structure Piped (stream : Stream) (host : CheckHost) (thread : CaptureThread) : Prop where
  sent : (∀ error, thread.phase ≠ .finished (.error error)) →
    host.sent stream = thread.hashed ++ host.buffer stream
  closed : thread.phase = .syncing ∨ (∃ capture, thread.phase = .finished (.ok capture)) →
    host.buffer stream = [] ∧ host.holders stream = ∅

omit [Sha2] in
theorem Piped.follows (piped : Piped stream host thread) (follows : Follows host after)
    (buffer : after.buffer stream = host.buffer stream)
    (sent : after.sent stream = host.sent stream) :
    Piped stream after thread where
  sent unfailed := by rw [buffer, sent, piped.sent unfailed]
  closed ended := by
    obtain ⟨empty, none⟩ := piped.closed ended
    refine ⟨buffer.trans empty, Finset.subset_empty.mp ?_⟩
    exact none ▸ follows.holders_subset (Host.sealed_of_holders none)

omit [Sha2] in
/-- Others write at the end, and not when the stream has ended. -/
theorem Piped.step {child : Nat} (piped : Piped stream host thread)
    (step : Step child host after) : Piped stream after thread := by
  have follows := step_follows step
  obtain ⟨bytes, buffer, sent, none⟩ := step_sent step stream
  constructor
  · intro unfailed
    rw [buffer, sent, piped.sent unfailed, List.append_assoc]
  · intro ended
    obtain ⟨empty, holders⟩ := piped.closed ended
    have sealing := Host.sealed_of_holders holders
    rw [buffer, none sealing, empty]
    exact ⟨rfl, Finset.subset_empty.mp (holders ▸ follows.holders_subset sealing)⟩

private theorem streamStep_piped
    (step : StreamStep stream path maxLogBytes (host, thread, budget) (after, reader, spent))
    (piped : Piped stream host thread) : Piped stream after reader := by
  cases step with
  | @read _ _ _ chunk rest running reading nonempty short fits buffered =>
      constructor
      · intro _
        have sent := piped.sent (by simp [reading])
        simp [Host.drain, CaptureThread.absorb, sent, buffered]
      · simp [CaptureThread.absorb]
  | writeFails | readFails => constructor <;> simp [CaptureThread.fail]
  | endOfStream running reading empty none =>
      constructor
      · intro _
        exact piped.sent (by simp [reading])
      · exact fun _ => ⟨empty, none⟩
  | panic unfinished => exact ⟨piped.sent, piped.closed⟩
  | work elsewhere step =>
      cases step with
      | count _ counting =>
          constructor
          · exact fun _ => piped.sent (by simp [counting])
          · simp
      | @flag _ _ chunk _ _ flagging =>
          obtain ⟨_, hashed, _, phase, _⟩ := CaptureThread.keepTail_fields thread chunk
          constructor
          · intro _
            rw [hashed]
            exact piped.sent (by simp [flagging])
          · rw [phase]
            simp
      | sync _ syncing =>
          constructor
          · exact fun _ => piped.sent (by simp [syncing])
          · exact fun _ => piped.closed (.inl syncing)
      | syncFails | readFails | writeFails => constructor <;> simp [CaptureThread.fail]
      | panic _ => exact ⟨piped.sent, piped.closed⟩
      | read _ _ reading => exact absurd reading elsewhere
      | endOfStream _ reading => exact absurd reading elsewhere

/-- A thread leaves the other pipe alone. -/
theorem streamStep_other {other : Stream}
    (step : StreamStep stream path maxLogBytes (host, thread, budget) (after, reader, spent))
    (different : other ≠ stream) :
    after.buffer other = host.buffer other ∧ after.sent other = host.sent other := by
  cases step <;> simp [Host.drain, different]

private theorem streamStep_processes
    (step : StreamStep stream path maxLogBytes (host, thread, budget) (after, reader, spent)) :
    after.pids = host.pids ∧ after.process = host.process := by
  cases step <;> exact ⟨rfl, rfl⟩

end Pipes

section Logs

variable [Sha2] {setup : GroupSetup} {before after state : GroupState}

omit [Sha2] in
private theorem signalProcessGroup_pipes {host signalled : CheckHost} {child : Nat}
    {signal : Signal} (sent : signalProcessGroup host child signal = .ok signalled) :
    signalled.buffer = host.buffer ∧ signalled.sent = host.sent := by
  unfold signalProcessGroup at sent
  split at sent <;> cases sent <;> exact ⟨rfl, rfl⟩

omit [Sha2] in
private theorem trySignalProcessGroup_pipes {host : CheckHost} {child : Nat} {signal : Signal} :
    (trySignalProcessGroup host child signal).buffer = host.buffer ∧
      (trySignalProcessGroup host child signal).sent = host.sent := by
  unfold trySignalProcessGroup
  split
  · exact signalProcessGroup_pipes ‹_›
  · exact ⟨rfl, rfl⟩

omit [Sha2] in
/-- The loop neither reads nor writes. -/
theorem loopStep_pipes (step : LoopStep setup before after) :
    after.host.buffer = before.host.buffer ∧ after.host.sent = before.host.sent := by
  cases step with
  | orphans _ step =>
      cases step with
      | stopped | finished => exact trySignalProcessGroup_pipes
      | missing | found | wake => exact ⟨rfl, rfl⟩
  | terminates _ step =>
      cases step with
      | signalled sent | killed sent => exact signalProcessGroup_pipes sent
      | swept => exact trySignalProcessGroup_pipes
      | hasExited | reaped | signalFails | within | elapsed | stillRunning | tryFails | wake
      | killFails | waitFails => exact ⟨rfl, rfl⟩
  | hasExited | stillRunning | waitFails | stop | proceed | wake | exited | terminated
  | terminationFails => exact ⟨rfl, rfl⟩

structure GroupPiped (state : GroupState) : Prop where
  stdout : Piped .stdout state.host state.stdout
  stderr : Piped .stderr state.host state.stderr

private theorem groupStep_piped (step : GroupStep setup before after) (piped : GroupPiped before) :
    GroupPiped after := by
  obtain ⟨stdout, stderr⟩ := piped
  rcases step with step | step | step
  · have follows := loopStep_follows step
    obtain ⟨buffer, sent⟩ := loopStep_pipes step
    have stdout := stdout.follows follows (congrFun buffer _) (congrFun sent _)
    have stderr := stderr.follows follows (congrFun buffer _) (congrFun sent _)
    cases step <;> exact ⟨stdout, stderr⟩
  · cases step with
    | stdout step =>
        obtain ⟨buffer, sent⟩ := streamStep_other step (show Stream.stderr ≠ .stdout from nofun)
        exact ⟨streamStep_piped step stdout, stderr.follows (streamStep_follows step) buffer sent⟩
    | stderr step =>
        obtain ⟨buffer, sent⟩ := streamStep_other step (show Stream.stdout ≠ .stderr from nofun)
        exact ⟨stdout.follows (streamStep_follows step) buffer sent, streamStep_piped step stderr⟩
  · cases step with
    | processes step => exact ⟨stdout.step step, stderr.step step⟩
    | time _ => exact ⟨stdout, stderr⟩
    | cancel => exact ⟨stdout, stderr⟩

omit [Sha2] in
private theorem groupPiped_initial {host : CheckHost} (spawned : setup.Spawned host)
    (elapsed : Nat) :
    GroupPiped (setup.initial host elapsed) := by
  have piped (stream : Stream) : Piped stream host .initial := by
    obtain ⟨empty, unsent⟩ := spawned.empty stream
    exact ⟨fun _ => by rw [empty, unsent]; rfl, by simp [CaptureThread.initial]⟩
  exact ⟨piped .stdout, piped .stderr⟩

/-- The capture is of all that was written, and nobody can write more. -/
structure CompleteLog (stream : Stream) (host : CheckHost) (capture : Capture) : Prop where
  digest : capture.digest = sha256Bytes (host.sent stream)
  bytes : capture.bytes.toNat = (host.sent stream).length
  closed : host.holders stream = ∅

private theorem completeLog_of_join {stream : Stream} {host : CheckHost} {thread : CaptureThread}
    {path name : String} {capture : Capture} (piped : Piped stream host thread)
    (invariant : thread.Invariant path) (joined : joinCapture thread name = .ok capture) :
    CompleteLog stream host capture := by
  have finished := joinCapture_ok joined
  obtain ⟨captured, _⟩ := captured_of_join invariant joined
  obtain ⟨empty, none⟩ := piped.closed (.inr ⟨capture, finished⟩)
  have unfailed : ∀ error, thread.phase ≠ .finished (.error error) := by simp [finished]
  have same : host.sent stream = thread.written := by
    rw [piped.sent unfailed, empty, List.append_nil, invariant.copied unfailed]
  exact ⟨same ▸ captured.digest, same ▸ captured.bytes, none⟩

/-- Nothing is written to a stream that nobody holds. -/
theorem groupStep_closed {stream : Stream} (step : GroupStep setup before after)
    (closed : before.host.holders stream = ∅) :
    after.host.holders stream = ∅ ∧ after.host.sent stream = before.host.sent stream := by
  have sealing := Host.sealed_of_holders closed
  have none : after.host.holders stream = ∅ :=
    Finset.subset_empty.mp (closed ▸ (groupStep_follows step).holders_subset sealing)
  refine ⟨none, ?_⟩
  rcases step with step | step | step
  · exact congrFun (loopStep_pipes step).2 stream
  · cases step with
    | stdout step | stderr step => cases step <;> rfl
  · cases step with
    | processes step =>
        obtain ⟨bytes, _, sent, nothing⟩ := step_sent step stream
        rw [sent, nothing sealing, List.append_nil]
    | time | cancel => rfl

theorem CompleteLog.step {stream : Stream} {capture : Capture}
    (complete : CompleteLog stream before.host capture) (step : GroupStep setup before after) :
    CompleteLog stream after.host capture := by
  obtain ⟨closed, sent⟩ := groupStep_closed step complete.closed
  exact ⟨sent ▸ complete.digest, sent ▸ complete.bytes, closed⟩

/-- When the supervision returns captures, each is of everything that any process has
written to its stream, and remains so. -/
theorem logs_complete {host : CheckHost} {elapsed : Nat} {forced : Option StopReason}
    {status : ExitStatus} {stdout stderr : Capture} (spawned : setup.Spawned host)
    (run : Run (GroupStep setup) (setup.initial host elapsed) state)
    (returned : state.result = some (.ok (forced, status, stdout, stderr)))
    {later : GroupState} (after : Run (GroupStep setup) state later) :
    CompleteLog .stdout later.host stdout ∧ CompleteLog .stderr later.host stderr := by
  have piped : GroupPiped state :=
    @run_invariant _ _ GroupPiped groupStep_piped _ _ run (groupPiped_initial spawned elapsed)
  have invariant := superviseInvariant_run
    ((initial_refines spawned).trans (groupRun_refines spawned run))
  rw [← @result_abstract setup] at returned
  obtain ⟨_, stdoutJoined, stderrJoined⟩ := SuperviseState.result_ok returned
  have first := completeLog_of_join piped.stdout invariant.stdout stdoutJoined
  have second := completeLog_of_join piped.stderr invariant.stderr stderrJoined
  induction after with
  | refl => exact ⟨first, second⟩
  | tail _ step ih => exact ⟨ih.1.step step, ih.2.step step⟩

end Logs

section

attribute [local instance] standardSha2

theorem byteEnd_complete :
    CompleteLog .stdout byteEnd.host ((byteThread.keepTail [65, 66]).capture "stdout.log") ∧
      CompleteLog .stderr byteEnd.host (CaptureThread.initial.capture "stderr.log") :=
  logs_complete byteHost_spawned byteEnd_reached byteEnd_result .refl

end

/-! The joins -/

/-- A bound on the steps of a thread that are left when nobody writes. -/
def CaptureThread.left (thread : CaptureThread) (unread : List UInt8) : Nat :=
  if thread.done then 0
  else match thread.phase with
    | .reading => 3 * unread.length + 2
    | .counting _ => 3 * unread.length + 4
    | .flagging _ _ => 3 * unread.length + 3
    | .syncing => 3 * unread.length + 1
    | .finished _ => 0

/-- A process that was dying, and could have written, is gone. -/
inductive HolderDies : GroupState → GroupState → Prop where
  | died {state : GroupState} {stream : Stream} {pid : Nat} (status : ExitStatus) :
      pid ∈ state.host.holders stream → (state.host.process pid).life = .dying →
      HolderDies state
        { state with host := state.host.set pid ((state.host.process pid).finish status) }

/-- A bound on the steps of the threads and the deaths that the joins wait for. -/
def GroupState.left (state : GroupState) : Nat :=
  state.stdout.left (state.host.buffer .stdout) + state.stderr.left (state.host.buffer .stderr) +
    (state.host.holders .stdout).card + (state.host.holders .stderr).card

section Threads

variable {thread : CaptureThread} {unread : List UInt8}

private theorem CaptureThread.done_of_reading (running : thread.panicked = false)
    (reading : thread.phase = .reading) : thread.done = false := by
  simp [CaptureThread.done, running, reading]

private theorem CaptureThread.left_done (done : thread.done = true) : thread.left unread = 0 := by
  rw [CaptureThread.left, if_pos done]

private theorem CaptureThread.left_pos (unfinished : thread.done = false) :
    0 < thread.left unread := by
  rw [CaptureThread.left, if_neg (Bool.eq_false_iff.mp unfinished)]
  unfold CaptureThread.done at unfinished
  split <;> simp_all

end Threads

section Joins

variable [Sha2] {setup : GroupSetup} {before after state : GroupState}

private theorem streamStep_left {stream : Stream} {path : String} {maxLogBytes : UInt64}
    {host read : CheckHost} {thread reader : CaptureThread} {budget spent : LogBudget}
    (step : StreamStep stream path maxLogBytes (host, thread, budget) (read, reader, spent)) :
    reader.left (read.buffer stream) < thread.left (host.buffer stream) := by
  cases step with
  | @read _ _ _ chunk rest running reading nonempty _ _ buffered =>
      have some : 0 < chunk.length := List.length_pos_iff.mpr nonempty
      simp only [CaptureThread.left, CaptureThread.done, CaptureThread.absorb, running, reading,
        buffered, Host.drain, Function.update_self, List.length_append, Bool.or_false,
        Bool.false_eq_true, if_false]
      omega
  | writeFails _ _ running reading _ _ _ _ =>
      rw [CaptureThread.left_done (by simp [CaptureThread.done, CaptureThread.fail])]
      exact CaptureThread.left_pos (CaptureThread.done_of_reading running reading)
  | readFails _ running reading =>
      rw [CaptureThread.left_done (by simp [CaptureThread.done, CaptureThread.fail])]
      exact CaptureThread.left_pos (CaptureThread.done_of_reading running reading)
  | endOfStream running reading empty _ =>
      simp [CaptureThread.left, CaptureThread.done, running, reading]
  | panic unfinished =>
      rw [CaptureThread.left_done (by simp [CaptureThread.done])]
      exact CaptureThread.left_pos unfinished
  | work elsewhere step =>
      cases step with
      | count running counting =>
          simp [CaptureThread.left, CaptureThread.done, running, counting]
      | @flag _ _ chunk _ running flagging =>
          obtain ⟨_, _, _, phase, panicked⟩ := CaptureThread.keepTail_fields thread chunk
          simp [CaptureThread.left, CaptureThread.done, phase, panicked, running, flagging]
      | sync running syncing =>
          simp [CaptureThread.left, CaptureThread.done, running, syncing]
      | syncFails _ running syncing =>
          simp [CaptureThread.left, CaptureThread.done, CaptureThread.fail, running, syncing]
      | panic unfinished =>
          rw [CaptureThread.left_done (by simp [CaptureThread.done])]
          exact CaptureThread.left_pos unfinished
      | read _ _ reading => exact absurd reading elsewhere
      | readFails _ _ reading => exact absurd reading elsewhere
      | writeFails _ _ _ _ reading => exact absurd reading elsewhere
      | endOfStream _ reading => exact absurd reading elsewhere

/-- The child has been waited for, and nobody who runs can write. -/
structure Joining (setup : GroupSetup) (state : GroupState) : Prop where
  invariant : GroupInvariant setup state
  joining : ∃ forced status, state.phase = .joining forced status
  sealing : ∀ stream, state.host.Sealed stream

omit [Sha2] in
private theorem Joining.no_loopStep (joins : Joining setup before) :
    ¬LoopStep setup before after := by
  intro step
  obtain ⟨_, _, joining⟩ := joins.joining
  cases step <;> simp_all

private theorem groupStep_joining (step : GroupStep setup before after)
    (joins : Joining setup before) :
    Joining setup after := by
  refine ⟨groupStep_invariant step joins.invariant, ?_,
    fun stream => (groupStep_follows step).sealed (joins.sealing stream)⟩
  rcases step with step | step | step
  · exact absurd step joins.no_loopStep
  · cases step <;> exact joins.joining
  · cases step <;> exact joins.joining

/-- A step of a thread, or a death it waits for. -/
def EndingStep (setup : GroupSetup) (before after : GroupState) : Prop :=
  ReaderStep setup before after ∨ HolderDies before after

omit [Sha2] in
theorem HolderDies.outside (dies : HolderDies before after) : OutsideStep setup before after := by
  cases dies with
  | died status holder dying => exact .processes (.die status (Host.mem_holders.mp holder).1 dying)

theorem EndingStep.step (step : EndingStep setup before after) : GroupStep setup before after := by
  rcases step with step | dies
  · exact .inr (.inl step)
  · exact .inr (.inr dies.outside)

private theorem endingStep_lowers (step : EndingStep setup before after) :
    after.left < before.left := by
  have holders {stream other : Stream} {path : String} {maxLogBytes : UInt64} {host : CheckHost}
      {thread reader : CaptureThread} {budget spent : LogBudget}
      (step : StreamStep stream path maxLogBytes (before.host, thread, budget)
        (host, reader, spent)) : host.holders other = before.host.holders other := by
    obtain ⟨pids, process⟩ := streamStep_processes step
    simp only [Host.holders, pids, process]
  rcases step with step | dies
  · cases step with
    | stdout step =>
        have lower := streamStep_left step
        have other := (streamStep_other step (show Stream.stderr ≠ .stdout from nofun)).1
        simp only [GroupState.left, holders step, other]
        omega
    | stderr step =>
        have lower := streamStep_left step
        have other := (streamStep_other step (show Stream.stdout ≠ .stderr from nofun)).1
        simp only [GroupState.left, holders step, other]
        omega
  · cases dies with
    | @died stream pid status holder dying =>
        have fewer := Finset.card_lt_card (holders_finish_ssubset status holder)
        have kept (other : Stream) := Finset.card_le_card
          (@holders_finish_subset _ _ before.host pid other status)
        have first := kept .stdout
        have second := kept .stderr
        have buffer (process : Process ExitStatus Stream) :
            (before.host.set pid process).buffer = before.host.buffer := rfl
        cases stream <;> simp only [GroupState.left, buffer] <;> omega

omit [Sha2] in
/-- Nothing else brings the joins more to wait for. -/
theorem beside_left (step : LoopStep setup before after ∨ OutsideStep setup before after)
    (joins : Joining setup before) : after.left ≤ before.left := by
  rcases step with step | step
  · exact absurd step joins.no_loopStep
  · cases step with
    | @processes host step =>
        have buffer (stream : Stream) : host.buffer stream = before.host.buffer stream := by
          obtain ⟨bytes, buffer, _, none⟩ := step_sent step stream
          rw [buffer, none (joins.sealing stream), List.append_nil]
        have holders (stream : Stream) := Finset.card_le_card
          ((step_follows step).holders_subset (joins.sealing stream))
        have first := holders .stdout
        have second := holders .stderr
        simp only [GroupState.left, buffer]
        omega
    | time | cancel => exact Nat.le_refl _

/-- The thread has panicked, or returned an error. -/
def CaptureThread.failing (thread : CaptureThread) : Bool :=
  thread.panicked || match thread.phase with
    | .finished (.error _) => true
    | _ => false

/-- A thread that is not done can go on, unless it waits for the death of a process. -/
theorem thread_moves {stream : Stream} {path : String} {maxLogBytes : UInt64}
    {thread : CaptureThread} {budget : LogBudget} (joins : Joining setup state)
    (unfinished : thread.done = false) (room : thread.written.length < maxFileBytes) :
    (∃ host reader spent,
      StreamStep stream path maxLogBytes (state.host, thread, budget) (host, reader, spent) ∧
        reader.failing = thread.failing) ∨
      ∃ pid status, HolderDies state
        { state with host := state.host.set pid ((state.host.process pid).finish status) } := by
  have running : thread.panicked = false := by
    cases panicked : thread.panicked with
    | false => rfl
    | true => simp [CaptureThread.done, panicked] at unfinished
  cases phase : thread.phase with
  | reading =>
      cases buffered : state.host.buffer stream with
      | cons byte rest =>
          have short : [byte].length ≤ bufferBytes := show 1 ≤ bufferBytes by decide
          have fits : (thread.written ++ [byte]).length ≤ maxFileBytes := by
            rw [List.length_append]
            exact room
          have first : state.host.buffer stream = [byte] ++ rest := buffered
          refine .inl ⟨_, _, _, .read running phase (List.cons_ne_nil _ _) short fits first, ?_⟩
          simp [CaptureThread.failing, CaptureThread.absorb, phase]
      | nil =>
          by_cases unheld : state.host.holders stream = ∅
          · refine .inl ⟨_, _, _, .endOfStream running phase buffered unheld, ?_⟩
            simp [CaptureThread.failing, phase]
          · obtain ⟨pid, holder⟩ := Finset.nonempty_iff_ne_empty.mpr unheld
            obtain ⟨member, held⟩ := Host.mem_holders.mp holder
            cases life : (state.host.process pid).life with
            | running =>
                exact absurd held (Bool.eq_false_iff.mp (joins.sealing stream pid ⟨member, life⟩))
            | dying => exact .inr ⟨pid, ⟨none⟩, .died ⟨none⟩ holder life⟩
            | ended status =>
                have closed := joins.invariant.sound.closed ⟨member, life⟩ stream
                exact absurd held (Bool.eq_false_iff.mp closed)
  | counting chunk =>
      refine .inl ⟨_, _, _, .work (by simp [phase]) (.count running phase), ?_⟩
      simp [CaptureThread.failing, phase]
  | flagging chunk combined =>
      refine .inl ⟨_, _, _, .work (by simp [phase]) (.flag running phase), ?_⟩
      obtain ⟨_, _, _, kept, panicked⟩ := CaptureThread.keepTail_fields thread chunk
      simp [CaptureThread.failing, phase, kept, panicked]
  | syncing =>
      refine .inl ⟨_, _, _, .work (by simp [phase]) (.sync running phase), ?_⟩
      simp [CaptureThread.failing, phase]
  | finished result => simp [CaptureThread.done, running, phase] at unfinished

private theorem joining_moves (joins : Joining setup state) (blocked : state.result = none)
    (stdoutRoom : state.stdout.written.length < maxFileBytes)
    (stderrRoom : state.stderr.written.length < maxFileBytes) :
    ∃ next, EndingStep setup state next ∧ next.stdout.failing = state.stdout.failing ∧
      next.stderr.failing = state.stderr.failing := by
  have unfinished : state.stdout.done = false ∨ state.stderr.done = false := by
    obtain ⟨forced, status, joining⟩ := joins.joining
    rw [GroupState.result, joining] at blocked
    cases first : state.stdout.done with
    | false => exact .inl rfl
    | true =>
        cases second : state.stderr.done with
        | false => exact .inr rfl
        | true =>
            simp only [first, second, Bool.not_true, Bool.false_eq_true, if_false] at blocked
            split at blocked <;> exact nomatch blocked
  rcases unfinished with unfinished | unfinished
  · rcases thread_moves joins unfinished stdoutRoom with ⟨_, _, _, step, same⟩ | ⟨_, _, dies⟩
    · exact ⟨_, .inl (.stdout step), same, rfl⟩
    · exact ⟨_, .inr dies, rfl, rfl⟩
  · rcases thread_moves joins unfinished stderrRoom with ⟨_, _, _, step, same⟩ | ⟨_, _, dies⟩
    · exact ⟨_, .inl (.stderr step), rfl, same⟩
    · exact ⟨_, .inr dies, rfl, rfl⟩

/-- Whoever else steps in between, the steps that the joins wait for run out. -/
theorem joins_bounded {start finish : GroupState} {count : Nat}
    (counted : CountedRun (EndingStep setup)
      (fun before after => LoopStep setup before after ∨ OutsideStep setup before after)
      start count finish)
    (joins : Joining setup start) : count + finish.left ≤ start.left := by
  refine CountedRun.count_le (fun step joins => ?_) (fun step _ => endingStep_lowers step)
    beside_left counted joins
  rcases step with step | step | step
  · exact groupStep_joining step.step joins
  · exact absurd step joins.no_loopStep
  · exact groupStep_joining (.inr (.inr step)) joins

/-- When only loyal processes have write ends at the joins, the joins end: a bounded number
of steps of the threads and deaths is left, however all others step in between, and until
there is a result one of these steps can be taken, without a failure while the logs can grow. -/
theorem joins_end {host : CheckHost} {elapsed : Nat} {forced : Option StopReason}
    {status : ExitStatus} (spawned : setup.Spawned host)
    (run : Run (GroupStep setup) (setup.initial host elapsed) state)
    (joining : state.phase = .joining forced status)
    (loyal : ∀ stream, ∀ pid ∈ state.host.holders stream,
      (state.host.process pid).loyal = true) :
    (∀ {count : Nat} {later : GroupState}, CountedRun (EndingStep setup)
      (fun before after => LoopStep setup before after ∨ OutsideStep setup before after)
      state count later → count ≤ state.left) ∧
    ∀ later, Run (GroupStep setup) state later → later.result = none →
      later.stdout.written.length < maxFileBytes → later.stderr.written.length < maxFileBytes →
      ∃ next, EndingStep setup later next ∧ next.stdout.failing = later.stdout.failing ∧
        next.stderr.failing = later.stderr.failing := by
  have invariant := groupRun_invariant spawned run
  have silenced := invariant.quiet (by rw [joining]; rfl)
  have joins : Joining setup state :=
    ⟨invariant, ⟨forced, status, joining⟩, fun stream => silenced.sealed (loyal stream)⟩
  constructor
  · intro count later counted
    have bounded := joins_bounded counted joins
    omega
  · intro later after blocked
    have joins : Joining setup later :=
      @run_invariant _ _ (Joining setup) groupStep_joining _ _ after joins
    exact joining_moves joins blocked

end Joins

section

attribute [local instance] standardSha2

/-- The helper has write ends of both pipes, and a signal pending. -/
theorem byteJoining_ends :
    1 ≤ byteJoining.left ∧
      ∃ next, EndingStep byteSetup byteJoining next ∧
        next.stdout.failing = byteJoining.stdout.failing ∧
        next.stderr.failing = byteJoining.stderr.failing := by
  have helper (stream : Stream) : byteJoining.host.holders stream = {8} := by
    cases stream <;> decide
  have loyal (stream : Stream) (pid : Nat) (holder : pid ∈ byteJoining.host.holders stream) :
      (byteJoining.host.process pid).loyal = true := by
    rw [helper, Finset.mem_singleton] at holder
    subst holder
    rfl
  obtain ⟨bounded, moves⟩ := joins_end byteHost_spawned byteJoining_reached rfl loyal
  have holds : 8 ∈ byteJoining.host.holders .stdout := by
    rw [helper]
    exact Finset.mem_singleton_self 8
  have dies : HolderDies byteJoining _ := .died ⟨none⟩ holds rfl
  exact ⟨bounded (.own .refl (.inr dies)), moves _ .refl rfl (by decide) (by decide)⟩

end

end TaskAttest
