import TaskAttest.Capture

/-! The supervision of one spawned check: the child, the two capture threads and
the polling loop, in any interleaving. -/

set_option autoImplicit false

namespace TaskAttest

/-- No code when a signal ended the process. -/
structure ExitStatus where
  code : Option Int32
deriving DecidableEq

def ExitStatus.success (status : ExitStatus) : Bool := status.code == some 0

/-- A child exits by itself or is terminated. -/
inductive ChildState where
  | running
  | exited (status : ExitStatus)
  | terminated (status : ExitStatus)
deriving DecidableEq

/-- The three reasons to stop a child, in the order they are looked at. -/
inductive StopReason where
  | cancellation
  | logLimit
  | deadline
deriving DecidableEq

namespace StopReason

def outcome : StopReason → CheckOutcome
  | .cancellation => .cancelled
  | .logLimit => .logLimitExceeded
  | .deadline => .timedOut

def adjective : StopReason → String
  | .cancellation => "cancelled"
  | .logLimit => "log-limited"
  | .deadline => "timed-out"

end StopReason

/-- Where the polling loop is. -/
inductive SupervisePhase where
  | waiting
  | checking (reason : StopReason)
  | terminating (reason : StopReason)
  | sleeping
  | joining (forced : Option StopReason) (status : ExitStatus)
  | failed (error : TaskError)

/-- What a supervision starts with. -/
structure SuperviseSetup where
  checkId : String
  maxLogBytes : UInt64
  stdoutPath : String
  stderrPath : String
  cancelled : Bool

structure SuperviseState where
  child : ChildState
  cancelled : Bool
  expired : Bool
  stdout : CaptureThread
  stderr : CaptureThread
  budget : LogBudget
  phase : SupervisePhase

def SuperviseSetup.initial (setup : SuperviseSetup) : SuperviseState where
  child := .running
  cancelled := setup.cancelled
  expired := false
  stdout := .initial
  stderr := .initial
  budget := ⟨0, false⟩
  phase := .waiting

/-- A reason to stop the child holds when the loop looks at it. -/
def StopReason.holds (state : SuperviseState) : StopReason → Bool
  | .cancellation => state.cancelled
  | .logLimit => state.budget.limitExceeded
  | .deadline => state.expired

/-- Where the loop goes when a reason does not hold. -/
def StopReason.otherwise : StopReason → SupervisePhase
  | .cancellation => .checking .logLimit
  | .logLimit => .checking .deadline
  | .deadline => .sleeping

section Steps

variable [Sha2]

/-- The steps of a supervision: those of its surroundings, of the two threads
and of the polling loop. -/
inductive SuperviseStep (setup : SuperviseSetup) : SuperviseState → SuperviseState → Prop where
  | cancel {state : SuperviseState} :
      SuperviseStep setup state { state with cancelled := true }
  | expire {state : SuperviseState} :
      SuperviseStep setup state { state with expired := true }
  | exit {state : SuperviseState} (status : ExitStatus) :
      state.child = .running →
      SuperviseStep setup state { state with child := .exited status }
  | stdout {state : SuperviseState} {thread : CaptureThread} {budget : LogBudget} :
      CaptureStep setup.stdoutPath setup.maxLogBytes (state.stdout, state.budget)
        (thread, budget) →
      SuperviseStep setup state { state with stdout := thread, budget }
  | stderr {state : SuperviseState} {thread : CaptureThread} {budget : LogBudget} :
      CaptureStep setup.stderrPath setup.maxLogBytes (state.stderr, state.budget)
        (thread, budget) →
      SuperviseStep setup state { state with stderr := thread, budget }
  | stillRunning {state : SuperviseState} :
      state.phase = .waiting → state.child = .running →
      SuperviseStep setup state { state with phase := .checking .cancellation }
  | hasExited {state : SuperviseState} {status : ExitStatus} :
      state.phase = .waiting → state.child = .exited status →
      SuperviseStep setup state { state with phase := .joining none status }
  | waitFails {state : SuperviseState} (error : IoError) :
      state.phase = .waiting →
      SuperviseStep setup state { state with
        phase := .failed
          (TaskError.execution ("wait for " ++ setup.checkId ++ ": " ++ error.text)) }
  | stop {state : SuperviseState} {reason : StopReason} :
      state.phase = .checking reason → reason.holds state = true →
      SuperviseStep setup state { state with phase := .terminating reason }
  | proceed {state : SuperviseState} {reason : StopReason} :
      state.phase = .checking reason → reason.holds state = false →
      SuperviseStep setup state { state with phase := reason.otherwise }
  | terminate {state : SuperviseState} {reason : StopReason} (status : ExitStatus) :
      state.phase = .terminating reason → state.child = .running →
      SuperviseStep setup state { state with
        child := .terminated status, phase := .joining (some reason) status }
  | alreadyExited {state : SuperviseState} {reason : StopReason} {status : ExitStatus} :
      state.phase = .terminating reason → state.child = .exited status →
      SuperviseStep setup state { state with phase := .joining (some reason) status }
  | terminationFails {state : SuperviseState} {reason : StopReason} (error : IoError) :
      state.phase = .terminating reason →
      SuperviseStep setup state { state with
        phase := .failed (TaskError.execution ("terminate " ++ reason.adjective ++ " check " ++
          setup.checkId ++ ": " ++ error.text)) }
  | wake {state : SuperviseState} :
      state.phase = .sleeping →
      SuperviseStep setup state { state with phase := .waiting }

/-- What the loop and the joins return. Nothing while one of them blocks; the
second thread is not joined when the first has failed. -/
def SuperviseState.result (state : SuperviseState) :
    Option (Except TaskError (Option StopReason × ExitStatus × Capture × Capture)) :=
  match state.phase with
  | .failed error => some (.error error)
  | .joining forced status =>
      if !state.stdout.done then none
      else
        match joinCapture state.stdout "stdout" with
        | .error error => some (.error error)
        | .ok stdout =>
            if !state.stderr.done then none
            else some ((joinCapture state.stderr "stderr").map fun stderr =>
              (forced, status, stdout, stderr))
  | _ => none

/-- One supervision from its start to its end. -/
structure Supervision (setup : SuperviseSetup) where
  ended : SuperviseState
  reached : Transition.Run (SuperviseStep setup) setup.initial ended
  returns : ended.result.isSome = true

def Supervision.result {setup : SuperviseSetup} (supervision : Supervision setup) :
    Except TaskError (Option StopReason × ExitStatus × Capture × Capture) :=
  supervision.ended.result.get supervision.returns

end Steps

/-- The outcome of a supervised check, computed when both threads are done. -/
def supervisedOutcome (maxLogBytes : UInt64) (forced : Option StopReason) (status : ExitStatus)
    (budget : LogBudget) : CheckOutcome :=
  match forced with
  | some reason => reason.outcome
  | none =>
      if budget.totalBytes > maxLogBytes then .logLimitExceeded
      else if status.success then .passed
      else .failed

end TaskAttest
