import TaskAttest.Library.Processes
import TaskAttest.Supervise

/-! The supervision of one spawned check on the processes of its host, one system call at a
time: the polling loop, the termination of the process group, and the pipes. -/

set_option autoImplicit false

namespace TaskAttest

open Processes

/-- The two pipes of a child. -/
inductive Stream where
  | stdout
  | stderr
deriving DecidableEq

abbrev CheckHost := Host ExitStatus Stream

def operationNotPermitted : IoError := ⟨.other, "Operation not permitted (os error 1)"⟩

/-! Durations, in milliseconds -/

def pollInterval : Nat := 25

def terminationGracePeriod : Nat := 500

def orphanPause : Nat := 100

/-! Signals -/

/-- That no process is left in the group is no failure. -/
def signalProcessGroup (host : CheckHost) (processGroup : Nat) (signal : Signal) :
    Except IoError CheckHost :=
  match host.delivery processGroup with
  | .delivered => .ok (host.signal processGroup signal)
  | .noProcess => .ok host
  | .notPermitted => .error operationNotPermitted

/-- A signal whose failure is ignored. -/
def trySignalProcessGroup (host : CheckHost) (processGroup : Nat) (signal : Signal) : CheckHost :=
  match signalProcessGroup host processGroup signal with
  | .ok signalled => signalled
  | .error _ => host

def processGroupExists (host : CheckHost) (processGroup : Nat) : Bool :=
  match host.delivery processGroup with
  | .noProcess => false
  | .delivered | .notPermitted => true

/-! The termination of a child and its group -/

/-- Where `terminate_process_tree` is. -/
inductive TerminatePhase where
  | signalling
  | waiting (deadline : Nat)
  | trying (deadline : Nat)
  | sleeping (deadline wake : Nat)
  | sweeping (status : ExitStatus)
  | killing
  | reaping
  | done (result : Except IoError ExitStatus)

/-- A wait that was interrupted is repeated, which is no step. -/
inductive TerminateStep (child now : Nat) :
    CheckHost × TerminatePhase → CheckHost × TerminatePhase → Prop where
  | signalled {host signalled : CheckHost} :
      signalProcessGroup host child .term = .ok signalled →
      TerminateStep child now (host, .signalling)
        (signalled, .waiting (now + terminationGracePeriod))
  | signalFails {host : CheckHost} {error : IoError} :
      signalProcessGroup host child .term = .error error →
      TerminateStep child now (host, .signalling) (host, .done (.error error))
  | within {host : CheckHost} {deadline : Nat} :
      now < deadline → TerminateStep child now (host, .waiting deadline) (host, .trying deadline)
  | elapsed {host : CheckHost} {deadline : Nat} :
      deadline ≤ now → TerminateStep child now (host, .waiting deadline) (host, .killing)
  | hasExited {host : CheckHost} {deadline : Nat} {status : ExitStatus} :
      host.Ended child status →
      TerminateStep child now (host, .trying deadline) (host.reap child, .sweeping status)
  | stillRunning {host : CheckHost} {deadline : Nat} :
      (∀ status, ¬host.Ended child status) →
      TerminateStep child now (host, .trying deadline)
        (host, .sleeping deadline (now + pollInterval))
  | tryFails {host : CheckHost} {deadline : Nat} (error : IoError) :
      TerminateStep child now (host, .trying deadline) (host, .done (.error error))
  | wake {host : CheckHost} {deadline wake : Nat} :
      wake ≤ now →
      TerminateStep child now (host, .sleeping deadline wake) (host, .waiting deadline)
  | swept {host : CheckHost} {status : ExitStatus} :
      TerminateStep child now (host, .sweeping status)
        (trySignalProcessGroup host child .kill, .done (.ok status))
  | killed {host signalled : CheckHost} :
      signalProcessGroup host child .kill = .ok signalled →
      TerminateStep child now (host, .killing) (signalled, .reaping)
  | killFails {host : CheckHost} {error : IoError} :
      signalProcessGroup host child .kill = .error error →
      TerminateStep child now (host, .killing) (host, .done (.error error))
  | reaped {host : CheckHost} {status : ExitStatus} :
      host.Ended child status →
      TerminateStep child now (host, .reaping) (host.reap child, .done (.ok status))
  | waitFails {host : CheckHost} (error : IoError) :
      TerminateStep child now (host, .reaping) (host, .done (.error error))

/-- Where `terminate_orphaned_process_group` is. -/
inductive OrphanPhase where
  | probing
  | stopping
  | pausing (wake : Nat)
  | finishing
  | done

inductive OrphanStep (child now : Nat) :
    CheckHost × OrphanPhase → CheckHost × OrphanPhase → Prop where
  | missing {host : CheckHost} :
      processGroupExists host child = false →
      OrphanStep child now (host, .probing) (host, .done)
  | found {host : CheckHost} :
      processGroupExists host child = true →
      OrphanStep child now (host, .probing) (host, .stopping)
  | stopped {host : CheckHost} :
      OrphanStep child now (host, .stopping)
        (trySignalProcessGroup host child .term, .pausing (now + orphanPause))
  | wake {host : CheckHost} {wake : Nat} :
      wake ≤ now → OrphanStep child now (host, .pausing wake) (host, .finishing)
  | finished {host : CheckHost} :
      OrphanStep child now (host, .finishing) (trySignalProcessGroup host child .kill, .done)

/-! One capture thread at its pipe -/

section Steps

variable [Sha2]

/-- A thread reads what is in the pipe; the stream ends when nobody can write to it. -/
inductive StreamStep (stream : Stream) (path : String) (maxLogBytes : UInt64) :
    CheckHost × CaptureThread × LogBudget → CheckHost × CaptureThread × LogBudget → Prop where
  | read {host : CheckHost} {thread : CaptureThread} {budget : LogBudget}
      {chunk rest : List UInt8} :
      thread.panicked = false → thread.phase = .reading → chunk ≠ [] →
      chunk.length ≤ bufferBytes → (thread.written ++ chunk).length ≤ maxFileBytes →
      host.buffer stream = chunk ++ rest →
      StreamStep stream path maxLogBytes (host, thread, budget)
        (host.drain stream rest, thread.absorb chunk, budget)
  | writeFails {host : CheckHost} {thread : CaptureThread} {budget : LogBudget}
      {chunk rest : List UInt8} (torn : List UInt8) (error : IoError) :
      thread.panicked = false → thread.phase = .reading → chunk ≠ [] →
      chunk.length ≤ bufferBytes → torn <+: chunk → host.buffer stream = chunk ++ rest →
      StreamStep stream path maxLogBytes (host, thread, budget)
        (host.drain stream rest,
          { thread with written := thread.written ++ torn }.fail error, budget)
  | readFails {host : CheckHost} {thread : CaptureThread} {budget : LogBudget}
      (error : IoError) :
      thread.panicked = false → thread.phase = .reading →
      StreamStep stream path maxLogBytes (host, thread, budget) (host, thread.fail error, budget)
  | endOfStream {host : CheckHost} {thread : CaptureThread} {budget : LogBudget} :
      thread.panicked = false → thread.phase = .reading → host.buffer stream = [] →
      host.holders stream = ∅ →
      StreamStep stream path maxLogBytes (host, thread, budget)
        (host, { thread with phase := .syncing }, budget)
  | panic {host : CheckHost} {thread : CaptureThread} {budget : LogBudget} :
      thread.done = false →
      StreamStep stream path maxLogBytes (host, thread, budget)
        (host, { thread with panicked := true }, budget)
  | work {host : CheckHost} {thread worked : CaptureThread} {budget spent : LogBudget} :
      thread.phase ≠ .reading → CaptureStep path maxLogBytes (thread, budget) (worked, spent) →
      StreamStep stream path maxLogBytes (host, thread, budget) (host, worked, spent)

/-! The polling loop -/

/-- Where the loop of `execute_check` is. -/
inductive PollPhase where
  | polling
  | checking (reason : StopReason)
  | sleeping (wake : Nat)
  | orphaned (status : ExitStatus) (phase : OrphanPhase)
  | terminating (reason : StopReason) (phase : TerminatePhase)
  | joining (forced : Option StopReason) (status : ExitStatus)
  | failed (error : TaskError)

/-- Time counts from the start of the check. -/
structure GroupSetup extends SuperviseSetup where
  child : Nat
  maxRuntimeMs : UInt64

def GroupSetup.deadline (setup : GroupSetup) : Nat := setup.maxRuntimeMs.toNat

/-- The host when the child has been spawned: it leads a group of its own
(`process_group(0)`), and nobody else has write ends of its pipes. -/
structure GroupSetup.Spawned (setup : GroupSetup) (host : CheckHost) : Prop where
  runs : host.Runs setup.child
  leads : (host.process setup.child).group = setup.child
  permitted : (host.process setup.child).permitted = true
  loyal : (host.process setup.child).loyal = true
  others : ∀ pid ∈ host.pids, pid ≠ setup.child →
    (host.process pid).loyal = false ∧ ∀ stream, (host.process pid).holds stream = false
  empty : ∀ stream, host.buffer stream = [] ∧ host.sent stream = []

structure GroupState where
  host : CheckHost
  now : Nat
  cancelled : Bool
  stdout : CaptureThread
  stderr : CaptureThread
  budget : LogBudget
  phase : PollPhase

def GroupSetup.initial (setup : GroupSetup) (host : CheckHost) (elapsed : Nat) : GroupState where
  host
  now := elapsed
  cancelled := setup.cancelled
  stdout := .initial
  stderr := .initial
  budget := ⟨0, false⟩
  phase := .polling

/-- A reason to stop the child holds when the loop looks at it. -/
def GroupSetup.stops (setup : GroupSetup) (state : GroupState) : StopReason → Bool
  | .cancellation => state.cancelled
  | .logLimit => state.budget.limitExceeded
  | .deadline => setup.deadline ≤ state.now

/-- Where the loop goes when a reason does not hold. -/
def StopReason.next (now : Nat) : StopReason → PollPhase
  | .cancellation => .checking .logLimit
  | .logLimit => .checking .deadline
  | .deadline => .sleeping (now + pollInterval)

/-- The steps of the loop. -/
inductive LoopStep (setup : GroupSetup) : GroupState → GroupState → Prop where
  | stillRunning {state : GroupState} :
      state.phase = .polling → (∀ status, ¬state.host.Ended setup.child status) →
      LoopStep setup state { state with phase := .checking .cancellation }
  | hasExited {state : GroupState} {status : ExitStatus} :
      state.phase = .polling → state.host.Ended setup.child status →
      LoopStep setup state { state with
        host := state.host.reap setup.child, phase := .orphaned status .probing }
  | waitFails {state : GroupState} (error : IoError) :
      state.phase = .polling →
      LoopStep setup state { state with
        phase := .failed
          (TaskError.execution ("wait for " ++ setup.checkId ++ ": " ++ error.text)) }
  | stop {state : GroupState} {reason : StopReason} :
      state.phase = .checking reason → setup.stops state reason = true →
      LoopStep setup state { state with phase := .terminating reason .signalling }
  | proceed {state : GroupState} {reason : StopReason} :
      state.phase = .checking reason → setup.stops state reason = false →
      LoopStep setup state { state with phase := reason.next state.now }
  | wake {state : GroupState} {wake : Nat} :
      state.phase = .sleeping wake → wake ≤ state.now →
      LoopStep setup state { state with phase := .polling }
  | orphans {state : GroupState} {status : ExitStatus} {before after : OrphanPhase}
      {host : CheckHost} :
      state.phase = .orphaned status before →
      OrphanStep setup.child state.now (state.host, before) (host, after) →
      LoopStep setup state { state with host, phase := .orphaned status after }
  | exited {state : GroupState} {status : ExitStatus} :
      state.phase = .orphaned status .done →
      LoopStep setup state { state with phase := .joining none status }
  | terminates {state : GroupState} {reason : StopReason} {before after : TerminatePhase}
      {host : CheckHost} :
      state.phase = .terminating reason before →
      TerminateStep setup.child state.now (state.host, before) (host, after) →
      LoopStep setup state { state with host, phase := .terminating reason after }
  | terminated {state : GroupState} {reason : StopReason} {status : ExitStatus} :
      state.phase = .terminating reason (.done (.ok status)) →
      LoopStep setup state { state with phase := .joining (some reason) status }
  | terminationFails {state : GroupState} {reason : StopReason} {error : IoError} :
      state.phase = .terminating reason (.done (.error error)) →
      LoopStep setup state { state with
        phase := .failed (TaskError.execution ("terminate " ++ reason.adjective ++ " check " ++
          setup.checkId ++ ": " ++ error.text)) }

/-- The steps of the two threads. -/
inductive ReaderStep (setup : GroupSetup) : GroupState → GroupState → Prop where
  | stdout {state : GroupState} {host : CheckHost} {thread : CaptureThread} {budget : LogBudget} :
      StreamStep .stdout setup.stdoutPath setup.maxLogBytes
        (state.host, state.stdout, state.budget) (host, thread, budget) →
      ReaderStep setup state { state with host, stdout := thread, budget }
  | stderr {state : GroupState} {host : CheckHost} {thread : CaptureThread} {budget : LogBudget} :
      StreamStep .stderr setup.stderrPath setup.maxLogBytes
        (state.host, state.stderr, state.budget) (host, thread, budget) →
      ReaderStep setup state { state with host, stderr := thread, budget }

/-- What goes on around the supervision: processes, time, and a request to cancel. -/
inductive OutsideStep (setup : GroupSetup) : GroupState → GroupState → Prop where
  | processes {state : GroupState} {host : CheckHost} :
      Step setup.child state.host host → OutsideStep setup state { state with host }
  | time {state : GroupState} {now : Nat} :
      state.now ≤ now → OutsideStep setup state { state with now }
  | cancel {state : GroupState} : OutsideStep setup state { state with cancelled := true }

/-- The steps of all parties. -/
def GroupStep (setup : GroupSetup) (before after : GroupState) : Prop :=
  LoopStep setup before after ∨ ReaderStep setup before after ∨ OutsideStep setup before after

/-- What the loop and the joins return. Nothing while one of them blocks. -/
def GroupState.result (state : GroupState) :
    Option (Except TaskError (Option StopReason × ExitStatus × Capture × Capture)) :=
  match state.phase with
  | .failed error => some (.error error)
  | .joining forced status =>
      if !state.stdout.done then none
      else
        match joinCapture state.stdout "stdout" with
        | .error error => some (.error error)
        | .ok stdout =>
            if !state.stderr.done then none
            else some ((joinCapture state.stderr "stderr").map fun stderr =>
              (forced, status, stdout, stderr))
  | _ => none

end Steps

end TaskAttest
