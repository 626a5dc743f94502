import TaskAttest.Publish
import TaskAttest.Source
import TaskAttest.Supervise
import TaskAttest.Toolchain
import TaskAttest.Discover
import TaskAttest.Verify

/-! Running the selected checks of a discovery report and storing the receipt. -/

set_option autoImplicit false

namespace TaskAttest

/-! The surroundings of a run -/

section World

variable [Sha2]

/-- What the execution of one check meets. -/
structure CheckWorld where
  canonicalize : String → Except IoError String
  isDir : String → Bool
  stdoutFaults : Nat → Option IoError
  stderrFaults : Nat → Option IoError
  spawn : Option IoError
  hasStdout : Bool
  hasStderr : Bool
  supervise : (setup : SuperviseSetup) → Supervision setup
  stdoutBlob : BlobFaults
  stderrBlob : BlobFaults
  removeStdout : Option IoError
  removeStderr : Option IoError

/-- What a run meets. Moments count its readings of the clock and of the token;
the handler may set the token before any of them. -/
structure World where
  process : Nat
  environment : Environment
  tool : List String → Except IoError ToolOutput
  clock : Nat → UInt64
  elapsed : Nat → UInt64
  interrupts : Nat → Bool
  check : Nat → CheckWorld
  after : Repository
  publish : PublishFaults

end World

/-- A child that was started for a check. -/
structure SpawnedProcess where
  check : CheckDefinition
  workingDirectory : String
  environment : List (String × String)

/-- A progress event, and whether the token was set by then. -/
structure Emitted where
  event : ProgressEvent
  cancelled : Bool

structure RunState where
  disk : Disk
  logSequence : Nat
  jsonSequence : Nat
  moment : Nat
  cancelled : Bool
  sequence : UInt64
  events : List Emitted
  spawned : List SpawnedProcess
  supervised : List (CheckDefinition × SuperviseState)
  cancelledAtOutcome : Bool

/-- A program that changes the run's state, also when it fails. -/
abbrev RunM := EStateM TaskError RunState

/-- The start of a run. -/
def RunState.start (disk : Disk) (logSequence jsonSequence : Nat) (cancelled : Bool) :
    RunState where
  disk
  logSequence
  jsonSequence
  moment := 0
  cancelled
  sequence := 0
  events := []
  spawned := []
  supervised := []
  cancelledAtOutcome := false

def ofExcept {α : Type} (result : Except TaskError α) : RunM α := fun state =>
  match result with
  | .ok value => .ok value state
  | .error error => .error error state

def onDisk {α : Type} (operation : Disk → Except TaskError α × Disk) : RunM α := fun state =>
  match operation state.disk with
  | (.ok value, disk) => .ok value { state with disk }
  | (.error error, disk) => .error error { state with disk }

/-- Run the clean-up when an action fails, and fail all the same. -/
def onFailure {α : Type} (action : RunM α) (cleanup : RunM Unit) : RunM α := fun state =>
  match action state with
  | .ok value state => .ok value state
  | .error error state =>
      match cleanup state with
      | .ok () state => .error error state
      | .error _ state => .error error state

def discardFile (fault : Option IoError) (path : String) : RunM Unit := fun state =>
  .ok () { state with disk := state.disk.discard fault path }

section Run

variable [Sha2]

/-- The state after one more reading of the clock or of the token. -/
def RunState.observed (world : World) (state : RunState) : RunState :=
  { state with
    moment := state.moment + 1
    cancelled := state.cancelled || world.interrupts state.moment }

def unixTimeMs (world : World) : RunM UInt64 := fun state =>
  .ok (world.clock state.moment) (state.observed world)

def elapsedMs (world : World) : RunM UInt64 := fun state =>
  .ok (world.elapsed state.moment) state

/-- `CancellationToken::is_cancelled`, when the outcome is computed. -/
def isCancelled (world : World) : RunM Bool := fun state =>
  let observed := state.observed world
  .ok observed.cancelled { observed with cancelledAtOutcome := observed.cancelled }

/-- The next progress event reaches the caller. -/
def RunState.progressed (world : World) (run : RunState) (state : ProgressState)
    (checkId : Option String) (outcome : Option CheckOutcome) (receiptId : Option String) :
    RunState :=
  let observed := run.observed world
  let event : ProgressEvent := {
    schemaVersion := progressSchemaVersion
    sequence := run.sequence + 1
    unixMs := world.clock run.moment
    state
    checkId
    outcome
    receiptId }
  { observed with
    sequence := run.sequence + 1
    events := run.events ++ [{ event, cancelled := observed.cancelled }] }

def onProgress (world : World) (state : ProgressState) (checkId : Option String)
    (outcome : Option CheckOutcome) (receiptId : Option String) : RunM Unit := fun run =>
  .ok () (run.progressed world state checkId outcome receiptId)

/-! One check -/

def resolveWorkingDirectory (here : CheckWorld) (root relative : String) :
    Except TaskError String :=
  match here.canonicalize (pathJoin root relative) with
  | .error error =>
      .error (TaskError.execution
        ("resolve working directory " ++ relative ++ ": " ++ error.text))
  | .ok path =>
      if !startsWith path root || !here.isDir path then
        .error (TaskError.execution
          ("working directory escapes the repository: " ++ relative))
      else .ok path

omit [Sha2] in
def createFile (allocation : Allocation) (faults : Nat → Option IoError) : RunM String :=
  fun state =>
    match allocation.run faults allocationAttempts state.logSequence state.disk with
    | (.ok path, logSequence, disk) => .ok path { state with logSequence, disk }
    | (.error error, logSequence, disk) => .error error { state with logSequence, disk }

def createCaptureFile (world : World) (store : StateStore) (faults : Nat → Option IoError)
    (stream : String) : RunM String :=
  createFile (store.captureAllocation world.process stream) faults

def createCaptureFiles (world : World) (here : CheckWorld) (store : StateStore) :
    RunM (String × String) := do
  let stdoutPath ← createCaptureFile world store here.stdoutFaults "stdout"
  let stderrPath ← onFailure (createCaptureFile world store here.stderrFaults "stderr")
    (discardFile here.removeStdout stdoutPath)
  return (stdoutPath, stderrPath)

def discardCaptures (here : CheckWorld) (paths : String × String) : RunM Unit := do
  discardFile here.removeStdout paths.1
  discardFile here.removeStderr paths.2

def spawnChild (world : World) (here : CheckWorld) (check : CheckDefinition)
    (workingDirectory : String) (paths : String × String) : RunM Unit := do
  modify fun state => { state with
    spawned := state.spawned ++ [{
      check
      workingDirectory
      environment := forwardEnvironment world.environment check.passEnvironment }] }
  if !here.hasStdout then
    discardCaptures here paths
    throw (TaskError.execution "child stdout was not captured")
  if !here.hasStderr then
    discardCaptures here paths
    throw (TaskError.execution "child stderr was not captured")

/-- The loop and the joins. The temporary files hold what the threads wrote. -/
def superviseChild (here : CheckWorld) (check : CheckDefinition) (maxLogBytes : UInt64)
    (paths : String × String) :
    RunM (Option StopReason × ExitStatus × Capture × Capture × LogBudget) := fun state =>
  let setup : SuperviseSetup := {
    checkId := check.id
    maxLogBytes
    stdoutPath := paths.1
    stderrPath := paths.2
    cancelled := state.cancelled }
  let supervision := here.supervise setup
  let ended := supervision.ended
  let written : Disk := state.disk.modify paths.1 (Entry.append ended.stdout.written)
  let supervised := { state with
    disk := written.modify paths.2 (Entry.append ended.stderr.written)
    cancelled := ended.cancelled
    supervised := state.supervised ++ [(check, ended)] }
  match supervision.result with
  | .ok (forced, status, stdout, stderr) =>
      .ok (forced, status, stdout, stderr, ended.budget) supervised
  | .error error => .error error supervised

def logReference (capture : Capture) : LogReference where
  algorithm := "sha256"
  digest := capture.digest
  bytes := capture.bytes
  handle := "sha256:" ++ capture.digest
  contentEncoding := "raw"
  sensitivity := "potentially_sensitive"

def captureBlob (capture : Capture) : BlobCall where
  temporary := capture.path
  digest := capture.digest
  expectedBytes := capture.bytes

def persistCapture (store : StateStore) (faults : BlobFaults) (capture : Capture) :
    RunM LogReference := do
  let _ ← onDisk (store.storeBlob (captureBlob capture) faults)
  return logReference capture

def tailSummary (capture : Capture) : String :=
  String.ofList (redactSummary (fromUtf8Lossy capture.tail))

def spawnFailedExecution (world : World) (here : CheckWorld) (check : CheckDefinition)
    (startedUnixMs : UInt64) (paths : String × String) (error : IoError) :
    RunM CheckExecution := do
  discardCaptures here paths
  let completedUnixMs ← unixTimeMs world
  let durationMs ← elapsedMs world
  return {
    check
    startedUnixMs
    completedUnixMs
    durationMs
    outcome := .spawnFailed
    exitCode := none
    stdout := none
    stderr := none
    stdoutSummary := ""
    stderrSummary := String.ofList (redactSummary error.text.toList)
    diagnosticSummariesTruncated := false }

def supervisedExecution (world : World) (here : CheckWorld) (store : StateStore)
    (check : CheckDefinition) (maxLogBytes : UInt64) (startedUnixMs : UInt64)
    (paths : String × String) : RunM CheckExecution := do
  let (forced, status, stdout, stderr, budget) ← superviseChild here check maxLogBytes paths
  let stdoutReference ← persistCapture store here.stdoutBlob stdout
  let stderrReference ← persistCapture store here.stderrBlob stderr
  let completedUnixMs ← unixTimeMs world
  let durationMs ← elapsedMs world
  return {
    check
    startedUnixMs
    completedUnixMs
    durationMs
    outcome := supervisedOutcome maxLogBytes forced status budget
    exitCode := status.code
    stdout := some stdoutReference
    stderr := some stderrReference
    stdoutSummary := tailSummary stdout
    stderrSummary := tailSummary stderr
    diagnosticSummariesTruncated := stdout.truncated || stderr.truncated }

def executeCheck (world : World) (here : CheckWorld) (store : StateStore)
    (check : CheckDefinition) (maxLogBytes : UInt64) : RunM CheckExecution := do
  let startedUnixMs ← unixTimeMs world
  let workingDirectory ← ofExcept
    (resolveWorkingDirectory here world.after.root check.command.workingDirectory)
  let paths ← createCaptureFiles world here store
  match here.spawn with
  | some error => spawnFailedExecution world here check startedUnixMs paths error
  | none => do
      spawnChild world here check workingDirectory paths
      supervisedExecution world here store check maxLogBytes startedUnixMs paths

def skippedExecution (world : World) (check : CheckDefinition) : RunM CheckExecution := do
  let now ← unixTimeMs world
  return {
    check
    startedUnixMs := now
    completedUnixMs := now
    durationMs := 0
    outcome := .skipped
    exitCode := none
    stdout := none
    stderr := none
    stdoutSummary := ""
    stderrSummary := "skipped after an earlier failure because fail-fast was enabled"
    diagnosticSummariesTruncated := false }

/-! All checks -/

def skipOrExecute (world : World) (store : StateStore) (invocation : Invocation) (position : Nat)
    (stop : Bool) (check : CheckDefinition) : RunM CheckExecution :=
  if stop then skippedExecution world check
  else executeCheck world (world.check position) store check invocation.limits.maxLogBytesPerCheck

/-- One turn of the loop. -/
def runCheck (world : World) (store : StateStore) (invocation : Invocation) (position : Nat)
    (stop : Bool) (check : CheckDefinition) : RunM CheckExecution := do
  onProgress world .checkStarted (some check.id) none none
  let execution ← skipOrExecute world store invocation position stop check
  onProgress world .checkFinished (some execution.check.id) (some execution.outcome) none
  return execution

def runLoop (world : World) (store : StateStore) (invocation : Invocation) :
    Nat → Bool → List CheckDefinition → RunM (List CheckExecution)
  | _, _, [] => return []
  | position, stop, check :: rest => do
      let execution ← runCheck world store invocation position stop check
      let executions ← runLoop world store invocation (position + 1)
        (invocation.failFast && execution.outcome != .passed) rest
      return execution :: executions

omit [Sha2] in
def receiptOutcome (checks : List CheckExecution) (coverageGaps : List String)
    (cancelled sourceUnchanged : Bool) : ReceiptOutcome :=
  if cancelled || checks.any fun check => check.outcome == .cancelled then .cancelled
  else if !sourceUnchanged || checks.any fun check => check.outcome != .passed then .failed
  else if checks.isEmpty || !coverageGaps.isEmpty then .incomplete
  else .passed

omit [Sha2] in
def nonHermeticInputs (executions : List CheckExecution) : List String :=
  sortedSet (executions.flatMap (fun execution => execution.check.nonHermeticInputs) ++
    ["network access is not sandboxed",
      "filesystem access outside the workspace is not sandboxed",
      "tool executables are resolved from PATH"])

def assemblePayload (world : World) (discovery : DiscoveryReport) (invocation : Invocation)
    (executions : List CheckExecution) (sourceAfter : SourceIdentity) (cancelled : Bool)
    (startedUnixMs completedUnixMs durationMs : UInt64) : ReceiptPayload :=
  let sourceUnchanged := decide (sourceAfter = discovery.source)
  let checks := selectedChecks discovery
  { schemaVersion := receiptSchemaVersion
    taskattestVersion := version
    source := discovery.source
    sourceAfter
    sourceUnchanged
    invocation
    discovery
    startedUnixMs
    completedUnixMs
    durationMs
    outcome := receiptOutcome executions discovery.coverageGaps cancelled sourceUnchanged
    checks := executions
    coverageGaps := discovery.coverageGaps
    toolchains := collectToolchains world.tool checks
    environment := {
      mode := "allowlist"
      forwardedNames := forwardedEnvironmentNames world.environment checks
      valuesRecorded := false }
    redaction := {
      name := "environment-minimized-summary-redaction-v1"
      fullLogsRedacted := false
      diagnosticSummariesRedacted := true }
    nonHermeticInputs := nonHermeticInputs executions
    artifacts := []
    annotations := SortedMap.empty }

/-- Everything up to the payload of the receipt. -/
def collectEvidence (world : World) (store : StateStore) (discovery : DiscoveryReport)
    (invocation : Invocation) : RunM ReceiptPayload := do
  let startedUnixMs ← unixTimeMs world
  let executions ← runLoop world store invocation 0 false (selectedChecks discovery)
  let sourceAfter ← ofExcept (identifySource world.after)
  let cancelled ← isCancelled world
  let completedUnixMs ← unixTimeMs world
  let durationMs ← elapsedMs world
  return assemblePayload world discovery invocation executions sourceAfter cancelled
    startedUnixMs completedUnixMs durationMs

variable [JsonDiagnostics]

omit [Sha2] in
def storeReceipt (process : Nat) (faults : PublishFaults) (store : StateStore)
    (receipt : Receipt) : RunM String := fun state =>
  match store.writeReceipt process faults receipt state.jsonSequence state.disk with
  | (.ok path, jsonSequence, disk) => .ok path { state with jsonSequence, disk }
  | (.error error, jsonSequence, disk) => .error error { state with jsonSequence, disk }

def runChecks (world : World) (store : StateStore) (discovery : DiscoveryReport)
    (invocation : Invocation) : RunM Receipt := do
  let payload ← collectEvidence world store discovery invocation
  let receipt := buildReceipt payload
  let _ ← storeReceipt world.process world.publish store receipt
  onProgress world .receiptStored none none (some receipt.receiptId)
  return receipt

end Run

end TaskAttest
