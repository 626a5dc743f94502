import TaskAttest.Library.Parallel
import TaskAttest.RunCommand

/-! The run command as it shares a store with other runs: between any two of its system
calls on the store, the others may take steps of their own. -/

set_option autoImplicit false

namespace TaskAttest

open Interleaving

/-! Temporary files -/

/-- The two counters of a process that number its temporary files. -/
inductive Counter where
  | log
  | json
deriving DecidableEq

def Counter.read : Counter → RunState → Nat
  | .log, state => state.logSequence
  | .json, state => state.jsonSequence

def Counter.write (number : Nat) : Counter → RunState → RunState
  | .log, state => { state with logSequence := number }
  | .json, state => { state with jsonSequence := number }

/-- One attempt of an allocation. There is no file when the name is taken. -/
def Allocation.once (allocation : Allocation) (faults : Nat → Option IoError) (sequence : Nat)
    (disk : Disk) : Except TaskError (Option (String × Disk)) :=
  let path := allocation.name sequence
  match attempt (faults sequence) (disk.createNew path) with
  | .ok created => .ok (some (path, created))
  | .error error =>
      if error.kind = .alreadyExists then .ok none
      else .error (TaskError.io allocation.action path error)

namespace Shared

/-- Every attempt consumes a sequence number. -/
def attemptCreate (counter : Counter) (allocation : Allocation) (faults : Nat → Option IoError) :
    RunM (Option String) := fun state =>
  let next := counter.write (counter.read state + 1) state
  match allocation.once faults (counter.read state) state.disk with
  | .ok (some (path, disk)) => .ok (some path) { next with disk }
  | .ok none => .ok none next
  | .error error => .error error next

def createFile (counter : Counter) (allocation : Allocation) (faults : Nat → Option IoError) :
    Nat → RunCalls String
  | 0 => Calls.lift (.error allocation.exhausted)
  | attempts + 1 => do
      let created ← Calls.perform (attemptCreate counter allocation faults)
      match created with
      | some path => return path
      | none => createFile counter allocation faults attempts

/-! Publishing a document -/

def writeJsonAtomic (process : Nat) (faults : PublishFaults) (path : String)
    (document : List UInt8) : RunCalls Unit := do
  Among.preflightJsonOutput faults path
  let (parent, name) ← Calls.lift (jsonOutputParent path)
  let temporary ← createFile .json (jsonAllocation process parent name) faults.allocate
    allocationAttempts
  (Among.fillAndLink faults document temporary path).onFailure
    (discardFile faults.remove temporary)
  Calls.perform (discardFile faults.remove temporary)

/-! Storing blobs -/

/-- `Path::exists`, which answers no when the call fails. -/
def pathExists (fails : Bool) (path : String) : RunCalls Bool :=
  Among.inspect fun disk => .ok (!fails && disk.pathExists path)

/-- `hard_link`, which answers with the error when it fails. -/
def hardLink (fault : Option IoError) (source target : String) : RunM (Option IoError) :=
  fun state =>
    match attempt fault (state.disk.hardLink source target) with
    | .ok disk => .ok none { state with disk }
    | .error error => .ok (some error) state

def removeTemporary (store : StateStore) (call : BlobCall) (action : String)
    (fault : Option IoError) : RunCalls String := do
  Among.change fun disk => orElseFail (TaskError.io action call.temporary)
    (attempt fault (disk.removeFile call.temporary))
  return store.blobTarget call.digest

section Run

variable [Sha2]

/-- Adopt a blob that is already there, after checking it. -/
def adoptBlob (store : StateStore) (call : BlobCall) (action : String) (faults : BlobFaults) :
    RunCalls String := do
  Among.inspect fun disk => store.verifyBlobStep call faults.verify disk
  removeTemporary store call action faults.remove

def publishBlob (store : StateStore) (call : BlobCall) (faults : BlobFaults) : RunCalls String := do
  let target := store.blobTarget call.digest
  let failed ← Calls.perform (hardLink faults.link call.temporary target)
  match failed with
  | none => removeTemporary store call "remove published temporary log" faults.remove
  | some error => do
      let raced ← pathExists faults.relookup target
      if raced then adoptBlob store call "remove raced temporary log" faults
      else
        Calls.lift (.error (TaskError.io "publish content-addressed log without overwriting"
          target error))

def storeBlob (store : StateStore) (call : BlobCall) (faults : BlobFaults) : RunCalls String := do
  Calls.lift (validateSha256 call.digest)
  let duplicate ← pathExists faults.lookup (store.blobTarget call.digest)
  if duplicate then adoptBlob store call "remove duplicate temporary log" faults
  else publishBlob store call faults

def persistCapture (store : StateStore) (faults : BlobFaults) (capture : Capture) :
    RunCalls LogReference := do
  let _ ← storeBlob store (captureBlob capture) faults
  return logReference capture

/-! Running the checks -/

def createCaptureFiles (world : World) (here : CheckWorld) (store : StateStore) :
    RunCalls (String × String) := do
  let stdoutPath ← createFile .log (store.captureAllocation world.process "stdout")
    here.stdoutFaults allocationAttempts
  let stderrPath ← (createFile .log (store.captureAllocation world.process "stderr")
    here.stderrFaults allocationAttempts).onFailure (discardFile here.removeStdout stdoutPath)
  return (stdoutPath, stderrPath)

def supervisedExecution (world : World) (here : CheckWorld) (store : StateStore)
    (check : CheckDefinition) (maxLogBytes : UInt64) (startedUnixMs : UInt64)
    (paths : String × String) : RunCalls CheckExecution := do
  let (forced, status, stdout, stderr, budget) ←
    Calls.perform (superviseChild here check maxLogBytes paths)
  let stdoutReference ← persistCapture store here.stdoutBlob stdout
  let stderrReference ← persistCapture store here.stderrBlob stderr
  let completedUnixMs ← Calls.perform (unixTimeMs world)
  let durationMs ← Calls.perform (elapsedMs world)
  return {
    check
    startedUnixMs
    completedUnixMs
    durationMs
    outcome := supervisedOutcome maxLogBytes forced status budget
    exitCode := status.code
    stdout := some stdoutReference
    stderr := some stderrReference
    stdoutSummary := tailSummary stdout
    stderrSummary := tailSummary stderr
    diagnosticSummariesTruncated := stdout.truncated || stderr.truncated }

def executeCheck (world : World) (here : CheckWorld) (store : StateStore)
    (check : CheckDefinition) (maxLogBytes : UInt64) : RunCalls CheckExecution := do
  let startedUnixMs ← Calls.perform (unixTimeMs world)
  let workingDirectory ← Calls.lift
    (resolveWorkingDirectory here world.after.root check.command.workingDirectory)
  let paths ← createCaptureFiles world here store
  match here.spawn with
  | some error => Calls.perform (spawnFailedExecution world here check startedUnixMs paths error)
  | none => do
      Calls.perform (spawnChild world here check workingDirectory paths)
      supervisedExecution world here store check maxLogBytes startedUnixMs paths

def skipOrExecute (world : World) (store : StateStore) (invocation : Invocation) (position : Nat)
    (stop : Bool) (check : CheckDefinition) : RunCalls CheckExecution :=
  if stop then Calls.perform (skippedExecution world check)
  else executeCheck world (world.check position) store check invocation.limits.maxLogBytesPerCheck

def runCheck (world : World) (store : StateStore) (invocation : Invocation) (position : Nat)
    (stop : Bool) (check : CheckDefinition) : RunCalls CheckExecution := do
  Calls.perform (onProgress world .checkStarted (some check.id) none none)
  let execution ← skipOrExecute world store invocation position stop check
  Calls.perform
    (onProgress world .checkFinished (some execution.check.id) (some execution.outcome) none)
  return execution

def runLoop (world : World) (store : StateStore) (invocation : Invocation) :
    Nat → Bool → List CheckDefinition → RunCalls (List CheckExecution)
  | _, _, [] => return []
  | position, stop, check :: rest => do
      let execution ← runCheck world store invocation position stop check
      let executions ← runLoop world store invocation (position + 1)
        (invocation.failFast && execution.outcome != .passed) rest
      return execution :: executions

def collectEvidence (world : World) (store : StateStore) (discovery : DiscoveryReport)
    (invocation : Invocation) : RunCalls ReceiptPayload := do
  let startedUnixMs ← Calls.perform (unixTimeMs world)
  let executions ← runLoop world store invocation 0 false (selectedChecks discovery)
  let sourceAfter ← Calls.lift (identifySource world.after)
  let cancelled ← Calls.perform (isCancelled world)
  let completedUnixMs ← Calls.perform (unixTimeMs world)
  let durationMs ← Calls.perform (elapsedMs world)
  return assemblePayload world discovery invocation executions sourceAfter cancelled
    startedUnixMs completedUnixMs durationMs

/-! The command -/

variable [JsonDiagnostics]

omit [Sha2] in
/-- What is under the identifier of the receipt already. -/
def adoptReceipt (path : String) (receipt : Receipt) : RunCalls String := do
  let existing ← Among.inspect fun disk => readReceiptFile disk path
  if existing.canonicalDigest = receipt.canonicalDigest then return path
  else Calls.lift (.error (TaskError.receipt ("receipt id collision at " ++ path)))

omit [Sha2] in
def writeReceipt (process : Nat) (faults : PublishFaults) (store : StateStore)
    (receipt : Receipt) : RunCalls String := do
  let path ← Calls.lift (store.receiptPath receipt.receiptId)
  if (toVecPretty receipt).length + 1 > maxReceiptBytes then
    Calls.lift (.error
      (TaskError.receipt "receipt exceeds the 4 MiB persistence safety bound"))
  else do
    let present ← pathExists faults.lookup path
    if present then adoptReceipt path receipt
    else do
      writeJsonAtomic process faults path (toVecPretty receipt)
      return path

def runChecks (world : World) (store : StateStore) (discovery : DiscoveryReport)
    (invocation : Invocation) : RunCalls Receipt := do
  let payload ← collectEvidence world store discovery invocation
  let receipt := buildReceipt payload
  let _ ← writeReceipt world.process world.publish store receipt
  Calls.perform (onProgress world .receiptStored none none (some receipt.receiptId))
  return receipt

def attest [Packages] (world : CommandWorld) (arguments : RunArguments) :
    RunCalls (StateStore × Receipt) := do
  preflightReceiptOut world arguments.receiptOut
  let (git, discovery) ← Calls.lift (discoverRun world arguments)
  let store ← createStore world (stateRoot git arguments)
  Calls.lift (installCancellationHandler world.handler)
  let receipt ← runChecks (world.running git) store discovery arguments.invocation
  return (store, receipt)

omit [JsonDiagnostics] in
def publishReceipt (world : CommandWorld) (store : StateStore) (receipt : Receipt) :
    Option String → RunCalls Unit
  | none => return ()
  | some path =>
      (writeJsonAtomic world.run.process world.publish path (toVecPretty receipt)).handle
        (publicationFailure store receipt path)

/-- The run command: its exit code, unless it fails. -/
def run [Packages] (world : CommandWorld) (arguments : RunArguments) : RunCalls UInt8 := do
  let (store, receipt) ← attest world arguments
  publishReceipt world store receipt arguments.receiptOut
  Calls.lift (emitReceipt arguments.format world.output)
  return if receipt.payload.outcome = .passed then 0 else 1

end Run

end Shared

end TaskAttest
