import TaskAttest.Library.Interleaving
import TaskAttest.Execute

/-! The run command among other parties, who may act between any two of its calls. A
call is one operation on the disk, on a process or on the clock. -/

set_option autoImplicit false

namespace TaskAttest

open Interleaving

abbrev RunCalls := Calls TaskError RunState

namespace Among

/-! Running the checks -/

section Checks

variable [Sha2]

def supervisedExecution (world : World) (here : CheckWorld) (store : StateStore)
    (check : CheckDefinition) (maxLogBytes : UInt64) (startedUnixMs : UInt64)
    (paths : String × String) : RunCalls CheckExecution := do
  let (forced, status, stdout, stderr, budget) ←
    Calls.perform (superviseChild here check maxLogBytes paths)
  let stdoutReference ← Calls.perform (persistCapture store here.stdoutBlob stdout)
  let stderrReference ← Calls.perform (persistCapture store here.stderrBlob stderr)
  let completedUnixMs ← Calls.perform (unixTimeMs world)
  let durationMs ← Calls.perform (elapsedMs world)
  return {
    check
    startedUnixMs
    completedUnixMs
    durationMs
    outcome := supervisedOutcome maxLogBytes forced status budget
    exitCode := status.code
    stdout := some stdoutReference
    stderr := some stderrReference
    stdoutSummary := tailSummary stdout
    stderrSummary := tailSummary stderr
    diagnosticSummariesTruncated := stdout.truncated || stderr.truncated }

def executeCheck (world : World) (here : CheckWorld) (store : StateStore)
    (check : CheckDefinition) (maxLogBytes : UInt64) : RunCalls CheckExecution := do
  let startedUnixMs ← Calls.perform (unixTimeMs world)
  let workingDirectory ← Calls.lift
    (resolveWorkingDirectory here world.after.root check.command.workingDirectory)
  let paths ← Calls.perform (createCaptureFiles world here store)
  match here.spawn with
  | some error => Calls.perform (spawnFailedExecution world here check startedUnixMs paths error)
  | none => do
      Calls.perform (spawnChild world here check workingDirectory paths)
      supervisedExecution world here store check maxLogBytes startedUnixMs paths

def skipOrExecute (world : World) (store : StateStore) (invocation : Invocation) (position : Nat)
    (stop : Bool) (check : CheckDefinition) : RunCalls CheckExecution :=
  if stop then Calls.perform (skippedExecution world check)
  else executeCheck world (world.check position) store check invocation.limits.maxLogBytesPerCheck

def runCheck (world : World) (store : StateStore) (invocation : Invocation) (position : Nat)
    (stop : Bool) (check : CheckDefinition) : RunCalls CheckExecution := do
  Calls.perform (onProgress world .checkStarted (some check.id) none none)
  let execution ← skipOrExecute world store invocation position stop check
  Calls.perform
    (onProgress world .checkFinished (some execution.check.id) (some execution.outcome) none)
  return execution

def runLoop (world : World) (store : StateStore) (invocation : Invocation) :
    Nat → Bool → List CheckDefinition → RunCalls (List CheckExecution)
  | _, _, [] => return []
  | position, stop, check :: rest => do
      let execution ← runCheck world store invocation position stop check
      let executions ← runLoop world store invocation (position + 1)
        (invocation.failFast && execution.outcome != .passed) rest
      return execution :: executions

def collectEvidence (world : World) (store : StateStore) (discovery : DiscoveryReport)
    (invocation : Invocation) : RunCalls ReceiptPayload := do
  let startedUnixMs ← Calls.perform (unixTimeMs world)
  let executions ← runLoop world store invocation 0 false (selectedChecks discovery)
  let sourceAfter ← Calls.lift (identifySource world.after)
  let cancelled ← Calls.perform (isCancelled world)
  let completedUnixMs ← Calls.perform (unixTimeMs world)
  let durationMs ← Calls.perform (elapsedMs world)
  return assemblePayload world discovery invocation executions sourceAfter cancelled
    startedUnixMs completedUnixMs durationMs

def runChecks [JsonDiagnostics] (world : World) (store : StateStore) (discovery : DiscoveryReport)
    (invocation : Invocation) : RunCalls Receipt := do
  let payload ← collectEvidence world store discovery invocation
  let receipt := buildReceipt payload
  let _ ← Calls.perform (storeReceipt world.process world.publish store receipt)
  Calls.perform (onProgress world .receiptStored none none (some receipt.receiptId))
  return receipt

end Checks

/-! Publishing a document -/

/-- A system call that only looks at the disk. -/
def readDisk {α : Type} (look : Disk → Except TaskError α) : RunM α := fun state =>
  ofExcept (look state.disk) state

def inspect {α : Type} (look : Disk → Except TaskError α) : RunCalls α :=
  Calls.perform (readDisk look)

/-- A system call that changes the disk when it succeeds. -/
def updateDisk (update : Disk → Except TaskError Disk) : RunM Unit := fun state =>
  match update state.disk with
  | .ok disk => .ok () { state with disk }
  | .error error => .error error state

def change (update : Disk → Except TaskError Disk) : RunCalls Unit :=
  Calls.perform (updateDisk update)

/-- `create_dir_all` of a directory, which the error may report as another path. -/
def createDirectory (fault : Option IoError) (action reported directory : String) :
    RunCalls Unit :=
  change fun disk => orElseFail (TaskError.io action reported)
    (attempt fault (disk.createDirAll ((components directory).length + 1) directory))

/-- The target must not be there. -/
def inspectTarget (fault : Option IoError) (path : String) (disk : Disk) :
    Except TaskError Unit :=
  match attempt fault (disk.metadata path) with
  | .ok _ => .error (TaskError.new "output_already_exists"
      ("receipt output already exists: " ++ path) 4)
  | .error error =>
      if error.kind = .notFound then .ok ()
      else .error (TaskError.io "inspect receipt output" path error)

def preflightJsonOutput (faults : PublishFaults) (path : String) : RunCalls Unit := do
  let (parent, _) ← Calls.lift (jsonOutputParent path)
  createDirectory faults.parent "create output directory" parent parent
  let metadata ← inspect fun disk =>
    orElseFail (TaskError.io "inspect output directory" parent)
      (attempt faults.inspectParent (disk.metadata parent))
  if !metadata.isDir then
    Calls.lift (.error (TaskError.new "output_parent_invalid"
      ("output parent is not a directory: " ++ parent) 4))
  else inspect (inspectTarget faults.inspectTarget path)

def createTemporary (process : Nat) (faults : PublishFaults) (parent name : String) :
    RunM String := fun state =>
  match (jsonAllocation process parent name).run faults.allocate allocationAttempts
      state.jsonSequence state.disk with
  | (.ok path, jsonSequence, disk) => .ok path { state with jsonSequence, disk }
  | (.error error, jsonSequence, disk) => .error error { state with jsonSequence, disk }

/-- The document, unless the environment fails the write after a part of it. -/
def writeDocument (faults : PublishFaults) (document : List UInt8) (temporary : String) :
    RunM Unit := fun state =>
  match faults.serialize with
  | some (torn, text) =>
      .error (TaskError.json text)
        { state with disk := state.disk.modify temporary (Entry.append torn) }
  | none => .ok () { state with disk := state.disk.modify temporary (Entry.append document) }

def fillAndLink (faults : PublishFaults) (document : List UInt8) (temporary path : String) :
    RunCalls Unit := do
  Calls.perform (writeDocument faults document temporary)
  change fun disk => orElseFail (TaskError.io "finish temporary JSON file" temporary)
    (attempt faults.newline (.ok (disk.modify temporary (Entry.append [10]))))
  change fun disk => orElseFail (TaskError.io "sync temporary JSON file" temporary)
    (attempt faults.sync (.ok disk))
  change fun disk => orElseFail (TaskError.io "publish JSON file without overwriting" path)
    (attempt faults.link (disk.hardLink temporary path))

def writeJsonAtomic (process : Nat) (faults : PublishFaults) (path : String)
    (document : List UInt8) : RunCalls Unit := do
  preflightJsonOutput faults path
  let (parent, name) ← Calls.lift (jsonOutputParent path)
  let temporary ← Calls.perform (createTemporary process faults parent name)
  (fillAndLink faults document temporary path).onFailure (discardFile faults.remove temporary)
  Calls.perform (discardFile faults.remove temporary)

end Among

/-! The command -/

structure GitContext where
  root : String
  gitDir : String
deriving DecidableEq

inductive OutputFormat where
  | human
  | json
  | ndjson
deriving DecidableEq

structure RunArguments where
  workspace : String
  stateDir : Option String
  format : OutputFormat
  changed : Bool
  check : List String
  failFast : Bool
  maxRuntimeMsPerCheck : UInt64
  maxLogBytesPerCheck : UInt64
  receiptOut : Option String

/-- Where the environment fails the output of a document. -/
structure OutputFaults where
  serialize : Option String
  newline : Option IoError

/-- What the command meets before, during and after the run. -/
structure CommandWorld [Sha2] where
  before : Repository
  canonicalize : String → Except IoError String
  workspace : Workspace
  preflight : PublishFaults
  receiptsFault : Option IoError
  blobsFault : Option IoError
  temporaryFault : Option IoError
  handler : Option String
  run : World
  publish : PublishFaults
  output : OutputFaults

namespace GitContext

/-- `git_text_at` -/
def textAt (repository : Repository) (directory : String) (arguments : List String) :
    Except TaskError String := do
  let bytes ← { repository with root := directory }.bytes arguments
  match fromUtf8 bytes with
  | some text => return text
  | none => throw (TaskError.git "Git emitted non-UTF-8 text")

def discover (repository : Repository) (canonicalize : String → Except IoError String)
    (start : String) : Except TaskError GitContext := do
  let rootText ← textAt repository start ["rev-parse", "--show-toplevel"]
  let root ← orElseFail (TaskError.io "resolve Git workspace" start)
    (canonicalize (String.ofList (trim rootText.toList)))
  let gitDirText ← textAt repository root ["rev-parse", "--absolute-git-dir"]
  let gitDir := String.ofList (trim gitDirText.toList)
  if gitDir.toList.head? ≠ some '/' then
    throw (TaskError.git
      ("Git returned a non-absolute metadata directory: " ++ gitDir))
  return { root, gitDir }

end GitContext

/-- The directory of the store, as it is given. -/
def stateRoot (git : GitContext) (arguments : RunArguments) : String :=
  arguments.stateDir.getD (joinPath git.gitDir "taskattest")

/-- How the writing of the receipt ends. The texts for people go through print macros, which
would panic when a write fails. -/
def emitReceipt (format : OutputFormat) (faults : OutputFaults) : Except TaskError Unit :=
  match format with
  | .human => .ok ()
  | .json | .ndjson =>
      match faults.serialize, faults.newline with
      | some text, _ => .error (TaskError.json text)
      | none, some error => .error (TaskError.new "output_failed" error.text 6)
      | none, none => .ok ()

section Command

variable [Sha2]

/-- `StateStore::create` -/
def createStore (world : CommandWorld) (root : String) : RunCalls StateStore := do
  let given : StateStore := ⟨root⟩
  Among.createDirectory world.receiptsFault "create receipt store" root given.receiptsDirectory
  Among.createDirectory world.blobsFault "create blob store" root given.blobsDirectory
  Among.createDirectory world.temporaryFault "create temporary store" root
    given.temporaryDirectory
  let root ← Calls.lift
    (orElseFail (TaskError.io "resolve state store" root) (world.canonicalize root))
  return { root }

def installCancellationHandler (fault : Option String) : Except TaskError Unit :=
  match fault with
  | some error => .error (TaskError.execution ("install Ctrl-C handler: " ++ error))
  | none => .ok ()

def RunArguments.invocation (arguments : RunArguments) : Invocation where
  changedOnly := arguments.changed
  requestedChecks := arguments.check
  failFast := arguments.failFast
  limits := {
    maxRuntimeMsPerCheck := arguments.maxRuntimeMsPerCheck
    maxLogBytesPerCheck := arguments.maxLogBytesPerCheck }

/-- What the run itself meets: the workspace at the root that git reports. -/
def CommandWorld.running (world : CommandWorld) (git : GitContext) : World :=
  { world.run with after := { world.run.after with root := git.root } }

def preflightReceiptOut (world : CommandWorld) : Option String → RunCalls Unit
  | none => return ()
  | some path => Among.preflightJsonOutput world.preflight path

def discoverRun [Packages] (world : CommandWorld) (arguments : RunArguments) :
    Except TaskError (GitContext × DiscoveryReport) := do
  let git ← GitContext.discover world.before world.canonicalize arguments.workspace
  let source ← identifySource { world.before with root := git.root }
  let discovery ← discoverChecks { world.workspace with root := git.root } source
    arguments.changed arguments.check
  return (git, discovery)

variable [JsonDiagnostics]

/-- Everything up to the receipt in the store. -/
def attest [Packages] (world : CommandWorld) (arguments : RunArguments) :
    RunCalls (StateStore × Receipt) := do
  preflightReceiptOut world arguments.receiptOut
  let (git, discovery) ← Calls.lift (discoverRun world arguments)
  let store ← createStore world (stateRoot git arguments)
  Calls.lift (installCancellationHandler world.handler)
  let receipt ← Among.runChecks (world.running git) store discovery arguments.invocation
  return (store, receipt)

omit [JsonDiagnostics] in
/-- What is reported when the copy of a stored receipt could not be published. -/
def publicationFailure (store : StateStore) (receipt : Receipt) (path : String)
    (error : TaskError) : Except TaskError Unit := do
  let storedReceipt ← store.receiptPath receipt.receiptId
  throw (TaskError.postExecutionReceiptPublication receipt.receiptId storedReceipt path error)

omit [JsonDiagnostics] in
def publishReceipt (world : CommandWorld) (store : StateStore) (receipt : Receipt) :
    Option String → RunCalls Unit
  | none => return ()
  | some path =>
      (Among.writeJsonAtomic world.run.process world.publish path (toVecPretty receipt)).handle
        (publicationFailure store receipt path)

/-- The run command: its exit code, unless it fails. -/
def run [Packages] (world : CommandWorld) (arguments : RunArguments) : RunCalls UInt8 := do
  let (store, receipt) ← attest world arguments
  publishReceipt world store receipt arguments.receiptOut
  Calls.lift (emitReceipt arguments.format world.output)
  return if receipt.payload.outcome = .passed then 0 else 1

/-- The exit code of the process. -/
def exitCode (result : Except TaskError UInt8) : UInt8 :=
  match result with
  | .ok code => code
  | .error error => error.exitCode

end Command

end TaskAttest
