import TaskAttest.Commands
import TaskAttest.Output

/-! The program: its command line, what each command does, and how the process ends. -/

set_option autoImplicit false

namespace TaskAttest

open Json

/-! The contract the program states about itself -/

inductive SchemaDocument where
  | brief
  | discovery
  | receipt
  | progress
  | verification
  | error
  | receiptRecovery
deriving DecidableEq

def documentNames : List String :=
  ["brief", "discovery", "receipt", "progress", "verification", "error", "receipt-recovery"]

def briefCommands : Members :=
  [("schema", .object [
      ("purpose", .string "emit brief capability metadata or a full JSON Schema"),
      ("documents", .array (documentNames.map Value.string))]),
    ("discover", .object [
      ("purpose", .string "read repository evidence and explain selected or omitted checks"),
      ("mutates_workspace", .bool false)]),
    ("run", .object [
      ("purpose",
        .string "execute selected checks without a shell and persist evidence by digest"),
      ("defaults", .object [
        ("max_runtime_ms_per_check", .number 900000),
        ("max_log_bytes_per_check", .number 67108864),
        ("environment", .string "allowlist"),
        ("network_sandbox", .bool false)])]),
    ("receipt_show", .object [
      ("purpose", .string "load a stored receipt by id or path"),
      ("mutates_workspace", .bool false)]),
    ("verify", .object [
      ("purpose",
        .string "verify canonical receipt integrity and every referenced local log blob"),
      ("reruns_checks", .bool false)])]

def briefExitCodes : Members :=
  [("0", .string "requested operation succeeded; run receipts have passed outcome"),
    ("1", .string "checks failed, verification was incomplete, or a receipt did not verify"),
    ("2", .string "command-line usage error"),
    ("3", .string "Git discovery or configuration error"),
    ("4", .string "execution or persistence error"),
    ("5", .string "receipt parsing or integrity error"),
    ("6", .string "filesystem I/O error"),
    ("7", .string ("checks completed and the durable receipt exists, but standalone receipt " ++
      "publication failed; do not retry run"))]

def briefDocumentVersions : Members :=
  [("discovery", .string discoverySchemaVersion),
    ("receipt", .string receiptSchemaVersion),
    ("progress", .string progressSchemaVersion),
    ("verification", .string verificationSchemaVersion),
    ("error", .string errorSchemaVersion),
    ("receipt_recovery", .string receiptRecoverySchemaVersion)]

def briefSafety : Members :=
  [("shell_interpolation", .bool false),
    ("default_upload", .bool false),
    ("full_logs", .string "content-addressed local blobs marked potentially_sensitive"),
    ("environment_values_recorded", .bool false),
    ("standalone_receipt_publication",
      .string "preflighted_no_clobber_with_no_retry_recovery"),
    ("claim", .string "evidence captured, not correctness proven")]

/-- An untyped value, whose members are ordered by key. -/
def briefSchema : Value :=
  Value.normalize (.object [
    ("schema_version", .string "taskattest.brief.v1"),
    ("taskattest_version", .string version),
    ("commands", .object briefCommands),
    ("exit_codes", .object briefExitCodes),
    ("document_versions", .object briefDocumentVersions),
    ("safety", .object briefSafety)])

/-- All documents but the first are generated from the types of the data model. -/
def documentSchema (generated : SchemaDocument → Value) : SchemaDocument → Value
  | .brief => briefSchema
  | document => generated document

/-! The command line -/

/-- The options of a run, in the ranges the command line accepts. -/
structure RunOptions where
  changed : Bool
  check : List String
  failFast : Bool
  maxRuntimeMsPerCheck : UInt64
  maxLogBytesPerCheck : UInt64
  receiptOut : Option String
  runtime_range : 1 ≤ maxRuntimeMsPerCheck ∧ maxRuntimeMsPerCheck ≤ 86400000
  logBytes_range : 1 ≤ maxLogBytesPerCheck ∧ maxLogBytesPerCheck ≤ 1073741824
  conflicts : changed = true → check = []

/-- `Commands`, and the command of `ReceiptCommands`. -/
inductive Command where
  | schema (document : SchemaDocument)
  | discover (changed : Bool) (check : List String)
  | run (options : RunOptions)
  | receiptShow (receipt : String)
  | verify (receipt : String)
  | completions (shell : String)

structure Cli where
  workspace : String
  stateDir : Option String
  format : OutputFormat
  quiet : Bool
  command : Command

/-- What the process meets besides: the bytes a failing write of a document leaves, and
what other packages generate. -/
structure ProcessWorld [Sha2] extends CommandWorld where
  torn : List UInt8
  schemas : SchemaDocument → Value
  completions : String → List UInt8

/-- How a command ended: what it wrote, the events it reported and the disk it left. -/
structure CommandEnd where
  result : Except TaskError UInt8
  stdout : List UInt8
  events : List ProgressEvent
  disk : Disk

def RunOptions.arguments (options : RunOptions) (cli : Cli) : RunArguments where
  workspace := cli.workspace
  stateDir := cli.stateDir
  format := cli.format
  changed := options.changed
  check := options.check
  failFast := options.failFast
  maxRuntimeMsPerCheck := options.maxRuntimeMsPerCheck
  maxLogBytesPerCheck := options.maxLogBytesPerCheck
  receiptOut := options.receiptOut

/-- `StateStore::open_existing` -/
def StateStore.openExisting (canonicalize : String → Except IoError String) (disk : Disk)
    (path : String) : Except TaskError StateStore := do
  let root ← orElseFail (TaskError.io "resolve state store" path) (canonicalize path)
  let store : StateStore := ⟨root⟩
  if !disk.isDir store.receiptsDirectory || !disk.isDir store.blobsDirectory then
    throw (TaskError.receipt ("not a TaskAttest state store: " ++ root))
  return store

namespace Cli

section Commands

variable [Sha2]

/-- The store of the workspace, which must be there. -/
def openStore (cli : Cli) (world : ProcessWorld) (disk : Disk) : Except TaskError StateStore := do
  let git ← GitContext.discover world.before world.canonicalize cli.workspace
  StateStore.openExisting world.canonicalize disk
    (cli.stateDir.getD (joinPath git.gitDir "taskattest"))

variable [JsonDiagnostics]

def loadReceipt (cli : Cli) (world : ProcessWorld) (disk : Disk) (value : String) :
    Except TaskError (Receipt × String) :=
  if looksLikePath value then do
    let receipt ← readReceiptFile disk value
    return (receipt, value)
  else do
    let store ← cli.openStore world disk
    store.readReceipt disk value

variable [Packages]

/-- A command that only reads fails, or it asks for an exit code and writes something. -/
def readOnly (disk : Disk)
    (computed : Except TaskError (UInt8 × List UInt8 × Except TaskError Unit)) : CommandEnd :=
  match computed with
  | .error error => { result := .error error, stdout := [], events := [], disk }
  | .ok (code, stdout, written) =>
      { result := written.map fun () => code, stdout, events := [], disk }

omit [JsonDiagnostics] in
def discoverCommand (cli : Cli) (world : ProcessWorld) (changed : Bool) (check : List String) :
    Except TaskError DiscoveryReport := do
  let git ← GitContext.discover world.before world.canonicalize cli.workspace
  let source ← identifySource { world.before with root := git.root }
  discoverChecks { world.workspace with root := git.root } source changed check

/-- The run command, from a process that has just started. -/
def runCommand (cli : Cli) (world : ProcessWorld) (options : RunOptions) (disk : Disk) :
    CommandEnd :=
  let emitted receipt := Console.emitReceipt receipt cli.format world.output world.torn
  let reported (state : RunState) := state.events.map Emitted.event
  match (attest world.toCommandWorld (options.arguments cli)).alone (.start disk 0 0 false) with
  | .error error after =>
      { result := .error error, stdout := [], events := reported after, disk := after.disk }
  | .ok (store, receipt) attested =>
      let passed : UInt8 := if receipt.payload.outcome = .passed then 0 else 1
      match options.receiptOut with
      | none =>
          { result := (emitted receipt).2.map fun () => passed
            stdout := (emitted receipt).1
            events := reported attested
            disk := attested.disk }
      | some path =>
          match (Among.writeJsonAtomic world.run.process world.publish path
              (toVecPretty receipt)).alone attested with
          | .ok () after =>
              { result := (emitted receipt).2.map fun () => passed
                stdout := (emitted receipt).1
                events := reported after
                disk := after.disk }
          | .error error after =>
              match store.receiptPath receipt.receiptId with
              | .error error =>
                  { result := .error error, stdout := [], events := reported after
                    disk := after.disk }
              | .ok storedReceipt =>
                  { result := .error (TaskError.postExecutionReceiptPublication
                      receipt.receiptId storedReceipt path error)
                    stdout := (emitted receipt).1
                    events := reported after
                    disk := after.disk }

/-- The generator of completions, like a print macro, would panic when a write fails. -/
def run (cli : Cli) (world : ProcessWorld) (disk : Disk) : CommandEnd :=
  match cli.command with
  | .schema document =>
      readOnly disk (.ok (0, Console.emitJson (documentSchema world.schemas document) cli.format
        world.output world.torn))
  | .completions shell => readOnly disk (.ok (0, world.completions shell, .ok ()))
  | .discover changed check =>
      readOnly disk ((cli.discoverCommand world changed check).map fun report =>
        (0, Console.emitDiscovery report cli.format world.output world.torn))
  | .run options => cli.runCommand world options disk
  | .receiptShow receipt =>
      readOnly disk ((cli.loadReceipt world disk receipt).map fun (receipt, _) =>
        (0, Console.emitReceipt receipt cli.format world.output world.torn))
  | .verify receipt =>
      readOnly disk ((do
        let store ← cli.openStore world disk
        verifyCommand store disk receipt).map fun (report, code) =>
          (code, Console.emitVerification report cli.format world.output world.torn))

end Commands

end Cli

/-- How the process ends. -/
structure Finished where
  code : UInt8
  stdout : List UInt8
  stderr : List UInt8
  disk : Disk

/-- What a command that ended leaves on the standard error. -/
def CommandEnd.stderr (ended : CommandEnd) (cli : Cli) : List UInt8 :=
  ended.events.flatMap (Console.emitProgress cli.format cli.quiet) ++
    match ended.result with
    | .ok _ => []
    | .error error => Console.emitError error cli.format

def main [Sha2] [JsonDiagnostics] [Packages] (world : ProcessWorld) (cli : Cli) (disk : Disk) :
    Finished :=
  let ended := cli.run world disk
  { code := exitCode ended.result
    stdout := ended.stdout
    stderr := ended.stderr cli
    disk := ended.disk }

end TaskAttest
