import TaskAttest.CommandLine
import TaskAttest.DurabilityProperties
import TaskAttest.Library.Json.Size

/-! How the process ends: what its exit code says, and what the standard output of a run
is good for in later processes. -/

set_option autoImplicit false

namespace TaskAttest

open Interleaving Json Program

/-! How the run command ends -/

section Ends

variable [Sha2] [Packages] {arguments : RunArguments}

/-- The same run without a copy of its receipt. -/
def RunArguments.withoutCopy (arguments : RunArguments) : RunArguments :=
  { arguments with receiptOut := none }

private theorem withoutCopy_apart (world : CommandWorld) (arguments : RunArguments) :
    world.Apart arguments.withoutCopy where
  directories := fun _ _ _ requested => by cases requested
  names := fun _ _ requested => by cases requested

omit [Packages] in
/-- The preflight makes directories only, and its failures are ordinary. -/
theorem preflightReceiptOut_ends (world : CommandWorld) (receiptOut : Option String)
    (before : RunState) :
    (∃ error after, (preflightReceiptOut world receiptOut).alone before = .error error after ∧
      Ordinary error) ∨
    ∃ after, (preflightReceiptOut world receiptOut).alone before = .ok () after ∧
      before.disk.NoNewFiles after.disk := by
  cases receiptOut with
  | none => exact .inr ⟨before, rfl, fun _ file => file⟩
  | some path =>
      obtain ⟨steps, executed⟩ := @execution_alone _ _ _ (fun _ _ => False)
        (Among.preflightJsonOutput world.preflight path) before
      obtain ⟨prepares, _, fails⟩ := preflightJsonOutput_guarantee trivial executed
      let fact : RunState → Prop := fun state => before.disk.NoNewFiles state.disk
      have files : fact _ := execution_stable executed prepares
        (fun _ _ never => never.elim)
        (fun first second step kept other file => by
          obtain ⟨_, _, _, made⟩ := step
          exact kept other (made.files other file))
        (fun _ file => file)
      rw [show preflightReceiptOut world (some path) =
        Among.preflightJsonOutput world.preflight path from rfl]
      cases ran : (Among.preflightJsonOutput world.preflight path).alone before with
      | ok _ after =>
          simp only [outcome, ran] at files
          exact .inr ⟨after, rfl, files⟩
      | error error after =>
          simp only [outcome, ran] at fails
          exact .inl ⟨error, after, rfl, fails error rfl⟩

variable [JsonDiagnostics] {world : CommandWorld}

private theorem attest_ends (before : RunState) :
    (∃ error after, (attest world arguments).alone before = .error error after ∧
      Ordinary error) ∨
    ∃ store receipt after, (attest world arguments).alone before = .ok (store, receipt) after ∧
      world.Attested arguments before store receipt after := by
  have split : attest world arguments = preflightReceiptOut world arguments.receiptOut >>=
      fun _ => attest world arguments.withoutCopy := rfl
  rw [split, Calls.alone_bind]
  rcases preflightReceiptOut_ends world arguments.receiptOut before with
    ⟨error, after, failed, ordinary⟩ | ⟨checked, passed, files⟩
  · exact .inl ⟨error, after, bind_of_error failed, ordinary⟩
  · rw [bind_of_ok passed]
    obtain ⟨steps, executed⟩ := @execution_alone _ _ _
      (CreatesOutput (world.Temporary arguments.withoutCopy) arguments.withoutCopy.receiptOut)
      (attest world arguments.withoutCopy) checked
    obtain ⟨_, returned, fails⟩ := attest_guarantee (withoutCopy_apart world arguments) checked
      (fun _ _ vacant => vacant) executed
    cases ran : (attest world arguments.withoutCopy).alone checked with
    | error error after =>
        simp only [outcome, ran] at fails
        exact .inl ⟨error, after, rfl, fails error rfl⟩
    | ok value after =>
        obtain ⟨store, receipt⟩ := value
        simp only [outcome, ran] at returned
        have attested := returned _ rfl
        refine .inr ⟨store, receipt, after, rfl, attested.completed, attested.fits, ?_⟩
        obtain ⟨path, named, stored⟩ := attested.stored
        refine ⟨path, named, fun absent => stored ?_⟩
        by_contra present
        rw [Bool.not_eq_false] at present
        rw [files path present] at absent
        cases absent

omit [JsonDiagnostics] in
/-- A copy that could not be published makes the command exit with 7. -/
theorem publishReceipt_ends {store : StateStore} {receipt : Receipt} {start between : RunState}
    (attested : world.Attested arguments start store receipt between) :
    (∃ error after, (publishReceipt world store receipt arguments.receiptOut).alone between =
        .error error after ∧ error.exitCode = 7 ∧
      world.Attested arguments start store receipt after) ∨
    ∃ after, (publishReceipt world store receipt arguments.receiptOut).alone between =
        .ok () after ∧ world.Attested arguments start store receipt after := by
  obtain ⟨steps, executed⟩ := @execution_alone _ _ _
    (CreatesOutput (world.Temporary arguments) arguments.receiptOut)
    (publishReceipt world store receipt arguments.receiptOut) between
  have copies := publishReceipt_copies attested executed
  cases ran : (publishReceipt world store receipt arguments.receiptOut).alone between with
  | ok _ after =>
      simp only [outcome, ran] at copies
      exact .inr ⟨after, rfl, copies.attested⟩
  | error error after =>
      simp only [outcome, ran] at copies
      exact .inl ⟨error, after, rfl, (copies.failed error rfl).1, copies.attested⟩

/-- How a run command ended, and what it left. -/
inductive RunEnds (world : ProcessWorld) (cli : Cli) (options : RunOptions) (disk : Disk)
    (ended : CommandEnd) : Prop where
  | refused {error : TaskError} {after : RunState}
      (failed : (attest world.toCommandWorld (options.arguments cli)).alone
        (.start disk 0 0 false) = .error error after)
      (ordinary : Ordinary error)
      (left : ended = {
        result := .error error
        stdout := []
        events := after.events.map Emitted.event
        disk := after.disk })
  | unpublished {store : StateStore} {receipt : Receipt} {between after : RunState}
      {error : TaskError}
      (ran : (attest world.toCommandWorld (options.arguments cli)).alone
        (.start disk 0 0 false) = .ok (store, receipt) between)
      (failed : (publishReceipt world.toCommandWorld store receipt options.receiptOut).alone
        between = .error error after)
      (code : error.exitCode = 7)
      (attested : world.Attested (options.arguments cli) (.start disk 0 0 false) store receipt
        after)
      (left : ended = {
        result := .error error
        stdout := (Console.emitReceipt receipt cli.format world.output world.torn).1
        events := after.events.map Emitted.event
        disk := after.disk })
  | answered {store : StateStore} {receipt : Receipt} {between after : RunState}
      (ran : (attest world.toCommandWorld (options.arguments cli)).alone
        (.start disk 0 0 false) = .ok (store, receipt) between)
      (published : (publishReceipt world.toCommandWorld store receipt options.receiptOut).alone
        between = .ok () after)
      (attested : world.Attested (options.arguments cli) (.start disk 0 0 false) store receipt
        after)
      (left : ended = {
        result := (Console.emitReceipt receipt cli.format world.output world.torn).2.map fun () =>
          if receipt.payload.outcome = .passed then 0 else 1
        stdout := (Console.emitReceipt receipt cli.format world.output world.torn).1
        events := after.events.map Emitted.event
        disk := after.disk })

theorem runCommand_ends (world : ProcessWorld) (cli : Cli) (options : RunOptions) (disk : Disk) :
    RunEnds world cli options disk (cli.runCommand world options disk) := by
  rcases @attest_ends _ _ (options.arguments cli) _ world.toCommandWorld
      (.start disk 0 0 false) with
    ⟨error, after, failed, ordinary⟩ | ⟨store, receipt, between, ran, attested⟩
  · refine .refused failed ordinary ?_
    rw [Cli.runCommand, failed]
  · have ends := publishReceipt_ends attested
    rw [show (options.arguments cli).receiptOut = options.receiptOut from rfl] at ends
    rcases ends with ⟨error, after, failed, code, still⟩ | ⟨after, published, still⟩
    · refine .unpublished ran failed code still ?_
      rw [Cli.runCommand, ran]
      cases requested : options.receiptOut with
      | none =>
          rw [requested] at failed
          cases failed
      | some path =>
          rw [requested] at failed
          simp only [publishReceipt, Calls.alone_handle] at failed
          cases copied : (Among.writeJsonAtomic world.run.process world.publish path
              (toVecPretty receipt)).alone between with
          | ok _ later => simp only [copied, reduceCtorEq] at failed
          | error cause later =>
              obtain ⟨stored, named, _⟩ := attested.stored
              simp only [copied, publicationFailure, named] at failed
              cases failed
              simp only [copied, named]
    · refine .answered ran published still ?_
      rw [Cli.runCommand, ran]
      cases requested : options.receiptOut with
      | none =>
          rw [requested] at published
          cases published
          rfl
      | some path =>
          rw [requested] at published
          simp only [publishReceipt, Calls.alone_handle] at published
          cases copied : (Among.writeJsonAtomic world.run.process world.publish path
              (toVecPretty receipt)).alone between with
          | ok _ later =>
              simp only [copied] at published
              cases published
              simp only [copied]
          | error cause later =>
              obtain ⟨stored, named, _⟩ := attested.stored
              simp only [copied, publicationFailure, named] at published
              cases published

end Ends

/-! What the exit code and the standard output say -/

section Printed

variable [Sha2] [JsonDiagnostics] [Packages] {world : ProcessWorld} {cli : Cli}
  {options : RunOptions} {disk : Disk}

private theorem run_run (command : cli.command = .run options) :
    cli.run world disk = cli.runCommand world options disk := by
  rw [Cli.run, command]

omit [Sha2] [JsonDiagnostics] [Packages] in
private theorem Ordinary.not_finished {error : TaskError} (ordinary : Ordinary error) :
    error.exitCode ∉ ([0, 1, 7] : List UInt8) := by
  simp only [Ordinary, List.mem_cons, List.not_mem_nil, or_false] at ordinary
  rcases ordinary with code | code | code | code <;> rw [code] <;> decide

/-- What a run that got to its receipt leaves. -/
theorem runCommand_printed (printed : world.output = ⟨none, none⟩)
    (finished : exitCode (cli.runCommand world options disk).result ∈ ([0, 1, 7] : List UInt8)) :
    ∃ store receipt after,
      world.Attested (options.arguments cli) (.start disk 0 0 false) store receipt after ∧
      (cli.runCommand world options disk).disk = after.disk ∧
      (cli.runCommand world options disk).stdout =
        (Console.emitReceipt receipt cli.format ⟨none, none⟩ []).1 := by
  have same (receipt : Receipt) :
      (Console.emitReceipt receipt cli.format world.output world.torn).1 =
        (Console.emitReceipt receipt cli.format ⟨none, none⟩ []).1 := by
    rw [printed]
    cases cli.format <;> rfl
  cases runCommand_ends world cli options disk with
  | refused failed ordinary left =>
      rw [left] at finished
      exact absurd finished ordinary.not_finished
  | unpublished ran failed code attested left =>
      rw [left]
      exact ⟨_, _, _, attested, rfl, same _⟩
  | answered ran published attested left =>
      rw [left]
      exact ⟨_, _, _, attested, rfl, same _⟩

omit [Sha2] [JsonDiagnostics] [Packages] in
private theorem emitReceipt_written (receipt : Receipt) (format : OutputFormat)
    (faults : OutputFaults) (torn : List UInt8) :
    (Console.emitReceipt receipt format faults torn).2 = emitReceipt format faults := by
  cases format with
  | human => rfl
  | json | ndjson =>
      simp only [Console.emitReceipt, Console.emitDocument, Console.emitJson, emitReceipt]
      cases faults.serialize with
      | some text => rfl
      | none => cases faults.newline <;> rfl

/-- The exit code of the process is that of the run command alone. -/
theorem main_code_run (command : cli.command = .run options) :
    (main world cli disk).code = exitCode (outcome
      (run world.toCommandWorld (options.arguments cli)).alone (.start disk 0 0 false)).1 := by
  have ended : (main world cli disk).code =
      exitCode (cli.runCommand world options disk).result := by
    rw [main, run_run command]
  rw [ended]
  refine congrArg exitCode ?_
  simp only [run, Calls.alone_bind, outcome]
  cases runCommand_ends world cli options disk with
  | refused failed ordinary left => rw [left, bind_of_error failed]
  | @unpublished store receipt between after error ran failed code attested left =>
      have refused : (publishReceipt world.toCommandWorld store receipt
        (options.arguments cli).receiptOut).alone between = .error error after := failed
      rw [left, bind_of_ok ran]
      simp only
      rw [bind_of_error refused]
  | @answered store receipt between after ran published attested left =>
      have copied : (publishReceipt world.toCommandWorld store receipt
        (options.arguments cli).receiptOut).alone between = .ok () after := published
      rw [left, bind_of_ok ran]
      simp only
      rw [bind_of_ok copied, emitReceipt_written]
      simp only [RunOptions.arguments]
      cases emitReceipt cli.format world.output <;> rfl

omit [Packages] in
/-- Opening the store again and asking for a receipt that is still there. -/
theorem loadReceipt_stored {store : StateStore} {receipt : Receipt} {path : String}
    (opened : cli.openStore world disk = .ok store)
    (named : store.receiptPath receipt.receiptId = .ok path) (fits : Fits receipt)
    (found : disk.lookup path = some (.file (receiptFile receipt) none)) :
    cli.loadReceipt world disk receipt.receiptId = .ok (receipt, path) := by
  have valid := (receiptPath_eq_ok_iff.mp named).1
  have read := readReceiptFile_receiptFile fits found
  have loaded : store.readReceipt disk receipt.receiptId = .ok (receipt, path) := by
    rw [readReceipt_of_receiptPath named, read]
    rfl
  rw [Cli.loadReceipt, looksLikePath_of_receiptId valid, opened]
  exact loaded

/-- A receipt that a run printed is printed alike by every later process that opens the
same store, as long as its file stays. -/
theorem receipt_show_after_run (command : cli.command = .run options)
    (printed : world.output = ⟨none, none⟩)
    (finished : (main world cli disk).code ∈ ([0, 1, 7] : List UInt8)) :
    ∃ (store : StateStore) (receipt : Receipt) (path : String),
      world.HasStore (options.arguments cli) store ∧
      store.receiptPath receipt.receiptId = .ok path ∧
      (main world cli disk).stdout =
        (Console.emitReceipt receipt cli.format ⟨none, none⟩ []).1 ∧
      (disk.isFile path = false → ∀ (later : ProcessWorld) (asking : Cli) (found : Disk),
        asking.command = .receiptShow receipt.receiptId → asking.format = cli.format →
        later.output = ⟨none, none⟩ → asking.openStore later found = .ok store →
        found.lookup path = (main world cli disk).disk.lookup path →
        main later asking found =
          { code := 0, stdout := (main world cli disk).stdout, stderr := [], disk := found }) := by
  simp only [main, run_run command] at finished ⊢
  obtain ⟨store, receipt, after, attested, left, stdout⟩ := runCommand_printed printed finished
  obtain ⟨path, named, stored⟩ := attested.stored
  refine ⟨store, receipt, path, attested.hasStore, named, stdout, ?_⟩
  intro absent later asking found asked format healthy opened kept
  rw [left, stored absent] at kept
  have loaded := loadReceipt_stored opened named attested.fits kept
  have written : (Console.emitReceipt receipt asking.format later.output later.torn) =
      ((Console.emitReceipt receipt cli.format ⟨none, none⟩ []).1, .ok ()) := by
    rw [healthy, format]
    cases cli.format <;> rfl
  rw [Cli.run, asked]
  simp only [loaded, Except.map, Cli.readOnly, written, stdout]
  rfl

end Printed

/-! Exit codes -/

section Codes

variable [Sha2]

variable [JsonDiagnostics] [Packages]

/-- The receipt of a run that got as far as this process. -/
def RanTo (world : ProcessWorld) (cli : Cli) (disk : Disk) (options : RunOptions)
    (receipt : Receipt) (left : Disk) : Prop :=
  cli.command = .run options ∧ ∃ store after,
    world.Attested (options.arguments cli) (.start disk 0 0 false) store receipt after ∧
      after.disk = left

/-- The verdict on a receipt that the command line names. -/
def Verified (world : ProcessWorld) (cli : Cli) (disk : Disk) (report : VerificationReport) :
    Prop :=
  ∃ name store receipt, cli.command = .verify name ∧ cli.openStore world disk = .ok store ∧
    loadReceipt store disk name = .ok receipt ∧ verifyReceipt receipt store disk = .ok report

/-- What the exit code says of what happened. -/
inductive Ended (world : ProcessWorld) (cli : Cli) (disk : Disk) (ended : Finished) : Prop where
  | succeeded (code : ended.code = 0)
      (passed : ∀ options, cli.command = .run options → ∃ receipt,
        RanTo world cli disk options receipt ended.disk ∧ receipt.payload.outcome = .passed)
      (valid : ∀ name, cli.command = .verify name → ∃ report,
        Verified world cli disk report ∧ report.valid = true)
  | notPassed {options : RunOptions} {receipt : Receipt} (code : ended.code = 1)
      (ran : RanTo world cli disk options receipt ended.disk)
      (notPassed : receipt.payload.outcome ≠ .passed)
  | notValid {report : VerificationReport} (code : ended.code = 1)
      (verified : Verified world cli disk report) (notValid : report.valid = false)
  | failed {error : TaskError} (ordinary : Ordinary error) (code : ended.code = error.exitCode)
  | unpublished {options : RunOptions} {receipt : Receipt} {path : String} (code : ended.code = 7)
      (ran : RanTo world cli disk options receipt ended.disk)
      (requested : options.receiptOut = some path)

end Codes

/-! The run of the configured check, without a copy -/

section Sample

attribute [local instance] standardSha2 endOfInputDiagnostics passingPackages

def passingProcess : ProcessWorld :=
  { passingCommand with
    torn := []
    schemas := fun _ => .null
    completions := fun _ => [] }

def passingOptions : RunOptions where
  changed := false
  check := []
  failFast := false
  maxRuntimeMsPerCheck := 1000
  maxLogBytesPerCheck := 1000
  receiptOut := none
  runtime_range := by decide
  logBytes_range := by decide
  conflicts := fun changed => by cases changed

def passingCli (command : Command) : Cli where
  workspace := "."
  stateDir := some "/state"
  format := .ndjson
  quiet := false
  command := command

private theorem openStore_passing {found : Disk} (receipts : found.isDir "/state/receipts" = true)
    (blobs : found.isDir "/state/blobs/sha256" = true) (command : Command) :
    (passingCli command).openStore passingProcess found = .ok quietStore := by
  have git : GitContext.discover passingProcess.before passingProcess.canonicalize
      (passingCli command).workspace = .ok ⟨"/repo", "/repo/.git"⟩ := by rfl
  have opened : StateStore.openExisting passingProcess.canonicalize found "/state" =
      .ok quietStore := by
    have receiptsDirectory : quietStore.receiptsDirectory = "/state/receipts" := by decide
    have blobsDirectory : quietStore.blobsDirectory = "/state/blobs/sha256" := by decide
    rw [← receiptsDirectory] at receipts
    rw [← blobsDirectory] at blobs
    have resolved : orElseFail (TaskError.io "resolve state store" "/state")
        (passingProcess.canonicalize "/state") = .ok "/state" := rfl
    rw [StateStore.openExisting, resolved]
    show (if !found.isDir quietStore.receiptsDirectory || !found.isDir quietStore.blobsDirectory
      then _ else _) = _
    rw [receipts, blobs]
    rfl
  rw [Cli.openStore, git]
  exact opened

/-- The directories of the sample's store, and what is at one path. -/
def storeDiskWith (path : String) : Option Entry → Disk
  | some entry => storeDisk.create path entry
  | none => storeDisk

private theorem storeDiskWith_lookup {name : String} (nonempty : name ≠ "") (entry : Option Entry) :
    (storeDiskWith (joinPath quietStore.receiptsDirectory name) entry).lookup
      (joinPath quietStore.receiptsDirectory name) = entry := by
  cases entry with
  | some entry => exact FileSystem.lookup_create_self _ _
  | none =>
      have free := storeDisk_free nonempty
      simp [storeDiskWith, FileSystem.lookup, free]

private theorem storeDiskWith_extends {name : String} (nonempty : name ≠ "")
    (entry : Option Entry) :
    storeDisk.Extends (storeDiskWith (joinPath quietStore.receiptsDirectory name) entry) := by
  cases entry with
  | none => exact .refl
  | some entry => exact Disk.Extends.refl.create (storeDisk_free nonempty)

/-- The same disk, with a file beside the state directory. -/
def savedDisk (path : String) (entry : Option Entry) (content : List UInt8) : Disk :=
  (storeDiskWith path entry).create "/saved.json" (.file content none)

private theorem savedDisk_lookup {name : String} (nonempty : name ≠ "") (entry : Option Entry)
    (content : List UInt8) :
    (savedDisk (joinPath quietStore.receiptsDirectory name) entry content).lookup
      (joinPath quietStore.receiptsDirectory name) = entry := by
  have different : joinPath quietStore.receiptsDirectory name ≠ "/saved.json" := by
    obtain ⟨separator, joined⟩ := joinPath_toList quietStore.receiptsDirectory
    intro same
    have letter := congrArg (fun text : String => text.toList[2]?) same
    simp only [joined, List.append_assoc] at letter
    rw [List.getElem?_append_left (by decide)] at letter
    exact absurd letter (by decide)
  rw [savedDisk, FileSystem.lookup_create_other _ _ different]
  exact storeDiskWith_lookup nonempty entry

private theorem savedDisk_isDir {path : String} {name : String} {entry : Option Entry}
    {content : List UInt8} (nonempty : name ≠ "")
    (listed : path ∈ ["/state/receipts", "/state/blobs/sha256"]) :
    (savedDisk (joinPath quietStore.receiptsDirectory name) entry content).isDir path = true := by
  have directory : storeDisk.lookup path = some .directory ∧ path ≠ "/saved.json" := by
    simp only [List.mem_cons, List.not_mem_nil, or_false] at listed
    rcases listed with rfl | rfl
    · exact ⟨rfl, by decide⟩
    · exact ⟨rfl, by decide⟩
  have grown := storeDiskWith_extends nonempty entry
  rw [Disk.isDir, savedDisk, FileSystem.lookup_create_other _ _ directory.2,
    grown.lookup directory.1]
  rfl

private theorem receiptName_nonempty (receiptId : String) : receiptId ++ ".json" ≠ "" := by
  intro same
  have size := congrArg String.length same
  simp at size

/-- The store that the sample's run uses. -/
theorem hasStore_passing {store : StateStore}
    (hasStore : passingProcess.HasStore (passingOptions.arguments (passingCli (.run passingOptions)))
      store) : store = quietStore := by
  obtain ⟨git, discovery, _, resolved⟩ := hasStore
  cases store
  cases resolved
  rfl

theorem main_code_passing :
    (main passingProcess (passingCli (.run passingOptions)) parentDisk).code = 0 := by
  obtain ⟨stored, ran⟩ :=
    @run_alone_unpublished (passingOptions.arguments (passingCli (.run passingOptions))) rfl rfl
  rw [main_code_run rfl, show passingProcess.toCommandWorld = passingCommand from rfl, outcome, ran]
  rfl

/-- The receipt is shown from another disk that has the file and its directories. -/
theorem receipt_show_after_run_passing : ∃ (receipt : Receipt) (found : Disk),
    main passingProcess (passingCli (.receiptShow receipt.receiptId)) found =
      { code := 0
        stdout := (main passingProcess (passingCli (.run passingOptions)) parentDisk).stdout
        stderr := []
        disk := found } := by
  obtain ⟨store, receipt, path, hasStore, named, _, later⟩ :=
    @receipt_show_after_run _ _ _ passingProcess (passingCli (.run passingOptions)) passingOptions
      parentDisk rfl rfl (by simp [main_code_passing])
  obtain rfl := hasStore_passing hasStore
  obtain ⟨_, rfl⟩ := receiptPath_eq_ok_iff.mp named
  have nonempty := receiptName_nonempty receipt.receiptId
  generalize (main passingProcess (passingCli (.run passingOptions)) parentDisk).disk.lookup
    (joinPath quietStore.receiptsDirectory (receipt.receiptId ++ ".json")) = entry at later
  exact ⟨receipt, savedDisk _ entry [], later rfl passingProcess
    (passingCli (.receiptShow receipt.receiptId)) _ rfl rfl rfl
    (openStore_passing (savedDisk_isDir nonempty (by simp)) (savedDisk_isDir nonempty (by simp)) _)
    (savedDisk_lookup nonempty entry [])⟩

end Sample
end TaskAttest
