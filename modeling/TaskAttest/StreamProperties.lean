import TaskAttest.CommandLineProperties
import TaskAttest.Library.Json.Lines
import TaskAttest.ProgressProperties

/-! The stream of progress on the standard error of a run, wherever it is cut off. -/

set_option autoImplicit false

namespace TaskAttest

open Interleaving Json Program

/-! What the run command reports -/

section Reports

variable [Sha2] [Packages] {world : CommandWorld} {arguments : RunArguments}

/-- The checks that a run selects, unless it fails before. -/
def CommandWorld.selected (world : CommandWorld) (arguments : RunArguments) :
    List CheckDefinition :=
  match discoverRun world arguments with
  | .ok (_, discovery) => selectedChecks discovery
  | .error _ => []

omit [Sha2] [Packages] in
private theorem change_idle (update : Disk → Except TaskError Disk) :
    StaysIdle (Among.change update).alone := by
  intro state
  rw [finalState, Among.alone_change]
  cases update state.disk <;> exact ⟨⟨rfl, rfl⟩, rfl⟩

omit [Packages] in
theorem createStore_idle (root : String) :
    StaysIdle (createStore world root).alone := by
  simp only [createStore, Calls.alone_bind, Among.alone_lift]
  apply StaysIdle.bind (change_idle _)
  intro _
  apply StaysIdle.bind (change_idle _)
  intro _
  apply StaysIdle.bind (change_idle _)
  intro _
  exact StaysIdle.bind (.ofExcept _) fun _ => .pure _

omit [Packages] in
theorem preflightReceiptOut_idle (receiptOut : Option String) :
    StaysIdle (preflightReceiptOut world receiptOut).alone := by
  cases receiptOut with
  | none => exact .pure ()
  | some path =>
      rw [show preflightReceiptOut world (some path) =
        Among.preflightJsonOutput world.preflight path from rfl, Among.alone_preflightJsonOutput]
      exact .onDisk _

private theorem attest_tells [JsonDiagnostics] :
    Tells (world.selected arguments) (fun attested => attested.2.told)
      (attest world arguments).alone := by
  simp only [attest, Calls.alone_bind]
  apply Tells.after (preflightReceiptOut_idle _).reportsNothing
  intro _
  rw [CommandWorld.selected]
  cases discoverRun world arguments with
  | error error => exact .throw error
  | ok found =>
      obtain ⟨git, discovery⟩ := found
      simp only [Calls.alone_lift_ok, pure_bind, Among.alone_lift]
      apply Tells.after (createStore_idle _).reportsNothing
      intro store
      apply Tells.after (StaysIdle.ofExcept _).reportsNothing
      intro _
      rw [Among.alone_runChecks]
      exact Tells.map (runChecks_tells discovery) fun _ => rfl

omit [Sha2] [Packages] in
private theorem writeJsonAtomic_idle (process : Nat) (faults : PublishFaults) (path : String)
    (document : List UInt8) :
    StaysIdle (Among.writeJsonAtomic process faults path document).alone := by
  intro state
  rw [finalState, Among.alone_writeJsonAtomic]
  obtain ⟨result, jsonSequence, disk⟩ :=
    writeJsonAtomic process faults path document state.jsonSequence state.disk
  cases result <;> exact ⟨⟨rfl, rfl⟩, rfl⟩

omit [Packages] in
theorem publishReceipt_idle (store : StateStore) (receipt : Receipt)
    (receiptOut : Option String) :
    StaysIdle (publishReceipt world store receipt receiptOut).alone := by
  intro state
  cases receiptOut with
  | none => exact ⟨⟨rfl, rfl⟩, rfl⟩
  | some path =>
      have silent := writeJsonAtomic_idle world.run.process world.publish path
        (toVecPretty receipt) state
      have ended : finalState (publishReceipt world store receipt (some path)).alone state =
          finalState (Among.writeJsonAtomic world.run.process world.publish path
            (toVecPretty receipt)).alone state := by
        simp only [publishReceipt, finalState, Calls.alone_handle]
        cases (Among.writeJsonAtomic world.run.process world.publish path
            (toVecPretty receipt)).alone state with
        | ok _ after => rfl
        | error error after =>
            simp only
            cases publicationFailure store receipt path error <;> rfl
      rw [ended]
      exact silent

variable [JsonDiagnostics]

/-- The events of the command are those of its run, and a command that ends well has
reported its receipt. -/
theorem runCommand_narrates (world : ProcessWorld) (cli : Cli) (options : RunOptions)
    (disk : Disk) : ∃ outcomes stored,
    Narrates (world.selected (options.arguments cli)) 0 (cli.runCommand world options disk).events
      outcomes stored ∧
    (stored = none → ∃ error, (cli.runCommand world options disk).result = .error error ∧
      Ordinary error) := by
  have told {store : StateStore} {receipt : Receipt} {between after : RunState}
      (ran : (attest world.toCommandWorld (options.arguments cli)).alone
        (.start disk 0 0 false) = .ok (store, receipt) between)
      (silent : Unreported between after) :
      Narrates (world.selected (options.arguments cli)) 0 (after.events.map Emitted.event)
        receipt.told.1 receipt.told.2 := by
    rcases @attest_tells _ _ world.toCommandWorld (options.arguments cli) _
      (.start disk 0 0 false) with ⟨_, _, same, reported⟩ | ⟨_, _, failed, _⟩
    · cases ran.symm.trans same
      obtain ⟨events, more, narrates⟩ := reported.narrated
      rw [silent.events, more]
      exact narrates
    · cases ran.symm.trans failed
  cases runCommand_ends world cli options disk with
  | @refused error after failed ordinary left =>
      rcases @attest_tells _ _ world.toCommandWorld (options.arguments cli) _
        (.start disk 0 0 false) with ⟨_, _, ran, _⟩ | ⟨_, _, same, outcomes, reported⟩
      · cases ran.symm.trans failed
      · cases failed.symm.trans same
        obtain ⟨events, more, narrates⟩ := reported.narrated
        refine ⟨outcomes, none, ?_, fun _ => ⟨error, by rw [left], ordinary⟩⟩
        rw [left]
        simp only [more]
        exact narrates
  | @unpublished store receipt between after error ran failed code attested left =>
      have silent := @publishReceipt_idle _ world.toCommandWorld store receipt
        options.receiptOut between
      rw [finalState_of_error failed] at silent
      refine ⟨receipt.told.1, receipt.told.2, ?_, fun none => by cases none⟩
      rw [left]
      exact told ran silent.toUnreported
  | @answered store receipt between after ran published attested left =>
      have silent := @publishReceipt_idle _ world.toCommandWorld store receipt
        options.receiptOut between
      rw [finalState_of_ok published] at silent
      refine ⟨receipt.told.1, receipt.told.2, ?_, fun none => by cases none⟩
      rw [left]
      exact told ran silent.toUnreported

end Reports

/-! The stream of progress -/

/-- The document of a failure. -/
def TaskError.document (error : TaskError) : Value :=
  match error.recovery with
  | some recovery => serialize recovery
  | none => serialize (ErrorDocument.of error)

def CommandEnd.failures (ended : CommandEnd) : List Value :=
  match ended.result with
  | .ok _ => []
  | .error error => [error.document]

/-- The documents on the standard error of a command, one a line. -/
def CommandEnd.documents (ended : CommandEnd) : List Value :=
  ended.events.map serialize ++ ended.failures

/-- What a reader of the standard error finds: the progress events among its documents. -/
def progressEvents (bytes : List UInt8) : Option (List ProgressEvent) :=
  (readLines recursionLimit bytes).map fun documents => documents.filterMap deserialize

section Stream

private theorem emitError_ndjson (error : TaskError) :
    Console.emitError error .ndjson = toLines [error.document] := by
  rw [Console.emitError, TaskError.document]
  cases error.recovery <;> simp [toLines, Console.encode, lineBreak]

private theorem stderr_ndjson {cli : Cli} (ended : CommandEnd) (format : cli.format = .ndjson)
    (loud : cli.quiet = false) : ended.stderr cli = toLines ended.documents := by
  have progress : ended.events.flatMap (Console.emitProgress .ndjson false) =
      toLines (ended.events.map serialize) := by
    rw [toLines, List.flatMap_map]
    rfl
  rw [CommandEnd.stderr, CommandEnd.documents, CommandEnd.failures, format, loud, progress, toLines,
    toLines, List.flatMap_append]
  cases ended.result with
  | ok code => rfl
  | error error => exact congrArg _ (emitError_ndjson error)

private theorem ProgressEvent.ofMembers_eq_none {members : Members}
    (missing : members.lookup "sequence" = none) : ProgressEvent.ofMembers members = none := by
  have unread : (required members "sequence" : Option UInt64) = none := by
    rw [required, missing]
    rfl
  rw [ProgressEvent.ofMembers]
  cases (required members "schema_version" : Option String) with
  | none => rfl
  | some version => simp only [unread, Option.bind_eq_bind, Option.bind_some, Option.bind_none]

/-- The document of a failure is no progress event: it has no number. -/
theorem deserialize_failure (error : TaskError) :
    (deserialize error.document : Option ProgressEvent) = none := by
  have unread {members : Members} (missing : members.lookup "sequence" = none) :
      (deserialize (.object members) : Option ProgressEvent) = none := by
    show structMembers ProgressEvent.fieldNames (.object members) >>= ProgressEvent.ofMembers = none
    rw [structMembers]
    split
    · exact ProgressEvent.ofMembers_eq_none missing
    · rfl
  rw [TaskError.document]
  cases error.recovery with
  | none => exact unread (by simp [ErrorDocument.fields, List.lookup_cons])
  | some recovery => exact unread (by simp [ReceiptRecoveryDocument.fields, List.lookup_cons])

private theorem document_written (error : TaskError) : error.document.Written recursionLimit := by
  rw [TaskError.document]
  cases error.recovery with
  | some recovery => exact written_serialize (by decide) recovery
  | none => exact written_serialize (by decide) (ErrorDocument.of error)

private theorem documents_written (ended : CommandEnd) :
    ∀ document ∈ ended.documents, document.Written recursionLimit := by
  have events : ∀ document ∈ ended.events.map serialize, document.Written recursionLimit :=
    List.forall_mem_map.mpr fun event _ => written_serialize (by decide) event
  rw [CommandEnd.documents, CommandEnd.failures]
  cases ended.result with
  | ok code => exact List.forall_mem_append.mpr ⟨events, List.forall_mem_nil _⟩
  | error error =>
      exact List.forall_mem_append.mpr
        ⟨events, List.forall_mem_singleton.mpr (document_written error)⟩

private theorem filterMap_take_documents (ended : CommandEnd) (count : Nat) :
    (ended.documents.take count).filterMap deserialize = ended.events.take count := by
  have events (told : List ProgressEvent) : (told.map serialize).filterMap deserialize = told := by
    induction told with
    | nil => rfl
    | cons event rest ih =>
        rw [List.map_cons, List.filterMap_cons_some (deserialize_serialize event), ih]
  have failures : ∀ document ∈ ended.failures,
      (deserialize document : Option ProgressEvent) = none := by
    rw [CommandEnd.failures]
    cases ended.result with
    | ok code => exact List.forall_mem_nil _
    | error error => exact List.forall_mem_singleton.mpr (deserialize_failure error)
  rw [CommandEnd.documents, List.take_append, List.filterMap_append, ← List.map_take, events,
    List.filterMap_eq_nil_iff.mpr fun document member =>
      failures document (List.mem_of_mem_take member), List.append_nil]

private theorem progressEvents_stderr {cli : Cli} {ended : CommandEnd}
    (format : cli.format = .ndjson)
    (loud : cli.quiet = false) : progressEvents (ended.stderr cli) = some ended.events := by
  have written := documents_written ended
  have read := readLines_toLines (fun document member => (written document member).2.1)
    fun document member => (written document member).2.2
  have whole := filterMap_take_documents ended ended.documents.length
  have enough : ended.events.length ≤ ended.documents.length := by
    simp [CommandEnd.documents]
  rw [List.take_length, List.take_of_length_le enough] at whole
  rw [progressEvents, stderr_ndjson ended format loud, read, Option.map_some, whole]

private theorem progressEvents_cut {cli : Cli} {ended : CommandEnd} (format : cli.format = .ndjson)
    (loud : cli.quiet = false) {cut : List UInt8} (cutOff : cut <+: ended.stderr cli) :
    ∃ count, progressEvents cut = some (ended.events.take count) := by
  have written := documents_written ended
  rw [stderr_ndjson ended format loud] at cutOff
  obtain ⟨count, read, _⟩ := readLines_of_cut
    (fun document member => (written document member).2.1)
    (fun document member => (written document member).2.2) cutOff
  refine ⟨count, ?_⟩
  rw [progressEvents, read, Option.map_some, filterMap_take_documents]

variable [Sha2] [JsonDiagnostics] [Packages] {world : ProcessWorld} {cli : Cli}
  {options : RunOptions}

/-- What is read of the standard error of a run, wherever it is cut off, tells of the
selected checks from the first on; of a run that ends well it tells everything. -/
theorem progress_stream (disk : Disk) (command : cli.command = .run options)
    (format : cli.format = .ndjson) (loud : cli.quiet = false) :
    ∃ events outcomes stored,
      Narrates (world.selected (options.arguments cli)) 0 events outcomes stored ∧
      progressEvents (main world cli disk).stderr = some events ∧
      ((main world cli disk).code ∈ [0, 1, 7] → stored.isSome = true) ∧
      ∀ cut, cut <+: (main world cli disk).stderr → ∃ count told kept,
        progressEvents cut = some (events.take count) ∧ told <+: outcomes ∧
        Narrates (world.selected (options.arguments cli)) 0 (events.take count) told kept := by
  have ran : cli.run world disk = cli.runCommand world options disk := by
    rw [Cli.run, command]
  obtain ⟨outcomes, stored, narrates, missing⟩ := runCommand_narrates world cli options disk
  simp only [main, ran]
  refine ⟨_, outcomes, stored, narrates, progressEvents_stderr format loud, ?_, ?_⟩
  · intro code
    cases stored with
    | some receiptId => rfl
    | none =>
        obtain ⟨error, failed, ordinary⟩ := missing rfl
        simp only [failed, exitCode, Ordinary, List.mem_cons, List.not_mem_nil,
          or_false] at code ordinary
        rcases ordinary with same | same | same | same <;> rw [same] at code <;>
          exact absurd code (by decide)
  · intro cut cutOff
    obtain ⟨count, read⟩ := progressEvents_cut format loud cutOff
    obtain ⟨told, kept, first, earlier⟩ := narrates.take count
    exact ⟨count, told, kept, read, earlier, first⟩

end Stream

section Sample

attribute [local instance] standardSha2 endOfInputDiagnostics passingPackages

theorem progress_stream_passing : ∃ events outcomes stored,
    Narrates (passingProcess.selected (passingOptions.arguments (passingCli (.run passingOptions)))) 0
      events outcomes stored ∧
    progressEvents (main passingProcess (passingCli (.run passingOptions)) parentDisk).stderr =
      some events ∧ stored.isSome = true := by
  obtain ⟨events, outcomes, stored, narrates, read, finished, _⟩ :=
    @progress_stream _ _ _ passingProcess (passingCli (.run passingOptions)) passingOptions
      parentDisk rfl rfl rfl
  exact ⟨events, outcomes, stored, narrates, read, finished (by simp [main_code_passing])⟩

end Sample

end TaskAttest
