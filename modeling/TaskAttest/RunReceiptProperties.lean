import TaskAttest.Library.Json.Size
import TaskAttest.RunProperties
import TaskAttest.SourceProperties

/-! What the receipt of a run is worth: whether it verifies, what a pass says
about the run, and which changes of the workspace it reports. -/

set_option autoImplicit false

namespace TaskAttest

/-! Does the receipt of a run verify? -/

/-- A supervision ended its child for a reason. -/
def SuperviseState.StoppedBy (state : SuperviseState) (reason : StopReason) : Prop :=
  ∃ status, state.phase = .joining (some reason) status

/-- The report marks as selected exactly the identifiers of the checks it selects. -/
def DiscoveryReport.SelectionAgrees (discovery : DiscoveryReport) : Prop :=
  ∀ id, (∃ selection ∈ discovery.selection, selection.selected = true ∧ selection.checkId = id) ↔
    ∃ check ∈ selectedChecks discovery, check.id = id

/-- Readings of the wall clock do not decrease. -/
def World.ClockNeverSteppedBack [Sha2] (world : World) : Prop :=
  ∀ {earlier later : Nat}, earlier ≤ later → world.clock earlier ≤ world.clock later

private theorem supervisedOutcome_eq_cancelled_iff {maxLogBytes : UInt64}
    {forced : Option StopReason} {status : ExitStatus} {budget : LogBudget} :
    supervisedOutcome maxLogBytes forced status budget = .cancelled ↔
      forced = some .cancellation := by
  cases forced with
  | none =>
      simp only [supervisedOutcome, reduceCtorEq, iff_false]
      split
      · nofun
      · split <;> nofun
  | some reason => cases reason <;> simp [supervisedOutcome, StopReason.outcome]

section Verdict

variable [Sha2] {world : World} {store : StateStore} {discovery : DiscoveryReport}
  {invocation : Invocation} {start final : RunState}

private theorem recorded_cancelled_iff {maxLogBytes : UInt64} {execution : CheckExecution}
    {entries : List (CheckDefinition × SuperviseState)}
    (recorded : Recorded store maxLogBytes final execution entries) :
    execution.outcome = .cancelled ↔ ∃ entry ∈ entries, entry.2.StoppedBy .cancellation := by
  cases recorded with
  | skipped outcome stdout stderr => simp [outcome]
  | spawnFailed outcome stdout stderr => simp [outcome]
  | supervised known limit spawned outcome code stdout stderr stdoutStored stderrStored set =>
      rw [outcome, supervisedOutcome_eq_cancelled_iff]
      simp only [List.mem_singleton, exists_eq_left, SuperviseState.StoppedBy, known.phase]
      constructor
      · intro same
        subst same
        exact ⟨_, rfl⟩
      · intro both
        obtain ⟨_, ⟨⟩⟩ := both
        rfl

/-- The executions recorded as cancelled are those whose child was stopped by the token. -/
theorem anyCancelled_iff {maxLogBytes : UInt64} {executions : List CheckExecution}
    {entries : List (List (CheckDefinition × SuperviseState))}
    (recorded : List.Forall₂ (Recorded store maxLogBytes final) executions entries) :
    (executions.any fun execution => execution.outcome == .cancelled) = true ↔
      ∃ entry ∈ entries.flatten, entry.2.StoppedBy .cancellation := by
  induction recorded with
  | nil => simp
  | cons first _ ih =>
      simp only [List.any_cons, Bool.or_eq_true, beq_iff_eq, ih, recorded_cancelled_iff first,
        List.flatten_cons, List.mem_append, or_and_right, exists_or]

omit [Sha2] in
/-- Producer and verifier compute the same outcome exactly when a token that is
set has left a cancelled execution. -/
theorem receiptOutcome_eq_expectedOutcome_iff {payload : ReceiptPayload} {cancelled : Bool}
    (assembled : payload.outcome = receiptOutcome payload.checks payload.coverageGaps cancelled
      payload.sourceUnchanged) :
    payload.outcome = expectedOutcome payload ↔
      (cancelled = true → (payload.checks.any fun execution => execution.outcome == .cancelled) =
        true) := by
  rw [assembled, receiptOutcome, expectedOutcome]
  cases cancelled with
  | false => simp
  | true =>
      cases payload.checks.any fun execution => execution.outcome == .cancelled with
      | true => simp
      | false =>
          simp only [Bool.true_or, if_true, Bool.false_eq_true, if_false, forall_const, iff_false]
          split
          · nofun
          · split <;> nofun

omit [Sha2] in
theorem nodup_selectedChecks {checks : List CheckDefinition}
    (distinct : (discovery.checks.map fun check => check.id).Nodup)
    (selected : checks = selectedChecks discovery) : (checks.map fun check => check.id).Nodup := by
  rw [selected, selectedChecks]
  exact distinct.sublist (List.filter_sublist.map _)

/-- The references of recorded executions are stored. -/
theorem stored_of_recorded {maxLogBytes : UInt64} {executions : List CheckExecution}
    {entries : List (List (CheckDefinition × SuperviseState))}
    (recorded : List.Forall₂ (Recorded store maxLogBytes final) executions entries)
    {execution : CheckExecution} (member : execution ∈ executions) {reference : LogReference}
    (listed : reference ∈ execution.references) : Stored store final.disk reference := by
  induction recorded with
  | nil => cases member
  | @cons head entry rest others first _ ih =>
      rcases List.mem_cons.mp member with rfl | member
      · cases first with
        | skipped outcome stdout stderr =>
            simp [CheckExecution.references, stdout, stderr] at listed
        | spawnFailed outcome stdout stderr =>
            simp [CheckExecution.references, stdout, stderr] at listed
        | supervised known limit spawned outcome code stdout stderr stdoutStored stderrStored set =>
            simp [CheckExecution.references, stdout, stderr] at listed
            rcases listed with rfl | rfl
            · exact stdoutStored
            · exact stderrStored
      · exact ih member

variable [JsonDiagnostics]

/-- What the verdict on the receipt of a run depends on. -/
theorem runChecks_verdict_iff (disk : Disk) (logSequence jsonSequence : Nat) (cancelled : Bool)
    {receipt : Receipt}
    (ran : runChecks world store discovery invocation
      (.start disk logSequence jsonSequence cancelled) = .ok receipt final) :
    Verifies store final.disk receipt ↔ discovery.SelectionAgrees ∧
      ((selectedChecks discovery).map fun check => check.id).Nodup ∧
      receipt.payload.startedUnixMs ≤ receipt.payload.completedUnixMs ∧
      (∀ execution ∈ receipt.payload.checks,
        execution.startedUnixMs ≤ execution.completedUnixMs) ∧
      (final.cancelledAtOutcome = true →
        ∃ entry ∈ final.supervised, entry.2.StoppedBy .cancellation) := by
  obtain ⟨built, _, ⟨earlier, later, durationMs, _, assembled⟩, looped⟩ := runChecks_ok ran
  obtain ⟨entries, supervised, recorded⟩ := looped.recorded
  have log : final.supervised = entries.flatten := by rw [supervised]; rfl
  have outcome : receipt.payload.outcome = receiptOutcome receipt.payload.checks
      receipt.payload.coverageGaps final.cancelledAtOutcome receipt.payload.sourceUnchanged := by
    rw [assembled]
    rfl
  rw [log, ← anyCancelled_iff recorded, ← receiptOutcome_eq_expectedOutcome_iff outcome,
    verifies_iff_sound, built, sound_buildReceipt_iff]
  have fields : receipt.payload.discovery = discovery ∧
      (receipt.payload.checks.map fun execution => execution.check) = selectedChecks discovery := by
    refine ⟨?_, looped.definitions⟩
    rw [assembled]
    rfl
  have executed : ∀ id, (∃ execution ∈ receipt.payload.checks, execution.check.id = id) ↔
      ∃ check ∈ selectedChecks discovery, check.id = id := by
    intro id
    rw [← fields.2]
    simp
  have ids : (receipt.payload.checks.map fun execution => execution.check.id) =
      (selectedChecks discovery).map fun check => check.id := by
    rw [← fields.2, List.map_map]
    rfl
  constructor
  · intro sound
    have selected := sound.executed
    rw [fields.1] at selected
    exact ⟨fun id => (selected id).trans (executed id), ids ▸ sound.distinct, sound.clock,
      sound.executionClock, sound.outcome⟩
  · intro conditions
    obtain ⟨agrees, distinct, clock, executionClock, sameOutcome⟩ := conditions
    exact {
      schema := by rw [assembled]; rfl
      source := by rw [assembled]; rfl
      sourceUnchanged := by
        rw [assembled]
        simp only [assemblePayload]
        exact decide_eq_decide.mpr eq_comm
      clock
      executed := by
        intro id
        rw [fields.1]
        exact (agrees id).trans (executed id).symm
      distinct := ids ▸ distinct
      executionClock
      references := by
        intro reference member
        obtain ⟨execution, included, listed⟩ := mem_references.mp member
        have stored := stored_of_recorded recorded included listed
        exact ⟨stored.algorithm, stored.handle, stored.digest⟩
      outcome := sameOutcome
      blobs := by
        intro reference member
        obtain ⟨execution, included, listed⟩ := mem_references.mp member
        exact (stored_of_recorded recorded included listed).blob }

/-- The receipt of a run verifies exactly when the report's selection is the set
of checks that ran and a token seen when the outcome was computed had stopped a
running check. -/
theorem runChecks_verifies_iff (disk : Disk) (logSequence jsonSequence : Nat) (cancelled : Bool)
    {receipt : Receipt} (distinct : (discovery.checks.map fun check => check.id).Nodup)
    (clock : world.ClockNeverSteppedBack)
    (ran : runChecks world store discovery invocation
      (.start disk logSequence jsonSequence cancelled) = .ok receipt final) :
    Verifies store final.disk receipt ↔ discovery.SelectionAgrees ∧
      (final.cancelledAtOutcome = true →
        ∃ entry ∈ final.supervised, entry.2.StoppedBy .cancellation) := by
  obtain ⟨_, _, ⟨earlier, later, durationMs, inOrder, assembled⟩, looped⟩ := runChecks_ok ran
  rw [runChecks_verdict_iff disk logSequence jsonSequence cancelled ran]
  have ordered : receipt.payload.startedUnixMs ≤ receipt.payload.completedUnixMs := by
    rw [assembled]
    exact clock inOrder
  have executionsOrdered : ∀ execution ∈ receipt.payload.checks,
      execution.startedUnixMs ≤ execution.completedUnixMs := by
    intro execution member
    obtain ⟨first, last, inOrder, started, completed⟩ := looped.clock execution member
    rw [started, completed]
    exact clock inOrder
  constructor
  · intro conditions
    obtain ⟨agrees, _, _, _, cancellation⟩ := conditions
    exact ⟨agrees, cancellation⟩
  · intro conditions
    obtain ⟨agrees, cancellation⟩ := conditions
    exact ⟨agrees, nodup_selectedChecks distinct rfl, ordered, executionsOrdered, cancellation⟩

end Verdict

/-! A run of one check that prints nothing and exits with success. -/

/-- The check of the sample runs. -/
def quietCheck : CheckDefinition where
  id := "unit"
  label := "Unit tests"
  kind := .test
  command := { program := "make", args := ["test"], workingDirectory := "." }
  reason := "declared"
  sources := []
  confidence := .explicit
  coveragePaths := []
  passEnvironment := []
  nonHermeticInputs := []
  replacesWorkflowSteps := []

def quietInvocation : Invocation where
  changedOnly := false
  requestedChecks := []
  failFast := false
  limits := { maxRuntimeMsPerCheck := 1000, maxLogBytesPerCheck := 1000 }

/-- An unborn branch whose index lists what the bytes say; no file is in the worktree. -/
def unbornRepository (listing status : List UInt8) : Repository where
  root := "/repo"
  git _ arguments :=
    .ok {
      success := arguments.head? != some "rev-parse"
      status := "exit status: 128"
      stdout :=
        if arguments.head? = some "ls-files" then listing
        else if arguments.head? = some "status" then status
        else if arguments.head? = some "symbolic-ref" then [109, 97, 105, 110, 10]
        else []
      stderr := [] }
  inspect _ := .error missingFile

/-- The index lists a file that was added and then deleted from the worktree. -/
def lostFile : Repository :=
  unbornRepository (utf8 "tracked.txt\x00".toList) (utf8 "AD tracked.txt\x00".toList)

section Sample

variable [Sha2]

def emptySource : SourceIdentity where
  gitCommit := none
  gitRef := some "main"
  dirty := false
  statusSha256 := sha256Bytes []
  workspaceSha256 := sha256Bytes (workspaceStream [])
  workspaceFileCount := 0
  changedPaths := []

private theorem identifySource_unborn :
    identifySource (unbornRepository [] []) = .ok emptySource := by
  rfl

def quietDiscovery : DiscoveryReport where
  schemaVersion := discoverySchemaVersion
  source := emptySource
  checks := [quietCheck]
  selection := [{ checkId := "unit", selected := true, reason := "explicitly requested" }]
  coverageGaps := []
  configurationFiles := []
  workflowObservations := []

theorem selectedChecks_quietDiscovery : selectedChecks quietDiscovery = [quietCheck] := by
  rfl

/-- The child exits, both streams end, and the loop finds the child gone. -/
def quietEnd (setup : SuperviseSetup) : SuperviseState where
  child := .exited ⟨some 0⟩
  cancelled := setup.cancelled
  expired := false
  stdout := { CaptureThread.initial with
    phase := .finished (.ok (CaptureThread.initial.capture setup.stdoutPath)) }
  stderr := { CaptureThread.initial with
    phase := .finished (.ok (CaptureThread.initial.capture setup.stderrPath)) }
  budget := ⟨0, false⟩
  phase := .joining none ⟨some 0⟩

private theorem quietEnd_reached (setup : SuperviseSetup) :
    Transition.Run (SuperviseStep setup) setup.initial (quietEnd setup) := by
  refine .head (.exit ⟨some 0⟩ rfl) ?_
  refine .head (.stdout (.endOfStream rfl rfl)) ?_
  refine .head (.stdout (.sync rfl rfl)) ?_
  refine .head (.stderr (.endOfStream rfl rfl)) ?_
  refine .head (.stderr (.sync rfl rfl)) ?_
  exact .single (.hasExited rfl rfl)

def quietSupervision (setup : SuperviseSetup) : Supervision setup where
  ended := quietEnd setup
  reached := quietEnd_reached setup
  returns := rfl

def quietCapture (path : String) : Capture := CaptureThread.initial.capture path

theorem quietSupervision_result (setup : SuperviseSetup) :
    (quietSupervision setup).result =
      .ok (none, ⟨some 0⟩, quietCapture setup.stdoutPath, quietCapture setup.stderrPath) := by
  rfl

def quietHere : CheckWorld where
  canonicalize _ := .ok "/repo"
  isDir _ := true
  stdoutFaults _ := none
  stderrFaults _ := none
  spawn := none
  hasStdout := true
  hasStderr := true
  supervise := quietSupervision
  stdoutBlob := .none
  stderrBlob := .none
  removeStdout := none
  removeStderr := none

/-- Surroundings in which the token may be set just before the outcome is computed. -/
def quietWorld (late : Bool) (after : Repository) : World where
  process := 1
  environment _ := none
  tool _ := .ok ⟨true, [], []⟩
  clock _ := 1
  elapsed _ := 1
  interrupts moment := late && moment == 5
  check _ := quietHere
  after
  publish := .none

def quietStore : StateStore := ⟨"/state"⟩

def quietDisk : Disk := Disk.empty.create quietStore.receiptsDirectory .directory

def stdoutLog : String := capturePath quietStore 1 0 "stdout"

def stderrLog : String := capturePath quietStore 1 1 "stderr"

def emptyBlob : String := quietStore.blobTarget (sha256Bytes [])

omit [Sha2] in
private theorem blobTarget_ne_receipts (digest : String) :
    quietStore.blobTarget digest ≠ quietStore.receiptsDirectory := by
  intro same
  obtain ⟨separator, joined⟩ := joinPath_toList quietStore.blobsDirectory
  have seventh : (quietStore.blobTarget digest).toList[7]? = some 'b' := by
    rw [StateStore.blobTarget, joined]
    have known : quietStore.blobsDirectory.toList[7]? = some 'b' := by decide
    rw [List.append_assoc, List.getElem?_append_left (by decide), known]
  rw [same] at seventh
  exact absurd seventh (by decide)

private theorem emptyBlob_ne_receipts : emptyBlob ≠ quietStore.receiptsDirectory :=
  blobTarget_ne_receipts _

omit [Sha2] in
/-- Names of the sample run. -/
theorem quietNames : stdoutLog ≠ quietStore.receiptsDirectory ∧
    stderrLog ≠ quietStore.receiptsDirectory ∧ stderrLog ≠ stdoutLog := by
  decide

theorem emptyBlob_ne_logs : emptyBlob ≠ stdoutLog ∧ emptyBlob ≠ stderrLog :=
  ⟨quietStore.blobTarget_ne_temporary _ _, quietStore.blobTarget_ne_temporary _ _⟩

/-- The disk with both capture files open and nothing written to them. -/
def openDisk : Disk :=
  (((quietDisk.create stdoutLog (.file [] none)).create stderrLog (.file [] none)).modify stdoutLog
    (Entry.append [])).modify stderrLog (Entry.append [])

/-- The disk when the one blob of both logs is stored. -/
def finishedDisk : Disk :=
  ((openDisk.link stdoutLog emptyBlob).unlink stdoutLog).unlink stderrLog

/-- What the sample run records of its check. -/
def quietExecution : CheckExecution where
  check := quietCheck
  startedUnixMs := 1
  completedUnixMs := 1
  durationMs := 1
  outcome := .passed
  exitCode := some 0
  stdout := some (logReference (quietCapture stdoutLog))
  stderr := some (logReference (quietCapture stderrLog))
  stdoutSummary := ""
  stderrSummary := ""
  diagnosticSummariesTruncated := false

def quietStart : RunState := .start quietDisk 0 0 false

variable {late : Bool} {after : Repository}

/-- The state when the sample check has been executed. -/
def quietFinished (late : Bool) (after : Repository) (before : RunState) : RunState :=
  let running := (((before.observed (quietWorld late after)).withCapture stdoutLog).withCapture
    stderrLog).withSpawned ⟨quietCheck, "/repo", []⟩
  let joined := running.supervisedBy quietCheck (stdoutLog, stderrLog)
    (quietEnd ⟨"unit", 1000, stdoutLog, stderrLog, running.cancelled⟩)
  { joined with disk := finishedDisk }.observed (quietWorld late after)

theorem executeCheck_quiet_eq {before : RunState} (root : after.root = "/repo")
    (disk : before.disk = quietDisk) (logs : before.logSequence = 0) :
    executeCheck (quietWorld late after) quietHere quietStore quietCheck 1000 before =
      .ok quietExecution (quietFinished late after before) := by
  obtain ⟨stdoutName, stderrName, distinct⟩ := quietNames
  have faultless : quietHere.Faultless := ⟨rfl, rfl, rfl, rfl, rfl, rfl, rfl⟩
  have resolved : resolveWorkingDirectory quietHere (quietWorld late after).after.root
      quietCheck.command.workingDirectory = .ok "/repo" := by
    rw [quietWorld, root]
    rfl
  have stdoutFree : before.disk.links stdoutLog = none := by
    rw [disk]
    simp [quietDisk, FileSystem.create, stdoutName, Disk.empty, FileSystem.empty]
  have stderrFree : (before.disk.create stdoutLog (.file [] none)).links stderrLog = none := by
    rw [disk]
    simp [quietDisk, FileSystem.create, stderrName, distinct, Disk.empty, FileSystem.empty]
  have vacant : before.disk.links emptyBlob = none := by
    rw [disk]
    simp [quietDisk, FileSystem.create, emptyBlob_ne_receipts, Disk.empty, FileSystem.empty]
  have joins (ended : SuperviseState) (stdoutSilent : ended.stdout.written = [])
      (stderrSilent : ended.stderr.written = []) :
      ((before.started (quietWorld late after) quietCheck "/repo" stdoutLog stderrLog).supervisedBy
        quietCheck (stdoutLog, stderrLog) ended).disk = openDisk := by
    simp only [RunState.supervisedBy, RunState.started, RunState.withSpawned,
      RunState.withCapture, RunState.observed, disk, stdoutSilent, stderrSilent]
    rfl
  exact executeCheck_publishes faultless resolved (by rw [logs]; rfl) (by rw [logs]; rfl)
    stdoutFree stderrFree rfl (quietSupervision_result _) (joins _ rfl rfl) rfl rfl vacant

private theorem executeCheck_quiet {before : RunState} (root : after.root = "/repo")
    (disk : before.disk = quietDisk) (logs : before.logSequence = 0) (moment : before.moment = 2)
    (unset : before.cancelled = false) :
    ∃ finished, executeCheck (quietWorld late after) quietHere quietStore quietCheck 1000 before =
        .ok quietExecution finished ∧
      finished.disk = finishedDisk ∧ finished.jsonSequence = before.jsonSequence ∧
      finished.moment = 4 ∧ finished.cancelled = false := by
  refine ⟨_, executeCheck_quiet_eq root disk logs, rfl, rfl, congrArg (· + 2) moment, ?_⟩
  have early : ∀ moment, moment < 5 → (quietWorld late after).interrupts moment = false := by
    intro moment small
    simp [quietWorld, Nat.ne_of_lt small]
  have later : (quietWorld late after).interrupts (before.moment + 1) = false := by
    rw [moment]
    exact early 3 (by decide)
  simp only [quietFinished, RunState.observed, RunState.withSpawned, RunState.withCapture,
    RunState.supervisedBy, quietEnd, unset, later, Bool.false_or, Bool.or_false]
  rw [moment]
  exact early 2 (by decide)

private theorem runLoop_quiet (root : after.root = "/repo") :
    ∃ looped, runLoop (quietWorld late after) quietStore quietInvocation 0 false
        (selectedChecks quietDiscovery) (quietStart.observed (quietWorld late after)) =
        .ok [quietExecution] looped ∧
      looped.disk = finishedDisk ∧ looped.jsonSequence = 0 ∧ looped.moment = 5 ∧
      looped.cancelled = false := by
  let world := quietWorld late after
  let begun := (quietStart.observed world).progressed world .checkStarted (some "unit") none none
  have early : ∀ moment, moment < 5 → world.interrupts moment = false := by
    intro moment small
    simp [world, quietWorld, Nat.ne_of_lt small]
  have unset : begun.cancelled = false := by
    simp [begun, RunState.progressed, RunState.observed, quietStart, RunState.start,
      early 0 (by decide), early 1 (by decide)]
  obtain ⟨finished, executed, disk, sequence, moment, stillUnset⟩ :=
    @executeCheck_quiet _ late after begun root rfl rfl rfl unset
  refine ⟨finished.progressed world .checkFinished (some "unit") (some .passed) none, ?_, disk,
    sequence, congrArg (· + 1) moment, ?_⟩
  · have announced : onProgress world .checkStarted (some quietCheck.id) none none
        (quietStart.observed world) = .ok () begun := rfl
    have executing : skipOrExecute world quietStore quietInvocation 0 false quietCheck begun =
        .ok quietExecution finished := executed
    have turn : runCheck world quietStore quietInvocation 0 false quietCheck
        (quietStart.observed world) = .ok quietExecution
          (finished.progressed world .checkFinished (some "unit") (some .passed) none) := by
      rw [runCheck, Program.bind_of_ok announced, Program.bind_of_ok executing]
      rfl
    rw [selectedChecks_quietDiscovery, runLoop, Program.bind_of_ok turn]
    rfl
  · simp [RunState.progressed, RunState.observed, stillUnset, moment, early 4 (by decide)]

omit [Sha2] in
theorem receipts_ne {name : String} (nonempty : name ≠ "") :
    joinPath quietStore.receiptsDirectory name ≠ quietStore.receiptsDirectory := by
  intro same
  obtain ⟨separator, joined⟩ := joinPath_toList quietStore.receiptsDirectory
  have sameText := congrArg String.toList same
  rw [joined, List.append_assoc] at sameText
  have rest := List.append_right_eq_self.mp sameText
  exact nonempty (String.toList_injective (List.append_eq_nil_iff.mp rest).2)

omit [Sha2] in
theorem quietDisk_receipts {name : String} (nonempty : name ≠ "") :
    quietDisk.links (joinPath quietStore.receiptsDirectory name) = none := by
  simp [quietDisk, FileSystem.create, receipts_ne nonempty, Disk.empty, FileSystem.empty]

/-- Nothing is stored under the receipts directory. -/
theorem finishedDisk_receipts {name : String} (nonempty : name ≠ "") :
    finishedDisk.links (joinPath quietStore.receiptsDirectory name) = none := by
  have notLog : ∀ sequence stream, joinPath quietStore.receiptsDirectory name ≠
      capturePath quietStore 1 sequence stream := fun sequence stream =>
    joinPath_ne_of_head 'r' 't' rfl rfl (by decide)
  have notBlob : joinPath quietStore.receiptsDirectory name ≠ emptyBlob :=
    Ne.symm (quietStore.blobTarget_ne_elsewhere _ _ rfl (by decide : 'r' ≠ 'b'))
  simp [finishedDisk, openDisk, quietDisk, FileSystem.unlink, FileSystem.link, FileSystem.modify,
    FileSystem.create, Disk.empty, FileSystem.empty, stdoutLog, stderrLog, receipts_ne nonempty,
    notLog, notBlob]

private theorem finishedDisk_directory :
    finishedDisk.lookup quietStore.receiptsDirectory = some .directory := by
  obtain ⟨stdoutName, stderrName, _⟩ := quietNames
  simp [finishedDisk, openDisk, quietDisk, FileSystem.lookup, FileSystem.unlink, FileSystem.link,
    FileSystem.modify, FileSystem.create, Disk.empty, FileSystem.empty, Entry.append,
    Ne.symm stdoutName, Ne.symm stderrName, Ne.symm emptyBlob_ne_receipts]

/-- A store without receipts can take the receipt of a run. -/
theorem storeReady_empty [JsonDiagnostics] {disk : Disk} (payload : ReceiptPayload)
    (directory : disk.lookup quietStore.receiptsDirectory = some .directory)
    (free : ∀ {name : String}, name ≠ "" →
      disk.links (joinPath quietStore.receiptsDirectory name) = none) :
    StoreReady quietStore 1 0 disk (buildReceipt payload) where
  canonical := by decide
  directory
  temporary := ⟨0, by decide, free fun empty => by
    have head := congrArg (fun name => name.toList.head?) empty
    simp [String.toList_append] at head⟩
  vacant := by
    intro path named
    left
    have valid : validateReceiptId (buildReceipt payload).receiptId = .ok () :=
      validateReceiptId_of_digest _
    simp only [StateStore.receiptPath, valid, bind, Except.bind, pure, Except.pure,
      Except.ok.injEq] at named
    rw [← named]
    refine free fun empty => ?_
    have head := congrArg (fun name => name.toList.head?) empty
    simp [buildReceipt, String.toList_append] at head

private theorem storeReady_quiet [JsonDiagnostics] (payload : ReceiptPayload) :
    StoreReady quietStore 1 0 finishedDisk (buildReceipt payload) :=
  storeReady_empty payload finishedDisk_directory finishedDisk_receipts

def quietPayload (late : Bool) : ReceiptPayload :=
  assemblePayload (quietWorld late (unbornRepository [] [])) quietDiscovery quietInvocation
    [quietExecution] emptySource late 1 1 1

end Sample

open Json

section Size

/-- The document of a payload of limited room is short enough to be written. -/
theorem length_document_le [Sha2] {payload : ReceiptPayload}
    (room : 4 * Value.roomMembers .pretty 1 payload.fields ≤ 4000000) :
    (toVecPretty (buildReceipt payload)).length + 1 ≤ maxReceiptBytes :=
  buildReceipt_fits .pretty _ (by decide) ((Value.length_utf8_renderMembers_le 1 _).trans room)

/-- The two sample runs differ in one word of their payloads. -/
theorem length_quietPayload_fields_le [Sha2] (late : Bool) :
    (utf8 (Value.renderMembers .pretty 1 (quietPayload late).fields)).length ≤
      (utf8 (Value.renderMembers .pretty 1 (quietPayload false).fields)).length + 100 := by
  cases late with
  | false => exact Nat.le_add_right _ _
  | true =>
      let before : Members := (quietPayload false).fields.take 10
      let after : Members := (quietPayload false).fields.drop 11
      have passed : (quietPayload false).fields =
          before ++ ([("outcome", serialize (quietPayload false).outcome)] ++ after) := rfl
      have cancelled : (quietPayload true).fields =
          before ++ ([("outcome", .string "cancelled")] ++ after) := rfl
      have word : (utf8 (Value.renderMembers .pretty 1
          [("outcome", .string "cancelled")])).length ≤ 100 := by
        decide
      rw [passed, cancelled]
      simp only [Value.renderMembers_append, utf8_append, List.length_append]
      omega

private theorem length_quietPayload_fields_false :
    (utf8 (Value.renderMembers .pretty 1 (@quietPayload standardSha2 false).fields)).length ≤
      200000 := by
  have room : 4 * Value.roomMembers .pretty 1 (@quietPayload standardSha2 false).fields ≤
      200000 := by
    decide +kernel
  exact (Value.length_utf8_renderMembers_le 1 _).trans room

private theorem length_quiet_document_le (late : Bool) :
    (toVecPretty (@buildReceipt standardSha2 (@quietPayload standardSha2 late))).length + 1 ≤
      maxReceiptBytes :=
  @buildReceipt_fits standardSha2 .pretty _ (by decide)
    ((@length_quietPayload_fields_le standardSha2 late).trans
      ((Nat.add_le_add_right length_quietPayload_fields_false 100).trans (by decide)))

end Size

section Outcome

variable [Sha2] {late : Bool}

private theorem collectEvidence_quiet :
    ∃ collected, collectEvidence (quietWorld late (unbornRepository [] [])) quietStore
        quietDiscovery quietInvocation quietStart = .ok (quietPayload late) collected ∧
      collected.disk = finishedDisk ∧ collected.jsonSequence = 0 ∧
      collected.cancelledAtOutcome = late := by
  let world := quietWorld late (unbornRepository [] [])
  obtain ⟨looped, executed, disk, sequence, moment, unset⟩ :=
    @runLoop_quiet _ late (unbornRepository [] []) rfl
  have seen : (looped.observed world).cancelled = late := by
    simp [RunState.observed, unset, moment, world, quietWorld]
  have collecting := @collectEvidence_eq _ world quietStore quietDiscovery quietInvocation
    quietStart looped _ _ executed identifySource_unborn
  rw [seen] at collecting
  exact ⟨_, collecting, disk, sequence, rfl⟩

private theorem runChecks_quiet [JsonDiagnostics]
    (fits : (toVecPretty (buildReceipt (quietPayload late))).length + 1 ≤ maxReceiptBytes) :
    ∃ final, runChecks (quietWorld late (unbornRepository [] [])) quietStore quietDiscovery
        quietInvocation quietStart = .ok (buildReceipt (quietPayload late)) final ∧
      final.cancelledAtOutcome = late := by
  obtain ⟨collected, collecting, disk, sequence, seen⟩ := @collectEvidence_quiet _ late
  have ready : StoreReady quietStore 1 collected.jsonSequence collected.disk
      (buildReceipt (quietPayload late)) := by
    rw [disk, sequence]
    exact storeReady_quiet _
  have valid : validateReceiptId (buildReceipt (quietPayload late)).receiptId = .ok () :=
    validateReceiptId_of_digest _
  obtain ⟨path, next, written, _, storing, _⟩ := writeReceipt_succeeds valid ready fits
  exact ⟨_, runChecks_eq collecting storing, seen⟩

end Outcome

private theorem quietDiscovery_distinct [Sha2] :
    (quietDiscovery.checks.map fun check => check.id).Nodup :=
  List.nodup_singleton _

theorem quietDiscovery_selectionAgrees [Sha2] : quietDiscovery.SelectionAgrees := by
  intro id
  rw [selectedChecks_quietDiscovery]
  simp [quietDiscovery, quietCheck]

/-! Runs whose first check writes the same chunk to both of its streams -/

section Chunks

/-- What the child writes to each of its streams, which one read takes and one summary holds,
and how it exits. -/
structure Chunk where
  bytes : List UInt8
  status : ExitStatus
  nonempty : bytes ≠ []
  short : bytes.length ≤ summaryBytes

/-- What is recorded of the checks that fail-fast leaves out. -/
def skippedFrom (clock : Nat → UInt64) : Nat → List CheckDefinition → List CheckExecution
  | _, [] => []
  | moment, check :: rest =>
      { check
        startedUnixMs := clock (moment + 1)
        completedUnixMs := clock (moment + 1)
        durationMs := 0
        outcome := .skipped
        exitCode := none
        stdout := none
        stderr := none
        stdoutSummary := ""
        stderrSummary := "skipped after an earlier failure because fail-fast was enabled"
        diagnosticSummariesTruncated := false } :: skippedFrom clock (moment + 3) rest

variable [Sha2] {chunk : Chunk} {clock : Nat → UInt64} {check : CheckDefinition}
  {maxLogBytes : UInt64} {rest : List CheckDefinition} {invocation : Invocation}

namespace Chunk

/-- A thread that has read the chunk. -/
def thread (chunk : Chunk) : CaptureThread where
  written := chunk.bytes
  hashed := chunk.bytes
  bytes := saturatingAdd 0 (chunkBytes chunk.bytes)
  tail := chunk.bytes
  truncated := false
  phase := .reading
  panicked := false

def capture (chunk : Chunk) (path : String) : Capture := chunk.thread.capture path

/-- The budget when each thread has counted and flagged the chunk. -/
def budget (chunk : Chunk) (maxLogBytes : UInt64) : LogBudget :=
  let first := (LogBudget.add ⟨0, false⟩ chunk.bytes).flag maxLogBytes chunk.bytes 0
  (first.add chunk.bytes).flag maxLogBytes chunk.bytes first.totalBytes

/-- The child is gone before the loop looks at the flag. -/
def ended (chunk : Chunk) (setup : SuperviseSetup) : SuperviseState where
  child := .exited chunk.status
  cancelled := setup.cancelled
  expired := false
  stdout := { chunk.thread with phase := .finished (.ok (chunk.capture setup.stdoutPath)) }
  stderr := { chunk.thread with phase := .finished (.ok (chunk.capture setup.stderrPath)) }
  budget := chunk.budget setup.maxLogBytes
  phase := .joining none chunk.status

private theorem flag_step {path : String} {combined : UInt64} {budget : LogBudget} :
    CaptureStep path maxLogBytes
      ({ CaptureThread.initial.absorb chunk.bytes with
        phase := .flagging chunk.bytes combined }, budget)
      (chunk.thread, budget.flag maxLogBytes chunk.bytes combined) := by
  have kept : CaptureThread.keepTail { CaptureThread.initial.absorb chunk.bytes with
      phase := .flagging chunk.bytes combined } chunk.bytes = chunk.thread := by
    simp only [CaptureThread.keepTail, CaptureThread.absorb, CaptureThread.initial,
      List.nil_append]
    exact if_neg (Nat.not_lt.mpr chunk.short)
  rw [← kept]
  exact .flag rfl rfl

theorem ended_reached (chunk : Chunk) (setup : SuperviseSetup) :
    Transition.Run (SuperviseStep setup) setup.initial (chunk.ended setup) := by
  have readable : chunk.bytes.length ≤ bufferBytes := chunk.short.trans (by decide)
  have fits : ([] ++ chunk.bytes).length ≤ maxFileBytes := chunk.short.trans (by decide)
  refine .head (.exit chunk.status rfl) ?_
  refine .head (.stdout (.read chunk.bytes rfl rfl chunk.nonempty readable fits)) ?_
  refine .head (.stdout (.count rfl rfl)) ?_
  refine .head (.stdout flag_step) ?_
  refine .head (.stdout (.endOfStream rfl rfl)) ?_
  refine .head (.stdout (.sync rfl rfl)) ?_
  refine .head (.stderr (.read chunk.bytes rfl rfl chunk.nonempty readable fits)) ?_
  refine .head (.stderr (.count rfl rfl)) ?_
  refine .head (.stderr flag_step) ?_
  refine .head (.stderr (.endOfStream rfl rfl)) ?_
  refine .head (.stderr (.sync rfl rfl)) ?_
  exact .single (.hasExited rfl rfl)

def supervision (chunk : Chunk) (setup : SuperviseSetup) : Supervision setup where
  ended := chunk.ended setup
  reached := chunk.ended_reached setup
  returns := rfl

def here (chunk : Chunk) : CheckWorld := { quietHere with supervise := chunk.supervision }

private theorem here_faultless : chunk.here.Faultless := ⟨rfl, rfl, rfl, rfl, rfl, rfl, rfl⟩

def world (chunk : Chunk) (clock : Nat → UInt64) : World :=
  { quietWorld false (unbornRepository [] []) with clock, check := fun _ => chunk.here }

def blob (chunk : Chunk) : String := quietStore.blobTarget (sha256Bytes chunk.bytes)

/-- Neither the capture files nor the blob are there. -/
structure Fresh (chunk : Chunk) (disk : Disk) : Prop where
  stdout : disk.links stdoutLog = none
  stderr : disk.links stderrLog = none
  blob : disk.links chunk.blob = none

theorem fresh_empty : chunk.Fresh Disk.empty := ⟨rfl, rfl, rfl⟩

theorem fresh_quiet : chunk.Fresh quietDisk := by
  obtain ⟨stdoutName, stderrName, _⟩ := quietNames
  have apart : chunk.blob ≠ quietStore.receiptsDirectory := blobTarget_ne_receipts _
  constructor <;>
    simp [quietDisk, FileSystem.create, stdoutName, stderrName, apart, Disk.empty,
      FileSystem.empty]

/-- A part of the run in which nothing but the blob came to be, and the clock was read so often. -/
structure Settles (chunk : Chunk) (readings : Nat) (before after : RunState) : Prop where
  disk : before.disk.Extends after.disk
  others : ∀ path, path ≠ chunk.blob → after.disk.links path = before.disk.links path
  jsonSequence : after.jsonSequence = before.jsonSequence
  cancelled : after.cancelled = before.cancelled
  moment : after.moment = before.moment + readings

theorem Settles.trans {readings more : Nat} {first second third : RunState}
    (earlier : chunk.Settles readings first second) (later : chunk.Settles more second third) :
    chunk.Settles (readings + more) first third where
  disk := earlier.disk.trans later.disk
  others path different := (later.others path different).trans (earlier.others path different)
  jsonSequence := later.jsonSequence.trans earlier.jsonSequence
  cancelled := later.cancelled.trans earlier.cancelled
  moment := by rw [later.moment, earlier.moment, Nat.add_assoc]

private theorem settles_observed (state : RunState) :
    chunk.Settles 1 state (state.observed (chunk.world clock)) :=
  ⟨.refl, fun _ _ => rfl, rfl, Bool.or_false _, rfl⟩

private theorem settles_progressed (run : RunState) (state : ProgressState)
    (checkId : Option String) (outcome : Option CheckOutcome) : chunk.Settles 1 run
      (run.progressed (chunk.world clock) state checkId outcome none) :=
  ⟨.refl, fun _ _ => rfl, rfl, Bool.or_false _, rfl⟩

/-- What is recorded of the check that writes the chunk. -/
def execution (chunk : Chunk) (clock : Nat → UInt64) (check : CheckDefinition)
    (maxLogBytes : UInt64) (moment : Nat) : CheckExecution where
  check
  startedUnixMs := clock moment
  completedUnixMs := clock (moment + 1)
  durationMs := 1
  outcome := supervisedOutcome maxLogBytes none chunk.status (chunk.budget maxLogBytes)
  exitCode := chunk.status.code
  stdout := some (logReference (chunk.capture stdoutLog))
  stderr := some (logReference (chunk.capture stderrLog))
  stdoutSummary := tailSummary (chunk.capture stdoutLog)
  stderrSummary := tailSummary (chunk.capture stderrLog)
  diagnosticSummariesTruncated := false

theorem executeCheck_eq {before : RunState} (inRoot : check.command.workingDirectory = ".")
    (fresh : chunk.Fresh before.disk) (logs : before.logSequence = 0) : ∃ after,
    executeCheck (chunk.world clock) chunk.here quietStore check maxLogBytes before =
        .ok (chunk.execution clock check maxLogBytes before.moment) after ∧
      chunk.Settles 2 before after := by
  obtain ⟨_, _, distinct⟩ := quietNames
  have apart : chunk.blob ≠ stdoutLog ∧ chunk.blob ≠ stderrLog :=
    ⟨quietStore.blobTarget_ne_temporary _ _, quietStore.blobTarget_ne_temporary _ _⟩
  have resolved : resolveWorkingDirectory chunk.here (chunk.world clock).after.root
      check.command.workingDirectory = .ok "/repo" := by
    have root : (chunk.world clock).after.root = "/repo" := rfl
    rw [root, inRoot]
    rfl
  have free : (before.disk.create stdoutLog (.file [] none)).links stderrLog = none := by
    simp [FileSystem.create, distinct, fresh.stderr]
  have ran := @executeCheck_publishes _ (chunk.world clock) chunk.here quietStore check maxLogBytes
    "/repo" stdoutLog stderrLog before (chunk.supervision _) _ _ _ _ _ here_faultless resolved
    (by rw [logs]; rfl) (by rw [logs]; rfl) fresh.stdout free rfl rfl rfl rfl rfl fresh.blob
  refine ⟨_, ran, (executeCheck_ok ran).advances.disk, ?_, rfl, ?_, rfl⟩
  · intro path different
    have elsewhere : path ≠ quietStore.blobTarget (chunk.capture stdoutLog).digest := different
    by_cases stdout : path = stdoutLog
    · subst stdout
      simp [RunState.settled, RunState.observed, FileSystem.unlink, fresh.stdout]
    · by_cases stderr : path = stderrLog
      · subst stderr
        simp [RunState.settled, RunState.observed, FileSystem.unlink, fresh.stderr]
      · simp [RunState.settled, RunState.observed, RunState.supervisedBy, RunState.started,
          RunState.withSpawned, RunState.withCapture, FileSystem.unlink, FileSystem.link,
          FileSystem.modify, FileSystem.create, stdout, stderr, elsewhere]
  · exact (Bool.or_false _).trans (Bool.or_false _)

private theorem runCheck_skipped (position : Nat) (state : RunState) : ∃ after,
    runCheck (chunk.world clock) quietStore invocation position true check state =
        .ok { check
              startedUnixMs := clock (state.moment + 1)
              completedUnixMs := clock (state.moment + 1)
              durationMs := 0
              outcome := .skipped
              exitCode := none
              stdout := none
              stderr := none
              stdoutSummary := ""
              stderrSummary := "skipped after an earlier failure because fail-fast was enabled"
              diagnosticSummariesTruncated := false } after ∧
      chunk.Settles 3 state after := by
  refine ⟨_, rfl, ?_⟩
  exact ((settles_progressed state .checkStarted (some check.id) none).trans
    (settles_observed _)).trans (settles_progressed _ .checkFinished (some check.id) _)

private theorem runLoop_skipped (failFast : invocation.failFast = true) (position : Nat)
    (state : RunState) : ∃ looped,
    runLoop (chunk.world clock) quietStore invocation position true rest state =
        .ok (skippedFrom clock state.moment rest) looped ∧
      chunk.Settles (3 * rest.length) state looped := by
  induction rest generalizing position state with
  | nil => exact ⟨state, rfl, .refl, fun _ _ => rfl, rfl, rfl, rfl⟩
  | cons check others ih =>
      obtain ⟨between, skipped, first⟩ :=
        @runCheck_skipped _ chunk clock check invocation position state
      obtain ⟨looped, looping, later⟩ := ih (position + 1) between
      refine ⟨looped, ?_, ?_⟩
      · have stop : (invocation.failFast && CheckOutcome.skipped != .passed) = true := by
          rw [failFast]
          rfl
        rw [runLoop, Program.bind_of_ok skipped]
        simp only [stop]
        rw [Program.bind_of_ok looping, first.moment]
        rfl
      · have whole := first.trans later
        rwa [Nat.add_comm, ← Nat.mul_succ] at whole

/-- The check that writes the chunk is executed, and the others are left out after it. -/
theorem runLoop_eq {state : RunState} (inRoot : check.command.workingDirectory = ".")
    (fresh : chunk.Fresh state.disk) (logs : state.logSequence = 0)
    (stops : rest = [] ∨ invocation.failFast = true ∧
      supervisedOutcome invocation.limits.maxLogBytesPerCheck none chunk.status
        (chunk.budget invocation.limits.maxLogBytesPerCheck) ≠ .passed) : ∃ looped,
    runLoop (chunk.world clock) quietStore invocation 0 false (check :: rest) state =
        .ok (chunk.execution clock check invocation.limits.maxLogBytesPerCheck (state.moment + 1) ::
          skippedFrom clock (state.moment + 4) rest) looped ∧
      chunk.Settles (4 + 3 * rest.length) state looped := by
  let announced := state.progressed (chunk.world clock) .checkStarted (some check.id) none none
  obtain ⟨executed, ran, settles⟩ := @executeCheck_eq _ chunk clock check
    invocation.limits.maxLogBytesPerCheck announced inRoot fresh logs
  let done := chunk.execution clock check invocation.limits.maxLogBytesPerCheck announced.moment
  let finished := executed.progressed (chunk.world clock) .checkFinished (some check.id)
    (some done.outcome) none
  have turn : runCheck (chunk.world clock) quietStore invocation 0 false check state =
      .ok done finished := by
    have announces : onProgress (chunk.world clock) .checkStarted (some check.id) none none state =
        .ok () announced := rfl
    have executes : skipOrExecute (chunk.world clock) quietStore invocation 0 false check
        announced = .ok done executed := ran
    rw [runCheck, Program.bind_of_ok announces, Program.bind_of_ok executes]
    rfl
  have first : chunk.Settles 4 state finished :=
    ((settles_progressed state .checkStarted (some check.id) none).trans settles).trans
      (settles_progressed executed .checkFinished (some check.id) (some done.outcome))
  rcases stops with rfl | ⟨failFast, fails⟩
  · refine ⟨finished, ?_, first⟩
    rw [runLoop, Program.bind_of_ok turn]
    rfl
  · obtain ⟨looped, looping, later⟩ :=
      @runLoop_skipped _ chunk clock rest invocation failFast 1 finished
    refine ⟨looped, ?_, first.trans later⟩
    have stop : (invocation.failFast && done.outcome != .passed) = true := by
      rw [failFast]
      exact bne_iff_ne.mpr fails
    rw [runLoop, Program.bind_of_ok turn]
    simp only [stop]
    rw [Program.bind_of_ok looping, first.moment]
    rfl

/-- The payload of a run whose first selected check is the one that writes the chunk. -/
def payload (chunk : Chunk) (clock : Nat → UInt64) (discovery : DiscoveryReport)
    (invocation : Invocation) (check : CheckDefinition) (rest : List CheckDefinition) :
    ReceiptPayload :=
  assemblePayload (chunk.world clock) discovery invocation
    (chunk.execution clock check invocation.limits.maxLogBytesPerCheck 2 ::
      skippedFrom clock 5 rest)
    emptySource false (clock 0) (clock (6 + 3 * rest.length)) 1

theorem runChecks_returns [JsonDiagnostics] {discovery : DiscoveryReport} {disk : Disk}
    {payload : ReceiptPayload}
    (selected : selectedChecks discovery = check :: rest)
    (inRoot : check.command.workingDirectory = ".")
    (stops : rest = [] ∨ invocation.failFast = true ∧
      supervisedOutcome invocation.limits.maxLogBytesPerCheck none chunk.status
        (chunk.budget invocation.limits.maxLogBytesPerCheck) ≠ .passed)
    (fresh : chunk.Fresh disk)
    (directory : disk.lookup quietStore.receiptsDirectory = some .directory)
    (free : ∀ {name : String}, name ≠ "" →
      disk.links (joinPath quietStore.receiptsDirectory name) = none)
    (collects : chunk.payload clock discovery invocation check rest = payload)
    (fits : (toVecPretty (buildReceipt payload)).length + 1 ≤ maxReceiptBytes) :
    ∃ final, runChecks (chunk.world clock) quietStore discovery invocation
        (.start disk 0 0 false) = .ok (buildReceipt payload) final ∧
      final.cancelled = false ∧ final.cancelledAtOutcome = false ∧ disk.Extends final.disk := by
  subst collects
  let world := chunk.world clock
  have begun := @settles_observed _ chunk clock (.start disk 0 0 false)
  obtain ⟨looped, looping, later⟩ := @runLoop_eq _ chunk clock check rest invocation
    (RunState.observed world (.start disk 0 0 false)) inRoot fresh rfl stops
  rw [← selected] at looping
  have whole := begun.trans later
  have unset : (looped.observed world).cancelled = false :=
    (Bool.or_false _).trans whole.cancelled
  have moment : looped.moment = 5 + 3 * rest.length := by
    rw [whole.moment]
    show 0 + (1 + (4 + 3 * rest.length)) = _
    omega
  have collecting := @collectEvidence_eq _ world quietStore discovery invocation
    (.start disk 0 0 false) looped _ _ looping identifySource_unborn
  rw [unset, moment, show 5 + 3 * rest.length + 1 = 6 + 3 * rest.length by omega] at collecting
  have ready : StoreReady quietStore 1 looped.jsonSequence looped.disk
      (buildReceipt (chunk.payload clock discovery invocation check rest)) := by
    rw [whole.jsonSequence]
    refine storeReady_empty _ (whole.disk.lookup directory) ?_
    intro name nonempty
    have elsewhere : joinPath quietStore.receiptsDirectory name ≠ chunk.blob :=
      Ne.symm (quietStore.blobTarget_ne_elsewhere _ _ rfl (by decide : 'r' ≠ 'b'))
    exact (whole.others _ elsewhere).trans (free nonempty)
  have valid : validateReceiptId
      (buildReceipt (chunk.payload clock discovery invocation check rest)).receiptId = .ok () :=
    validateReceiptId_of_digest _
  obtain ⟨path, next, written, _, storing, _⟩ := writeReceipt_succeeds valid ready fits
  have grown := @writeReceipt_extends looped.disk .none _ quietStore 1 looped.jsonSequence
    (buildReceipt (chunk.payload clock discovery invocation check rest))
  rw [storing] at grown
  exact ⟨_, runChecks_eq collecting storing,
    (Bool.or_false _).trans ((Bool.or_false _).trans unset), rfl, whole.disk.trans grown⟩

end Chunk

end Chunks

/-- One byte, and success. -/
def passing : Chunk := ⟨[120], ⟨some 0⟩, by decide, by decide⟩

section Verdict

attribute [local instance] standardSha2 endOfInputDiagnostics

/-- A token set after the last check is recorded as a cancelled outcome that no
execution accounts for. -/
theorem lateCancellation_receipt_does_not_verify :
    (quietDiscovery.checks.map fun check => check.id).Nodup ∧ quietDiscovery.SelectionAgrees ∧
    (quietWorld true (unbornRepository [] [])).ClockNeverSteppedBack ∧
    ∃ final, runChecks (quietWorld true (unbornRepository [] [])) quietStore quietDiscovery
        quietInvocation quietStart = .ok (buildReceipt (quietPayload true)) final ∧
      ¬Verifies quietStore final.disk (buildReceipt (quietPayload true)) := by
  obtain ⟨final, ran, _⟩ := runChecks_quiet (length_quiet_document_le true)
  refine ⟨quietDiscovery_distinct, quietDiscovery_selectionAgrees, fun _ => UInt64.le_refl _, final,
    ran, fun valid => ?_⟩
  have outcome := (verifies_iff_sound.mp valid).payload.outcome
  have produced : (buildReceipt (quietPayload true)).payload.outcome = .cancelled := rfl
  have recomputed : expectedOutcome (buildReceipt (quietPayload true)).payload = .passed := by
    simp [buildReceipt, quietPayload, assemblePayload, expectedOutcome,
      quietExecution, quietDiscovery]
  rw [produced, recomputed] at outcome
  cases outcome

theorem runChecks_verifies_iff_quiet :
    ∃ final, runChecks (quietWorld true (unbornRepository [] [])) quietStore quietDiscovery
        quietInvocation quietStart = .ok (buildReceipt (quietPayload true)) final ∧
      (Verifies quietStore final.disk (buildReceipt (quietPayload true)) ↔
        quietDiscovery.SelectionAgrees ∧ (final.cancelledAtOutcome = true →
          ∃ entry ∈ final.supervised, entry.2.StoppedBy .cancellation)) := by
  obtain ⟨final, ran, _⟩ := runChecks_quiet (length_quiet_document_le true)
  exact ⟨final, ran, runChecks_verifies_iff quietDisk 0 0 false quietDiscovery_distinct
    (fun _ => UInt64.le_refl _) ran⟩

end Verdict

section Passed

variable [Sha2] [JsonDiagnostics] {world : World} {store : StateStore} {discovery : DiscoveryReport}
  {invocation : Invocation} {start final : RunState}

/-! What does a pass say? -/

/-- A check that was started, exited by itself with success and stayed within the
log limit, and both logs of which are in the store. -/
structure PassedCheck (store : StateStore) (maxLogBytes : UInt64) (final : RunState)
    (execution : CheckExecution) : Prop where
  outcome : execution.outcome = .passed
  exitCode : execution.exitCode = some 0
  spawned : ∃ process ∈ final.spawned, process.check = execution.check
  exited : ∃ entry ∈ final.supervised, entry.1 = execution.check ∧
    entry.2.child = .exited ⟨some 0⟩ ∧ ∀ reason, ¬entry.2.StoppedBy reason
  logs : ∃ stdout stderr, execution.stdout = some stdout ∧ execution.stderr = some stderr ∧
    stdout.bytes.toNat + stderr.bytes.toNat ≤ maxLogBytes.toNat ∧
    Stored store final.disk stdout ∧ Stored store final.disk stderr

omit [Sha2] [JsonDiagnostics] in
theorem supervisedOutcome_eq_passed_iff {maxLogBytes : UInt64} {forced : Option StopReason}
    {status : ExitStatus} {budget : LogBudget} :
    supervisedOutcome maxLogBytes forced status budget = .passed ↔
      forced = none ∧ budget.totalBytes ≤ maxLogBytes ∧ status.code = some 0 := by
  cases forced with
  | some reason => cases reason <;> simp [supervisedOutcome, StopReason.outcome]
  | none =>
      simp only [supervisedOutcome, true_and, ExitStatus.success]
      by_cases within : budget.totalBytes ≤ maxLogBytes
      · by_cases succeeded : status.code = some 0 <;>
          simp [within, UInt64.not_lt.mpr within, succeeded]
      · simp [within, UInt64.not_le.mp within]

omit [JsonDiagnostics] in
private theorem passedCheck_of_recorded {maxLogBytes : UInt64} {execution : CheckExecution}
    {entries : List (CheckDefinition × SuperviseState)}
    (recorded : Recorded store maxLogBytes final execution entries)
    (logged : ∀ entry ∈ entries, entry ∈ final.supervised) (passed : execution.outcome = .passed) :
    PassedCheck store maxLogBytes final execution := by
  cases recorded with
  | skipped outcome stdout stderr => simp [outcome] at passed
  | spawnFailed outcome stdout stderr => simp [outcome] at passed
  | @supervised _ ended _ status out err known limit spawned outcome code stdout stderr
      stdoutStored stderrStored set =>
      obtain ⟨rfl, within, succeeded⟩ :=
        supervisedOutcome_eq_passed_iff.mp (outcome.symm.trans passed)
      obtain rfl : status = ⟨some 0⟩ := by
        cases status
        exact congrArg ExitStatus.mk succeeded
      refine ⟨passed, code.trans succeeded, spawned, ⟨_, logged _ (List.mem_singleton_self _), rfl,
        known.exited rfl, ?_⟩, _, _, stdout, stderr, ?_, stdoutStored, stderrStored⟩
      · intro reason stopping
        obtain ⟨other, stopped⟩ := stopping
        rw [known.phase] at stopped
        cases stopped
      · rw [logReference, logReference, ← known.total]
        exact UInt64.le_iff_toNat_le.mp within

omit [JsonDiagnostics] in
private theorem passedCheck_of_forall {maxLogBytes : UInt64} {executions : List CheckExecution}
    {entries : List (List (CheckDefinition × SuperviseState))}
    (recorded : List.Forall₂ (Recorded store maxLogBytes final) executions entries)
    (logged : ∀ entry ∈ entries.flatten, entry ∈ final.supervised) {execution : CheckExecution}
    (member : execution ∈ executions) (passed : execution.outcome = .passed) :
    PassedCheck store maxLogBytes final execution := by
  induction recorded with
  | nil => cases member
  | cons first _ ih =>
      simp only [List.flatten_cons, List.mem_append] at logged
      rcases List.mem_cons.mp member with rfl | member
      · exact passedCheck_of_recorded first (fun entry own => logged entry (.inl own)) passed
      · exact ih (fun entry other => logged entry (.inr other)) member

omit [Sha2] [JsonDiagnostics] in
private theorem receiptOutcome_eq_passed_iff {checks : List CheckExecution}
    {coverageGaps : List String} {cancelled sourceUnchanged : Bool} :
    receiptOutcome checks coverageGaps cancelled sourceUnchanged = .passed ↔
      cancelled = false ∧ sourceUnchanged = true ∧ checks ≠ [] ∧ coverageGaps = [] ∧
        ∀ check ∈ checks, check.outcome = .passed := by
  unfold receiptOutcome
  constructor
  · intro passed
    split at passed
    · cases passed
    · rename_i notCancelled
      split at passed
      · cases passed
      · rename_i notFailed
        split at passed
        · cases passed
        · rename_i complete
          simp only [Bool.or_eq_true, not_or, Bool.not_eq_true, Bool.not_eq_false',
            List.any_eq_false, bne_iff_ne, ne_eq, not_not, List.isEmpty_iff]
            at notCancelled notFailed complete
          exact ⟨notCancelled.1, by simpa using notFailed.1, complete.1, by simpa using complete.2,
            notFailed.2⟩
  · intro conditions
    obtain ⟨rfl, rfl, nonempty, rfl, allPassed⟩ := conditions
    have noneCancelled : (checks.any fun check => check.outcome == .cancelled) = false := by
      rw [List.any_eq_false]
      intro check member
      simp [allPassed check member]
    have noneFailed : (checks.any fun check => check.outcome != .passed) = false := by
      rw [List.any_eq_false]
      intro check member
      simp [allPassed check member]
    simp [noneCancelled, noneFailed, nonempty]

/-- A receipt that says passed tells the truth about its run. -/
theorem runChecks_passed_sound (disk : Disk) (logSequence jsonSequence : Nat) (cancelled : Bool)
    {receipt : Receipt}
    (ran : runChecks world store discovery invocation
      (.start disk logSequence jsonSequence cancelled) = .ok receipt final)
    (passed : receipt.payload.outcome = .passed) :
    selectedChecks discovery ≠ [] ∧
      (receipt.payload.checks.map fun execution => execution.check) = selectedChecks discovery ∧
      (∀ execution ∈ receipt.payload.checks,
        PassedCheck store invocation.limits.maxLogBytesPerCheck final execution) ∧
      receipt.payload.coverageGaps = [] ∧ discovery.coverageGaps = [] ∧
      identifySource world.after = .ok discovery.source ∧
      receipt.payload.sourceAfter = discovery.source ∧
      final.cancelledAtOutcome = false := by
  obtain ⟨_, source, ⟨_, _, _, _, assembled⟩, looped⟩ := runChecks_ok ran
  obtain ⟨entries, supervised, recorded⟩ := looped.recorded
  have outcome : receiptOutcome receipt.payload.checks discovery.coverageGaps
      final.cancelledAtOutcome (decide (receipt.payload.sourceAfter = discovery.source)) =
        .passed := by
    rw [← passed, assembled]
    rfl
  obtain ⟨notCancelled, unchanged, nonempty, covered, allPassed⟩ :=
    receiptOutcome_eq_passed_iff.mp outcome
  have gaps : receipt.payload.coverageGaps = discovery.coverageGaps := by rw [assembled]; rfl
  have same : receipt.payload.sourceAfter = discovery.source := of_decide_eq_true unchanged
  refine ⟨?_, looped.definitions, ?_, gaps.trans covered, covered, source.trans (congrArg _ same),
    same, notCancelled⟩
  · rw [← looped.definitions]
    simpa using nonempty
  · intro execution member
    refine passedCheck_of_forall recorded ?_ member (allPassed execution member)
    intro entry logged
    rw [supervised]
    exact List.mem_append_right _ logged

end Passed

section Passed

attribute [local instance] standardSha2 endOfInputDiagnostics

theorem runChecks_passed_sound_quiet :
    ∃ final, runChecks (quietWorld false (unbornRepository [] [])) quietStore quietDiscovery
        quietInvocation quietStart = .ok (buildReceipt (quietPayload false)) final ∧
      ∀ execution ∈ (quietPayload false).checks, PassedCheck quietStore 1000 final execution := by
  obtain ⟨final, ran, _⟩ := runChecks_quiet (length_quiet_document_le false)
  have passed : (buildReceipt (quietPayload false)).payload.outcome = .passed := by
    simp [buildReceipt, quietPayload, assemblePayload, receiptOutcome,
      quietExecution, quietDiscovery]
  obtain ⟨_, _, sound, _⟩ := runChecks_passed_sound quietDisk 0 0 false ran passed
  exact ⟨final, ran, sound⟩

end Passed

section Mutation

variable [Sha2] [JsonDiagnostics] {world : World} {store : StateStore} {discovery : DiscoveryReport}
  {invocation : Invocation} {start final : RunState}

/-! Is a change of the workspace reported? -/

/-- Git answers every question the identification of a source asks, and lists
the given files. -/
structure Repository.GitAnswers (repository : Repository) (files : List String) : Prop where
  commit : ∃ commit changed,
    repository.optionalText ["rev-parse", "--verify", "HEAD"] = .ok commit ∧
      repository.changedPaths commit.isSome = .ok changed
  reference : ∃ reference,
    repository.optionalText ["symbolic-ref", "--quiet", "--short", "HEAD"] = .ok reference
  status : ∃ status,
    repository.bytes ["status", "--porcelain=v1", "-z", "--untracked-files=all"] = .ok status
  files : repository.workspaceFiles = .ok files

/-- A listed path that is no longer there. -/
def Repository.Gone (repository : Repository) (relative : String) : Prop :=
  ∃ error, repository.inspect (joinPath repository.root relative) = .error error

omit [JsonDiagnostics] in
/-- With git answering, a source is identified exactly when every listed path can be hashed. -/
theorem identifySource_ok_iff {repository : Repository} {files : List String}
    (answers : repository.GitAnswers files) :
    (∃ source, identifySource repository = .ok source) ↔
      ∀ relative ∈ files, repository.Hashable relative := by
  obtain ⟨⟨commit, changed, committed, changes⟩, ⟨reference, referred⟩, ⟨status, known⟩, listed⟩ :=
    answers
  rw [← snapshot_ok_iff]
  simp only [identifySource, committed, changes, referred, known, listed, hashWorkspace, bind,
    Except.bind, pure, Except.pure]
  cases repository.snapshot files <;> simp

/-- The receipt can be read back from the store under its identifier. -/
def IsStored (store : StateStore) (disk : Disk) (receipt : Receipt) : Prop :=
  ∃ path stored, store.receiptPath receipt.receiptId = .ok path ∧
    readReceiptFile disk path = .ok stored ∧ stored.canonicalDigest = receipt.canonicalDigest

/-- A workspace that has another identity than before the run, or none, is reported as
changed. -/
def ReportsMutation (after : Repository) (discovery : DiscoveryReport) (receipt : Receipt) : Prop :=
  identifySource after ≠ .ok discovery.source →
    receipt.payload.sourceUnchanged = false ∧
      (receipt.payload.outcome = .failed ∨ receipt.payload.outcome = .cancelled)

omit [Sha2] [JsonDiagnostics] in
private theorem receiptOutcome_of_changed {checks : List CheckExecution}
    {coverageGaps : List String} {cancelled : Bool} :
    receiptOutcome checks coverageGaps cancelled false = .failed ∨
      receiptOutcome checks coverageGaps cancelled false = .cancelled := by
  unfold receiptOutcome
  split
  · exact .inr rfl
  · exact .inl rfl

/-- When all selected checks have run, git answers and the store can take the
receipt, the run ends with a stored receipt that reports every change exactly
when every path git lists can be hashed. -/
theorem runChecks_reports_mutation_iff {start looped : RunState}
    {executions : List CheckExecution} {files : List String}
    (executed : runLoop world store invocation 0 false (selectedChecks discovery)
      (start.observed world) = .ok executions looped)
    (answers : world.after.GitAnswers files) (faultless : world.publish = .none)
    (ready : ∀ payload collected,
      collectEvidence world store discovery invocation start = .ok payload collected →
      (toVecPretty (buildReceipt payload)).length + 1 ≤ maxReceiptBytes ∧
        StoreReady store world.process collected.jsonSequence collected.disk
          (buildReceipt payload)) :
    (∃ receipt final, runChecks world store discovery invocation start = .ok receipt final ∧
      IsStored store final.disk receipt ∧ ReportsMutation world.after discovery receipt) ↔
    ∀ relative ∈ files, world.after.Hashable relative := by
  rw [← identifySource_ok_iff answers]
  constructor
  · intro returned
    obtain ⟨receipt, final, ran, _⟩ := returned
    exact ⟨_, (runChecks_ok ran).2.source⟩
  · intro identifies
    obtain ⟨source, identified⟩ := identifies
    obtain ⟨payload, collected, collecting⟩ : ∃ payload collected,
        collectEvidence world store discovery invocation start = .ok payload collected :=
      ⟨_, _, collectEvidence_eq executed identified⟩
    obtain ⟨fits, able⟩ := ready payload collected collecting
    have valid : validateReceiptId (buildReceipt payload).receiptId = .ok () :=
      validateReceiptId_of_digest _
    obtain ⟨path, next, disk, stored, written, named, read, same⟩ :=
      writeReceipt_succeeds valid able fits
    rw [← faultless] at written
    refine ⟨buildReceipt payload, _, runChecks_eq collecting written,
      ⟨path, stored, named, read, same⟩, ?_⟩
    · intro changed
      have result := collectEvidence_ok collecting
      obtain ⟨_, _, _, _, assembled⟩ := result.payload
      have different : decide (payload.sourceAfter = discovery.source) = false :=
        decide_eq_false fun same => changed (same ▸ result.source)
      rw [buildReceipt, assembled]
      simp only [assemblePayload, different]
      exact ⟨trivial, receiptOutcome_of_changed⟩

end Mutation

section Mutation

attribute [local instance] standardSha2 endOfInputDiagnostics

/-- A committed file, with what git says of the worktree. -/
def committedFile (content status changed : List UInt8) : Repository where
  root := "/repo"
  git _ arguments :=
    .ok {
      success := true
      status := "exit status: 0"
      stdout :=
        if arguments.head? = some "rev-parse" then utf8 "c0ffee\n".toList
        else if arguments.head? = some "symbolic-ref" then utf8 "main\n".toList
        else if arguments.head? = some "status" then status
        else if arguments = ["diff", "--name-only", "-z", "HEAD"] then changed
        else if arguments.contains "--cached" && arguments.head? = some "ls-files" then
          utf8 "tracked.txt\x00".toList
        else []
      stderr := [] }
  inspect _ := .ok (.file (.ok content) 0o644)

def committedSource (content status : List UInt8) (changedPaths : List String) :
    SourceIdentity where
  gitCommit := some "c0ffee"
  gitRef := some "main"
  dirty := !status.isEmpty
  statusSha256 := sha256Bytes status
  workspaceSha256 := sha256Bytes (workspaceStream [("tracked.txt", .file content false)])
  workspaceFileCount := 1
  changedPaths

def uneditedFile : Repository := committedFile [97] [] []

def editedFile : Repository :=
  committedFile [98] (utf8 " M tracked.txt\x00".toList) (utf8 "tracked.txt\x00".toList)

def editedSource : SourceIdentity :=
  committedSource [98] (utf8 " M tracked.txt\x00".toList) ["tracked.txt"]

/-- The report of the discovery before the file was edited. -/
def uneditedDiscovery : DiscoveryReport := { quietDiscovery with source := committedSource [97] [] [] }

private theorem identifySource_unedited :
    identifySource uneditedFile = .ok uneditedDiscovery.source := rfl

private theorem identifySource_edited : identifySource editedFile = .ok editedSource := rfl

def editedPayload : ReceiptPayload :=
  assemblePayload (quietWorld false editedFile) uneditedDiscovery quietInvocation [quietExecution]
    editedSource false 1 1 1

private theorem length_editedPayload_fields :
    (utf8 (Value.renderMembers .pretty 1 editedPayload.fields)).length ≤ 200000 := by
  have room : 4 * Value.roomMembers .pretty 1 editedPayload.fields ≤ 200000 := by decide +kernel
  exact (Value.length_utf8_renderMembers_le 1 _).trans room

/-- The check has edited a committed file, and its run is stored as one that failed. -/
theorem runChecks_reports_mutation_iff_edited :
    identifySource uneditedFile = .ok uneditedDiscovery.source ∧
      ∃ receipt final, runChecks (quietWorld false editedFile) quietStore uneditedDiscovery
          quietInvocation quietStart = .ok receipt final ∧
        IsStored quietStore final.disk receipt ∧ receipt.payload.sourceUnchanged = false ∧
        (receipt.payload.outcome = .failed ∨ receipt.payload.outcome = .cancelled) := by
  let world := quietWorld false editedFile
  obtain ⟨looped, ran, disk, sequence, moment, unset⟩ := @runLoop_quiet _ false editedFile rfl
  have executed : runLoop world quietStore quietInvocation 0 false
      (selectedChecks uneditedDiscovery) (quietStart.observed world) =
        .ok [quietExecution] looped := ran
  have seen : (looped.observed world).cancelled = false := by
    simp [RunState.observed, unset, moment, world, quietWorld]
  have collected := collectEvidence_eq executed identifySource_edited
  rw [seen] at collected
  have answers : editedFile.GitAnswers ["tracked.txt"] :=
    ⟨⟨some "c0ffee", ["tracked.txt"], rfl, rfl⟩, ⟨some "main", rfl⟩, ⟨_, rfl⟩, rfl⟩
  have hashable : editedFile.Hashable "tracked.txt" := ⟨.file [98] false, rfl⟩
  have ready : ∀ payload reached,
      collectEvidence world quietStore uneditedDiscovery quietInvocation quietStart =
        .ok payload reached →
      (toVecPretty (buildReceipt payload)).length + 1 ≤ maxReceiptBytes ∧
        StoreReady quietStore 1 reached.jsonSequence reached.disk (buildReceipt payload) := by
    intro payload reached collecting
    rw [collected] at collecting
    cases collecting
    refine ⟨buildReceipt_fits .pretty editedPayload (by decide)
      (length_editedPayload_fields.trans (by decide)), ?_⟩
    show StoreReady quietStore 1 looped.jsonSequence looped.disk (buildReceipt editedPayload)
    rw [disk, sequence]
    exact storeReady_quiet _
  obtain ⟨receipt, final, returned, stored, reports⟩ :=
    (runChecks_reports_mutation_iff executed answers rfl ready).mpr
      (List.forall_mem_singleton.mpr hashable)
  refine ⟨identifySource_unedited, receipt, final, returned, stored, reports fun same => ?_⟩
  have identified : identifySource world.after = .ok editedSource := identifySource_edited
  rw [identified] at same
  exact absurd (congrArg SourceIdentity.dirty (Except.ok.inj same)) (by decide)

/-- A check deletes a tracked file, and the run is lost after all checks have passed. -/
theorem deletedFile_loses_run :
    ∃ looped, runLoop (quietWorld false lostFile) quietStore quietInvocation 0 false
        (selectedChecks quietDiscovery) (quietStart.observed (quietWorld false lostFile)) =
          .ok [quietExecution] looped ∧
      lostFile.GitAnswers ["tracked.txt"] ∧ lostFile.Gone "tracked.txt" ∧
      ∃ final, runChecks (quietWorld false lostFile) quietStore quietDiscovery quietInvocation
        quietStart =
          .error (.io "inspect workspace path" "/repo/tracked.txt" missingFile) final := by
  obtain ⟨looped, executed, _⟩ := @runLoop_quiet _ false lostFile rfl
  have listed : lostFile.workspaceFiles = .ok ["tracked.txt"] := rfl
  have gone : lostFile.inspect (joinPath lostFile.root "tracked.txt") = .error missingFile := rfl
  have unidentified : identifySource lostFile =
      .error (.io "inspect workspace path" "/repo/tracked.txt" missingFile) := rfl
  exact ⟨looped, executed,
    ⟨⟨none, ["tracked.txt"], rfl, rfl⟩, ⟨some "main", rfl⟩, ⟨_, rfl⟩, listed⟩, ⟨_, gone⟩, looped,
    runChecks_of_unidentified executed unidentified⟩

end Mutation

end TaskAttest
