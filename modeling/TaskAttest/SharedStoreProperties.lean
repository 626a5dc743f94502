import TaskAttest.SharedCallProperties

/-! A store that any number of runs share, each at a point of its own: what is in it grows
only, by blobs that are what their names say and by receipts whose logs are there. -/

set_option autoImplicit false

namespace TaskAttest

open FileSystem Interleaving Program

/-! The files of one check -/

/-- The two files that a check writes its streams to, before it starts. -/
structure CaptureFiles (store : StateStore) (process : Nat) (paths : String × String)
    (disk : Disk) : Prop where
  stdout : store.Owns process paths.1
  stderr : store.Owns process paths.2
  distinct : paths.1 ≠ paths.2
  stdoutFile : disk.Sole paths.1 (.file [] none)
  stderrFile : disk.Sole paths.2 (.file [] none)

section Check

variable [Sha2] {world : World} {here : CheckWorld} {store : StateStore} {process : Nat}
  {check : CheckDefinition} {paths : String × String}

/-- The file of a capture holds what was hashed. -/
def Disk.HoldsCapture (disk : Disk) (capture : Capture) (content : List UInt8) : Prop :=
  disk.Sole capture.path (.file content none) ∧ sha256Bytes content = capture.digest ∧
    content.length = capture.bytes.toNat

omit [Sha2] in
/-- The two streams have files of different names. -/
theorem capturePath_distinct (first second : Nat) :
    capturePath store process first "stdout" ≠ capturePath store process second "stderr" := by
  intro same
  have fields := congrArg String.toList (joinPath_injective _ same)
  simp only [String.toList_append, List.append_assoc] at fields
  have dash := digits_plain (show '-'.isDigit = false by decide)
  have numbers := (field_unique (dash process) (dash process) fields).2
  have streams := (field_unique (dash first) (dash second) numbers).2
  exact absurd streams (by decide)

private theorem captureFiles_stable :
    Stable (RunState.sharing.Changes (store.Others process)) fun state =>
      CaptureFiles store process paths state.disk := by
  apply stable_others
  intro before after step files
  exact { files with
    stdoutFile := step.sole (fun foreign => foreign.1 files.stdout) files.stdoutFile
    stderrFile := step.sole (fun foreign => foreign.1 files.stderr) files.stderrFile }

private theorem createCaptureFiles_keeps :
    store.Keeps world.process (store.Owns world.process) (fun _ => True)
      (Shared.createCaptureFiles world here store)
      fun paths state => CaptureFiles store world.process paths state.disk := by
  have creates (stream : String) (faults : Nat → Option IoError) {names : String → Prop} :
      store.Keeps world.process names (fun _ => True)
        (Shared.createFile .log (store.captureAllocation world.process stream) faults
          allocationAttempts)
        fun path state => (∃ number, path = capturePath store world.process number stream) ∧
          state.disk.Sole path (.file [] none) :=
    createFile_keeps (fun number => .capture number stream) allocationAttempts
  apply Guarantees.bind (creates "stdout" here.stdoutFaults)
  intro stdoutPath
  have named (state : RunState)
      (known : (∃ number, stdoutPath = capturePath store world.process number "stdout") ∧
        state.disk.Sole stdoutPath (.file [] none)) :
      ∃ number, stdoutPath = capturePath store world.process number "stdout" := known.1
  apply Guarantees.assuming named
  intro stdoutNamed
  have stdoutOwned : store.Owns world.process stdoutPath := by
    obtain ⟨number, rfl⟩ := stdoutNamed
    exact .capture number "stdout"
  have second : store.Keeps world.process (· = stdoutPath)
      (fun state => state.disk.Sole stdoutPath (.file [] none))
      ((Shared.createFile .log (store.captureAllocation world.process "stderr")
        here.stderrFaults allocationAttempts).onFailure
        (discardFile here.removeStdout stdoutPath))
      fun path state => ((∃ number, path = capturePath store world.process number "stderr") ∧
        state.disk.Sole path (.file [] none)) ∧ state.disk.Sole stdoutPath (.file [] none) := by
    apply Guarantees.onFailure (keeps_file stdoutOwned (creates "stderr" here.stderrFaults))
    · exact fun _ => .const _ _
    · exact fun _ state _ => ⟨discard_acts here.removeStdout rfl, trivial⟩
  apply Guarantees.bind ((keeps_mono second fun path same => by
    rw [same]
    exact stdoutOwned).weaken (fun _ known => known.2) (fun _ _ holds => holds)
      fun _ _ holds => holds)
  intro stderrPath
  apply Guarantees.pure
  · exact captureFiles_stable
  · intro state known
    obtain ⟨⟨⟨number, shape⟩, stderrFile⟩, stdoutFile⟩ := known
    obtain ⟨first, stdoutShape⟩ := stdoutNamed
    refine ⟨stdoutOwned, ?_, ?_, stdoutFile, stderrFile⟩
    · rw [shape]
      exact .capture number "stderr"
    · rw [shape, stdoutShape]
      exact capturePath_distinct first number

/-- A process that fails to start a child removes its own files. -/
theorem discardCaptures_acts {disk : Disk} (files : CaptureFiles store process paths disk) :
    Acts store.commons (store.Owns process) disk
      ((disk.discard here.removeStdout paths.1).discard here.removeStderr paths.2) :=
  (discard_acts here.removeStdout files.stdout).trans (fun _ owned => owned.not_common)
    (discard_acts here.removeStderr files.stderr)

private theorem spawnChild_keeps {workingDirectory : String} :
    store.Keeps world.process (store.Owns world.process)
      (fun state => CaptureFiles store world.process paths state.disk)
      (.perform (spawnChild world here check workingDirectory paths))
      fun _ state => CaptureFiles store world.process paths state.disk := by
  apply Guarantees.perform
  · exact captureFiles_stable
  · exact fun _ => captureFiles_stable
  · exact fun _ => .const _ _
  · intro state files
    cases hasStdout : here.hasStdout <;> cases hasStderr : here.hasStderr <;>
      simp only [RunState.sharing, Sharing.On, outcome, spawnChild, hasStdout, hasStderr, bind,
        EStateM.bind, modify_apply, discardCaptures_apply, throw_apply, Bool.not_true,
        Bool.not_false, Bool.false_eq_true, if_false, if_true, pure_apply]
    · exact discardCaptures_acts files
    · exact discardCaptures_acts files
    · exact discardCaptures_acts files
    · exact .refl
  · intro _ before after files ran
    obtain ⟨process, _, shape⟩ := spawnChild_ok ran
    rw [shape]
    exact files
  · exact fun _ _ _ _ _ => trivial

private theorem spawnFailedExecution_keeps {startedUnixMs : UInt64} {error : IoError} :
    store.Keeps world.process (store.Owns world.process)
      (fun state => CaptureFiles store world.process paths state.disk)
      (.perform (spawnFailedExecution world here check startedUnixMs paths error))
      fun execution _ => execution.check = check ∧ execution.references = [] := by
  apply Guarantees.perform
  · exact captureFiles_stable
  · exact fun _ => .const _ _
  · exact fun _ => .const _ _
  · intro state files
    rw [outcome, spawnFailedExecution_eq]
    exact discardCaptures_acts files
  · intro execution before after _ ran
    rw [spawnFailedExecution_eq] at ran
    cases ran
    exact ⟨rfl, rfl⟩
  · exact fun _ _ _ _ _ => trivial

/-- What the two threads write goes to the files of the check. -/
theorem captureFiles_written {disk : Disk} (files : CaptureFiles store process paths disk)
    (stdout stderr : List UInt8) :
    let written : Disk := disk.modify paths.1 (Entry.append stdout)
    let left : Disk := written.modify paths.2 (Entry.append stderr)
    Acts store.commons (store.Owns process) disk left ∧
      left.Sole paths.1 (.file stdout none) ∧ left.Sole paths.2 (.file stderr none) := by
  intro written left
  have first : written.Sole paths.1 (.file stdout none) :=
    files.stdoutFile.modify (Entry.append stdout)
  have second : written.Sole paths.2 (.file [] none) :=
    files.stderrFile.modify_other files.distinct _
  refine ⟨?_, first.modify_other (Ne.symm files.distinct) _,
    second.modify (Entry.append stderr)⟩
  exact (Acts.modify _ files.stdoutFile files.stdout).trans (fun _ owned => owned.not_common)
    (Acts.modify _ second files.stderr)

/-- A capture in a file of its process. -/
structure CaptureHeld (store : StateStore) (process : Nat) (capture : Capture) (disk : Disk) :
    Prop where
  owned : store.Owns process capture.path
  held : ∃ content, disk.HoldsCapture capture content

private theorem captureHeld_stable (capture : Capture) :
    Stable (RunState.sharing.Changes (store.Others process)) fun state =>
      CaptureHeld store process capture state.disk := by
  apply stable_others
  intro before after step held
  obtain ⟨content, sole, known⟩ := held.held
  exact ⟨held.owned, content, step.sole (fun foreign => foreign.1 held.owned) sole, known⟩

private theorem superviseChild_keeps {maxLogBytes : UInt64} :
    store.Keeps world.process (store.Owns world.process)
      (fun state => CaptureFiles store world.process paths state.disk)
      (.perform (superviseChild here check maxLogBytes paths))
      fun joined state => joined.2.2.1.path ≠ joined.2.2.2.1.path ∧
        CaptureHeld store world.process joined.2.2.1 state.disk ∧
        CaptureHeld store world.process joined.2.2.2.1 state.disk := by
  apply Guarantees.perform
  · exact captureFiles_stable
  · intro joined before after step held
    exact ⟨held.1, captureHeld_stable _ before after step held.2.1,
      captureHeld_stable _ before after step held.2.2⟩
  · exact fun _ => .const _ _
  · intro state files
    have written := captureFiles_written files
    simp only [outcome, superviseChild]
    split <;> rename_i ran <;> split at ran <;> cases ran <;> exact (written _ _).1
  · intro joined before after files ran
    obtain ⟨forced, status, stdout, stderr, budget⟩ := joined
    obtain ⟨setup, ended, rfl, known, _, rfl⟩ := superviseChild_ok ran
    obtain ⟨_, first, second⟩ :=
      captureFiles_written files ended.stdout.written ended.stderr.written
    have stdoutPath := known.stdoutFile.path
    have stderrPath := known.stderrFile.path
    refine ⟨?_, ⟨stdoutPath ▸ files.stdout, _, stdoutPath ▸ first,
      known.stdoutFile.digest.symm, known.stdoutFile.bytes.symm⟩,
      stderrPath ▸ files.stderr, _, stderrPath ▸ second, known.stderrFile.digest.symm,
      known.stderrFile.bytes.symm⟩
    simp only [stdoutPath, stderrPath]
    exact files.distinct
  · exact fun _ _ _ _ _ => trivial

private theorem lasting_stored (reference : LogReference) :
    store.Lasting fun disk => Stored store disk reference :=
  fun _ _ retains stored => stored.retained retains

/-- A capture that has been stored is in the store for good. -/
theorem persistCapture_keeps {faults : BlobFaults} {capture : Capture}
    (owned : store.Owns process capture.path) :
    store.Keeps process (· = capture.path)
      (fun state => CaptureHeld store process capture state.disk)
      (Shared.persistCapture store faults capture)
      fun reference state => reference = logReference capture ∧
        Stored store state.disk reference := by
  have stores (content : List UInt8) : store.Keeps process (· = capture.path)
      (fun state => state.disk.HoldsCapture capture content)
      (Shared.storeBlob store (captureBlob capture) faults)
      fun _ state => Stored store state.disk (logReference capture) := by
    apply Guarantees.assuming fun _ holds => holds.2
    intro known
    have valid : isLowerHex 64 capture.digest = true := by
      rw [← known.1]
      exact isLowerHex_sha256Bytes content
    have blob := @storeBlob_keeps _ store process (captureBlob capture) faults content owned
      known.1 known.2
    exact blob.weaken (fun _ holds => holds.1) (fun _ _ found => ⟨rfl, rfl, valid, found⟩)
      fun _ _ holds => holds
  apply Guarantees.bind ((Guarantees.choose stores).weaken (fun _ held => held.held)
    (fun _ _ stored => stored) fun _ _ holds => holds)
  intro _
  apply Guarantees.pure
  · intro before after step known
    exact ⟨known.1, lasting_others (lasting_stored _) before after step known.2⟩
  · exact fun _ stored => ⟨rfl, stored⟩

/-- What is known of an execution on a shared store. -/
structure Evidence (store : StateStore) (check : CheckDefinition) (execution : CheckExecution)
    (disk : Disk) : Prop where
  definition : execution.check = check
  logs : ∀ reference ∈ execution.references, Stored store disk reference

private theorem lasting_evidence (execution : CheckExecution) :
    store.Lasting (Evidence store check execution) :=
  fun _ _ retains evidence => ⟨evidence.definition, fun reference member =>
    (evidence.logs reference member).retained retains⟩

private theorem supervisedExecution_keeps {maxLogBytes startedUnixMs : UInt64} :
    store.Keeps world.process (store.Owns world.process)
      (fun state => CaptureFiles store world.process paths state.disk)
      (Shared.supervisedExecution world here store check maxLogBytes startedUnixMs paths)
      fun execution state => Evidence store check execution state.disk := by
  apply Guarantees.bind superviseChild_keeps
  intro joined
  obtain ⟨forced, status, stdout, stderr, budget⟩ := joined
  have known (state : RunState) (held : stdout.path ≠ stderr.path ∧
      CaptureHeld store world.process stdout state.disk ∧
      CaptureHeld store world.process stderr state.disk) :
      stdout.path ≠ stderr.path ∧ store.Owns world.process stdout.path ∧
        store.Owns world.process stderr.path := ⟨held.1, held.2.1.owned, held.2.2.owned⟩
  apply Guarantees.assuming known
  intro owned
  obtain ⟨distinct, stdoutOwned, stderrOwned⟩ := owned
  -- While the first capture is stored, the file of the second stays.
  have first := keeps_beside (captureHeld_stable stderr)
    (stable_names fun step held => by
      obtain ⟨content, sole, known⟩ := held.held
      exact ⟨held.owned, content, step.sole (Ne.symm distinct) sole, known⟩)
    (@persistCapture_keeps _ store world.process here.stdoutBlob stdout stdoutOwned)
  apply Guarantees.bind ((keeps_mono first fun path same => by
    rw [same]
    exact stdoutOwned).weaken (fun _ held => held.2) (fun _ _ holds => holds)
      fun _ _ holds => holds)
  intro stdoutReference
  -- While the second is stored, the first is in the store.
  have second := keeps_lasting (lasting_stored stdoutReference) (owned_apart stderrOwned)
    (@persistCapture_keeps _ store world.process here.stderrBlob stderr stderrOwned)
  apply Guarantees.bind ((keeps_mono second fun path same => by
    rw [same]
    exact stderrOwned).weaken (fun _ held => ⟨held.2, held.1.2⟩) (fun _ _ holds => holds)
      fun _ _ holds => holds)
  intro stderrReference
  have logs : store.Lasting fun disk =>
      (stderrReference = logReference stderr ∧ Stored store disk stderrReference) ∧
        Stored store disk stdoutReference :=
    fun _ _ retains stored => ⟨⟨stored.1.1, stored.1.2.retained retains⟩,
      stored.2.retained retains⟩
  apply keeps_still (fun _ => rfl) (lasting_others logs)
  intro completedUnixMs
  apply keeps_still (fun _ => rfl) (lasting_others logs)
  intro durationMs
  apply Guarantees.pure
  · exact lasting_others (lasting_evidence _)
  · intro state stored
    refine ⟨rfl, ?_⟩
    intro reference member
    simp only [CheckExecution.references, List.filterMap_cons, List.filterMap_nil, id,
      List.mem_cons, List.not_mem_nil, or_false] at member
    rcases member with rfl | rfl
    · exact stored.2
    · exact stored.1.2

private theorem evidence_of_none {execution : CheckExecution} {disk : Disk}
    (none : execution.check = check ∧ execution.references = []) :
    Evidence store check execution disk :=
  ⟨none.1, fun reference member => by
    rw [none.2] at member
    cases member⟩

private theorem executeCheck_keeps {maxLogBytes : UInt64} :
    store.Keeps world.process (store.Owns world.process) (fun _ => True)
      (Shared.executeCheck world here store check maxLogBytes)
      fun execution state => Evidence store check execution state.disk := by
  apply @keeps_still _ _ _ _ _ _ _ (fun _ => True) _ _ (fun _ => rfl) (.const _ _)
  intro startedUnixMs
  apply keeps_lift
  intro workingDirectory _
  apply Guarantees.bind createCaptureFiles_keeps
  intro paths
  cases here.spawn with
  | none => exact Guarantees.bind spawnChild_keeps fun _ => supervisedExecution_keeps
  | some error =>
      exact spawnFailedExecution_keeps.weaken (fun _ files => files)
        (fun _ _ none => evidence_of_none none) fun _ _ holds => holds

private theorem skippedExecution_keeps :
    store.Keeps world.process (store.Owns world.process) (fun _ => True)
      (.perform (skippedExecution world check))
      fun execution state => Evidence store check execution state.disk := by
  apply Guarantees.perform
  · exact .const _ _
  · exact fun execution => lasting_others (lasting_evidence execution)
  · exact fun _ => .const _ _
  · exact fun _ _ => .refl
  · intro execution before after _ ran
    rw [skippedExecution_eq] at ran
    cases ran
    exact evidence_of_none ⟨rfl, rfl⟩
  · exact fun _ _ _ _ _ => trivial

private theorem runCheck_keeps (invocation : Invocation) (position : Nat) (stop : Bool) :
    store.Keeps world.process (store.Owns world.process) (fun _ => True)
      (Shared.runCheck world store invocation position stop check)
      fun execution state => Evidence store check execution state.disk := by
  apply @keeps_still _ _ _ _ _ _ _ (fun _ => True) _ _ (fun _ => rfl) (.const _ _)
  intro _
  have executes : store.Keeps world.process (store.Owns world.process) (fun _ => True)
      (Shared.skipOrExecute world store invocation position stop check)
      fun execution state => Evidence store check execution state.disk := by
    cases stop with
    | false => exact executeCheck_keeps
    | true => exact skippedExecution_keeps
  apply Guarantees.bind executes
  intro execution
  apply keeps_still (fun _ => rfl) (lasting_others (lasting_evidence execution))
  intro _
  apply Guarantees.pure
  · exact lasting_others (lasting_evidence execution)
  · exact fun _ evidence => evidence

/-- What is known of the executions of some checks. -/
structure AllEvidence (store : StateStore) (checks : List CheckDefinition)
    (executions : List CheckExecution) (disk : Disk) : Prop where
  definitions : executions.map CheckExecution.check = checks
  logs : ∀ execution ∈ executions, ∀ reference ∈ execution.references,
    Stored store disk reference

theorem AllEvidence.cons {checks : List CheckDefinition} {execution : CheckExecution}
    {executions : List CheckExecution} {disk : Disk}
    (first : Evidence store check execution disk)
    (rest : AllEvidence store checks executions disk) :
    AllEvidence store (check :: checks) (execution :: executions) disk where
  definitions := by rw [List.map_cons, first.definition, rest.definitions]
  logs := List.forall_mem_cons.mpr ⟨first.logs, rest.logs⟩

private theorem lasting_allEvidence (checks : List CheckDefinition)
    (executions : List CheckExecution) :
    store.Lasting (AllEvidence store checks executions) :=
  fun _ _ retains evidence => ⟨evidence.definitions, fun execution included reference member =>
    (evidence.logs execution included reference member).retained retains⟩

/-- By induction on the checks: what is stored for one stays while the others run. -/
theorem runLoop_keeps (invocation : Invocation) (position : Nat) (stop : Bool)
    (checks : List CheckDefinition) :
    store.Keeps world.process (store.Owns world.process) (fun _ => True)
      (Shared.runLoop world store invocation position stop checks)
      fun executions state => AllEvidence store checks executions state.disk := by
  induction checks generalizing position stop with
  | nil =>
      apply Guarantees.pure
      · exact lasting_others (lasting_allEvidence [] [])
      · exact fun _ _ => ⟨rfl, List.forall_mem_nil _⟩
  | cons check rest ih =>
      apply Guarantees.bind (runCheck_keeps invocation position stop)
      intro execution
      have later := keeps_carried (@lasting_evidence _ store check execution)
        (fun path (owned : store.Owns world.process path) => owned.not_common)
        (ih (position + 1) (invocation.failFast && execution.outcome != .passed))
      apply Guarantees.bind later
      intro executions
      apply Guarantees.pure
      · exact lasting_others (lasting_allEvidence _ _)
      · exact fun _ evidence => .cons evidence.2 evidence.1

/-- What is known of a payload before it is stored. -/
structure Attestable (store : StateStore) (discovery : DiscoveryReport) (payload : ReceiptPayload)
    (disk : Disk) : Prop where
  schema : payload.schemaVersion = receiptSchemaVersion
  completed : payload.checks.map CheckExecution.check = selectedChecks discovery
  logs : ∀ reference ∈ payload.references, Stored store disk reference

private theorem lasting_attestable (discovery : DiscoveryReport) (payload : ReceiptPayload) :
    store.Lasting (Attestable store discovery payload) :=
  fun _ _ retains attestable => { attestable with
    logs := fun reference member => (attestable.logs reference member).retained retains }

private theorem collectEvidence_keeps (discovery : DiscoveryReport) (invocation : Invocation) :
    store.Keeps world.process (store.Owns world.process) (fun _ => True)
      (Shared.collectEvidence world store discovery invocation)
      fun payload state => Attestable store discovery payload state.disk := by
  apply @keeps_still _ _ _ _ _ _ _ (fun _ => True) _ _ (fun _ => rfl) (.const _ _)
  intro startedUnixMs
  apply Guarantees.bind (runLoop_keeps invocation 0 false (selectedChecks discovery))
  intro executions
  have collected := @lasting_others _ store world.process _
    (lasting_allEvidence (selectedChecks discovery) executions)
  apply keeps_lift
  intro sourceAfter _
  apply keeps_still (fun _ => rfl) collected
  intro cancelled
  apply keeps_still (fun _ => rfl) collected
  intro completedUnixMs
  apply keeps_still (fun _ => rfl) collected
  intro durationMs
  apply Guarantees.pure
  · exact lasting_others (lasting_attestable _ _)
  · intro state evidence
    refine ⟨rfl, evidence.definitions, ?_⟩
    intro reference member
    obtain ⟨execution, included, listed⟩ := mem_references.mp member
    exact evidence.logs execution included reference listed

end Check

/-! The receipt -/

section Receipt

variable [Sha2] [JsonDiagnostics] {store : StateStore} {process : Nat} {path : String}
  {receipt : Receipt}

omit [Sha2] in
/-- Under the identifier of a receipt is one with its digest. -/
structure HasReceipt (store : StateStore) (receipt : Receipt) (disk : Disk) : Prop where
  fits : Fits receipt
  found : ∃ path existing, store.receiptPath receipt.receiptId = .ok path ∧
    readReceiptFile disk path = .ok existing ∧ existing.canonicalDigest = receipt.canonicalDigest

omit [Sha2] in
private theorem lasting_read {existing : Receipt} (common : store.Common path) :
    store.Lasting fun disk => readReceiptFile disk path = .ok existing := by
  intro before after retains read
  obtain ⟨content, found, parsed⟩ := readReceiptFile_eq_ok_iff.mp read
  exact readReceiptFile_eq_ok_iff.mpr ⟨content, retains _ _ common found, parsed⟩

omit [Sha2] in
private theorem lasting_hasReceipt (receipt : Receipt) :
    store.Lasting (HasReceipt store receipt) := by
  intro before after retains has
  obtain ⟨fits, path, existing, named, read, same⟩ := has
  exact ⟨fits, path, existing, named, lasting_read (.receipt named) before after retains read, same⟩

private theorem adoptReceipt_keeps {names : String → Prop} (fits : Fits receipt)
    (named : store.receiptPath receipt.receiptId = .ok path) :
    store.Keeps process names (fun _ => True) (Shared.adoptReceipt path receipt)
      fun _ state => HasReceipt store receipt state.disk := by
  apply Guarantees.bind
  · apply @keeps_inspect _ _ _ _ _ _ fun existing disk => readReceiptFile disk path = .ok existing
    · exact fun _ => lasting_read (.receipt named)
    · exact fun _ _ read => read
  intro existing
  split
  · rename_i same
    apply Guarantees.pure
    · exact lasting_others (lasting_hasReceipt receipt)
    · exact fun _ read => ⟨fits, path, existing, named, read, same⟩
  · exact keeps_error _

/-- A receipt that has been written is in the store for good. -/
theorem writeReceipt_keeps {faults : PublishFaults} {discovery : DiscoveryReport}
    (payload : ReceiptPayload) :
    store.Keeps process (store.Owns process)
      (fun state => Attestable store discovery payload state.disk)
      (Shared.writeReceipt process faults store (buildReceipt payload))
      fun _ state => HasReceipt store (buildReceipt payload) state.disk := by
  apply keeps_lift
  intro path named
  split
  · exact keeps_error _
  · rename_i small
    have fits : Fits (buildReceipt payload) := Nat.le_of_not_lt small
    apply Guarantees.bind (keeps_carried (lasting_attestable discovery payload)
      (fun path (owned : store.Owns process path) => owned.not_common) keeps_look)
    intro present
    split
    · exact (adoptReceipt_keeps fits named).anywhere
    · have ruled (state : RunState) (attestable : Attestable store discovery payload state.disk) :
          store.Rule state.disk path (.file (receiptFile (buildReceipt payload)) none) :=
        store.rule_receipt named ⟨attestable.schema, rfl, fits, attestable.logs⟩
      apply Guarantees.bind ((writeJsonAtomic_keeps (receipt_plainParents named)).weaken
        (fun state known _ => ruled state known.2) (fun _ _ holds => holds) fun _ _ holds => holds)
      intro _
      apply Guarantees.pure
      · exact lasting_others (lasting_hasReceipt _)
      · intro state stored
        have found := stored (.receipt named)
        exact ⟨fits, path, _, named, readReceiptFile_receiptFile fits found, rfl⟩

/-! The command -/

variable [Packages] {world : CommandWorld} {arguments : RunArguments}

/-- A process that uses this store, and that writes its copy somewhere else. -/
structure CommandWorld.Joins (world : CommandWorld) (arguments : RunArguments)
    (store : StateStore) : Prop where
  resolves : ∀ {found : StateStore}, world.HasStore arguments found → found = store
  directories : ∀ {git discovery}, discoverRun world arguments = .ok (git, discovery) →
    ∀ directory ∈ [StateStore.receiptsDirectory ⟨stateRoot git arguments⟩,
      StateStore.blobsDirectory ⟨stateRoot git arguments⟩,
      StateStore.temporaryDirectory ⟨stateRoot git arguments⟩],
    ∀ other, Above other directory → ¬store.Common other
  output : ∀ {path}, arguments.receiptOut = some path →
    ¬store.Common path ∧ store.PlainParents path

/-- What a run that returns a receipt has left in the store. -/
structure CommandWorld.Left (world : CommandWorld) (arguments : RunArguments)
    (store : StateStore) (receipt : Receipt) (disk : Disk) : Prop where
  completed : ∃ git discovery, discoverRun world arguments = .ok (git, discovery) ∧
    receipt.payload.checks.map CheckExecution.check = selectedChecks discovery
  derived : receipt = buildReceipt receipt.payload
  logs : ∀ reference ∈ logReferences receipt, Stored store disk reference
  stored : HasReceipt store receipt disk

theorem lasting_left (receipt : Receipt) : store.Lasting (world.Left arguments store receipt) :=
  fun before after retains left => { left with
    logs := fun reference member => (left.logs reference member).retained retains
    stored := lasting_hasReceipt receipt before after retains left.stored }

omit [JsonDiagnostics] [Packages] in
private theorem preflightReceiptOut_keeps {receiptOut : Option String}
    (output : ∀ {path}, receiptOut = some path → store.PlainParents path) :
    store.Keeps process (store.Owns process) (fun _ => True) (preflightReceiptOut world receiptOut)
      fun _ _ => True := by
  cases receiptOut with
  | none =>
      apply Guarantees.pure
      · exact .const _ _
      · exact fun _ _ => trivial
  | some path => exact preflightJsonOutput_keeps (output rfl)

omit [JsonDiagnostics] in
private theorem createStore_keeps {git : GitContext} {discovery : DiscoveryReport}
    (joins : world.Joins arguments store)
    (discovered : discoverRun world arguments = .ok (git, discovery)) :
    store.Keeps process (store.Owns process) (fun _ => True)
      (createStore world (stateRoot git arguments)) fun found _ => found = store := by
  have plain := joins.directories discovered
  apply Guarantees.bind (createDirectory_keeps (plain _ (by simp)))
  intro _
  apply Guarantees.bind (createDirectory_keeps (plain _ (by simp)))
  intro _
  apply Guarantees.bind (createDirectory_keeps (plain _ (by simp)))
  intro _
  apply keeps_lift
  intro root resolved
  apply Guarantees.pure
  · exact .const _ _
  · exact fun _ _ => joins.resolves ⟨git, discovery, discovered, orElseFail_ok resolved⟩

omit [Packages] in
private theorem runChecks_keeps {running : World} (discovery : DiscoveryReport)
    (invocation : Invocation) :
    store.Keeps running.process (store.Owns running.process) (fun _ => True)
      (Shared.runChecks running store discovery invocation)
      fun receipt state => receipt = buildReceipt receipt.payload ∧
        Attestable store discovery receipt.payload state.disk ∧
        HasReceipt store receipt state.disk := by
  apply Guarantees.bind (collectEvidence_keeps discovery invocation)
  intro payload
  have attested : store.Lasting fun disk => HasReceipt store (buildReceipt payload) disk ∧
      Attestable store discovery payload disk := fun before after retains known =>
    ⟨lasting_hasReceipt _ before after retains known.1,
      lasting_attestable _ _ before after retains known.2⟩
  apply Guarantees.bind ((keeps_lasting (lasting_attestable discovery payload)
    (fun path (owned : store.Owns running.process path) => owned.not_common)
    (writeReceipt_keeps payload)).weaken (fun _ known => ⟨known, known⟩) (fun _ _ holds => holds)
      fun _ _ holds => holds)
  intro _
  apply keeps_still (fun _ => rfl) (lasting_others attested)
  intro _
  apply Guarantees.pure
  · intro before after step known
    have still := lasting_others attested before after step ⟨known.2.2, known.2.1⟩
    exact ⟨known.1, still.2, still.1⟩
  · exact fun _ known => ⟨rfl, known.2, known.1⟩

private theorem attest_keeps (joins : world.Joins arguments store) :
    store.Keeps world.run.process (store.Owns world.run.process) (fun _ => True)
      (Shared.attest world arguments)
      fun value state => value.1 = store ∧ world.Left arguments store value.2 state.disk := by
  apply Guarantees.bind (preflightReceiptOut_keeps fun requested => (joins.output requested).2)
  intro _
  apply keeps_lift
  intro found discovered
  obtain ⟨git, discovery⟩ := found
  apply Guarantees.bindKnowing (createStore_keeps joins discovered)
  intro created same
  rw [same]
  apply keeps_lift
  intro _ _
  apply Guarantees.bind
    (@runChecks_keeps _ _ store (world.running git) discovery arguments.invocation)
  intro receipt
  apply Guarantees.pure
  · intro before after step known
    exact ⟨rfl, lasting_others (lasting_left receipt) before after step known.2⟩
  · exact fun _ known => ⟨rfl, ⟨git, discovery, discovered, known.2.1.completed⟩, known.1,
      known.2.1.logs, known.2.2⟩

theorem run_keeps (joins : world.Joins arguments store) :
    store.Keeps world.run.process (store.Owns world.run.process) (fun _ => True)
      (Shared.run world arguments)
      fun code state => ∃ receipt, world.Left arguments store receipt state.disk ∧
        code = if receipt.payload.outcome = .passed then 0 else 1 := by
  apply Guarantees.bind (attest_keeps joins)
  intro value
  obtain ⟨found, receipt⟩ := value
  apply Guarantees.assuming fun _ known => known.1
  intro same
  simp only at same
  rw [same]
  have left := @lasting_left _ _ store _ world arguments receipt
  have copies : store.Keeps world.run.process (store.Owns world.run.process) (fun _ => True)
      (Shared.publishReceipt world store receipt arguments.receiptOut) fun _ _ => True := by
    cases requested : arguments.receiptOut with
    | none =>
        apply Guarantees.pure
        · exact .const _ _
        · exact fun _ _ => trivial
    | some path =>
        obtain ⟨apart, plain⟩ := joins.output requested
        apply Guarantees.handle
        · exact (writeJsonAtomic_keeps plain).weaken (fun _ _ common => absurd common apart)
            (fun _ _ _ => trivial) fun _ _ holds => holds
        · intro error
          unfold publicationFailure
          cases store.receiptPath receipt.receiptId <;> exact ⟨_, rfl⟩
  apply Guarantees.bind ((keeps_carried left
    (fun path (owned : store.Owns world.run.process path) => owned.not_common) copies).weaken
    (fun _ known => known.2) (fun _ _ holds => holds) fun _ _ holds => holds)
  intro _
  apply keeps_lift
  intro _ _
  apply Guarantees.pure
  · intro before after step known
    obtain ⟨other, holds, code⟩ := known
    exact ⟨other, lasting_others (lasting_left other) before after step holds, code⟩
  · exact fun _ known => ⟨receipt, known.2, rfl⟩

end Receipt

end TaskAttest
