import TaskAttest.Library.Program
import TaskAttest.Execute
import TaskAttest.PublishProperties
import TaskAttest.SuperviseProperties

/-! What one check of a run leaves behind: its record, its log blobs, and
everything else as it was. -/

set_option autoImplicit false

namespace TaskAttest

open Program

section Checks

variable [Sha2] {world : World} {here : CheckWorld} {store : StateStore}

/-- What no step of a run takes back. -/
structure Advances (before after : RunState) : Prop where
  disk : before.disk.Extends after.disk
  moment : before.moment ≤ after.moment
  cancelled : before.cancelled = true → after.cancelled = true
  spawned : ∀ process ∈ before.spawned, process ∈ after.spawned

namespace Advances

variable {before between after : RunState}

omit [Sha2] in
theorem refl (state : RunState) : Advances state state :=
  ⟨.refl, Nat.le_refl _, id, fun _ member => member⟩

omit [Sha2] in
theorem trans (first : Advances before between) (second : Advances between after) :
    Advances before after where
  disk := first.disk.trans second.disk
  moment := Nat.le_trans first.moment second.moment
  cancelled := second.cancelled ∘ first.cancelled
  spawned process member := second.spawned process (first.spawned process member)

theorem observed (state : RunState) : Advances state (state.observed world) :=
  ⟨.refl, Nat.le_succ _, fun set => by simp [RunState.observed, set], fun _ member => member⟩

theorem progressed (run : RunState) (state : ProgressState) (checkId : Option String)
    (outcome : Option CheckOutcome) (receiptId : Option String) :
    Advances run (run.progressed world state checkId outcome receiptId) :=
  ⟨.refl, Nat.le_succ _, fun set => by simp [RunState.progressed, RunState.observed, set],
    fun _ member => member⟩

end Advances

/-! Opening, filling and storing the two capture files -/

/-- The two capture files, new with respect to the disk a check started from. -/
structure OpenCaptures (store : StateStore) (base current : Disk) (paths : String × String)
    (files : Nat × Nat) (stdout stderr : List UInt8) : Prop where
  extends' : base.Extends current
  stdoutFile : base.Scratch current paths.1 files.1 stdout
  stderrFile : base.Scratch current paths.2 files.2 stderr
  distinctPaths : paths.1 ≠ paths.2
  distinctFiles : files.1 ≠ files.2
  stdoutTemporary : store.IsTemporary paths.1
  stderrTemporary : store.IsTemporary paths.2

private theorem createCaptureFile_ok {faults : Nat → Option IoError} {stream path : String}
    {before after : RunState}
    (ran : createCaptureFile world store faults stream before = .ok path after) :
    store.IsTemporary path ∧ before.disk.links path = none ∧
      after = { before with
        logSequence := after.logSequence, disk := before.disk.create path (.file [] none) } := by
  simp only [createCaptureFile, createFile] at ran
  split at ran
  · rename_i created next disk allocated
    cases ran
    obtain ⟨⟨number, named⟩, missing, rfl⟩ := allocation_ok allocated
    exact ⟨⟨_, named⟩, missing, rfl⟩
  · cases ran

omit [Sha2] in
theorem onFailure_ok {α : Type} {action : RunM α} {cleanup : RunM Unit} {value : α}
    {before after : RunState} (ran : onFailure action cleanup before = .ok value after) :
    action before = .ok value after := by
  unfold onFailure at ran
  split at ran
  · rename_i result between done
    cases ran
    exact done
  · split at ran <;> cases ran

theorem createCaptureFiles_ok {paths : String × String} {before after : RunState}
    (ran : createCaptureFiles world here store before = .ok paths after) :
    (∃ files, OpenCaptures store before.disk after.disk paths files [] []) ∧
      after = { before with logSequence := after.logSequence, disk := after.disk } := by
  simp only [createCaptureFiles, bind_ok_iff, pure_apply, EStateM.Result.ok.injEq] at ran
  obtain ⟨stdoutPath, between, first, stderrPath, _, second, rfl, rfl⟩ := ran
  obtain ⟨stdoutTemporary, stdoutMissing, opened⟩ := createCaptureFile_ok first
  obtain ⟨stderrTemporary, stderrMissing, shape⟩ := createCaptureFile_ok (onFailure_ok second)
  have middle : between.disk = before.disk.create stdoutPath (.file [] none) := by rw [opened]
  rw [middle] at stderrMissing shape
  refine ⟨⟨(before.disk.next, before.disk.next + 1), ?_⟩, ?_⟩
  · have stdoutFile : before.disk.Scratch (before.disk.create stdoutPath (.file [] none))
        stdoutPath before.disk.next [] := Disk.Scratch.created .refl stdoutMissing (Nat.le_refl _)
    have grown : before.disk.Extends (before.disk.create stdoutPath (.file [] none)) :=
      Disk.Extends.refl.create stdoutMissing
    rw [shape]
    refine ⟨grown.create (grown.absent stderrMissing), stdoutFile.create stderrMissing,
      Disk.Scratch.created grown stderrMissing (Nat.le_succ _), ?_,
      Nat.ne_of_lt (Nat.lt_succ_self _), stdoutTemporary, stderrTemporary⟩
    intro same
    simp only at same
    rw [← same, stdoutFile.linked] at stderrMissing
    cases stderrMissing
  · rw [shape, opened]

omit [Sha2] in
/-- The threads write only into the two files. -/
theorem OpenCaptures.written {base current : Disk} {paths : String × String} {files : Nat × Nat}
    (opened : OpenCaptures store base current paths files [] []) (stdout stderr : List UInt8) :
    OpenCaptures store base
      ((current.modify paths.1 (Entry.append stdout)).modify paths.2 (Entry.append stderr))
      paths files stdout stderr := by
  have stdoutWritten := opened.stdoutFile.append stdout
  have stderrKept :
      base.Scratch (current.modify paths.1 (Entry.append stdout)) paths.2 files.2 [] :=
    opened.stderrFile.modify opened.stdoutFile opened.distinctFiles
  exact ⟨(opened.extends'.modify opened.stdoutFile).modify stderrKept,
    stdoutWritten.modify stderrKept (Ne.symm opened.distinctFiles), stderrKept.append stderr,
    opened.distinctPaths, opened.distinctFiles, opened.stdoutTemporary, opened.stderrTemporary⟩

private theorem persistCapture_ok {faults : BlobFaults} {capture : Capture}
    {reference : LogReference} {before after : RunState}
    (ran : persistCapture store faults capture before = .ok reference after) :
    reference = logReference capture ∧ after = { before with disk := after.disk } ∧
      ∃ path, store.storeBlob (captureBlob capture) faults before.disk =
        (.ok path, after.disk) := by
  simp only [persistCapture, bind_ok_iff, pure_apply, EStateM.Result.ok.injEq] at ran
  obtain ⟨path, between, stored, rfl, rfl⟩ := ran
  simp only [onDisk] at stored
  split at stored
  · rename_i target disk done
    cases stored
    exact ⟨rfl, rfl, path, done⟩
  · cases stored

/-- What a log reference promises, and the store keeps. -/
structure Stored (store : StateStore) (disk : Disk) (reference : LogReference) : Prop where
  algorithm : reference.algorithm = "sha256"
  handle : reference.handle = "sha256:" ++ reference.digest
  digest : isLowerHex 64 reference.digest = true
  blob : disk.HasBlob (store.blobTarget reference.digest) reference.digest reference.bytes

theorem Stored.extends {before after : Disk} {reference : LogReference}
    (stored : Stored store before reference) (extends' : before.Extends after) :
    Stored store after reference := by
  obtain ⟨algorithm, handle, digest, content, found, same, sized⟩ := stored
  exact ⟨algorithm, handle, digest, content, extends'.lookup found, same, sized⟩

/-- A later call does not disturb a stored blob. -/
theorem Stored.storeBlob {before after : Disk} {reference : LogReference} {call : BlobCall}
    {faults : BlobFaults} {target : String} (stored : Stored store before reference)
    (temporary : store.IsTemporary call.temporary)
    (done : store.storeBlob call faults before = (.ok target, after)) :
    Stored store after reference := by
  obtain ⟨algorithm, handle, digest, content, found, same, sized⟩ := stored
  refine ⟨algorithm, handle, digest, content, ?_, same, sized⟩
  obtain ⟨file, linked, holds⟩ := Option.map_eq_some_iff.mp found
  obtain ⟨still, unchanged⟩ := @storeBlob_kept _ store call before faults _ _
    (temporary.ne_blobTarget reference.digest) linked
  rw [done] at still unchanged
  rw [FileSystem.lookup, still, Option.map_some, unchanged, holds]

/-- Storing a captured file that is as its thread left it. -/
theorem stored_of_captured {base current after : Disk} {path target : String} {file : Nat}
    {thread : CaptureThread} {capture : Capture} {faults : BlobFaults}
    (temporary : store.IsTemporary path) (captured : Captured path thread capture)
    (scratch : base.Scratch current path file thread.written)
    (done : store.storeBlob (captureBlob capture) faults current = (.ok target, after)) :
    Stored store after (logReference capture) := by
  have named : (captureBlob capture).temporary = path := captured.path
  have ready : (captureBlob capture).Ready current := by
    refine ⟨thread.written, ?_, captured.digest.symm, captured.bytes.symm⟩
    rw [named]
    exact scratch.lookup
  obtain ⟨rfl, blob⟩ := storeBlob_ok (by rw [named]; exact temporary) ready done
  refine ⟨rfl, rfl, ?_, blob⟩
  rw [logReference, captured.digest]
  exact isLowerHex_sha256Bytes _

/-! The record of a check -/

/-- How an execution came about, and the supervision it came from. -/
inductive Recorded (store : StateStore) (maxLogBytes : UInt64) (state : RunState)
    (execution : CheckExecution) : List (CheckDefinition × SuperviseState) → Prop where
  | skipped : execution.outcome = .skipped → execution.stdout = none → execution.stderr = none →
      Recorded store maxLogBytes state execution []
  | spawnFailed : execution.outcome = .spawnFailed → execution.stdout = none →
      execution.stderr = none → Recorded store maxLogBytes state execution []
  | supervised {setup : SuperviseSetup} {ended : SuperviseState} {forced : Option StopReason}
      {status : ExitStatus} {stdout stderr : Capture} :
      Supervised setup ended forced status stdout stderr →
      setup.maxLogBytes = maxLogBytes →
      (∃ process ∈ state.spawned, process.check = execution.check) →
      execution.outcome = supervisedOutcome maxLogBytes forced status ended.budget →
      execution.exitCode = status.code →
      execution.stdout = some (logReference stdout) →
      execution.stderr = some (logReference stderr) →
      Stored store state.disk (logReference stdout) →
      Stored store state.disk (logReference stderr) →
      (ended.cancelled = true → state.cancelled = true) →
      Recorded store maxLogBytes state execution [(execution.check, ended)]

theorem Recorded.advances {maxLogBytes : UInt64} {before after : RunState}
    {execution : CheckExecution} {entries : List (CheckDefinition × SuperviseState)}
    (recorded : Recorded store maxLogBytes before execution entries)
    (advances : Advances before after) : Recorded store maxLogBytes after execution entries := by
  cases recorded with
  | skipped outcome stdout stderr => exact .skipped outcome stdout stderr
  | spawnFailed outcome stdout stderr => exact .spawnFailed outcome stdout stderr
  | supervised known limit spawned outcome code stdout stderr stdoutStored stderrStored set =>
      obtain ⟨process, member, started⟩ := spawned
      exact .supervised known limit ⟨process, advances.spawned process member, started⟩ outcome
        code stdout stderr (stdoutStored.extends advances.disk)
        (stderrStored.extends advances.disk) (fun ended => advances.cancelled (set ended))

/-- What is known of a turn of the loop that returns an execution. -/
structure Executed (world : World) (store : StateStore) (maxLogBytes : UInt64)
    (check : CheckDefinition) (execution : CheckExecution) (before after : RunState) : Prop where
  definition : execution.check = check
  clock : ∃ earlier later, earlier ≤ later ∧ execution.startedUnixMs = world.clock earlier ∧
    execution.completedUnixMs = world.clock later
  advances : Advances before after
  recorded : ∃ entries, after.supervised = before.supervised ++ entries ∧
    Recorded store maxLogBytes after execution entries

theorem skippedExecution_eq {check : CheckDefinition} {before : RunState} :
    skippedExecution world check before =
      .ok {
          check
          startedUnixMs := world.clock before.moment
          completedUnixMs := world.clock before.moment
          durationMs := 0
          outcome := .skipped
          exitCode := none
          stdout := none
          stderr := none
          stdoutSummary := ""
          stderrSummary := "skipped after an earlier failure because fail-fast was enabled"
          diagnosticSummariesTruncated := false }
        (before.observed world) := rfl

theorem skippedExecution_ok {check : CheckDefinition} {maxLogBytes : UInt64}
    {execution : CheckExecution} {before after : RunState}
    (ran : skippedExecution world check before = .ok execution after) :
    Executed world store maxLogBytes check execution before after := by
  rw [skippedExecution_eq] at ran
  cases ran
  exact ⟨rfl, ⟨_, _, Nat.le_refl _, rfl, rfl⟩, .observed before, [], by simp [RunState.observed],
    .skipped rfl rfl rfl⟩

theorem discardCaptures_apply (here : CheckWorld) (paths : String × String) (state : RunState) :
    discardCaptures here paths state = .ok () { state with
      disk := (state.disk.discard here.removeStdout paths.1).discard here.removeStderr paths.2 } :=
  rfl

/-- The run before a check's capture files were opened, and after. -/
structure Opened (store : StateStore) (start before : RunState) (paths : String × String) :
    Prop where
  advances : Advances start before
  supervised : before.supervised = start.supervised
  files : ∃ files, OpenCaptures store start.disk before.disk paths files [] []

theorem spawnFailedExecution_eq {check : CheckDefinition} {startedUnixMs : UInt64}
    {paths : String × String} {error : IoError} {before : RunState} :
    spawnFailedExecution world here check startedUnixMs paths error before =
      .ok {
          check
          startedUnixMs
          completedUnixMs := world.clock before.moment
          durationMs := world.elapsed (before.moment + 1)
          outcome := .spawnFailed
          exitCode := none
          stdout := none
          stderr := none
          stdoutSummary := ""
          stderrSummary := String.ofList (redactSummary error.text.toList)
          diagnosticSummariesTruncated := false }
        ({ before with
          disk := (before.disk.discard here.removeStdout paths.1).discard here.removeStderr
            paths.2 }.observed world) := rfl

private theorem spawnFailedExecution_ok {check : CheckDefinition}
    {maxLogBytes startedUnixMs : UInt64}
    {paths : String × String} {error : IoError} {execution : CheckExecution} {earlier : Nat}
    {start before after : RunState} (opened : Opened store start before paths)
    (inOrder : earlier ≤ before.moment) (started : startedUnixMs = world.clock earlier)
    (ran : spawnFailedExecution world here check startedUnixMs paths error before =
      .ok execution after) :
    Executed world store maxLogBytes check execution start after := by
  rw [spawnFailedExecution_eq] at ran
  cases ran
  obtain ⟨files, captures⟩ := opened.files
  refine ⟨rfl, ⟨earlier, _, inOrder, started, rfl⟩, ?_, [], ?_, .spawnFailed rfl rfl rfl⟩
  · exact {
      disk := (captures.extends'.discard captures.stdoutFile.absent).discard
        captures.stderrFile.absent
      moment := Nat.le_succ_of_le opened.advances.moment
      cancelled := fun set => by simp [RunState.observed, opened.advances.cancelled set]
      spawned := opened.advances.spawned }
  · simp [RunState.observed, opened.supervised]

theorem spawnChild_ok {check : CheckDefinition} {workingDirectory : String}
    {paths : String × String} {before after : RunState}
    (ran : spawnChild world here check workingDirectory paths before = .ok () after) :
    ∃ process, process.check = check ∧
      after = { before with spawned := before.spawned ++ [process] } := by
  cases hasStdout : here.hasStdout <;> cases hasStderr : here.hasStderr <;>
    simp [spawnChild, hasStdout, hasStderr, bind_ok_iff, discardCaptures_apply] at ran
  exact ⟨_, rfl, ran.symm⟩

theorem superviseChild_ok {check : CheckDefinition} {maxLogBytes : UInt64}
    {paths : String × String} {forced : Option StopReason} {status : ExitStatus}
    {stdout stderr : Capture} {budget : LogBudget} {before after : RunState}
    (ran : superviseChild here check maxLogBytes paths before =
      .ok (forced, status, stdout, stderr, budget) after) :
    ∃ (setup : SuperviseSetup) (ended : SuperviseState),
      setup = ⟨check.id, maxLogBytes, paths.1, paths.2, before.cancelled⟩ ∧
      Supervised setup ended forced status stdout stderr ∧ budget = ended.budget ∧
      after = { before with
        disk := (before.disk.modify paths.1 (Entry.append ended.stdout.written)).modify paths.2
          (Entry.append ended.stderr.written)
        cancelled := ended.cancelled
        supervised := before.supervised ++ [(check, ended)] } := by
  simp only [superviseChild] at ran
  split at ran
  · rename_i returned
    cases ran
    exact ⟨_, _, rfl, Supervision.result_ok returned, rfl, rfl⟩
  · cases ran

/-- The state after a supervision that returned. -/
def RunState.supervisedBy (state : RunState) (check : CheckDefinition) (paths : String × String)
    (ended : SuperviseState) : RunState :=
  { state with
    disk := (state.disk.modify paths.1 (Entry.append ended.stdout.written)).modify paths.2
      (Entry.append ended.stderr.written)
    cancelled := ended.cancelled
    supervised := state.supervised ++ [(check, ended)] }

/-- What a supervised execution that returns has done. -/
theorem supervisedExecution_cases {check : CheckDefinition} {maxLogBytes startedUnixMs : UInt64}
    {paths : String × String} {execution : CheckExecution} {before after : RunState}
    (ran : supervisedExecution world here store check maxLogBytes startedUnixMs paths before =
      .ok execution after) :
    ∃ (supervision : Supervision ⟨check.id, maxLogBytes, paths.1, paths.2, before.cancelled⟩)
      (forced : Option StopReason) (status : ExitStatus) (stdout stderr : Capture)
      (stdoutTarget stderrTarget : String) (first second : Disk),
      supervision.result = .ok (forced, status, stdout, stderr) ∧
      store.storeBlob (captureBlob stdout) here.stdoutBlob
        (before.supervisedBy check paths supervision.ended).disk = (.ok stdoutTarget, first) ∧
      store.storeBlob (captureBlob stderr) here.stderrBlob first = (.ok stderrTarget, second) ∧
      after =
        { before.supervisedBy check paths supervision.ended with disk := second }.observed world ∧
      execution = {
        check
        startedUnixMs
        completedUnixMs := world.clock before.moment
        durationMs := world.elapsed (before.moment + 1)
        outcome := supervisedOutcome maxLogBytes forced status supervision.ended.budget
        exitCode := status.code
        stdout := some (logReference stdout)
        stderr := some (logReference stderr)
        stdoutSummary := tailSummary stdout
        stderrSummary := tailSummary stderr
        diagnosticSummariesTruncated := stdout.truncated || stderr.truncated } := by
  simp only [supervisedExecution, bind_ok_iff, unixTimeMs, elapsedMs, pure_apply] at ran
  obtain ⟨⟨forced, status, stdout, stderr, budget⟩, joined, supervising, stdoutReference, first,
    storingStdout, stderrReference, second, storingStderr, _, _, ⟨⟩, _, _, ⟨⟩, ⟨⟩⟩ := ran
  obtain ⟨rfl, firstShape, stdoutTarget, stdoutDone⟩ := persistCapture_ok storingStdout
  obtain ⟨rfl, secondShape, stderrTarget, stderrDone⟩ := persistCapture_ok storingStderr
  simp only [superviseChild] at supervising
  split at supervising
  · rename_i returned
    cases supervising
    rw [secondShape, firstShape]
    exact ⟨_, _, _, _, _, _, _, _, _, returned, stdoutDone, stderrDone, rfl, rfl⟩
  · cases supervising

/-- Both logs of a supervised check are stored, and nothing else has changed. -/
theorem supervisedExecution_ok {check : CheckDefinition} {maxLogBytes startedUnixMs : UInt64}
    {paths : String × String} {execution : CheckExecution} {earlier : Nat}
    {start before after : RunState} (opened : Opened store start before paths)
    (spawned : ∃ process ∈ before.spawned, process.check = check)
    (inOrder : earlier ≤ before.moment) (started : startedUnixMs = world.clock earlier)
    (ran : supervisedExecution world here store check maxLogBytes startedUnixMs paths before =
      .ok execution after) :
    Executed world store maxLogBytes check execution start after := by
  obtain ⟨supervision, forced, status, stdout, stderr, stdoutTarget, stderrTarget, first, second,
    returned, stdoutDone, stderrDone, rfl, rfl⟩ := supervisedExecution_cases ran
  have known := Supervision.result_ok returned
  obtain ⟨files, captures⟩ := opened.files
  let joined := before.supervisedBy check paths supervision.ended
  -- The threads have filled the two files, and each is stored as a blob.
  have written : OpenCaptures store start.disk joined.disk paths files
      supervision.ended.stdout.written supervision.ended.stderr.written := captures.written _ _
  have stdoutAbsent : start.disk.links (captureBlob stdout).temporary = none := by
    rw [captureBlob, known.stdoutFile.path]
    exact written.stdoutFile.absent
  have stderrAbsent : start.disk.links (captureBlob stderr).temporary = none := by
    rw [captureBlob, known.stderrFile.path]
    exact written.stderrFile.absent
  have stderrTemporary : store.IsTemporary (captureBlob stderr).temporary := by
    rw [captureBlob, known.stderrFile.path]
    exact written.stderrTemporary
  have stdoutStored := stored_of_captured written.stdoutTemporary known.stdoutFile
    written.stdoutFile stdoutDone
  have firstExtends := @storeBlob_extends joined.disk _ store start.disk _ here.stdoutBlob
    written.extends' stdoutAbsent
  rw [stdoutDone] at firstExtends
  have stderrFile : start.disk.Scratch first paths.2 files.2 supervision.ended.stderr.written := by
    obtain ⟨linked, same⟩ := @storeBlob_kept _ store (captureBlob stdout) joined.disk
      here.stdoutBlob _ _ (by
        rw [captureBlob, known.stdoutFile.path]
        exact Ne.symm written.distinctPaths) written.stderrFile.linked
    rw [stdoutDone] at linked same
    exact ⟨written.stderrFile.absent, linked, written.stderrFile.fresh,
      same.trans written.stderrFile.stored⟩
  have stderrStored := stored_of_captured written.stderrTemporary known.stderrFile stderrFile
    stderrDone
  have secondExtends := @storeBlob_extends first _ store start.disk _ here.stderrBlob
    firstExtends stderrAbsent
  rw [stderrDone] at secondExtends
  refine ⟨rfl, ⟨earlier, before.moment, inOrder, started, rfl⟩, ?_,
    [(check, supervision.ended)], ?_, .supervised known rfl spawned rfl rfl rfl rfl
      (stdoutStored.storeBlob stderrTemporary stderrDone) stderrStored ?_⟩
  · refine ⟨secondExtends, Nat.le_succ_of_le opened.advances.moment, ?_, opened.advances.spawned⟩
    intro set
    simp [RunState.observed, RunState.supervisedBy,
      known.remembered (opened.advances.cancelled set)]
  · simp only [RunState.observed, RunState.supervisedBy, opened.supervised]
  · intro set
    simp [RunState.observed, RunState.supervisedBy, set]

/-- The two ways in which a check that returns can have gone. -/
theorem executeCheck_cases {check : CheckDefinition} {maxLogBytes : UInt64}
    {execution : CheckExecution} {before after : RunState}
    (ran : executeCheck world here store check maxLogBytes before = .ok execution after) :
    ∃ directory paths created,
      createCaptureFiles world here store (before.observed world) = .ok paths created ∧
      ((∃ error, here.spawn = some error ∧
          spawnFailedExecution world here check (world.clock before.moment) paths error created =
            .ok execution after) ∨
        here.spawn = none ∧ ∃ spawned,
          spawnChild world here check directory paths created = .ok () spawned ∧
          supervisedExecution world here store check maxLogBytes (world.clock before.moment) paths
            spawned = .ok execution after) := by
  simp only [executeCheck, bind_ok_iff, unixTimeMs] at ran
  obtain ⟨_, _, ⟨⟩, directory, resolved, resolving, paths, created, creating, rest⟩ := ran
  have resolvedShape : resolved = before.observed world := by
    simp only [ofExcept] at resolving
    split at resolving <;> cases resolving
    rfl
  rw [resolvedShape] at creating
  refine ⟨directory, paths, created, creating, ?_⟩
  cases spawning : here.spawn with
  | some error =>
      rw [spawning] at rest
      exact .inl ⟨error, rfl, rest⟩
  | none =>
      rw [spawning] at rest
      simp only [bind_ok_iff] at rest
      obtain ⟨_, spawned, starting, supervising⟩ := rest
      exact .inr ⟨rfl, spawned, starting, supervising⟩

/-- Whatever way a check goes, its record is what its surroundings did. -/
theorem executeCheck_ok {check : CheckDefinition} {maxLogBytes : UInt64}
    {execution : CheckExecution} {before after : RunState}
    (ran : executeCheck world here store check maxLogBytes before = .ok execution after) :
    Executed world store maxLogBytes check execution before after := by
  obtain ⟨_, paths, created, creating, rest⟩ := executeCheck_cases ran
  obtain ⟨⟨files, captures⟩, createdShape⟩ := createCaptureFiles_ok creating
  have opened : Opened store before created paths := by
    refine ⟨⟨captures.extends', ?_, ?_, ?_⟩, ?_, files, captures⟩
    · rw [createdShape]
      exact Nat.le_succ _
    · intro set
      rw [createdShape]
      simp [RunState.observed, set]
    · rw [createdShape]
      exact fun _ member => member
    · rw [createdShape]
      rfl
  have inOrder : before.moment ≤ created.moment := opened.advances.moment
  rcases rest with ⟨error, _, failing⟩ | ⟨_, spawned, starting, supervising⟩
  · exact spawnFailedExecution_ok opened inOrder rfl failing
  · obtain ⟨process, started, spawnedShape⟩ := spawnChild_ok starting
    have running : Opened store before spawned paths := by
      obtain ⟨advances, same, captures⟩ := opened
      rw [spawnedShape]
      exact ⟨advances.trans
          ⟨.refl, Nat.le_refl _, id, fun _ member => List.mem_append_left _ member⟩,
        same, captures⟩
    refine supervisedExecution_ok running ⟨process, ?_, started⟩ ?_ rfl supervising
    · rw [spawnedShape]
      exact List.mem_append_right _ (List.mem_singleton_self _)
    · rw [spawnedShape]
      exact inOrder

/-! What is enough for a check to be executed -/

/-- The state after a capture file was created. -/
def RunState.withCapture (state : RunState) (path : String) : RunState :=
  { state with
    logSequence := state.logSequence + 1, disk := state.disk.create path (.file [] none) }

private theorem createCaptureFile_eq {faults : Nat → Option IoError} {stream path : String}
    {before : RunState} (faultless : faults = fun _ => none)
    (named : capturePath store world.process before.logSequence stream = path)
    (free : before.disk.links path = none) :
    createCaptureFile world store faults stream before = .ok path (before.withCapture path) := by
  subst named faultless
  have first := @allocation_first before.disk (store.captureAllocation world.process stream) 99
    before.logSequence free
  simp only [createCaptureFile, createFile, allocationAttempts]
  rw [first]
  rfl

theorem createCaptureFiles_eq {before : RunState} {stdoutPath stderrPath : String}
    (stdoutFaultless : here.stdoutFaults = fun _ => none)
    (stderrFaultless : here.stderrFaults = fun _ => none)
    (stdoutNamed : capturePath store world.process before.logSequence "stdout" = stdoutPath)
    (stderrNamed : capturePath store world.process (before.withCapture stdoutPath).logSequence
      "stderr" = stderrPath)
    (stdoutFree : before.disk.links stdoutPath = none)
    (stderrFree : (before.withCapture stdoutPath).disk.links stderrPath = none) :
    createCaptureFiles world here store before = .ok (stdoutPath, stderrPath)
      ((before.withCapture stdoutPath).withCapture stderrPath) := by
  have second : onFailure (createCaptureFile world store here.stderrFaults "stderr")
      (discardFile here.removeStdout stdoutPath) (before.withCapture stdoutPath) =
      .ok stderrPath ((before.withCapture stdoutPath).withCapture stderrPath) := by
    have created := createCaptureFile_eq stderrFaultless stderrNamed stderrFree
    simp only [onFailure, created]
  have first := createCaptureFile_eq stdoutFaultless stdoutNamed stdoutFree
  rw [createCaptureFiles, bind_of_ok first, bind_of_ok second]
  rfl

theorem superviseChild_eq {check : CheckDefinition} {maxLogBytes : UInt64}
    {paths : String × String} {before : RunState} {supervision : Supervision
      ⟨check.id, maxLogBytes, paths.1, paths.2, before.cancelled⟩}
    {forced : Option StopReason} {status : ExitStatus} {stdout stderr : Capture}
    (supervised : here.supervise _ = supervision)
    (returned : supervision.result = .ok (forced, status, stdout, stderr)) :
    superviseChild here check maxLogBytes paths before =
      .ok (forced, status, stdout, stderr, supervision.ended.budget)
        (before.supervisedBy check paths supervision.ended) := by
  subst supervised
  simp only [superviseChild, returned]
  rfl

theorem persistCapture_eq {faults : BlobFaults} {capture : Capture} {path : String}
    {before : RunState} {after : Disk}
    (stored : store.storeBlob (captureBlob capture) faults before.disk = (.ok path, after)) :
    persistCapture store faults capture before =
      .ok (logReference capture) { before with disk := after } := by
  have done : onDisk (store.storeBlob (captureBlob capture) faults) before =
      .ok path { before with disk := after } := by
    simp only [onDisk, stored]
  rw [persistCapture, bind_of_ok done]
  rfl

theorem supervisedExecution_eq {check : CheckDefinition} {maxLogBytes startedUnixMs : UInt64}
    {paths : String × String} {forced : Option StopReason} {status : ExitStatus}
    {stdout stderr : Capture} {budget : LogBudget} {before joined : RunState}
    {stdoutTarget stderrTarget : String} {first second : Disk}
    (supervising : superviseChild here check maxLogBytes paths before =
      .ok (forced, status, stdout, stderr, budget) joined)
    (stdoutStored : store.storeBlob (captureBlob stdout) here.stdoutBlob joined.disk =
      (.ok stdoutTarget, first))
    (stderrStored : store.storeBlob (captureBlob stderr) here.stderrBlob first =
      (.ok stderrTarget, second)) :
    supervisedExecution world here store check maxLogBytes startedUnixMs paths before =
      .ok {
          check
          startedUnixMs
          completedUnixMs := world.clock joined.moment
          durationMs := world.elapsed (joined.moment + 1)
          outcome := supervisedOutcome maxLogBytes forced status budget
          exitCode := status.code
          stdout := some (logReference stdout)
          stderr := some (logReference stderr)
          stdoutSummary := tailSummary stdout
          stderrSummary := tailSummary stderr
          diagnosticSummariesTruncated := stdout.truncated || stderr.truncated }
        ({ joined with disk := second }.observed world) := by
  have storedFirst := persistCapture_eq stdoutStored
  have storedSecond := @persistCapture_eq _ store here.stderrBlob stderr stderrTarget
    { joined with disk := first } second stderrStored
  rw [supervisedExecution, bind_of_ok supervising]
  simp only [bind_of_ok storedFirst, bind_of_ok storedSecond]
  rfl

/-- A check whose capture files are there starts its child, or records that it could not. -/
theorem executeCheck_opened {check : CheckDefinition} {maxLogBytes : UInt64} {directory : String}
    {paths : String × String} {before opened : RunState}
    (resolved : resolveWorkingDirectory here world.after.root check.command.workingDirectory =
      .ok directory)
    (created : createCaptureFiles world here store (before.observed world) = .ok paths opened) :
    (∀ error, here.spawn = some error → executeCheck world here store check maxLogBytes before =
        spawnFailedExecution world here check (world.clock before.moment) paths error opened) ∧
      (here.spawn = none → executeCheck world here store check maxLogBytes before =
        (spawnChild world here check directory paths >>= fun _ =>
          supervisedExecution world here store check maxLogBytes (world.clock before.moment)
            paths) opened) := by
  have started : unixTimeMs world before =
      .ok (world.clock before.moment) (before.observed world) := rfl
  have resolving : ofExcept (resolveWorkingDirectory here world.after.root
      check.command.workingDirectory) (before.observed world) =
      .ok directory (before.observed world) := by
    rw [resolved]
    rfl
  rw [executeCheck, bind_of_ok started, bind_of_ok resolving, bind_of_ok created]
  constructor
  · intro error fails
    simp only [fails]
  · intro starts
    simp only [starts]

theorem executeCheck_eq {check : CheckDefinition} {maxLogBytes : UInt64} {directory : String}
    {paths : String × String} {before opened spawned : RunState}
    (resolved : resolveWorkingDirectory here world.after.root check.command.workingDirectory =
      .ok directory)
    (created : createCaptureFiles world here store (before.observed world) = .ok paths opened)
    (starts : here.spawn = none)
    (spawning : spawnChild world here check directory paths opened = .ok () spawned) :
    executeCheck world here store check maxLogBytes before =
      supervisedExecution world here store check maxLogBytes (world.clock before.moment) paths
        spawned :=
  ((executeCheck_opened resolved created).2 starts).trans (bind_of_ok spawning)

/-- The state after a child was started. -/
def RunState.withSpawned (state : RunState) (process : SpawnedProcess) : RunState :=
  { state with spawned := state.spawned ++ [process] }

theorem spawnChild_eq {check : CheckDefinition} {directory : String} {paths : String × String}
    {before : RunState} (stdoutPiped : here.hasStdout = true)
    (stderrPiped : here.hasStderr = true) :
    spawnChild world here check directory paths before = .ok () (before.withSpawned
      ⟨check, directory, forwardEnvironment world.environment check.passEnvironment⟩) := by
  simp [RunState.withSpawned, spawnChild, stdoutPiped, stderrPiped, bind, EStateM.bind, pure,
    EStateM.pure]

/-- Surroundings in which the child of a check starts and nothing fails. -/
structure CheckWorld.Faultless (here : CheckWorld) : Prop where
  stdoutFaults : here.stdoutFaults = fun _ => none
  stderrFaults : here.stderrFaults = fun _ => none
  spawn : here.spawn = none
  hasStdout : here.hasStdout = true
  hasStderr : here.hasStderr = true
  stdoutBlob : here.stdoutBlob = .none
  stderrBlob : here.stderrBlob = .none

/-- The state when the child of a check runs. -/
def RunState.started (world : World) (check : CheckDefinition) (directory stdoutPath stderrPath :
    String) (before : RunState) : RunState :=
  (((before.observed world).withCapture stdoutPath).withCapture stderrPath).withSpawned
    ⟨check, directory, forwardEnvironment world.environment check.passEnvironment⟩

/-- The state when a check has been executed and its logs are stored. -/
def RunState.settled (world : World) (check : CheckDefinition) (paths : String × String)
    (ended : SuperviseState) (disk : Disk) (started : RunState) : RunState :=
  { started.supervisedBy check paths ended with disk }.observed world

/-- A check both logs of which have the content of one blob that is not stored yet is executed:
the first publishes the blob, and the second adopts it. -/
theorem executeCheck_publishes {check : CheckDefinition} {maxLogBytes : UInt64}
    {directory stdoutPath stderrPath : String} {before : RunState}
    {supervision : Supervision ⟨check.id, maxLogBytes, stdoutPath, stderrPath,
      (before.started world check directory stdoutPath stderrPath).cancelled⟩}
    {forced : Option StopReason} {status : ExitStatus} {stdout stderr : Capture} {joined : Disk}
    (faultless : here.Faultless)
    (resolved : resolveWorkingDirectory here world.after.root check.command.workingDirectory =
      .ok directory)
    (stdoutNamed : capturePath store world.process before.logSequence "stdout" = stdoutPath)
    (stderrNamed : capturePath store world.process (before.logSequence + 1) "stderr" = stderrPath)
    (stdoutFree : before.disk.links stdoutPath = none)
    (stderrFree : (before.disk.create stdoutPath (.file [] none)).links stderrPath = none)
    (supervised : here.supervise _ = supervision)
    (returned : supervision.result = .ok (forced, status, stdout, stderr))
    (joins : ((before.started world check directory stdoutPath stderrPath).supervisedBy check
      (stdoutPath, stderrPath) supervision.ended).disk = joined)
    (same : stderr.digest = stdout.digest) (sized : stderr.bytes = stdout.bytes)
    (vacant : before.disk.links (store.blobTarget stdout.digest) = none) :
    executeCheck world here store check maxLogBytes before =
      .ok {
          check
          startedUnixMs := world.clock before.moment
          completedUnixMs := world.clock (before.moment + 1)
          durationMs := world.elapsed (before.moment + 2)
          outcome := supervisedOutcome maxLogBytes forced status supervision.ended.budget
          exitCode := status.code
          stdout := some (logReference stdout)
          stderr := some (logReference stderr)
          stdoutSummary := tailSummary stdout
          stderrSummary := tailSummary stderr
          diagnosticSummariesTruncated := stdout.truncated || stderr.truncated }
        ((before.started world check directory stdoutPath stderrPath).settled world check
          (stdoutPath, stderrPath) supervision.ended
          (((joined.link stdoutPath (store.blobTarget stdout.digest)).unlink stdoutPath).unlink
            stderrPath)) := by
  subst joins
  have created := @createCaptureFiles_eq _ world here store (before.observed world) stdoutPath
    stderrPath faultless.stdoutFaults faultless.stderrFaults stdoutNamed stderrNamed stdoutFree
    stderrFree
  obtain ⟨⟨files, opened⟩, _⟩ := createCaptureFiles_ok created
  have written := opened.written supervision.ended.stdout.written supervision.ended.stderr.written
  have known := Supervision.result_ok returned
  let target := store.blobTarget stdout.digest
  let joined : Disk := ((before.started world check directory stdoutPath stderrPath).supervisedBy
    check (stdoutPath, stderrPath) supervision.ended).disk
  let published : Disk := (joined.link stdoutPath target).unlink stdoutPath
  have apart : target ≠ stdoutPath := opened.stdoutTemporary.ne_blobTarget stdout.digest
  have stderrApart : target ≠ stderrPath := opened.stderrTemporary.ne_blobTarget stdout.digest
  have distinct : stdoutPath ≠ stderrPath := opened.distinctPaths
  have stdoutThere : joined.lookup stdoutPath =
      some (.file supervision.ended.stdout.written none) := written.stdoutFile.lookup
  have stderrThere : published.lookup stderrPath =
      some (.file supervision.ended.stderr.written none) :=
    (FileSystem.lookup_unlink_other _ distinct.symm).trans
      ((FileSystem.lookup_link_other _ stderrApart.symm).trans written.stderrFile.lookup)
  have stored : published.lookup target = some (.file supervision.ended.stdout.written none) :=
    (FileSystem.lookup_unlink_other _ apart).trans
      ((FileSystem.lookup_link_target _).trans stdoutThere)
  have storing : store.storeBlob (captureBlob stdout) here.stdoutBlob joined =
      (.ok target, published) := by
    have named : (captureBlob stdout).temporary = stdoutPath := known.stdoutFile.path
    have unpublished : joined.links target = none := by
      simp [joined, RunState.started, RunState.supervisedBy, RunState.withSpawned,
        RunState.withCapture, RunState.observed, FileSystem.modify, FileSystem.create, apart,
        stderrApart, target, vacant]
    rw [faultless.stdoutBlob]
    have publishes := @storeBlob_publishes _ store (captureBlob stdout) joined
    rw [named] at publishes
    refine publishes ?_ ?_ ?_ apart.symm
    · rw [captureBlob, known.stdoutFile.digest]
      exact validateSha256_sha256Bytes _
    · rw [Disk.pathExists, FileSystem.lookup]
      exact congrArg (fun file => (file.map joined.nodes).isSome) unpublished
    · rw [Disk.pathExists, stdoutThere]
      rfl
  have storingNext : store.storeBlob (captureBlob stderr) here.stderrBlob published =
      (.ok (store.blobTarget stderr.digest), published.unlink stderrPath) := by
    have named : (captureBlob stderr).temporary = stderrPath := known.stderrFile.path
    rw [faultless.stderrBlob, ← named]
    refine storeBlob_adopts ?_ ?_ ?_
    · rw [captureBlob, known.stderrFile.digest]
      exact validateSha256_sha256Bytes _
    · rw [captureBlob, same, sized]
      exact ⟨_, stored, known.stdoutFile.digest.symm, known.stdoutFile.bytes.symm⟩
    · rw [named, Disk.pathExists, stderrThere]
      rfl
  have spawning : spawnChild world here check directory (stdoutPath, stderrPath)
      (((before.observed world).withCapture stdoutPath).withCapture stderrPath) =
      .ok () (before.started world check directory stdoutPath stderrPath) :=
    spawnChild_eq faultless.hasStdout faultless.hasStderr
  have executed := @supervisedExecution_eq _ world here store check maxLogBytes
    (world.clock before.moment) (stdoutPath, stderrPath) _ _ _ _ _ _ _ _ _ _ _
    (superviseChild_eq supervised returned) storing storingNext
  exact (executeCheck_eq resolved created faultless.spawn spawning).trans executed

end Checks

end TaskAttest
