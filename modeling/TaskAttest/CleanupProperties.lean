import TaskAttest.RunReceiptProperties
import TaskAttest.Library.Interleaving

/-! Which ends of a check leave one of its two capture files behind. -/

set_option autoImplicit false

namespace TaskAttest

open Program Interleaving

/-! Storing a blob, exactly -/

section Storing

variable [Sha2] {store : StateStore} {call : BlobCall} {faults : BlobFaults} {disk : Disk}

/-- A capture can be stored: its blob is there, intact and seen, or it is not there and
can be linked. -/
def StateStore.Storable (store : StateStore) (call : BlobCall) (faults : BlobFaults)
    (disk : Disk) : Prop :=
  (disk.pathExists (store.blobTarget call.digest) = true ∧
    disk.HasBlob (store.blobTarget call.digest) call.digest call.expectedBytes ∧
    faults.verify = none ∧ (faults.lookup = false ∨ faults.relookup = false)) ∨
  (disk.pathExists (store.blobTarget call.digest) = false ∧ faults.link = none)

omit [Sha2] in
/-- The disk when a capture was stored. -/
def StateStore.stored (store : StateStore) (call : BlobCall) (disk : Disk) : Disk :=
  if disk.pathExists (store.blobTarget call.digest) then disk.unlink call.temporary
  else (disk.link call.temporary (store.blobTarget call.digest)).unlink call.temporary

omit [Sha2] in
private theorem removeTemporary_eq (present : disk.pathExists call.temporary = true)
    (action : String) :
    store.removeTemporary call action none disk =
      (.ok (store.blobTarget call.digest), disk.unlink call.temporary) := by
  simp [StateStore.removeTemporary, attempt, Disk.removeFile, present]

private theorem verifyBlobStep_eq_ok_iff :
    store.verifyBlobStep call faults.verify disk = .ok () ↔ faults.verify = none ∧
      disk.HasBlob (store.blobTarget call.digest) call.digest call.expectedBytes := by
  cases verify : faults.verify with
  | none => simpa [StateStore.verifyBlobStep] using verifyExistingBlob_eq_ok_iff
  | some error => simp [StateStore.verifyBlobStep]

private theorem adoptBlob_cases (removes : faults.remove = none)
    (present : disk.pathExists call.temporary = true) (action : String) :
    (faults.verify = none ∧
        disk.HasBlob (store.blobTarget call.digest) call.digest call.expectedBytes →
      store.adoptBlob call action faults disk =
        (.ok (store.blobTarget call.digest), disk.unlink call.temporary)) ∧
    (¬(faults.verify = none ∧
        disk.HasBlob (store.blobTarget call.digest) call.digest call.expectedBytes) →
      ∃ error, store.adoptBlob call action faults disk = (.error error, disk)) := by
  rw [← verifyBlobStep_eq_ok_iff]
  unfold StateStore.adoptBlob
  cases verified : store.verifyBlobStep call faults.verify disk with
  | ok value =>
      rw [removes, removeTemporary_eq present]
      exact ⟨fun _ => rfl, fun refuted => absurd rfl refuted⟩
  | error error => exact ⟨nofun, fun _ => ⟨error, rfl⟩⟩

/-- A blob that is there is adopted, unless both existence tests miss it. -/
theorem storeBlob_present (wellFormed : validateSha256 call.digest = .ok ())
    (published : disk.pathExists (store.blobTarget call.digest) = true) :
    ((faults.lookup = false ∨ faults.relookup = false) ∧
      ∃ action, store.storeBlob call faults disk = store.adoptBlob call action faults disk) ∨
    ((faults.lookup = true ∧ faults.relookup = true) ∧
      ∃ error, store.storeBlob call faults disk = (.error error, disk)) := by
  have occupied : ∃ error, attempt faults.link
      (disk.hardLink call.temporary (store.blobTarget call.digest)) = .error error := by
    cases faults.link with
    | none => exact ⟨occupiedPath, by simp [attempt, Disk.hardLink, published]⟩
    | some error => exact ⟨error, rfl⟩
  obtain ⟨error, refused⟩ := occupied
  cases seen : faults.lookup with
  | false =>
      refine .inl ⟨.inl rfl, "remove duplicate temporary log", ?_⟩
      simp [StateStore.storeBlob, wellFormed, published, seen]
  | true =>
      cases again : faults.relookup with
      | false =>
          refine .inl ⟨.inr rfl, "remove raced temporary log", ?_⟩
          simp [StateStore.storeBlob, wellFormed, published, seen, again, refused]
      | true =>
          refine .inr ⟨⟨rfl, rfl⟩, TaskError.io "publish content-addressed log without overwriting"
            (store.blobTarget call.digest) error, ?_⟩
          simp [StateStore.storeBlob, wellFormed, seen, again, refused]

private theorem storeBlob_absent (wellFormed : validateSha256 call.digest = .ok ())
    (present : disk.pathExists call.temporary = true)
    (apart : store.blobTarget call.digest ≠ call.temporary) (removes : faults.remove = none)
    (unpublished : disk.pathExists (store.blobTarget call.digest) = false) :
    (faults.link = none → store.storeBlob call faults disk = (.ok (store.blobTarget call.digest),
      (disk.link call.temporary (store.blobTarget call.digest)).unlink call.temporary)) ∧
    (faults.link ≠ none → ∃ error, store.storeBlob call faults disk = (.error error, disk)) := by
  cases linking : faults.link with
  | none =>
      have linked : (disk.link call.temporary (store.blobTarget call.digest)).lookup
          call.temporary = disk.lookup call.temporary :=
        FileSystem.lookup_link_other _ (Ne.symm apart)
      have still : Disk.pathExists
          (disk.link call.temporary (store.blobTarget call.digest)) call.temporary = true := by
        rw [Disk.pathExists, linked]
        exact present
      refine ⟨fun _ => ?_, fun refuted => absurd rfl refuted⟩
      simp [StateStore.storeBlob, wellFormed, unpublished, linking, attempt, Disk.hardLink, present,
        removes, removeTemporary_eq still]
  | some error =>
      refine ⟨fun unrefuted => absurd unrefuted (Option.some_ne_none error), fun _ =>
        ⟨TaskError.io "publish content-addressed log without overwriting"
          (store.blobTarget call.digest) error, ?_⟩⟩
      simp [StateStore.storeBlob, wellFormed, unpublished, linking, attempt]

private theorem storeBlob_cases (wellFormed : validateSha256 call.digest = .ok ())
    (present : disk.pathExists call.temporary = true)
    (apart : store.blobTarget call.digest ≠ call.temporary) (removes : faults.remove = none) :
    (store.Storable call faults disk →
      store.storeBlob call faults disk =
        (.ok (store.blobTarget call.digest), store.stored call disk)) ∧
    (¬store.Storable call faults disk →
      ∃ error, store.storeBlob call faults disk = (.error error, disk)) := by
  cases published : disk.pathExists (store.blobTarget call.digest) with
  | true =>
      have shape : store.stored call disk = disk.unlink call.temporary := if_pos published
      rw [shape]
      rcases @storeBlob_present _ store call faults disk wellFormed published with
        ⟨seen, action, adopted⟩ | ⟨⟨missed, missedAgain⟩, failed⟩
      · obtain ⟨keeps, fails⟩ := @adoptBlob_cases _ store call faults disk removes present action
        rw [adopted]
        constructor
        · intro storable
          rcases storable with ⟨_, blob, verify, _⟩ | ⟨absent, _⟩
          · exact keeps ⟨verify, blob⟩
          · rw [published] at absent
            cases absent
        · intro unstorable
          apply fails
          intro kept
          exact unstorable (.inl ⟨published, kept.2, kept.1, seen⟩)
      · refine ⟨fun storable => ?_, fun _ => failed⟩
        rcases storable with ⟨_, _, _, seen⟩ | ⟨absent, _⟩
        · simp [missed, missedAgain] at seen
        · rw [published] at absent
          cases absent
  | false =>
      have shape : store.stored call disk =
          (disk.link call.temporary (store.blobTarget call.digest)).unlink call.temporary :=
        if_neg (by simp [published])
      rw [shape]
      obtain ⟨links, fails⟩ := @storeBlob_absent _ store call faults disk wellFormed present apart
        removes published
      constructor
      · intro storable
        rcases storable with ⟨there, _⟩ | ⟨_, linking⟩
        · rw [published] at there
          cases there
        · exact links linking
      · intro unstorable
        apply fails
        intro linking
        exact unstorable (.inr ⟨published, linking⟩)

end Storing

/-! Supervisions that end well -/

/-- The loop has come to the joins, and both threads have captured their streams. -/
structure SuperviseState.Succeeds (state : SuperviseState) (forced : Option StopReason)
    (status : ExitStatus) (stdout stderr : Capture) : Prop where
  joining : state.phase = .joining forced status
  stdoutRunning : state.stdout.panicked = false
  stdoutDone : state.stdout.phase = .finished (.ok stdout)
  stderrRunning : state.stderr.panicked = false
  stderrDone : state.stderr.phase = .finished (.ok stderr)

private theorem joinCapture_eq_ok_iff {thread : CaptureThread} {stream : String}
    {capture : Capture} :
    joinCapture thread stream = .ok capture ↔
      thread.panicked = false ∧ thread.phase = .finished (.ok capture) := by
  constructor
  · intro joined
    refine ⟨?_, joinCapture_ok joined⟩
    unfold joinCapture at joined
    split at joined
    · rename_i running _
      exact running
    · cases joined
    · cases joined
  · intro finished
    simp [joinCapture, finished.1, finished.2]

section Checks

variable [Sha2]

private theorem Supervision.result_eq_ok_iff {setup : SuperviseSetup}
    {supervision : Supervision setup}
    {forced : Option StopReason} {status : ExitStatus} {stdout stderr : Capture} :
    supervision.result = .ok (forced, status, stdout, stderr) ↔
      supervision.ended.Succeeds forced status stdout stderr := by
  constructor
  · intro returned
    obtain ⟨joining, stdoutJoined, stderrJoined⟩ := Supervision.result_joined returned
    obtain ⟨stdoutRunning, stdoutDone⟩ := joinCapture_eq_ok_iff.mp stdoutJoined
    obtain ⟨stderrRunning, stderrDone⟩ := joinCapture_eq_ok_iff.mp stderrJoined
    exact ⟨joining, stdoutRunning, stdoutDone, stderrRunning, stderrDone⟩
  · intro succeeds
    obtain ⟨joining, stdoutRunning, stdoutDone, stderrRunning, stderrDone⟩ := succeeds
    have stdoutJoined := @joinCapture_eq_ok_iff _ "stdout" _ |>.mpr ⟨stdoutRunning, stdoutDone⟩
    have stderrJoined := @joinCapture_eq_ok_iff _ "stderr" _ |>.mpr ⟨stderrRunning, stderrDone⟩
    have result : supervision.ended.result = some (.ok (forced, status, stdout, stderr)) := by
      simp [SuperviseState.result, joining, CaptureThread.done, stdoutDone, stderrDone,
        stdoutJoined, stderrJoined, Except.map]
    simp only [Supervision.result, result, Option.get_some]

omit [Sha2] in
private theorem supervisedOutcome_ne_spawnFailed {maxLogBytes : UInt64} {forced : Option StopReason}
    {status : ExitStatus} {budget : LogBudget} :
    supervisedOutcome maxLogBytes forced status budget ≠ .spawnFailed := by
  unfold supervisedOutcome
  cases forced with
  | some reason => cases reason <;> simp [StopReason.outcome]
  | none =>
      simp only
      split
      · simp
      · split <;> simp

/-! The ends of a check -/

/-- The check failed, or it was recorded that its program could not be started. -/
def NotRun (result : Except TaskError CheckExecution) : Prop :=
  ∀ execution, result = .ok execution → execution.outcome = .spawnFailed

/-- Neither capture file remains. -/
def NoCapture (paths : String × String) (disk : Disk) : Prop :=
  disk.links paths.1 = none ∧ disk.links paths.2 = none

/-- What the surroundings make of the child and of the threads. -/
def CheckWorld.ended (here : CheckWorld) (check : CheckDefinition) (maxLogBytes : UInt64)
    (paths : String × String) (cancelled : Bool) : SuperviseState :=
  (here.supervise ⟨check.id, maxLogBytes, paths.1, paths.2, cancelled⟩).ended

/-- The disk when the threads have written the two capture files. -/
def writtenDisk (disk : Disk) (paths : String × String) (ended : SuperviseState) : Disk :=
  (disk.modify paths.1 (Entry.append ended.stdout.written)).modify paths.2
    (Entry.append ended.stderr.written)

/-- Both captures end well and can be stored, one after the other. -/
def CheckWorld.StoresBoth (here : CheckWorld) (store : StateStore) (disk : Disk)
    (paths : String × String) (ended : SuperviseState) : Prop :=
  ∃ forced status stdout stderr, ended.Succeeds forced status stdout stderr ∧
    store.Storable (captureBlob stdout) here.stdoutBlob (writtenDisk disk paths ended) ∧
    store.Storable (captureBlob stderr) here.stderrBlob
      (store.stored (captureBlob stdout) (writtenDisk disk paths ended))

variable {world : World} {here : CheckWorld} {store : StateStore} {check : CheckDefinition}
  {maxLogBytes startedUnixMs : UInt64} {paths : String × String} {base : Disk} {files : Nat × Nat}

omit [Sha2] in
private theorem links_discard_self (disk : Disk) (path : String) :
    (disk.discard none path).links path = none := by
  unfold Disk.discard Disk.removeFile attempt
  by_cases present : disk.pathExists path = true
  · simp [present, FileSystem.unlink]
  · have absent : disk.lookup path = none := by simpa [Disk.pathExists] using present
    simp only [present]
    exact (FileSystem.lookup_eq_none_iff _).mp absent

omit [Sha2] in
private theorem links_discard_none {disk : Disk} {path other : String}
    (absent : disk.links other = none) :
    (disk.discard none path).links other = none := by
  unfold Disk.discard Disk.removeFile attempt
  by_cases present : disk.pathExists path = true
  · simp [present, FileSystem.unlink, absent]
  · simp [present, absent]

private theorem discardCaptures_removes (state : RunState)
    (removes : here.removeStdout = none ∧ here.removeStderr = none) :
    ∃ after, discardCaptures here paths state = .ok () after ∧ NoCapture paths after.disk := by
  refine ⟨_, discardCaptures_apply here paths state, ?_⟩
  rw [removes.1, removes.2]
  exact ⟨links_discard_none (links_discard_self _ _), links_discard_self _ _⟩

private theorem superviseChild_error {before : RunState} {error : TaskError}
    (returned : (here.supervise ⟨check.id, maxLogBytes, paths.1, paths.2,
      before.cancelled⟩).result = .error error) :
    superviseChild here check maxLogBytes paths before = .error error
      (before.supervisedBy check paths (here.ended check maxLogBytes paths before.cancelled)) := by
  simp only [superviseChild, returned]
  rfl

private theorem persistCapture_error {faults : BlobFaults} {capture : Capture} {before : RunState}
    {after : Disk} {error : TaskError}
    (failed : store.storeBlob (captureBlob capture) faults before.disk = (.error error, after)) :
    persistCapture store faults capture before = .error error { before with disk := after } := by
  have done : onDisk (store.storeBlob (captureBlob capture) faults) before =
      .error error { before with disk := after } := by
    simp only [onDisk, failed]
  rw [persistCapture, bind_of_error done]

omit [Sha2] in
theorem outcome_of_error {action : RunM CheckExecution} {before after : RunState}
    {error : TaskError} (failed : action before = .error error after) :
    outcome action before = (.error error, after) := by
  simp only [outcome, failed]

omit [Sha2] in
theorem outcome_of_ok {action : RunM CheckExecution} {before after : RunState}
    {execution : CheckExecution} (ran : action before = .ok execution after) :
    outcome action before = (.ok execution, after) := by
  simp only [outcome, ran]

omit [Sha2] in
/-- A failure that leaves one of the two files there. -/
theorem not_leavesNoCapture {action : RunM CheckExecution} {before after : RunState}
    {error : TaskError} (failed : action before = .error error after)
    (remains : ¬NoCapture paths after.disk) :
    ¬(NotRun (outcome action before).1 → NoCapture paths (outcome action before).2.disk) := by
  rw [outcome_of_error failed]
  intro clean
  apply remains
  apply clean
  intro execution returned
  cases returned

/-- What a capture of an opened file is stored with. -/
theorem captureBlob_ready {disk : Disk} {path : String} {file : Nat} {thread : CaptureThread}
    {capture : Capture} (captured : Captured path thread capture)
    (temporary : store.IsTemporary path) (linked : disk.links path = some file) :
    validateSha256 (captureBlob capture).digest = .ok () ∧
      disk.pathExists (captureBlob capture).temporary = true ∧
      store.blobTarget (captureBlob capture).digest ≠ (captureBlob capture).temporary := by
  have named : (captureBlob capture).temporary = path := captured.path
  have hashed : (captureBlob capture).digest = sha256Bytes thread.written := captured.digest
  rw [named, hashed]
  refine ⟨validateSha256_sha256Bytes _, ?_, temporary.ne_blobTarget _⟩
  rw [Disk.pathExists, FileSystem.lookup, linked]
  rfl

/-! The three ways a supervised check fails -/

section Failures

variable {before : RunState} {forced : Option StopReason} {status : ExitStatus}
  {stdout stderr : Capture} {budget : LogBudget} {joined : RunState} {error : TaskError}

private theorem supervisedExecution_unsupervised
    (failed : superviseChild here check maxLogBytes paths before = .error error joined) :
    supervisedExecution world here store check maxLogBytes startedUnixMs paths before =
      .error error joined := by
  rw [supervisedExecution, bind_of_error failed]

private theorem supervisedExecution_stdoutFails {after : Disk}
    (supervising : superviseChild here check maxLogBytes paths before =
      .ok (forced, status, stdout, stderr, budget) joined)
    (refused : store.storeBlob (captureBlob stdout) here.stdoutBlob joined.disk =
      (.error error, after)) :
    supervisedExecution world here store check maxLogBytes startedUnixMs paths before =
      .error error { joined with disk := after } := by
  rw [supervisedExecution, bind_of_ok supervising]
  exact bind_of_error (persistCapture_error refused)

private theorem supervisedExecution_stderrFails {target : String} {between after : Disk}
    (supervising : superviseChild here check maxLogBytes paths before =
      .ok (forced, status, stdout, stderr, budget) joined)
    (stored : store.storeBlob (captureBlob stdout) here.stdoutBlob joined.disk =
      (.ok target, between))
    (refused : store.storeBlob (captureBlob stderr) here.stderrBlob between =
      (.error error, after)) :
    supervisedExecution world here store check maxLogBytes startedUnixMs paths before =
      .error error { joined with disk := after } := by
  have storedFirst := persistCapture_eq stored
  have failed := @persistCapture_error _ store here.stderrBlob stderr
    { joined with disk := between } after error refused
  rw [supervisedExecution, bind_of_ok supervising]
  simp only [bind_of_ok storedFirst, bind_of_error failed]

end Failures

/-- Both captures of a supervision that went well are stored, or a file remains. -/
theorem storing_leavesNoCapture_iff {before joined : RunState} {forced : Option StopReason}
    {status : ExitStatus} {stdout stderr : Capture} {budget : LogBudget}
    {stdoutThread stderrThread : CaptureThread}
    (supervising : superviseChild here check maxLogBytes paths before =
      .ok (forced, status, stdout, stderr, budget) joined)
    (captures : OpenCaptures store base joined.disk paths files stdoutThread.written
      stderrThread.written)
    (stdoutFile : Captured paths.1 stdoutThread stdout)
    (stderrFile : Captured paths.2 stderrThread stderr)
    (removes : here.stdoutBlob.remove = none ∧ here.stderrBlob.remove = none) :
    (NotRun (outcome (supervisedExecution world here store check maxLogBytes startedUnixMs paths)
        before).1 →
      NoCapture paths (outcome (supervisedExecution world here store check maxLogBytes
        startedUnixMs paths) before).2.disk) ↔
      store.Storable (captureBlob stdout) here.stdoutBlob joined.disk ∧
        store.Storable (captureBlob stderr) here.stderrBlob
          (store.stored (captureBlob stdout) joined.disk) := by
  obtain ⟨stdoutDigest, stdoutPresent, stdoutApart⟩ := captureBlob_ready stdoutFile
    captures.stdoutTemporary captures.stdoutFile.linked
  obtain ⟨stores, refuses⟩ := @storeBlob_cases _ store (captureBlob stdout) here.stdoutBlob
    joined.disk stdoutDigest stdoutPresent stdoutApart removes.1
  by_cases stdoutStorable : store.Storable (captureBlob stdout) here.stdoutBlob joined.disk
  · have stored := stores stdoutStorable
    -- The second file is still there when the first has been stored.
    have linked := (@storeBlob_kept _ store (captureBlob stdout) joined.disk here.stdoutBlob _ _ (by
      rw [captureBlob, stdoutFile.path]
      exact Ne.symm captures.distinctPaths) captures.stderrFile.linked).1
    rw [stored] at linked
    obtain ⟨stderrDigest, stderrPresent, stderrApart⟩ := captureBlob_ready stderrFile
      captures.stderrTemporary linked
    obtain ⟨storesSecond, refusesSecond⟩ := @storeBlob_cases _ store (captureBlob stderr)
      here.stderrBlob _ stderrDigest stderrPresent stderrApart removes.2
    by_cases stderrStorable : store.Storable (captureBlob stderr) here.stderrBlob
        (store.stored (captureBlob stdout) joined.disk)
    · have executed := @supervisedExecution_eq _ world here store check maxLogBytes startedUnixMs
        paths forced status stdout stderr budget before joined _ _ _ _ supervising stored
        (storesSecond stderrStorable)
      refine iff_of_true ?_ ⟨stdoutStorable, stderrStorable⟩
      rw [outcome_of_ok executed]
      intro notRun
      exact absurd (notRun _ rfl) supervisedOutcome_ne_spawnFailed
    · obtain ⟨error, refused⟩ := refusesSecond stderrStorable
      refine iff_of_false (not_leavesNoCapture
        (supervisedExecution_stderrFails supervising stored refused) ?_) ?_
      · intro clean
        rw [clean.2] at linked
        cases linked
      · intro both
        exact stderrStorable both.2
  · obtain ⟨error, refused⟩ := refuses stdoutStorable
    refine iff_of_false (not_leavesNoCapture
      (supervisedExecution_stdoutFails supervising refused) ?_) ?_
    · intro clean
      have linked := captures.stdoutFile.linked
      rw [clean.1] at linked
      cases linked
    · intro both
      exact stdoutStorable both.1

/-- A supervised check leaves no capture file behind exactly when everything goes well. -/
theorem supervisedExecution_leavesNoCapture_iff {before : RunState}
    (captures : OpenCaptures store base before.disk paths files [] [])
    (removes : here.stdoutBlob.remove = none ∧ here.stderrBlob.remove = none) :
    (NotRun (outcome (supervisedExecution world here store check maxLogBytes startedUnixMs paths)
        before).1 →
      NoCapture paths (outcome (supervisedExecution world here store check maxLogBytes
        startedUnixMs paths) before).2.disk) ↔
      here.StoresBoth store before.disk paths
        (here.ended check maxLogBytes paths before.cancelled) := by
  let supervision := here.supervise ⟨check.id, maxLogBytes, paths.1, paths.2, before.cancelled⟩
  have written := captures.written supervision.ended.stdout.written
    supervision.ended.stderr.written
  cases returned : supervision.result with
  | error error =>
      refine iff_of_false (not_leavesNoCapture
        (supervisedExecution_unsupervised (superviseChild_error returned)) ?_) ?_
      · intro clean
        have linked := written.stdoutFile.linked
        have gone : ((before.disk.modify paths.1
          (Entry.append supervision.ended.stdout.written)).modify paths.2
            (Entry.append supervision.ended.stderr.written)).links paths.1 = none := clean.1
        rw [gone] at linked
        cases linked
      · intro stores
        obtain ⟨forced, status, stdout, stderr, succeeds, _⟩ := stores
        have same := Supervision.result_eq_ok_iff.mpr succeeds
        rw [returned] at same
        cases same
  | ok result =>
      obtain ⟨forced, status, stdout, stderr⟩ := result
      have known := Supervision.result_ok returned
      rw [storing_leavesNoCapture_iff (superviseChild_eq rfl returned) written known.stdoutFile
        known.stderrFile removes]
      constructor
      · intro stored
        exact ⟨forced, status, stdout, stderr, Supervision.result_eq_ok_iff.mp returned, stored⟩
      · intro stores
        obtain ⟨_, _, _, _, succeeds, stored⟩ := stores
        have same := Supervision.result_eq_ok_iff.mpr succeeds
        rw [returned] at same
        cases same
        exact stored

omit [Sha2] in
/-- An end that removes both files. -/
theorem leavesNoCapture_of_clean {action : RunM CheckExecution} {before after : RunState}
    (ended : (outcome action before).2 = after) (clean : NoCapture paths after.disk) :
    NotRun (outcome action before).1 → NoCapture paths (outcome action before).2.disk := by
  intro _
  rw [ended]
  exact clean

private theorem spawnFailedExecution_clean {error : IoError} (state : RunState)
    (removes : here.removeStdout = none ∧ here.removeStderr = none) :
    NoCapture paths (outcome (spawnFailedExecution world here check startedUnixMs paths error)
      state).2.disk := by
  obtain ⟨after, discarded, clean⟩ := @discardCaptures_removes _ here paths state removes
  rw [spawnFailedExecution, outcome, bind_of_ok discarded]
  exact clean

/-- A child without one of its pipes is given up. -/
theorem spawnChild_unpiped {directory : String} (state : RunState)
    (removes : here.removeStdout = none ∧ here.removeStderr = none)
    (unpiped : here.hasStdout = false ∨ here.hasStderr = false) :
    ∃ error after, spawnChild world here check directory paths state = .error error after ∧
      NoCapture paths after.disk := by
  let spawned := state.withSpawned
    ⟨check, directory, forwardEnvironment world.environment check.passEnvironment⟩
  obtain ⟨after, discarded, clean⟩ := @discardCaptures_removes _ here paths spawned removes
  cases hasStdout : here.hasStdout with
  | false =>
      refine ⟨TaskError.execution "child stdout was not captured", after, ?_, clean⟩
      rw [spawnChild, bind_of_ok (modify_apply _ _)]
      simp only [hasStdout, Bool.not_false, if_true]
      exact (bind_of_ok discarded).trans rfl
  | true =>
      have hasStderr : here.hasStderr = false := by simpa [hasStdout] using unpiped
      refine ⟨TaskError.execution "child stderr was not captured", after, ?_, clean⟩
      rw [spawnChild, bind_of_ok (modify_apply _ _)]
      simp only [hasStdout, hasStderr, Bool.not_true, Bool.not_false, Bool.false_eq_true, if_false,
        if_true]
      exact (bind_of_ok discarded).trans rfl

/-- Which surroundings let a check end without leaving a capture file behind, when
removing a file does not fail. -/
theorem executeCheck_leavesNoCapture_iff {before opened : RunState} {directory : String}
    (resolved : resolveWorkingDirectory here world.after.root check.command.workingDirectory =
      .ok directory)
    (created : createCaptureFiles world here store (before.observed world) = .ok paths opened)
    (removes : here.removeStdout = none ∧ here.removeStderr = none)
    (removesBlobs : here.stdoutBlob.remove = none ∧ here.stderrBlob.remove = none) :
    (NotRun (outcome (executeCheck world here store check maxLogBytes) before).1 →
      NoCapture paths (outcome (executeCheck world here store check maxLogBytes) before).2.disk) ↔
      here.spawn.isSome = true ∨ here.hasStdout = false ∨ here.hasStderr = false ∨
        here.StoresBoth store opened.disk paths
          (here.ended check maxLogBytes paths opened.cancelled) := by
  obtain ⟨fails, starts⟩ :=
    @executeCheck_opened _ world here store check maxLogBytes _ _ _ _ resolved created
  cases spawning : here.spawn with
  | some error =>
      refine iff_of_true (leavesNoCapture_of_clean rfl ?_) (.inl rfl)
      rw [outcome, fails error spawning]
      exact spawnFailedExecution_clean opened removes
  | none =>
      by_cases unpiped : here.hasStdout = false ∨ here.hasStderr = false
      · obtain ⟨error, after, failed, clean⟩ :=
          @spawnChild_unpiped _ world here check paths directory opened removes unpiped
        refine iff_of_true (leavesNoCapture_of_clean rfl ?_)
          (.inr (unpiped.imp_right Or.inl))
        have reached : executeCheck world here store check maxLogBytes before =
            .error error after := (starts spawning).trans (bind_of_error failed)
        rw [outcome_of_error reached]
        exact clean
      · have piped : here.hasStdout = true ∧ here.hasStderr = true := by simpa using unpiped
        have reached := @executeCheck_eq _ world here store check maxLogBytes _ _ _ _ _ resolved
          created spawning (spawnChild_eq piped.1 piped.2)
        obtain ⟨files, captures⟩ := (createCaptureFiles_ok created).1
        simp only [outcome, reached]
        rw [Option.isSome_none, piped.1, piped.2]
        simp only [Bool.false_eq_true, Bool.true_eq_false, false_or]
        exact supervisedExecution_leavesNoCapture_iff captures removesBlobs

end Checks

/-! A blob that is not what its name says -/

section Sample

variable [Sha2]

/-- The blob of the empty log has one byte. -/
def corruptDisk : Disk := quietDisk.create emptyBlob (.file [1] none)

def corruptStart : RunState := .start corruptDisk 0 0 false

def corruptWorld : World := quietWorld false (unbornRepository [] [])

def corruptOpened : RunState :=
  ((corruptStart.observed corruptWorld).withCapture stdoutLog).withCapture stderrLog

private theorem corruptOpened_created :
    createCaptureFiles corruptWorld quietHere quietStore (corruptStart.observed corruptWorld) =
      .ok (stdoutLog, stderrLog) corruptOpened := by
  obtain ⟨stdoutName, stderrName, distinct⟩ := quietNames
  obtain ⟨notStdout, notStderr⟩ := emptyBlob_ne_logs
  let observed := corruptStart.observed corruptWorld
  have stdoutFree : observed.disk.links stdoutLog = none := by
    simp [observed, corruptStart, corruptDisk, quietDisk, RunState.start, RunState.observed,
      FileSystem.create, stdoutName, Ne.symm notStdout, Disk.empty, FileSystem.empty]
  have stderrFree : (observed.withCapture stdoutLog).disk.links stderrLog = none := by
    simp [observed, corruptStart, corruptDisk, quietDisk, RunState.start, RunState.observed,
      RunState.withCapture, FileSystem.create, stderrName, distinct, Ne.symm notStderr, Disk.empty,
      FileSystem.empty]
  exact @createCaptureFiles_eq _ corruptWorld quietHere quietStore observed stdoutLog stderrLog rfl
    rfl rfl rfl stdoutFree stderrFree

/-- The disk when the two empty logs have been captured. -/
def corruptWritten : Disk :=
  writtenDisk corruptOpened.disk (stdoutLog, stderrLog)
    (quietEnd ⟨"unit", 1000, stdoutLog, stderrLog, false⟩)

private theorem lookup_corruptWritten :
    corruptWritten.lookup stdoutLog = some (.file [] none) ∧
      corruptWritten.lookup stderrLog = some (.file [] none) ∧
      corruptWritten.lookup emptyBlob = some (.file [1] none) := by
  obtain ⟨stdoutName, stderrName, distinct⟩ := quietNames
  obtain ⟨notStdout, notStderr⟩ := emptyBlob_ne_logs
  have threads : (quietEnd ⟨"unit", 1000, stdoutLog, stderrLog, false⟩).stdout.written = [] ∧
      (quietEnd ⟨"unit", 1000, stdoutLog, stderrLog, false⟩).stderr.written = [] := ⟨rfl, rfl⟩
  simp [corruptWritten, writtenDisk, threads, corruptOpened, corruptStart, corruptDisk, quietDisk,
    RunState.start, RunState.observed, RunState.withCapture, FileSystem.lookup, FileSystem.modify,
    FileSystem.create, Disk.empty, FileSystem.empty, Ne.symm distinct, notStdout, notStderr,
    Entry.append]

private theorem storeBlob_corrupt : ∃ error,
    quietStore.storeBlob (captureBlob (quietCapture stdoutLog)) .none corruptWritten =
      (.error error, corruptWritten) := by
  obtain ⟨stdoutOpen, _, blob⟩ := lookup_corruptWritten
  have published : corruptWritten.pathExists emptyBlob = true := congrArg Option.isSome blob
  have captured : corruptWritten.pathExists stdoutLog = true := congrArg Option.isSome stdoutOpen
  have cases := @storeBlob_cases _ quietStore (captureBlob (quietCapture stdoutLog)) .none
    corruptWritten (validateSha256_sha256Bytes []) captured emptyBlob_ne_logs.1 rfl
  apply cases.2
  intro storable
  rcases storable with ⟨_, intact, _⟩ | ⟨absent, _⟩
  · obtain ⟨content, found, _, sized⟩ := intact
    have same : corruptWritten.lookup emptyBlob = some (.file content none) := found
    rw [blob] at same
    cases same
    have differs : ([1] : List UInt8).length ≠ (quietCapture stdoutLog).bytes.toNat := by
      simp [quietCapture, CaptureThread.capture, CaptureThread.initial]
    exact differs sized
  · have missing : corruptWritten.pathExists emptyBlob = false := absent
    rw [published] at missing
    cases missing

private theorem corruptWorld_resolved :
    resolveWorkingDirectory quietHere corruptWorld.after.root
      quietCheck.command.workingDirectory = .ok "/repo" := by
  have root : corruptWorld.after.root = "/repo" := rfl
  rw [root]
  rfl

private theorem executeCheck_corrupt : ∃ error after,
    executeCheck corruptWorld quietHere quietStore quietCheck 1000 corruptStart =
      .error error after ∧
      after.disk.lookup stdoutLog = some (.file [] none) ∧
      after.disk.lookup stderrLog = some (.file [] none) := by
  obtain ⟨stdoutOpen, stderrOpen, _⟩ := lookup_corruptWritten
  obtain ⟨error, refused⟩ := storeBlob_corrupt
  have reached := @executeCheck_eq _ corruptWorld quietHere quietStore quietCheck 1000 "/repo"
    (stdoutLog, stderrLog) corruptStart corruptOpened _ corruptWorld_resolved
    corruptOpened_created rfl
    (spawnChild_eq rfl rfl)
  have supervising := @superviseChild_eq _ quietHere quietCheck 1000 (stdoutLog, stderrLog)
    (corruptOpened.withSpawned ⟨quietCheck, "/repo", []⟩) _ _ _ _ _ rfl
    (quietSupervision_result _)
  have failed := @supervisedExecution_stdoutFails _ corruptWorld quietHere quietStore quietCheck
    1000 1 _ _ _ _ _ _ _ _ _ _ supervising refused
  exact ⟨error, _, reached.trans failed, stdoutOpen, stderrOpen⟩

end Sample

section StandardHash

attribute [local instance] standardSha2

/-- A corrupt blob fails the check, and both logs stay in the temporary directory. -/
theorem corruptBlob_leaves_captures : ∃ error after,
    executeCheck corruptWorld quietHere quietStore quietCheck 1000 corruptStart =
      .error error after ∧
      after.disk.lookup stdoutLog = some (.file [] none) ∧
      after.disk.lookup stderrLog = some (.file [] none) :=
  executeCheck_corrupt

theorem executeCheck_leavesNoCapture_iff_corrupt :
    (NotRun (outcome (executeCheck corruptWorld quietHere quietStore quietCheck 1000)
        corruptStart).1 →
      NoCapture (stdoutLog, stderrLog) (outcome (executeCheck corruptWorld quietHere quietStore
        quietCheck 1000) corruptStart).2.disk) ↔
      quietHere.spawn.isSome = true ∨ quietHere.hasStdout = false ∨ quietHere.hasStderr = false ∨
        quietHere.StoresBoth quietStore corruptOpened.disk (stdoutLog, stderrLog)
          (quietHere.ended quietCheck 1000 (stdoutLog, stderrLog) corruptOpened.cancelled) :=
  @executeCheck_leavesNoCapture_iff _ corruptWorld quietHere quietStore quietCheck 1000
    (stdoutLog, stderrLog) corruptStart corruptOpened "/repo" corruptWorld_resolved
    corruptOpened_created ⟨rfl, rfl⟩ ⟨rfl, rfl⟩

end StandardHash

end TaskAttest
