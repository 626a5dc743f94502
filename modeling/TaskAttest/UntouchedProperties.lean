import TaskAttest.Library.Interleaving
import TaskAttest.ErrorProperties
import TaskAttest.ExecuteProperties

/-! The names that an operation leaves alone: what they name and what is in it. -/

set_option autoImplicit false

namespace TaskAttest

/-- No name of some kind shares its file with this one. -/
def Disk.Exclusive (names : String → Prop) (path : String) (disk : Disk) : Prop :=
  ∃ file, disk.links path = some file ∧ ∀ other, names other → disk.links other ≠ some file

section Names

variable {names : String → Prop} {disk before after : Disk} {path other : String}

namespace Disk.Exclusive

theorem created (node : Entry) (apart : ¬names path) :
    Disk.Exclusive names path (disk.create path node) := by
  refine ⟨disk.next, by simp [FileSystem.create], ?_⟩
  intro other named linked
  have different : other ≠ path := by
    intro same
    rw [same] at named
    exact apart named
  simp only [FileSystem.create, if_neg different] at linked
  exact absurd (disk.allocated linked) (Nat.lt_irrefl _)

/-- A new file is no other name's file. -/
theorem create (node : Entry) (exclusive : disk.Exclusive names path) (different : other ≠ path) :
    Disk.Exclusive names path (disk.create other node) := by
  obtain ⟨file, linked, apart⟩ := exclusive
  refine ⟨file, by simp [FileSystem.create, Ne.symm different, linked], ?_⟩
  intro name named found
  by_cases same : name = other
  · simp only [FileSystem.create, if_pos same, Option.some.injEq] at found
    exact absurd (disk.allocated linked) (by omega)
  · simp only [FileSystem.create, if_neg same] at found
    exact apart name named found

theorem modify (change : Entry → Entry) (exclusive : disk.Exclusive names path) :
    Disk.Exclusive names path (disk.modify other change) := exclusive

theorem same (change : Entry → Entry) (exclusive : disk.Exclusive names path)
    (named : names other) : disk.Same other (disk.modify path change) := by
  obtain ⟨file, linked, apart⟩ := exclusive
  refine .modify change ?_
  rw [linked]
  exact apart other named

end Disk.Exclusive

/-! The directories that lead to a path -/

private theorem spread_append (pieces others : List (List Char)) :
    spread (pieces ++ others) = spread pieces + spread others := by
  induction pieces with
  | nil => simp [spread]
  | cons piece rest ih =>
      simp only [List.cons_append, spread, ih]
      omega

/-- A path with a file name is longer than the directory it is in. -/
theorem length_parent?_lt {name : List Char} {parent : String} (named : fileName? path = some name)
    (found : parent? path = some parent) (nonempty : parent ≠ "") :
    parent.toList.length < path.toList.length := by
  obtain ⟨last, _, plain⟩ := fileName?_cases named
  obtain ⟨parts, shape⟩ := List.getLast?_eq_some_iff.mp last
  have positive : 0 < name.length := List.length_pos_iff.mpr plain
  have texts : spread ((components path).map Component.text) ≤ path.toList.length + 1 :=
    spread_splitOnChar '/' path.toList ▸ spread_sublist (components_sublist path)
  have sum : spread ((components path).map Component.text) =
      spread (parts.map Component.text) + (name.length + 1) := by
    rw [shape, List.map_append, spread_append]
    simp [spread, Component.text]
  unfold parent? at found
  split at found
  · cases found
  · cases found
  · rename_i second pair
    have front : parts = [.rootDir] := by
      have dropped := congrArg List.dropLast shape
      rw [List.dropLast_concat, pair] at dropped
      exact dropped.symm
    have text : parent.toList.length = 1 := by
      rw [← Option.some.inj found]
      rfl
    simp only [front, List.map_cons, List.map_nil, spread, Component.text, List.length_nil] at sum
    omega
  · have dropped : (components path).dropLast = parts := by rw [shape, List.dropLast_concat]
    rw [dropped] at found
    have bound := length_intercalate (parts.map Component.text)
    have text : parent.toList.length = (['/'].intercalate (parts.map Component.text)).length := by
      rw [← Option.some.inj found, String.toList_ofList]
    cases parts with
    | nil => exact absurd (Option.some.inj found).symm nonempty
    | cons first rest =>
        have some' : 0 < spread ((first :: rest).map Component.text) := by simp [spread]
        omega

theorem not_above_outputParent {parent name : String}
    (parts : jsonOutputParent path = .ok (parent, name)) : ¬Above path parent := by
  have named := jsonOutputParent_ok parts
  have noName : fileName? "." = none ∧ fileName? "" = none := by decide
  have above : parent? "." = some "" ∧ parent? "" = none := by decide
  unfold jsonOutputParent at parts
  rw [named] at parts
  simp only at parts
  split at parts
  · cases parts
  · rename_i directory found
    simp only [Except.ok.injEq, Prod.mk.injEq] at parts
    obtain ⟨shape, _⟩ := parts
    by_cases empty : directory = ""
    · rw [if_pos empty] at shape
      subst shape
      intro higher
      cases higher with
      | self =>
          rw [noName.1] at named
          cases named
      | up next higher =>
          rw [above.1] at next
          cases next
          cases higher with
          | self =>
              rw [noName.2] at named
              cases named
          | up next _ =>
              rw [above.2] at next
              cases next
    · rw [if_neg empty] at shape
      subst shape
      intro higher
      exact absurd higher.length_le (Nat.not_le.mpr (length_parent?_lt named found empty))

end Names

/-! Operations on the disk -/

section Operations

variable {disk : Disk} {store : StateStore} {faults : PublishFaults} {path other : String}

private theorem storeBlob_same [Sha2] {call : BlobCall} {blobFaults : BlobFaults}
    (notTarget : other ≠ store.blobTarget call.digest) (notTemporary : other ≠ call.temporary) :
    disk.Same other (store.storeBlob call blobFaults disk).2 := by
  have removes (action : String) (disk : Disk) :
      disk.Same other (store.removeTemporary call action blobFaults.remove disk).2 := by
    rcases removeTemporary_cases store call action blobFaults.remove disk with
      removed | ⟨error, failed⟩
    · rw [removed]
      exact .unlink notTemporary
    · rw [failed]
      exact .refl
  have adopts (action : String) :
      disk.Same other (store.adoptBlob call action blobFaults disk).2 := by
    unfold StateStore.adoptBlob
    split
    · exact .refl
    · exact removes _ _
  unfold StateStore.storeBlob
  split
  · exact .refl
  · simp only
    split
    · exact adopts _
    · split
      · rename_i linked done
        obtain ⟨_, rfl⟩ := hardLink_ok done
        exact (Disk.Same.link notTarget).trans (removes _ _)
      · split
        · exact adopts _
        · exact .refl

theorem allocation_same {allocation : Allocation} (apart : ∀ number, other ≠ allocation.name number)
    (faults : Nat → Option IoError) (attempts sequence : Nat) :
    disk.Same other (allocation.run faults attempts sequence disk).2.2 := by
  rcases allocation_cases allocation faults attempts sequence disk with
    ⟨number, next, _, created⟩ | ⟨error, next, failed⟩
  · rw [created]
    exact .create _ (apart number)
  · rw [failed]
    exact .refl

private theorem fillAndLink_same {document : List UInt8} {temporary : String}
    (exclusive : disk.Exclusive (· = other) temporary) (notPath : other ≠ path)
    (notTemporary : other ≠ temporary) :
    disk.Same other (fillAndLink faults document temporary path disk).2 := by
  have written : disk.Same other (disk.modify temporary (Entry.append document)) :=
    exclusive.same _ rfl
  have finished : disk.Same other
      ((disk.modify temporary (Entry.append document)).modify temporary (Entry.append [10])) :=
    written.trans ((exclusive.modify _).same _ rfl)
  unfold fillAndLink
  split
  · exact exclusive.same _ rfl
  · simp only
    split
    · exact written
    · split
      · exact finished
      · split
        · exact finished
        · rename_i linked done
          obtain ⟨_, rfl⟩ := hardLink_ok done
          exact (finished.trans (.link notPath)).trans (.discard notTemporary)

/-- A publication leaves every name alone but its target, its temporary names and the
directories it is in. -/
theorem writeJsonAtomic_same {process sequence : Nat} {document : List UInt8}
    {parent name : String} (parts : jsonOutputParent path = .ok (parent, name))
    (apart : ¬Above other parent) (notPath : other ≠ path)
    (notTemporary : ∀ number, other ≠ (jsonAllocation process parent name).name number) :
    disk.Same other (writeJsonAtomic process faults path document sequence disk).2.2 := by
  have checked := @preflight_same disk faults path other parent name parts apart
  rcases @writeJsonAtomic_disk disk faults path process sequence document with
    left | ⟨_, _, number, created, found, shape, missing, filled, filling, left⟩
  · rw [left]
    exact checked
  · rw [parts] at found
    cases found
    rw [← shape] at checked
    have opened : created.Same other (created.create _ (.file [] none)) :=
      .create _ (notTemporary number)
    have exclusive : Disk.Exclusive (· = other) _ (created.create _ (.file [] none)) :=
      .created _ (Ne.symm (notTemporary number))
    have same := @fillAndLink_same _ faults path other document _ exclusive notPath
      (notTemporary number)
    rw [← filling] at same
    rcases left with left | left <;> rw [left]
    · exact (checked.trans opened).trans same
    · exact ((checked.trans opened).trans same).trans (.discard (notTemporary number))

end Operations

/-! Operations of a run -/

section Actions

open Interleaving Program

theorem ordinary_of_error {Value : Type} {action : RunM Value} {before after : RunState}
    {error : TaskError} (ordinary : FailsWith Ordinary (outcome action before).1)
    (ran : action before = .error error after) : Ordinary error := by
  simp only [outcome, ran] at ordinary
  exact ordinary error rfl

/-- An operation that leaves names of some kind alone and fails in an ordinary way. -/
structure Harmless (names : String → Prop) {Value : Type} (action : RunM Value) : Prop where
  same : ∀ (state : RunState) other, names other →
    state.disk.Same other (outcome action state).2.disk
  ordinary : ∀ state : RunState, FailsWith Ordinary (outcome action state).1

namespace Harmless

variable {names : String → Prop} {Value Other : Type}

private theorem of_disk {action : RunM Value}
    (kept : ∀ state, (outcome action state).2.disk = state.disk)
    (ordinary : ∀ state, FailsWith Ordinary (outcome action state).1) : Harmless names action :=
  ⟨fun state other _ => by rw [kept]; exact .refl, ordinary⟩

theorem pure (value : Value) : Harmless names (Pure.pure value : RunM Value) :=
  of_disk (fun _ => rfl) fun _ => .ok _

theorem throw {error : TaskError} (ordinary : Ordinary error) :
    Harmless names (MonadExcept.throw error : RunM Value) :=
  of_disk (fun _ => rfl) fun _ => .error ordinary

theorem bind {first : RunM Value} {next : Value → RunM Other} (harmless : Harmless names first)
    (later : ∀ value before after, first before = .ok value after → Harmless names (next value)) :
    Harmless names (first >>= next) := by
  refine ⟨fun state other named => ?_, fun state => ?_⟩
  · have before := harmless.same state other named
    cases ran : first state with
    | ok value between =>
        have after := (later value _ _ ran).same between other named
        simp only [outcome, ran, bind_of_ok ran] at before after ⊢
        exact before.trans after
    | error error between =>
        simp only [outcome, ran, bind_of_error ran] at before ⊢
        exact before
  · have before := harmless.ordinary state
    cases ran : first state with
    | ok value between =>
        have after := (later value _ _ ran).ordinary between
        simp only [outcome, bind_of_ok ran] at after ⊢
        exact after
    | error error between =>
        simp only [outcome, ran, bind_of_error ran] at before ⊢
        exact .error (before error rfl)

theorem onFailure {action : RunM Value} {cleanup : RunM Unit} (harmless : Harmless names action)
    (cleans : Harmless names cleanup) : Harmless names (TaskAttest.onFailure action cleanup) := by
  refine ⟨fun state other named => ?_, fun state => ?_⟩
  · have before := harmless.same state other named
    cases ran : action state with
    | ok value between =>
        simp only [outcome, TaskAttest.onFailure, ran] at before ⊢
        exact before
    | error error between =>
        have after := cleans.same between other named
        simp only [outcome, ran] at before
        cases cleaned : cleanup between with
        | ok _ final | error _ final =>
            simp only [outcome, TaskAttest.onFailure, ran, cleaned] at after ⊢
            exact before.trans after
  · have before := harmless.ordinary state
    cases ran : action state with
    | ok value between =>
        simp only [outcome, TaskAttest.onFailure, ran]
        exact .ok _
    | error error between =>
        simp only [outcome, ran] at before
        have ordinary := before error rfl
        cases cleaned : cleanup between with
        | ok _ final | error _ final =>
            simp only [outcome, TaskAttest.onFailure, ran, cleaned]
            exact .error ordinary

theorem ofExcept {result : Except TaskError Value} (ordinary : FailsWith Ordinary result) :
    Harmless names (TaskAttest.ofExcept result) := by
  cases result with
  | ok value => exact pure value
  | error error => exact throw (ordinary error rfl)

theorem onDisk {operation : Disk → Except TaskError Value × Disk}
    (same : ∀ (disk : Disk) other, names other → disk.Same other (operation disk).2)
    (ordinary : ∀ disk : Disk, FailsWith Ordinary (operation disk).1) :
    Harmless names (TaskAttest.onDisk operation) := by
  refine ⟨fun state other named => ?_, fun state => ?_⟩
  · have kept := same state.disk other named
    cases ran : operation state.disk with
    | mk result disk =>
        rw [ran] at kept
        cases result <;> simp only [outcome, TaskAttest.onDisk, ran] <;> exact kept
  · have fails := ordinary state.disk
    cases ran : operation state.disk with
    | mk result disk =>
        rw [ran] at fails
        cases result <;> simp only [outcome, TaskAttest.onDisk, ran]
        · exact .error (fails _ rfl)
        · exact .ok _

theorem discardFile {fault : Option IoError} {path : String} (apart : ¬names path) :
    Harmless names (TaskAttest.discardFile fault path) := by
  refine ⟨fun state other named => .discard ?_, fun _ => .ok _⟩
  intro same
  rw [same] at named
  exact apart named

end Harmless

/-! Running a check -/

section Checks

variable [Sha2] {world : World} {here : CheckWorld} {store : StateStore}

omit [Sha2] in
/-- A path that is neither a blob of the store nor a capture of one process. -/
structure StateStore.Outside (store : StateStore) (process : Nat) (path : String) : Prop where
  blob : ∀ digest, path ≠ store.blobTarget digest
  capture : ∀ number stream, path ≠ capturePath store process number stream

omit [Sha2] in
/-- A capture of one process. -/
def StateStore.IsCapture (store : StateStore) (process : Nat) (path : String) : Prop :=
  ∃ number stream, path = capturePath store process number stream

omit [Sha2] in
private theorem StateStore.IsCapture.not_outside {process : Nat} {path : String}
    (capture : store.IsCapture process path) : ¬store.Outside process path := by
  obtain ⟨number, stream, shape⟩ := capture
  exact fun outside => outside.capture number stream shape

theorem unixTimeMs_harmless {names : String → Prop} : Harmless names (unixTimeMs world) :=
  .of_disk (fun _ => rfl) fun _ => .ok _

theorem elapsedMs_harmless {names : String → Prop} : Harmless names (elapsedMs world) :=
  .of_disk (fun _ => rfl) fun _ => .ok _

theorem isCancelled_harmless {names : String → Prop} : Harmless names (isCancelled world) :=
  .of_disk (fun _ => rfl) fun _ => .ok _

theorem onProgress_harmless {names : String → Prop} (state : ProgressState)
    (checkId : Option String) (outcome : Option CheckOutcome) (receiptId : Option String) :
    Harmless names (onProgress world state checkId outcome receiptId) :=
  .of_disk (fun _ => rfl) fun _ => .ok _

theorem skippedExecution_harmless {names : String → Prop} (check : CheckDefinition) :
    Harmless names (skippedExecution world check) :=
  .bind unixTimeMs_harmless fun _ _ _ _ => .pure _

omit [Sha2] in
private theorem createFile_harmless {names : String → Prop} {allocation : Allocation}
    (apart : ∀ number, ¬names (allocation.name number)) (exhausted : Ordinary allocation.exhausted)
    (faults : Nat → Option IoError) : Harmless names (createFile allocation faults) := by
  refine ⟨fun state other named => ?_, fun state => ?_⟩
  · have different : ∀ number, other ≠ allocation.name number := by
      intro number same
      rw [same] at named
      exact apart number named
    have same := @allocation_same state.disk other allocation different faults allocationAttempts
      state.logSequence
    rcases ran : allocation.run faults allocationAttempts state.logSequence state.disk with
      ⟨result, next, disk⟩
    rw [ran] at same
    cases result <;> simp only [outcome, createFile, ran] <;> exact same
  · have fails := @allocation_ordinary state.disk allocation exhausted faults allocationAttempts
      state.logSequence
    rcases ran : allocation.run faults allocationAttempts state.logSequence state.disk with
      ⟨result, next, disk⟩
    rw [ran] at fails
    cases result <;> simp only [outcome, createFile, ran]
    · exact .error (fails _ rfl)
    · exact .ok _

private theorem createCaptureFile_harmless (faults : Nat → Option IoError) (stream : String) :
    Harmless (store.Outside world.process) (createCaptureFile world store faults stream) :=
  createFile_harmless (fun number outside => outside.capture number stream rfl)
    (ordinary_execution _) faults

/-- A capture is a new file. -/
theorem createCaptureFile_isCapture {faults : Nat → Option IoError} {stream path : String}
    {before after : RunState}
    (ran : createCaptureFile world store faults stream before = .ok path after) :
    store.IsCapture world.process path ∧
      after.disk = before.disk.create path (.file [] none) := by
  simp only [createCaptureFile, createFile] at ran
  rcases allocation_cases (store.captureAllocation world.process stream) faults allocationAttempts
    before.logSequence before.disk with ⟨number, next, _, allocated⟩ | ⟨error, next, failed⟩
  · rw [allocated] at ran
    cases ran
    exact ⟨⟨number, stream, rfl⟩, rfl⟩
  · rw [failed] at ran
    cases ran

theorem createCaptureFiles_harmless :
    Harmless (store.Outside world.process) (createCaptureFiles world here store) := by
  refine .bind (createCaptureFile_harmless _ _) fun stdoutPath _ _ created => ?_
  have capture := (createCaptureFile_isCapture created).1
  refine .bind ?_ fun _ _ _ _ => .pure _
  exact .onFailure (createCaptureFile_harmless _ _) (.discardFile capture.not_outside)

/-- Two paths that are captures and share their files with no path outside. -/
structure Captures (store : StateStore) (process : Nat) (paths : String × String) (disk : Disk) :
    Prop where
  stdout : store.IsCapture process paths.1
  stderr : store.IsCapture process paths.2
  stdoutFile : disk.Exclusive (store.Outside process) paths.1
  stderrFile : disk.Exclusive (store.Outside process) paths.2

theorem createCaptureFiles_captures {paths : String × String} {before after : RunState}
    (ran : createCaptureFiles world here store before = .ok paths after) :
    Captures store world.process paths after.disk := by
  have opened := (createCaptureFiles_ok ran).1
  simp only [createCaptureFiles, bind_ok_iff, pure_apply, EStateM.Result.ok.injEq] at ran
  obtain ⟨stdoutPath, between, first, stderrPath, _, second, rfl, rfl⟩ := ran
  obtain ⟨stdout, created⟩ := createCaptureFile_isCapture first
  obtain ⟨stderr, grown⟩ := createCaptureFile_isCapture (onFailure_ok second)
  obtain ⟨files, captures⟩ := opened
  refine ⟨stdout, stderr, ?_, ?_⟩
  · rw [grown, created]
    exact (Disk.Exclusive.created _ stdout.not_outside).create _ (Ne.symm captures.distinctPaths)
  · rw [grown]
    exact .created _ stderr.not_outside

private theorem discardCaptures_harmless {paths : String × String}
    (stdout : store.IsCapture world.process paths.1)
    (stderr : store.IsCapture world.process paths.2) :
    Harmless (store.Outside world.process) (discardCaptures here paths) :=
  .bind (.discardFile stdout.not_outside) fun _ _ _ _ => .discardFile stderr.not_outside

theorem spawnFailedExecution_harmless {paths : String × String} {check : CheckDefinition}
    {startedUnixMs : UInt64} {error : IoError} (stdout : store.IsCapture world.process paths.1)
    (stderr : store.IsCapture world.process paths.2) :
    Harmless (store.Outside world.process)
      (spawnFailedExecution world here check startedUnixMs paths error) := by
  refine .bind (discardCaptures_harmless stdout stderr) fun _ _ _ _ => ?_
  refine .bind unixTimeMs_harmless fun _ _ _ _ => ?_
  exact .bind elapsedMs_harmless fun _ _ _ _ => .pure _

theorem spawnChild_harmless {paths : String × String} {check : CheckDefinition}
    {workingDirectory : String} (stdout : store.IsCapture world.process paths.1)
    (stderr : store.IsCapture world.process paths.2) :
    Harmless (store.Outside world.process)
      (spawnChild world here check workingDirectory paths) := by
  have discards : Harmless (store.Outside world.process) (discardCaptures here paths) :=
    discardCaptures_harmless stdout stderr
  refine .bind (.of_disk (fun _ => rfl) fun _ => .ok _) fun _ _ _ _ => ?_
  cases here.hasStdout with
  | false =>
      refine .bind discards fun _ _ _ _ => ?_
      exact .bind (.throw (ordinary_execution _)) fun _ _ _ ran => by cases ran
  | true =>
      cases here.hasStderr with
      | false => exact .bind discards fun _ _ _ _ => .throw (ordinary_execution _)
      | true => exact .pure _

theorem superviseChild_same {paths : String × String} {check : CheckDefinition}
    {maxLogBytes : UInt64} {state : RunState}
    (captures : Captures store world.process paths state.disk) {other : String}
    (outside : store.Outside world.process other) :
    state.disk.Same other (outcome (superviseChild here check maxLogBytes paths) state).2.disk := by
  have written (stdout stderr : List UInt8) : state.disk.Same other
      ((state.disk.modify paths.1 (Entry.append stdout)).modify paths.2 (Entry.append stderr)) :=
    (captures.stdoutFile.same _ outside).trans ((captures.stderrFile.modify _).same _ outside)
  simp only [superviseChild, outcome]
  split <;> rename_i ran <;> split at ran <;> cases ran <;> exact written _ _

theorem superviseChild_ordinary {paths : String × String} {check : CheckDefinition}
    {maxLogBytes : UInt64} (state : RunState) :
    FailsWith Ordinary (outcome (superviseChild here check maxLogBytes paths) state).1 := by
  simp only [superviseChild, outcome]
  split
  · exact .ok _
  · rename_i ran
    split at ran
    · cases ran
    · rename_i failed
      cases ran
      exact .error (supervision_ordinary _ _ failed)

theorem persistCapture_harmless {faults : BlobFaults} {capture : Capture}
    (captured : store.IsCapture world.process capture.path) :
    Harmless (store.Outside world.process) (persistCapture store faults capture) := by
  refine .bind (.onDisk ?_ fun _ => storeBlob_ordinary _ _) fun _ _ _ _ => .pure _
  intro disk other outside
  refine storeBlob_same (outside.blob _) ?_
  intro same
  rw [same] at outside
  exact captured.not_outside outside

end Checks

end Actions

end TaskAttest
