import TaskAttest.RunCommandProperties
import TaskAttest.UntouchedProperties

/-! What the run command does up to the receipt in its store, whatever appears at the
requested path meanwhile: which calls leave that path alone, and what is stored. -/

set_option autoImplicit false

namespace TaskAttest

open Interleaving Program

/-! Other parties -/

/-- Another party creates the requested path: as a new file or directory, or as a further
name of a file that is not one of these. -/
inductive CreatesOutput (mine : String → Prop) : Option String → RunState → RunState → Prop where
  | create {path : String} {state : RunState} (node : Entry) : state.disk.lookup path = none →
      CreatesOutput mine (some path) state { state with disk := state.disk.create path node }
  | link {path source : String} {state : RunState} : state.disk.lookup path = none →
      state.disk.pathExists source = true →
      (∀ other, mine other → state.disk.links other ≠ state.disk.links source) →
      CreatesOutput mine (some path) state { state with disk := state.disk.link source path }

/-- Calls that leave some names alone. -/
def Leaves (names : String → Prop) (before after : RunState) : Prop :=
  ∀ other, names other → before.disk.Same other after.disk

section Interference

variable {mine names : String → Prop} {output : Option String} {before after : RunState}
  {path : String}

namespace CreatesOutput

theorem same (step : CreatesOutput mine output before after) (apart : output ≠ some path) :
    before.disk.Same path after.disk := by
  cases step with
  | @create requested _ node _ =>
      refine .create node ?_
      intro same
      rw [same] at apart
      exact apart rfl
  | @link requested source _ _ _ _ =>
      refine .link ?_
      intro same
      rw [same] at apart
      exact apart rfl

theorem spawned (step : CreatesOutput mine output before after) :
    after.spawned = before.spawned := by
  cases step <;> rfl

theorem present {entry : Entry} (step : CreatesOutput mine output before after)
    (found : before.disk.lookup path = some entry) : after.disk.lookup path = some entry := by
  have apart : output ≠ some path := by
    intro same
    cases step with
    | create _ free | link free _ _ =>
        cases same
        rw [free] at found
        cases found
  exact (step.same apart).lookup.trans found

/-- A file of its own stays so. -/
theorem exclusive (step : CreatesOutput mine output before after) (own : mine path)
    (apart : output ≠ some path) (exclusive : before.disk.Exclusive names path) :
    after.disk.Exclusive names path := by
  cases step with
  | @create requested _ node _ =>
      refine exclusive.create node ?_
      intro same
      rw [same] at apart
      exact apart rfl
  | @link requested source _ _ _ shared =>
      obtain ⟨file, linked, alone⟩ := exclusive
      have different : path ≠ requested := by
        intro same
        rw [same] at apart
        exact apart rfl
      refine ⟨file, by simp [FileSystem.link, different, linked], ?_⟩
      intro other named found
      by_cases same : other = requested
      · simp only [FileSystem.link, if_pos same] at found
        exact shared path own (linked.trans found.symm)
      · simp only [FileSystem.link, if_neg same] at found
        exact alone other named found

private theorem stable_vacant (apart : output ≠ some path) :
    Stable (CreatesOutput mine output) fun state => state.disk.isFile path = false := by
  intro before after step vacant
  rw [Disk.isFile, (step.same apart).lookup]
  exact vacant

end CreatesOutput

/-- A call that is harmless wherever it is made. -/
theorem guarantees_harmless {others : RunState → RunState → Prop} {Value : Type}
    {action : RunM Value} {claims : Value → Prop} (harmless : Harmless names action)
    (returned : ∀ before value after, action before = .ok value after → claims value) :
    Guarantees others (Leaves names) (fun _ => True) (.perform action)
      (fun value _ => claims value) fun error _ => Ordinary error := by
  apply Guarantees.perform
  · exact .const _ _
  · exact fun _ => .const _ _
  · exact fun _ => .const _ _
  · exact fun state _ => harmless.same state
  · exact fun value before after _ ran => returned before value after ran
  · exact fun error before after _ ran => ordinary_of_error (harmless.ordinary before) ran

theorem guarantees_lift {others own : RunState → RunState → Prop} {Value : Type}
    {result : Except TaskError Value} (ordinary : FailsWith Ordinary result) :
    Guarantees others own (fun _ => True) (.lift result) (fun value _ => result = .ok value)
      fun error _ => Ordinary error := by
  apply Guarantees.lift
  · exact fun _ => .const _ _
  · exact fun _ => .const _ _
  · exact fun _ _ same _ => same
  · exact fun error _ failed _ => ordinary error failed

private theorem guarantees_error {others own : RunState → RunState → Prop} {Value : Type}
    {returns : Value → RunState → Prop} {error : TaskError} (ordinary : Ordinary error) :
    Guarantees others own (fun _ => True) (.lift (.error error)) returns
      fun error _ => Ordinary error := by
  intro before after steps result initially executed
  obtain ⟨rfl, rfl, _⟩ := execution_lift executed
  refine ⟨List.forall_mem_nil _, (fun value same => by cases same), ?_⟩
  intro found same
  cases same
  exact ordinary

end Interference

/-! The checks -/

section Checks

variable [Sha2] {world : World} {here : CheckWorld} {store : StateStore} {mine : String → Prop}
  {output : Option String}

private theorem resolveWorkingDirectory_ordinary (root relative : String) :
    FailsWith Ordinary (resolveWorkingDirectory here root relative) := by
  unfold resolveWorkingDirectory
  split
  · exact .error (ordinary_execution _)
  · exact .ite (.error (ordinary_execution _)) (.ok _)

/-- The captures of a process are its own, and none of them is the requested path. -/
structure OwnsCaptures (store : StateStore) (process : Nat) (mine : String → Prop)
    (output : Option String) : Prop where
  own : ∀ path, store.IsCapture process path → mine path
  apart : ∀ path, store.IsCapture process path → output ≠ some path

omit [Sha2] in
theorem Captures.stable {process : Nat} (owns : OwnsCaptures store process mine output)
    (paths : String × String) :
    Stable (CreatesOutput mine output) fun state => Captures store process paths state.disk := by
  intro before after step captures
  exact ⟨captures.stdout, captures.stderr,
    step.exclusive (owns.own _ captures.stdout) (owns.apart _ captures.stdout) captures.stdoutFile,
    step.exclusive (owns.own _ captures.stderr) (owns.apart _ captures.stderr) captures.stderrFile⟩

private theorem createCaptureFiles_guarantee (owns : OwnsCaptures store world.process mine output) :
    Guarantees (CreatesOutput mine output) (Leaves (store.Outside world.process)) (fun _ => True)
      (.perform (createCaptureFiles world here store))
      (fun paths state => Captures store world.process paths state.disk)
      fun error _ => Ordinary error := by
  have harmless : Harmless (store.Outside world.process) (createCaptureFiles world here store) :=
    createCaptureFiles_harmless
  apply Guarantees.perform
  · exact .const _ _
  · exact fun paths => Captures.stable owns paths
  · exact fun _ => .const _ _
  · exact fun state _ => harmless.same state
  · exact fun paths before after _ ran => createCaptureFiles_captures ran
  · exact fun error before after _ ran => ordinary_of_error (harmless.ordinary before) ran

private theorem spawnChild_guarantee (owns : OwnsCaptures store world.process mine output)
    {check : CheckDefinition} {workingDirectory : String} {paths : String × String} :
    Guarantees (CreatesOutput mine output) (Leaves (store.Outside world.process))
      (fun state => Captures store world.process paths state.disk)
      (.perform (spawnChild world here check workingDirectory paths))
      (fun _ state => Captures store world.process paths state.disk)
      fun error _ => Ordinary error := by
  have harmless (captures : store.IsCapture world.process paths.1 ∧
      store.IsCapture world.process paths.2) : Harmless (store.Outside world.process)
        (spawnChild world here check workingDirectory paths) :=
    spawnChild_harmless captures.1 captures.2
  apply Guarantees.perform
  · exact Captures.stable owns paths
  · exact fun _ => Captures.stable owns paths
  · exact fun _ => .const _ _
  · exact fun state captures => (harmless ⟨captures.stdout, captures.stderr⟩).same state
  · intro _ before after captures ran
    obtain ⟨process, _, shape⟩ := spawnChild_ok ran
    rw [shape]
    exact captures
  · intro error before after captures ran
    have ordinary := (harmless ⟨captures.stdout, captures.stderr⟩).ordinary before
    exact ordinary_of_error ordinary ran

private theorem superviseChild_guarantee (owns : OwnsCaptures store world.process mine output)
    {check : CheckDefinition} {maxLogBytes : UInt64} {paths : String × String} :
    Guarantees (CreatesOutput mine output) (Leaves (store.Outside world.process))
      (fun state => Captures store world.process paths state.disk)
      (.perform (superviseChild here check maxLogBytes paths))
      (fun joined _ => store.IsCapture world.process joined.2.2.1.path ∧
        store.IsCapture world.process joined.2.2.2.1.path)
      fun error _ => Ordinary error := by
  apply Guarantees.perform
  · exact Captures.stable owns paths
  · exact fun _ => .const _ _
  · exact fun _ => .const _ _
  · exact fun state captures other outside => superviseChild_same captures outside
  · intro joined before after captures ran
    obtain ⟨forced, status, stdout, stderr, budget⟩ := joined
    obtain ⟨setup, ended, rfl, known, _, _⟩ := superviseChild_ok ran
    rw [known.stdoutFile.path, known.stderrFile.path]
    exact ⟨captures.stdout, captures.stderr⟩
  · exact fun error before after _ ran => ordinary_of_error (superviseChild_ordinary before) ran

private theorem supervisedExecution_guarantee (owns : OwnsCaptures store world.process mine output)
    {check : CheckDefinition} {maxLogBytes startedUnixMs : UInt64} {paths : String × String} :
    Guarantees (CreatesOutput mine output) (Leaves (store.Outside world.process))
      (fun state => Captures store world.process paths state.disk)
      (Among.supervisedExecution world here store check maxLogBytes startedUnixMs paths)
      (fun execution _ => execution.check = check) fun error _ => Ordinary error := by
  apply Guarantees.bindKnowing (superviseChild_guarantee owns)
  intro joined captured
  obtain ⟨forced, status, stdout, stderr, budget⟩ := joined
  have persists (faults : BlobFaults) (capture : Capture)
      (captured : store.IsCapture world.process capture.path) :
      Guarantees (CreatesOutput mine output) (Leaves (store.Outside world.process))
        (fun _ => True) (.perform (persistCapture store faults capture)) (fun _ _ => True)
        fun error _ => Ordinary error :=
    guarantees_harmless (persistCapture_harmless captured) fun _ _ _ _ => trivial
  apply Guarantees.bind (persists _ stdout captured.1)
  intro stdoutReference
  apply Guarantees.bind (persists _ stderr captured.2)
  intro stderrReference
  apply Guarantees.bind (guarantees_harmless unixTimeMs_harmless fun _ _ _ _ => trivial)
  intro completedUnixMs
  apply Guarantees.bind (guarantees_harmless elapsedMs_harmless fun _ _ _ _ => trivial)
  intro durationMs
  apply Guarantees.pure
  · exact .const _ _
  · exact fun _ _ => rfl

private theorem executeCheck_guarantee (owns : OwnsCaptures store world.process mine output)
    {check : CheckDefinition} {maxLogBytes : UInt64} :
    Guarantees (CreatesOutput mine output) (Leaves (store.Outside world.process)) (fun _ => True)
      (Among.executeCheck world here store check maxLogBytes)
      (fun execution _ => execution.check = check) fun error _ => Ordinary error := by
  apply Guarantees.bind (guarantees_harmless unixTimeMs_harmless fun _ _ _ _ => trivial)
  intro startedUnixMs
  apply Guarantees.bindKnowing (guarantees_lift (resolveWorkingDirectory_ordinary _ _))
  intro workingDirectory _
  apply Guarantees.bind (createCaptureFiles_guarantee owns)
  intro paths
  cases here.spawn with
  | none =>
      exact Guarantees.bind (spawnChild_guarantee owns) fun _ => supervisedExecution_guarantee owns
  | some error =>
      have captured (state : RunState) (captures : Captures store world.process paths state.disk) :
          store.IsCapture world.process paths.1 ∧ store.IsCapture world.process paths.2 :=
        ⟨captures.stdout, captures.stderr⟩
      apply Guarantees.assuming captured
      intro isCapture
      apply Guarantees.anywhere
      refine guarantees_harmless (spawnFailedExecution_harmless isCapture.1 isCapture.2) ?_
      intro before execution after ran
      rw [spawnFailedExecution_eq] at ran
      cases ran
      rfl

private theorem runCheck_guarantee (owns : OwnsCaptures store world.process mine output)
    (invocation : Invocation) (position : Nat) (stop : Bool) (check : CheckDefinition) :
    Guarantees (CreatesOutput mine output) (Leaves (store.Outside world.process)) (fun _ => True)
      (Among.runCheck world store invocation position stop check)
      (fun execution _ => execution.check = check) fun error _ => Ordinary error := by
  have executes : Guarantees (CreatesOutput mine output) (Leaves (store.Outside world.process))
      (fun _ => True) (Among.skipOrExecute world store invocation position stop check)
      (fun execution _ => execution.check = check) fun error _ => Ordinary error := by
    cases stop with
    | false => exact executeCheck_guarantee owns
    | true =>
        refine guarantees_harmless (skippedExecution_harmless check) ?_
        intro before execution after ran
        rw [skippedExecution_eq] at ran
        cases ran
        rfl
  have reports (state : ProgressState) (checkId : Option String) (ended : Option CheckOutcome) :
      Guarantees (CreatesOutput mine output) (Leaves (store.Outside world.process))
        (fun _ => True) (.perform (onProgress world state checkId ended none)) (fun _ _ => True)
        fun error _ => Ordinary error :=
    guarantees_harmless (onProgress_harmless _ _ _ _) fun _ _ _ _ => trivial
  apply Guarantees.bind (reports _ _ _)
  intro _
  apply Guarantees.bindKnowing executes
  intro execution same
  apply Guarantees.bind (reports _ _ _)
  intro _
  apply Guarantees.pure
  · exact .const _ _
  · exact fun _ _ => same

/-- The loop ends with one execution for each check. -/
theorem runLoop_guarantee (owns : OwnsCaptures store world.process mine output)
    (invocation : Invocation) (position : Nat) (stop : Bool) (checks : List CheckDefinition) :
    Guarantees (CreatesOutput mine output) (Leaves (store.Outside world.process)) (fun _ => True)
      (Among.runLoop world store invocation position stop checks)
      (fun executions _ => executions.map CheckExecution.check = checks)
      fun error _ => Ordinary error := by
  induction checks generalizing position stop with
  | nil =>
      apply Guarantees.pure
      · exact .const _ _
      · exact fun _ _ => rfl
  | cons check rest ih =>
      apply Guarantees.bindKnowing (runCheck_guarantee owns invocation position stop check)
      intro execution same
      apply Guarantees.bind
        (ih (position + 1) (invocation.failFast && execution.outcome != .passed))
      intro executions
      apply Guarantees.pure
      · exact .const _ _
      · intro _ later
        rw [List.map_cons, same, later]

private theorem collectEvidence_guarantee (owns : OwnsCaptures store world.process mine output)
    (discovery : DiscoveryReport) (invocation : Invocation) :
    Guarantees (CreatesOutput mine output) (Leaves (store.Outside world.process)) (fun _ => True)
      (Among.collectEvidence world store discovery invocation)
      (fun payload _ => payload.checks.map CheckExecution.check = selectedChecks discovery)
      fun error _ => Ordinary error := by
  have looks {Value : Type} {action : RunM Value}
      (harmless : Harmless (store.Outside world.process) action) :
      Guarantees (CreatesOutput mine output) (Leaves (store.Outside world.process))
        (fun _ => True) (.perform action) (fun _ _ => True) fun error _ => Ordinary error :=
    guarantees_harmless harmless fun _ _ _ _ => trivial
  apply Guarantees.bind (looks unixTimeMs_harmless)
  intro startedUnixMs
  apply Guarantees.bindKnowing
    (runLoop_guarantee owns invocation 0 false (selectedChecks discovery))
  intro executions same
  apply Guarantees.bindKnowing (guarantees_lift identifySource_ordinary)
  intro sourceAfter _
  apply Guarantees.bind (looks isCancelled_harmless)
  intro cancelled
  apply Guarantees.bind (looks unixTimeMs_harmless)
  intro completedUnixMs
  apply Guarantees.bind (looks elapsedMs_harmless)
  intro durationMs
  apply Guarantees.pure
  · exact .const _ _
  · exact fun _ _ => same

end Checks

/-! The names of a run -/

/-- A temporary file that one process makes in its store. -/
inductive StateStore.Scratch (store : StateStore) (process : Nat) : String → Prop where
  | capture (number : Nat) (stream : String) :
      store.Scratch process (capturePath store process number stream)
  | receipt {receiptId path parent name : String} (number : Nat) :
      store.receiptPath receiptId = .ok path → jsonOutputParent path = .ok (parent, name) →
      store.Scratch process ((jsonAllocation process parent name).name number)

/-- A name that one process uses in its store. -/
inductive StateStore.Uses (store : StateStore) (process : Nat) : String → Prop where
  | scratch {path : String} : store.Scratch process path → store.Uses process path
  | blob (digest : String) : store.Uses process (store.blobTarget digest)
  | receipt {receiptId path : String} : store.receiptPath receiptId = .ok path →
      store.Uses process path
  | directory {receiptId path parent name directory : String} :
      store.receiptPath receiptId = .ok path → jsonOutputParent path = .ok (parent, name) →
      Above directory parent → store.Uses process directory

section Names

variable [Sha2] [Packages] {world : CommandWorld} {arguments : RunArguments} {store : StateStore}
  {process : Nat} {path : String}

/-- The store of a run is where its state directory resolves to. -/
def CommandWorld.HasStore (world : CommandWorld) (arguments : RunArguments)
    (store : StateStore) : Prop :=
  ∃ git discovery, discoverRun world arguments = .ok (git, discovery) ∧
    world.canonicalize (stateRoot git arguments) = .ok store.root

/-- A temporary file of a run. -/
inductive CommandWorld.Temporary (world : CommandWorld) (arguments : RunArguments) :
    String → Prop where
  | store {store : StateStore} {path : String} : world.HasStore arguments store →
      store.Scratch world.run.process path → world.Temporary arguments path
  | output {path parent name : String} (number : Nat) : arguments.receiptOut = some path →
      jsonOutputParent path = .ok (parent, name) →
      world.Temporary arguments ((jsonAllocation world.run.process parent name).name number)

/-- The requested path is none of the names that the run uses in its store, and none
of the directories that lead there. -/
structure CommandWorld.Apart (world : CommandWorld) (arguments : RunArguments) : Prop where
  directories : ∀ path git discovery, arguments.receiptOut = some path →
    discoverRun world arguments = .ok (git, discovery) →
    ∀ directory ∈ [StateStore.receiptsDirectory ⟨stateRoot git arguments⟩,
      StateStore.blobsDirectory ⟨stateRoot git arguments⟩,
      StateStore.temporaryDirectory ⟨stateRoot git arguments⟩], ¬Above path directory
  names : ∀ path store, arguments.receiptOut = some path → world.HasStore arguments store →
    ¬store.Uses world.run.process path

omit [Sha2] [Packages] in
private theorem StateStore.outside_of_not_uses (unused : ¬store.Uses process path) :
    store.Outside process path where
  blob := by
    intro digest same
    rw [same] at unused
    exact unused (.blob digest)
  capture := by
    intro number stream same
    rw [same] at unused
    exact unused (.scratch (.capture number stream))

omit [Sha2] [Packages] in
/-- Receipts are neither blobs nor captures. -/
theorem StateStore.outside_receipt {receiptId : String}
    (named : store.receiptPath receiptId = .ok path) : store.Outside process path := by
  obtain ⟨_, shape⟩ := receiptPath_eq_ok_iff.mp named
  rw [shape]
  refine ⟨?_, ?_⟩
  · intro digest same
    exact store.blobTarget_ne_elsewhere digest _ rfl (by decide : 'r' ≠ 'b') same.symm
  · intro number stream
    exact joinPath_ne_of_head 'r' 't' rfl rfl (by decide)

theorem CommandWorld.Apart.owns (apart : world.Apart arguments)
    (hasStore : world.HasStore arguments store) :
    OwnsCaptures store world.run.process (world.Temporary arguments) arguments.receiptOut where
  own := by
    intro path capture
    obtain ⟨number, stream, shape⟩ := capture
    rw [shape]
    exact .store hasStore (.capture number stream)
  apart := by
    intro path capture requested
    obtain ⟨number, stream, shape⟩ := capture
    rw [shape] at requested
    exact apart.names _ store requested hasStore (.scratch (.capture number stream))

end Names

/-! Calls on the disk -/

section DiskCalls

variable {Value : Type} {update : Disk → Except TaskError Disk} {before after : RunState}
  {error : TaskError}

theorem updateDisk_ok {value : Unit} (ran : Among.updateDisk update before = .ok value after) :
    ∃ disk, update before.disk = .ok disk ∧ after = { before with disk } := by
  simp only [Among.updateDisk] at ran
  split at ran
  · rename_i disk updated
    cases ran
    exact ⟨disk, updated, rfl⟩
  · cases ran

theorem updateDisk_error (ran : Among.updateDisk update before = .error error after) :
    update before.disk = .error error ∧ after = before := by
  simp only [Among.updateDisk] at ran
  split at ran
  · cases ran
  · rename_i failed
    cases ran
    exact ⟨failed, rfl⟩

private theorem readDisk_error {look : Disk → Except TaskError Value}
    (ran : Among.readDisk look before = .error error after) : look before.disk = .error error := by
  simp only [Among.readDisk, ofExcept] at ran
  split at ran
  · cases ran
  · rename_i failed
    cases ran
    exact failed

end DiskCalls

/-! Directories -/

/-- Every file of the second disk is one of the first. -/
def Disk.NoNewFiles (before after : Disk) : Prop :=
  ∀ other, after.isFile other = true → before.isFile other = true

/-- What is there stays as it is, and what is new is a directory above the path. -/
structure MakesDirectories (path : String) (before after : RunState) : Prop where
  extends' : before.disk.Extends after.disk
  same : ∀ other, ¬Above other path → before.disk.Same other after.disk
  files : before.disk.NoNewFiles after.disk
  spawned : after.spawned = before.spawned

section Directories

variable {others : RunState → RunState → Prop} {before after : RunState} {path other : String}

theorem MakesDirectories.refl (path : String) (state : RunState) :
    MakesDirectories path state state :=
  ⟨.refl, fun _ _ => .refl, fun _ file => file, rfl⟩

private theorem createDirAll_noNewFiles (depth : Nat) {disk created : Disk}
    (made : disk.createDirAll depth path = .ok created) : disk.NoNewFiles created := by
  apply createDirAll_keeps depth made
  · exact fun _ file => file
  · intro between directory _ _ kept other file
    apply kept other
    by_cases same : other = directory
    · simp [Disk.isFile, same, Entry.isFile] at file
    · rwa [Disk.isFile, between.lookup_create_other _ same] at file

private theorem createDirectory_guarantee {fault : Option IoError}
    {action reported directory : String} :
    Guarantees others (MakesDirectories directory) (fun _ => True)
      (Among.createDirectory fault action reported directory) (fun _ _ => True)
      fun error _ => Ordinary error := by
  apply Guarantees.perform
  · exact .const _ _
  · exact fun _ => .const _ _
  · exact fun _ => .const _ _
  · intro state _
    simp only [outcome, Among.updateDisk]
    cases made : attempt fault
        (state.disk.createDirAll ((components directory).length + 1) directory) with
    | error error => exact .refl directory state
    | ok created =>
        have done := attempt_ok made
        exact ⟨createDirAll_extends _ done, fun other apart => createDirAll_same _ apart done,
          createDirAll_noNewFiles _ done, rfl⟩
  · exact fun _ _ _ _ _ => trivial
  · intro error before after _ ran
    exact orElseFail_ordinary (fun _ => ordinary_io _ _ _) _ (updateDisk_error ran).1

/-- A call that only looks changes nothing. -/
theorem inspect_guarantee {own : RunState → RunState → Prop} {Value : Type}
    {look : Disk → Except TaskError Value} (reflexive : ∀ state, own state state)
    (ordinary : ∀ disk : Disk, FailsWith Ordinary (look disk)) :
    Guarantees others own (fun _ => True) (Among.inspect look) (fun _ _ => True)
      fun error _ => Ordinary error := by
  apply Guarantees.perform
  · exact .const _ _
  · exact fun _ => .const _ _
  · exact fun _ => .const _ _
  · intro state _
    simp only [outcome, Among.readDisk, ofExcept]
    cases look state.disk <;> exact reflexive state
  · exact fun _ _ _ _ _ => trivial
  · exact fun error before after _ ran => ordinary before.disk error (readDisk_error ran)

private theorem inspectTarget_ordinary {fault : Option IoError} (disk : Disk) :
    FailsWith Ordinary (Among.inspectTarget fault path disk) := by
  unfold Among.inspectTarget
  split
  · exact .error (by simp [Ordinary, TaskError.new])
  · exact .ite (.ok _) (.error (ordinary_io _ _ _))

/-- The preflight makes the directories that lead to the output. -/
def PreparesOutput (path : String) (before after : RunState) : Prop :=
  ∃ parent name, jsonOutputParent path = .ok (parent, name) ∧ MakesDirectories parent before after

theorem preflightJsonOutput_guarantee {faults : PublishFaults} :
    Guarantees others (PreparesOutput path) (fun _ => True)
      (Among.preflightJsonOutput faults path) (fun _ _ => True) fun error _ => Ordinary error := by
  apply Guarantees.bindKnowing (guarantees_lift jsonOutputParent_ordinary)
  intro found parts
  obtain ⟨parent, name⟩ := found
  have looks {Value : Type} {look : Disk → Except TaskError Value}
      (ordinary : ∀ disk : Disk, FailsWith Ordinary (look disk)) :
      Guarantees others (PreparesOutput path) (fun _ => True) (Among.inspect look)
        (fun _ _ => True) fun error _ => Ordinary error :=
    inspect_guarantee (fun state => ⟨parent, name, parts, .refl parent state⟩) ordinary
  apply Guarantees.bind
    (createDirectory_guarantee.widen fun _ _ made => ⟨parent, name, parts, made⟩)
  intro _
  apply Guarantees.bind (looks fun disk => orElseFail_ordinary fun _ => ordinary_io _ _ _)
  intro metadata
  split
  · apply guarantees_error
    simp [Ordinary, TaskError.new]
  · exact looks inspectTarget_ordinary

end Directories

/-! Up to the receipt in the store -/

section Evidence

variable [Sha2] [Packages] {world : CommandWorld} {arguments : RunArguments} {store : StateStore}
  {before after start : RunState}

/-- The path of a receipt in the store of the run. -/
def CommandWorld.IsReceipt (world : CommandWorld) (arguments : RunArguments) (path : String) :
    Prop :=
  ∃ store receiptId, world.HasStore arguments store ∧ store.receiptPath receiptId = .ok path

/-- Calls that leave the requested path alone. -/
def SparesOutput (arguments : RunArguments) (before after : RunState) : Prop :=
  ∀ path, arguments.receiptOut = some path → before.disk.Same path after.disk

/-- Where no receipt was, there is none. -/
def CommandWorld.NoNewReceipts (world : CommandWorld) (arguments : RunArguments)
    (before after : RunState) : Prop :=
  ∀ path, world.IsReceipt arguments path → before.disk.isFile path = false →
    after.disk.isFile path = false

/-- Calls before the receipt is stored. -/
structure CollectsEvidence (world : CommandWorld) (arguments : RunArguments)
    (before after : RunState) : Prop where
  output : SparesOutput arguments before after
  receipts : world.NoNewReceipts arguments before after

theorem CommandWorld.HasStore.unique {other : StateStore} (first : world.HasStore arguments store)
    (second : world.HasStore arguments other) : other = store := by
  obtain ⟨git, discovery, discovered, resolved⟩ := first
  obtain ⟨_, _, again, root⟩ := second
  rw [discovered] at again
  cases again
  rw [resolved] at root
  cases store
  cases other
  cases root
  rfl

theorem CollectsEvidence.refl (state : RunState) : CollectsEvidence world arguments state state :=
  ⟨fun _ _ => .refl, fun _ _ vacant => vacant⟩

theorem MakesDirectories.collects {directory : String}
    (made : MakesDirectories directory before after)
    (apart : ∀ path, arguments.receiptOut = some path → ¬Above path directory) :
    CollectsEvidence world arguments before after where
  output := fun path requested => made.same path (apart path requested)
  receipts := by
    intro path _ vacant
    cases file : after.disk.isFile path with
    | false => rfl
    | true =>
        rw [made.files path file] at vacant
        cases vacant

/-- Calls that leave what is outside the store alone. -/
theorem Leaves.collects (apart : world.Apart arguments) (hasStore : world.HasStore arguments store)
    (leaves : Leaves (store.Outside world.run.process) before after) :
    CollectsEvidence world arguments before after where
  output := fun path requested =>
    leaves path (StateStore.outside_of_not_uses (apart.names path store requested hasStore))
  receipts := by
    intro path receipt vacant
    obtain ⟨other, receiptId, found, named⟩ := receipt
    cases hasStore.unique found
    rw [Disk.isFile, (leaves path (StateStore.outside_receipt named)).lookup]
    exact vacant

private theorem noNewReceipts_stable (apart : world.Apart arguments) (start : RunState) :
    Stable (CreatesOutput (world.Temporary arguments) arguments.receiptOut)
      (world.NoNewReceipts arguments start) := by
  intro before after step none path receipt vacant
  obtain ⟨store, receiptId, hasStore, named⟩ := receipt
  refine CreatesOutput.stable_vacant ?_ before after step
    (none path ⟨store, receiptId, hasStore, named⟩ vacant)
  intro requested
  exact apart.names path store requested hasStore (.receipt named)

/-- A step towards the receipt, with what is known of the receipts so far. -/
theorem collecting_guarantee {Value : Type} {program : RunCalls Value} {claims : Value → Prop}
    (apart : world.Apart arguments) (start : RunState)
    (guarantee : Guarantees (CreatesOutput (world.Temporary arguments) arguments.receiptOut)
      (CollectsEvidence world arguments) (fun _ => True) program (fun value _ => claims value)
      fun error _ => Ordinary error) :
    Guarantees (CreatesOutput (world.Temporary arguments) arguments.receiptOut)
      (SparesOutput arguments) (world.NoNewReceipts arguments start) program
      (fun value state => claims value ∧ world.NoNewReceipts arguments start state)
      fun error _ => Ordinary error := by
  have kept : Stable (CollectsEvidence world arguments) (world.NoNewReceipts arguments start) := by
    intro before after step none path receipt vacant
    exact step.receipts path receipt (none path receipt vacant)
  apply Guarantees.weaken (Guarantees.widen
    (Guarantees.frame (noNewReceipts_stable apart start) kept guarantee)
    fun _ _ step => step.output)
  · exact fun _ none => ⟨trivial, none⟩
  · exact fun _ _ returned => returned
  · exact fun _ _ failed => failed.1

private theorem preflightReceiptOut_guarantee {others : RunState → RunState → Prop} :
    Guarantees others (CollectsEvidence world arguments) (fun _ => True)
      (preflightReceiptOut world arguments.receiptOut) (fun _ _ => True)
      fun error _ => Ordinary error := by
  cases requested : arguments.receiptOut with
  | none =>
      apply Guarantees.pure
      · exact .const _ _
      · exact fun _ _ => trivial
  | some path =>
      apply Guarantees.widen preflightJsonOutput_guarantee
      intro before after prepares
      obtain ⟨parent, name, parts, made⟩ := prepares
      apply made.collects
      intro other same
      rw [requested] at same
      cases same
      exact not_above_outputParent parts

omit [Sha2] [Packages] in
theorem textAt_ordinary (repository : Repository) (directory : String) (texts : List String) :
    FailsWith Ordinary (GitContext.textAt repository directory texts) := by
  apply FailsWith.bind (bytes_ordinary _)
  intro bytes
  split
  · exact .pure _
  · exact .throw (ordinary_git _)

private theorem discoverRun_ordinary : FailsWith Ordinary (discoverRun world arguments) := by
  have found : FailsWith Ordinary
      (GitContext.discover world.before world.canonicalize arguments.workspace) := by
    apply FailsWith.bind (textAt_ordinary _ _ _)
    intro rootText
    apply FailsWith.bind (orElseFail_ordinary fun _ => ordinary_io _ _ _)
    intro root
    apply FailsWith.bind (textAt_ordinary _ _ _)
    intro gitDirText
    exact .ite (.bind (.throw (ordinary_git _)) fun _ => .pure _) (.pure _)
  apply FailsWith.bind found
  intro git
  apply FailsWith.bind identifySource_ordinary
  intro source
  exact .bind (discoverChecks_ordinary _ _ _) fun _ => .pure _

omit [Sha2] [Packages] in
theorem orElseFail_ok {Value Cause : Type} {failure : Cause → TaskError}
    {result : Except Cause Value} {value : Value} (done : orElseFail failure result = .ok value) :
    result = .ok value := by
  cases result with
  | error cause => cases done
  | ok found => exact congrArg Except.ok (Except.ok.inj done)

/-- The store that is created is the store of the run. -/
theorem createStore_guarantee {others : RunState → RunState → Prop} {git : GitContext}
    {discovery : DiscoveryReport} (apart : world.Apart arguments)
    (discovered : discoverRun world arguments = .ok (git, discovery)) :
    Guarantees others (CollectsEvidence world arguments) (fun _ => True)
      (createStore world (stateRoot git arguments))
      (fun store _ => world.canonicalize (stateRoot git arguments) = .ok store.root)
      fun error _ => Ordinary error := by
  let given : StateStore := ⟨stateRoot git arguments⟩
  have creates {fault : Option IoError} {action directory : String}
      (listed : directory ∈ [given.receiptsDirectory, given.blobsDirectory,
        given.temporaryDirectory]) :
      Guarantees others (CollectsEvidence world arguments) (fun _ => True)
        (Among.createDirectory fault action (stateRoot git arguments) directory) (fun _ _ => True)
        fun error _ => Ordinary error :=
    createDirectory_guarantee.widen fun before after made => made.collects fun path requested =>
      apart.directories path git discovery requested discovered directory listed
  apply Guarantees.bind (creates (by simp [given]))
  intro _
  apply Guarantees.bind (creates (by simp [given]))
  intro _
  apply Guarantees.bind (creates (by simp [given]))
  intro _
  apply Guarantees.bind (guarantees_lift (orElseFail_ordinary fun _ => ordinary_io _ _ _))
  intro root
  apply Guarantees.pure
  · exact .const _ _
  · exact fun _ resolved => orElseFail_ok resolved

/-! The receipt in the store -/

/-- The checks of the run have completed, and the receipt that says so is stored,
unless a file was under its identifier from the start. -/
structure CommandWorld.Attested (world : CommandWorld) (arguments : RunArguments)
    (start : RunState) (store : StateStore) (receipt : Receipt) (state : RunState) : Prop where
  completed : ∃ git discovery, discoverRun world arguments = .ok (git, discovery) ∧
    world.canonicalize (stateRoot git arguments) = .ok store.root ∧
    receipt.payload.checks.map CheckExecution.check = selectedChecks discovery
  fits : Fits receipt
  stored : ∃ path, store.receiptPath receipt.receiptId = .ok path ∧
    (start.disk.isFile path = false →
      state.disk.lookup path = some (.file (receiptFile receipt) none))

theorem CommandWorld.Attested.hasStore {receipt : Receipt} {state : RunState}
    (attested : world.Attested arguments start store receipt state) :
    world.HasStore arguments store := by
  obtain ⟨git, discovery, discovered, resolved, _⟩ := attested.completed
  exact ⟨git, discovery, discovered, resolved⟩

/-- What is stored stays stored while the file under its identifier stays. -/
theorem CommandWorld.Attested.kept {receipt : Receipt} {first second : RunState}
    (attested : world.Attested arguments start store receipt first)
    (kept : ∀ path entry, store.receiptPath receipt.receiptId = .ok path →
      first.disk.lookup path = some entry → second.disk.lookup path = some entry) :
    world.Attested arguments start store receipt second where
  completed := attested.completed
  fits := attested.fits
  stored := by
    obtain ⟨path, named, stored⟩ := attested.stored
    exact ⟨path, named, fun absent => kept path _ named (stored absent)⟩

theorem attested_stable (store : StateStore) (receipt : Receipt) :
    Stable (CreatesOutput (world.Temporary arguments) arguments.receiptOut)
      (world.Attested arguments start store receipt) :=
  fun _ _ step attested => attested.kept fun _ _ _ found => step.present found

omit [Sha2] [Packages] in
/-- Writing a receipt leaves alone what the process does not use. -/
theorem writeReceipt_spares [JsonDiagnostics] {process sequence : Nat} {faults : PublishFaults}
    {receipt : Receipt} {disk : Disk} {other : String} (unused : ¬store.Uses process other) :
    disk.Same other (store.writeReceipt process faults receipt sequence disk).2.2 := by
  rcases @writeReceipt_disk disk faults _ store process sequence receipt with
    left | ⟨path, named, left⟩ <;> rw [left]
  · exact .refl
  · cases parts : jsonOutputParent path with
    | ok found =>
        obtain ⟨parent, name⟩ := found
        apply writeJsonAtomic_same parts
        · exact fun above => unused (.directory named parts above)
        · intro same
          rw [same] at unused
          exact unused (.receipt named)
        · intro number same
          rw [same] at unused
          exact unused (.scratch (.receipt number named parts))
    | error error =>
        have failed : writeJsonAtomic process faults path (toVecPretty receipt) sequence disk =
            (.error error, sequence, disk) := by
          simp only [writeJsonAtomic, preflightJsonOutput, parts]
        rw [failed]
        exact .refl

private theorem storeReceipt_guarantee [JsonDiagnostics] {git : GitContext}
    {discovery : DiscoveryReport}
    {receipt : Receipt} (apart : world.Apart arguments) (start : RunState)
    (discovered : discoverRun world arguments = .ok (git, discovery))
    (resolved : world.canonicalize (stateRoot git arguments) = .ok store.root)
    (completed : receipt.payload.checks.map CheckExecution.check = selectedChecks discovery) :
    Guarantees (CreatesOutput (world.Temporary arguments) arguments.receiptOut)
      (SparesOutput arguments) (world.NoNewReceipts arguments start)
      (.perform (storeReceipt world.run.process world.run.publish store receipt))
      (fun _ state => world.Attested arguments start store receipt state)
      fun error _ => Ordinary error := by
  have hasStore : world.HasStore arguments store := ⟨git, discovery, discovered, resolved⟩
  apply Guarantees.perform
  · exact noNewReceipts_stable apart start
  · exact fun _ => attested_stable store receipt
  · exact fun _ => .const _ _
  · intro state _ path requested
    have same := @writeReceipt_spares store _ world.run.process state.jsonSequence
      world.run.publish receipt state.disk path (apart.names path store requested hasStore)
    rcases written : store.writeReceipt world.run.process world.run.publish receipt
      state.jsonSequence state.disk with ⟨result, next, disk⟩
    rw [written] at same
    cases result <;> simp only [outcome, storeReceipt, written] <;> exact same
  · intro path before after none ran
    simp only [storeReceipt] at ran
    split at ran
    · rename_i target next disk written
      cases ran
      obtain ⟨named, fits, decided⟩ := writeReceipt_cases written
      refine ⟨⟨git, discovery, discovered, resolved, completed⟩, fits, _, named, ?_⟩
      intro absent
      rcases decided with ⟨_, stored⟩ | ⟨existing, read, _⟩
      · exact stored
      · obtain ⟨content, found, _⟩ := readReceiptFile_eq_ok_iff.mp read
        have vacant := none _ ⟨store, _, hasStore, named⟩ absent
        simp [Disk.isFile, found, Entry.isFile] at vacant
    · cases ran
  · intro error before after _ ran
    simp only [storeReceipt] at ran
    split at ran
    · cases ran
    · rename_i failed
      cases ran
      exact (writeReceipt_ordinary _ _ _).of_fst failed

/-- A progress event changes nothing on the disk. -/
theorem reportStored_guarantee (running : World) (store : StateStore) (receipt : Receipt) :
    Guarantees (CreatesOutput (world.Temporary arguments) arguments.receiptOut)
      (SparesOutput arguments) (world.Attested arguments start store receipt)
      (.perform (onProgress running .receiptStored none none (some receipt.receiptId)))
      (fun _ state => world.Attested arguments start store receipt state)
      fun error _ => Ordinary error := by
  apply Guarantees.perform
  · exact attested_stable store receipt
  · exact fun _ => attested_stable store receipt
  · exact fun _ => .const _ _
  · exact fun _ _ _ _ => .refl
  · intro _ before after attested ran
    cases ran
    exact attested.kept fun _ _ _ found => found
  · intro error before after _ ran
    cases ran

omit [Sha2] [Packages] in
private theorem installCancellationHandler_ordinary {fault : Option String} :
    FailsWith Ordinary (installCancellationHandler fault) := by
  unfold installCancellationHandler
  split
  · exact .error (ordinary_execution _)
  · exact .ok _

/-- Up to the receipt in the store, the requested path is left alone. -/
theorem attest_guarantee [JsonDiagnostics] (apart : world.Apart arguments) (start : RunState) :
    Guarantees (CreatesOutput (world.Temporary arguments) arguments.receiptOut)
      (SparesOutput arguments) (world.NoNewReceipts arguments start) (attest world arguments)
      (fun value state => world.Attested arguments start value.1 value.2 state)
      fun error _ => Ordinary error := by
  apply Guarantees.bindCarrying (collecting_guarantee apart start preflightReceiptOut_guarantee)
  intro _ _
  apply Guarantees.bindCarrying
    (collecting_guarantee apart start (guarantees_lift discoverRun_ordinary))
  intro found discovered
  obtain ⟨git, discovery⟩ := found
  apply Guarantees.bindCarrying
    (collecting_guarantee apart start (createStore_guarantee apart discovered))
  intro store resolved
  have hasStore : world.HasStore arguments store := ⟨git, discovery, discovered, resolved⟩
  apply Guarantees.bindCarrying
    (collecting_guarantee apart start (guarantees_lift installCancellationHandler_ordinary))
  intro _ _
  have runs : Guarantees (CreatesOutput (world.Temporary arguments) arguments.receiptOut)
      (SparesOutput arguments) (world.NoNewReceipts arguments start)
      (Among.runChecks (world.running git) store discovery arguments.invocation)
      (fun receipt state => world.Attested arguments start store receipt state)
      fun error _ => Ordinary error := by
    have collects := @collectEvidence_guarantee _ (world.running git) store _ _
      (apart.owns hasStore) discovery arguments.invocation
    apply Guarantees.bindCarrying (collecting_guarantee apart start
      (collects.widen fun _ _ leaves => leaves.collects apart hasStore))
    intro payload completed
    apply Guarantees.bind (storeReceipt_guarantee apart start discovered resolved completed)
    intro path
    apply Guarantees.bind (reportStored_guarantee (world.running git) store (buildReceipt payload))
    intro _
    apply Guarantees.pure
    · exact attested_stable store (buildReceipt payload)
    · exact fun _ attested => attested
  apply Guarantees.bind runs
  intro receipt
  apply Guarantees.pure
  · exact attested_stable store receipt
  · exact fun _ attested => attested

end Evidence

end TaskAttest
