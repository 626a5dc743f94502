import TaskAttest.Library.Program
import TaskAttest.Discover
import TaskAttest.Publish
import TaskAttest.Source
import TaskAttest.SuperviseProperties

/-! The exit codes failures ask for: none but the publication of a stored receipt
asks for the one that tells the caller not to retry. -/

set_option autoImplicit false

namespace TaskAttest

open Program

/-- The exit codes of failures before the receipt is published. -/
def Ordinary (error : TaskError) : Prop := error.exitCode ∈ ([3, 4, 5, 6] : List UInt8)

section Constructors

@[simp] theorem ordinary_io (action path : String) (error : IoError) :
    Ordinary (TaskError.io action path error) := by simp [Ordinary, TaskError.io, TaskError.new]

@[simp] theorem ordinary_git (message : String) : Ordinary (TaskError.git message) := by
  simp [Ordinary, TaskError.git, TaskError.new]

@[simp] theorem ordinary_discovery (message : String) : Ordinary (TaskError.discovery message) := by
  simp [Ordinary, TaskError.discovery, TaskError.new]

@[simp] theorem ordinary_configuration (message : String) :
    Ordinary (TaskError.configuration message) := by
  simp [Ordinary, TaskError.configuration, TaskError.new]

@[simp] theorem ordinary_execution (message : String) : Ordinary (TaskError.execution message) := by
  simp [Ordinary, TaskError.execution, TaskError.new]

@[simp] theorem ordinary_receipt (message : String) : Ordinary (TaskError.receipt message) := by
  simp [Ordinary, TaskError.receipt, TaskError.new]

@[simp] theorem ordinary_json (message : String) : Ordinary (TaskError.json message) := by
  simp [Ordinary, TaskError.json, TaskError.new]

theorem orElseFail_ordinary {Value Cause : Type} {failure : Cause → TaskError}
    {result : Except Cause Value} (ordinary : ∀ cause, Ordinary (failure cause)) :
    FailsWith Ordinary (orElseFail failure result) := .mapError ordinary

end Constructors

/-! The workspace -/

section Workspace

variable {repository : Repository}

private theorem output_ordinary (arguments : List String) :
    FailsWith Ordinary (repository.output arguments) := by
  unfold Repository.output
  split
  · exact .error (ordinary_git _)
  · exact .ite (.error (ordinary_git _)) (.ok _)

theorem bytes_ordinary (arguments : List String) :
    FailsWith Ordinary (repository.bytes arguments) := by
  apply FailsWith.bind (output_ordinary arguments)
  intro output
  split
  · exact .bind (.throw (ordinary_git _)) fun _ => .pure _
  · exact .pure _

private theorem optionalText_ordinary (arguments : List String) :
    FailsWith Ordinary (repository.optionalText arguments) := by
  apply FailsWith.bind (output_ordinary arguments)
  intro output
  split
  · split
    · exact .pure _
    · exact .throw (ordinary_git _)
  · exact .pure _

private theorem parseNulPath_ordinary (value : List UInt8) :
    FailsWith Ordinary (parseNulPath value) := by
  unfold parseNulPath
  split
  · exact .error (ordinary_git _)
  · rename_i path _
    have valid : FailsWith Ordinary (validateGitPath path) :=
      .ite (.error (ordinary_git _)) (.ok _)
    exact .bind valid fun _ => .pure _

private theorem parseNulPaths_ordinary (bytes : List UInt8) :
    FailsWith Ordinary (parseNulPaths bytes) :=
  .bind (.mapM parseNulPath_ordinary _) fun _ => .pure _

private theorem workspaceFiles_ordinary : FailsWith Ordinary repository.workspaceFiles :=
  .bind (bytes_ordinary _) fun _ => parseNulPaths_ordinary _

private theorem changedPaths_ordinary (hasHead : Bool) :
    FailsWith Ordinary (repository.changedPaths hasHead) := by
  unfold Repository.changedPaths
  apply FailsWith.ite workspaceFiles_ordinary
  apply FailsWith.bind (bytes_ordinary _)
  intro unstaged
  apply FailsWith.bind (parseNulPaths_ordinary _)
  intro unstaged
  apply FailsWith.bind (bytes_ordinary _)
  intro staged
  apply FailsWith.bind (parseNulPaths_ordinary _)
  intro staged
  apply FailsWith.bind (bytes_ordinary _)
  intro untracked
  exact .bind (parseNulPaths_ordinary _) fun _ => .pure _

private theorem submoduleOutput_ordinary (path : String) (arguments : List String) :
    FailsWith Ordinary (repository.submoduleOutput path arguments) := by
  unfold Repository.submoduleOutput
  split
  · exact .error (ordinary_git _)
  · exact .ite (.ok _) (.error (ordinary_git _))

private theorem inspectPath_ordinary (relative : String) :
    FailsWith Ordinary (repository.inspectPath relative) := by
  unfold Repository.inspectPath
  simp only
  split
  · exact .error (ordinary_io _ _ _)
  · exact .error (ordinary_io _ _ _)
  · split
    · exact .ok _
    · exact .error (ordinary_git _)
  · exact .error (ordinary_io _ _ _)
  · exact .error (ordinary_io _ _ _)
  · exact .ok _
  · apply FailsWith.bind (submoduleOutput_ordinary _ _)
    intro head
    exact .bind (submoduleOutput_ordinary _ _) fun _ => .pure _
  · exact .error (ordinary_git _)

private theorem snapshot_ordinary (paths : List String) :
    FailsWith Ordinary (repository.snapshot paths) := by
  induction paths with
  | nil => exact .ok _
  | cons relative rest ih =>
      exact .bind (inspectPath_ordinary relative) fun _ => .bind ih fun _ => .pure _

theorem identifySource_ordinary [Sha2] : FailsWith Ordinary (identifySource repository) := by
  apply FailsWith.bind (optionalText_ordinary _)
  intro gitCommit
  apply FailsWith.bind (optionalText_ordinary _)
  intro gitRef
  apply FailsWith.bind (bytes_ordinary _)
  intro status
  apply FailsWith.bind (changedPaths_ordinary _)
  intro changedPaths
  apply FailsWith.bind workspaceFiles_ordinary
  intro files
  exact .bind (.bind (snapshot_ordinary _) fun _ => .pure _) fun _ => .pure _

end Workspace

/-! Discovery -/

section Discovery

variable [Sha2] {workspace : Workspace}

omit [Sha2] in
private theorem readBoundedProjectFile_ordinary (label : String) :
    FailsWith Ordinary (workspace.readBoundedProjectFile label) := by
  apply FailsWith.bind (orElseFail_ordinary fun _ => ordinary_io _ _ _)
  intro length
  split
  · exact .bind (.throw (ordinary_discovery _)) fun _ =>
      orElseFail_ordinary fun _ => ordinary_io _ _ _
  · exact orElseFail_ordinary fun _ => ordinary_io _ _ _

private theorem discoverySource_ordinary (relative evidence : String) :
    FailsWith Ordinary (workspace.discoverySource relative evidence) := by
  have hashed : FailsWith Ordinary (workspace.sha256Path (workspace.within relative)) := by
    unfold Workspace.sha256Path
    split
    · exact .ok _
    · exact .error (ordinary_io _ _ _)
    · exact .error (ordinary_io _ _ _)
  exact .bind hashed fun _ => .pure _

omit [Sha2] in
private theorem validateWorkingDirectory_ordinary (relative : String) :
    FailsWith Ordinary (workspace.validateWorkingDirectory relative) := by
  have resolves : FailsWith Ordinary (do
      let resolved ← orElseFail
        (fun error => TaskError.configuration
          ("resolve working directory " ++ relative ++ ": " ++ error.text))
        (workspace.canonicalize (pathJoin workspace.root relative))
      if !startsWith resolved workspace.root || !workspace.isDir resolved then
        throw (TaskError.configuration
          ("working directory must resolve to a repository directory: " ++ relative))) := by
    apply FailsWith.bind (orElseFail_ordinary fun _ => ordinary_configuration _)
    intro resolved
    exact .ite (.throw (ordinary_configuration _)) (.pure _)
  unfold Workspace.validateWorkingDirectory
  split
  · exact .bind (.throw (ordinary_configuration _)) fun _ => resolves
  · exact resolves

variable [Packages]

omit [Packages] in
private theorem lockfileSources_ordinary (lockfile : String) :
    FailsWith Ordinary (lockfileSources workspace lockfile) := by
  unfold lockfileSources
  exact .ite (.pure _) (.bind (discoverySource_ordinary _ _) fun _ => .pure _)

private theorem discoverJavascript_ordinary :
    FailsWith Ordinary (discoverJavascript workspace) := by
  apply FailsWith.bind (readBoundedProjectFile_ordinary _)
  intro text
  apply FailsWith.bind (orElseFail_ordinary fun _ => ordinary_discovery _)
  intro scripts
  apply FailsWith.bind (discoverySource_ordinary _ _)
  intro manifest
  exact .bind (lockfileSources_ordinary _) fun _ => .pure _

omit [Sha2] in
private theorem pythonFileEvidence_ordinary (path text : String) (evidence : PythonToolEvidence) :
    FailsWith Ordinary (pythonFileEvidence path text evidence) := by
  unfold pythonFileEvidence
  split
  · exact .bind (orElseFail_ordinary fun _ => ordinary_discovery _) fun _ => .pure _
  · exact .ite (.pure _) (.ite (.pure _) (.pure _))

private theorem collectPythonFiles_ordinary (paths : List String)
    (collected : PythonToolEvidence × List DiscoverySource) :
    FailsWith Ordinary (collectPythonFiles workspace paths collected) := by
  induction paths generalizing collected with
  | nil => exact .pure _
  | cons path rest ih =>
      obtain ⟨evidence, sources⟩ := collected
      unfold collectPythonFiles
      split
      · exact ih _
      · apply FailsWith.bind (readBoundedProjectFile_ordinary _)
        intro text
        apply FailsWith.bind (pythonFileEvidence_ordinary _ _ _)
        intro evidence
        exact .bind (discoverySource_ordinary _ _) fun _ => ih _

private theorem discoverPython_ordinary : FailsWith Ordinary (discoverPython workspace) :=
  .bind (collectPythonFiles_ordinary _ _) fun _ => .pure _

omit [Packages] in
private theorem manifestSources_ordinary (manifest manifestEvidence lock lockEvidence : String) :
    FailsWith Ordinary (manifestSources workspace manifest manifestEvidence lock lockEvidence) := by
  apply FailsWith.bind (discoverySource_ordinary _ _)
  intro first
  exact .ite (.bind (discoverySource_ordinary _ _) fun _ => .pure _) (.pure _)

omit [Sha2] [Packages] in
private theorem discoverPresent_ordinary (files : List String)
    {discover : Workspace → Except TaskError (List CheckDefinition)}
    (ordinary : FailsWith Ordinary (discover workspace)) :
    FailsWith Ordinary (discoverPresent workspace files discover) := by
  unfold discoverPresent
  exact .ite ordinary (.pure _)

private theorem discoverLanguages_ordinary : FailsWith Ordinary (discoverLanguages workspace) := by
  apply FailsWith.bind (discoverPresent_ordinary _ discoverJavascript_ordinary)
  intro javascript
  apply FailsWith.bind (discoverPresent_ordinary _ discoverPython_ordinary)
  intro python
  have rust : FailsWith Ordinary (discoverRust workspace) :=
    .bind (manifestSources_ordinary _ _ _ _) fun _ => .pure _
  have go : FailsWith Ordinary (discoverGo workspace) :=
    .bind (manifestSources_ordinary _ _ _ _) fun _ => .pure _
  apply FailsWith.bind (discoverPresent_ordinary _ rust)
  intro rust
  exact .bind (discoverPresent_ordinary _ go) fun _ => .pure _

/-! Workflows -/

private theorem inspectStep_ordinary (source : DiscoverySource) (step : RunStep)
    (inspected : Inspection) :
    FailsWith Ordinary (inspectStep workspace source step inspected) := by
  unfold inspectStep
  split
  · exact .bind (validateWorkingDirectory_ordinary _) fun _ => .pure _
  · exact .ite (.pure _) (.pure _)

private theorem inspectSteps_ordinary (source : DiscoverySource) (relative job : String)
    (steps : List Yaml) (index : Nat) (inspected : Inspection) :
    FailsWith Ordinary (inspectSteps workspace source relative job index steps inspected) := by
  induction steps generalizing index inspected with
  | nil => exact .pure _
  | cons value rest ih =>
      unfold inspectSteps
      split
      · exact ih _ _
      · exact .bind (inspectStep_ordinary _ _ _) fun _ => ih _ _

private theorem inspectJobs_ordinary (source : DiscoverySource) (relative : String)
    (jobs : List (Yaml × Yaml)) (inspected : Inspection) :
    FailsWith Ordinary (inspectJobs workspace source relative jobs inspected) := by
  induction jobs generalizing inspected with
  | nil => exact .pure _
  | cons job rest ih =>
      unfold inspectJobs
      simp only
      split
      · exact ih _
      · exact .bind (inspectSteps_ordinary _ _ _ _ _ _) fun _ => ih _

private theorem inspectWorkflowDocument_ordinary (relative : String) (source : DiscoverySource)
    (document : Yaml) (inspected : Inspection) :
    FailsWith Ordinary (inspectWorkflowDocument workspace relative source document inspected) := by
  unfold inspectWorkflowDocument
  split
  · exact .pure _
  · exact inspectJobs_ordinary _ _ _ _

private theorem readWorkflow_ordinary (name : List UInt8) :
    FailsWith Ordinary (readWorkflow workspace name) := by
  have reads (path relative : String) : FailsWith Ordinary (do
      let source ← workspace.discoverySource relative "GitHub Actions workflow"
      let text ← orElseFail (TaskError.io "read workflow" path) (workspace.readToString path)
      let content ← orElseFail
        (fun error =>
          TaskError.discovery ("parse GitHub Actions workflow " ++ relative ++ ": " ++ error))
        (Packages.yaml text)
      return ({ relative, source, content } : WorkflowDocument)) := by
    apply FailsWith.bind (discoverySource_ordinary _ _)
    intro source
    apply FailsWith.bind (orElseFail_ordinary fun _ => ordinary_io _ _ _)
    intro text
    exact .bind (orElseFail_ordinary fun _ => ordinary_discovery _) fun _ => .pure _
  apply FailsWith.bind (orElseFail_ordinary fun _ => ordinary_io _ _ _)
  intro length
  dsimp only
  apply FailsWith.ite
  · apply FailsWith.bind (.throw (ordinary_discovery _))
    intro _
    split
    · exact .bind (.throw (ordinary_discovery _)) fun _ => reads _ _
    · exact reads _ _
  · split
    · exact .bind (.throw (ordinary_discovery _)) fun _ => reads _ _
    · exact reads _ _

private theorem inspectWorkflows_ordinary (names : List (List UInt8)) (inspected : Inspection) :
    FailsWith Ordinary (inspectWorkflows workspace names inspected) := by
  induction names generalizing inspected with
  | nil => exact .pure _
  | cons name rest ih =>
      obtain ⟨checks, result⟩ := inspected
      apply FailsWith.bind (readWorkflow_ordinary name)
      intro document
      exact .bind (inspectWorkflowDocument_ordinary _ _ _ _) fun _ => ih _

private theorem discoverWorkflows_ordinary (checks : List CheckDefinition) :
    FailsWith Ordinary (discoverWorkflows workspace checks) := by
  unfold discoverWorkflows
  split
  · exact .pure _
  · exact .bind (orElseFail_ordinary fun _ => ordinary_io _ _ _)
      fun _ => inspectWorkflows_ordinary _ _

/-! Configuration, validation and the report -/

omit [Sha2] in
private theorem compileCoverage_ordinary (patterns : List String) :
    FailsWith Ordinary (compileCoverage patterns) := by
  have compiled : FailsWith Ordinary (compilePatterns patterns) := by
    induction patterns with
    | nil => exact .pure _
    | cons pattern rest ih =>
        exact .bind (orElseFail_ordinary fun _ => ordinary_configuration _) fun _ => ih
  exact .bind compiled fun _ => orElseFail_ordinary fun _ => ordinary_configuration _

omit [Sha2] in
private theorem validateChecks_ordinary (checks : List CheckDefinition) (ids : List String) :
    FailsWith Ordinary (validateChecks checks ids) := by
  induction checks generalizing ids with
  | nil => exact .pure _
  | cons check rest ih =>
      have later : FailsWith Ordinary (do
          let _ ← compileCoverage check.coveragePaths
          validateChecks rest (check.id :: ids)) :=
        .bind (compileCoverage_ordinary _) fun _ => ih _
      have distinct : FailsWith Ordinary (do
          if ids.contains check.id then
            throw (TaskError.configuration ("duplicate check id: " ++ check.id))
          let _ ← compileCoverage check.coveragePaths
          validateChecks rest (check.id :: ids)) :=
        .ite (.bind (.throw (ordinary_configuration _)) fun _ => later) later
      unfold validateChecks
      exact .ite (.bind (.throw (ordinary_configuration _)) fun _ => distinct) distinct

omit [Sha2] [Packages] in
private theorem validateEnvironmentNames_ordinary (id : String) (names : List String) :
    FailsWith Ordinary (validateEnvironmentNames id names) := by
  induction names with
  | nil => exact .pure _
  | cons name rest ih =>
      unfold validateEnvironmentNames
      exact .ite (.bind (.throw (ordinary_configuration _)) fun _ => ih) ih

omit [Sha2] [Packages] in
private theorem configuredChecks_ordinary (configSource : Option DiscoverySource)
    (configured : List ConfiguredCheck) :
    FailsWith Ordinary (configuredChecks workspace configSource configured) := by
  induction configured with
  | nil => exact .pure _
  | cons first rest ih =>
      have check : FailsWith Ordinary (configuredCheck workspace first configSource) := by
        unfold configuredCheck
        simp only
        split
        · exact .error (ordinary_configuration _)
        · apply FailsWith.ite (.error (ordinary_configuration _))
          apply FailsWith.bind (validateWorkingDirectory_ordinary _)
          intro _
          exact .bind (validateEnvironmentNames_ordinary _ _) fun _ => .pure _
      exact .bind check fun _ => .bind ih fun _ => .pure _

omit [Sha2] [Packages] in
private theorem claimStep_ordinary (checkId observationId : String) (replacing : Replacing) :
    FailsWith Ordinary (claimStep checkId observationId replacing) := by
  obtain ⟨claimed, observations⟩ := replacing
  unfold claimStep
  simp only
  split
  · exact .error (ordinary_configuration _)
  · split
    · exact .error (ordinary_configuration _)
    · exact .ite (.ok _) (.error (ordinary_configuration _))

omit [Sha2] [Packages] in
private theorem applyWorkflowReplacements_ordinary (checks : List CheckDefinition)
    (workflow : WorkflowDiscovery) :
    FailsWith Ordinary (applyWorkflowReplacements checks workflow) := by
  have claimed (steps : List (String × String)) (replacing : Replacing) :
      FailsWith Ordinary (claimSteps steps replacing) := by
    induction steps generalizing replacing with
    | nil => exact .pure _
    | cons step rest ih => exact .bind (claimStep_ordinary _ _ _) fun _ => ih _
  exact .bind (claimed _ _) fun _ => .pure _

private theorem readConfiguration_ordinary : FailsWith Ordinary (readConfiguration workspace) := by
  have supported (config : TaskAttestConfig) : FailsWith Ordinary (do
      let source ← workspace.discoverySource ".taskattest.toml" "explicit TaskAttest configuration"
      return (config, some source)) :=
    .bind (discoverySource_ordinary _ _) fun _ => .pure _
  unfold readConfiguration
  split
  · exact .pure _
  · apply FailsWith.bind (readBoundedProjectFile_ordinary _)
    intro text
    apply FailsWith.bind (orElseFail_ordinary fun _ => ordinary_configuration _)
    intro document
    exact .ite (.bind (.throw (ordinary_configuration _)) fun _ => supported _) (supported _)

omit [Sha2] in
private theorem assembleReport_ordinary (source : SourceIdentity) (changedOnly : Bool)
    (requestedChecks : List String) (checks : List CheckDefinition) (workflow : WorkflowDiscovery)
    (configSource : Option DiscoverySource) :
    FailsWith Ordinary
      (assembleReport source changedOnly requestedChecks checks workflow configSource) := by
  have requested (ids : List String) : FailsWith Ordinary (validateRequested checks ids) := by
    induction ids with
    | nil => exact .pure _
    | cons id rest ih =>
        unfold validateRequested
        exact .ite (.bind (.throw (ordinary_discovery _)) fun _ => ih) ih
  have compiled (checks : List CheckDefinition) : FailsWith Ordinary (compileAll checks) := by
    induction checks with
    | nil => exact .pure _
    | cons check rest ih =>
        exact .bind (compileCoverage_ordinary _) fun _ => .bind ih fun _ => .pure _
  exact .bind (requested _) fun _ => .bind (compiled _) fun _ => .pure _

theorem discoverChecks_ordinary (source : SourceIdentity) (changedOnly : Bool)
    (requestedChecks : List String) :
    FailsWith Ordinary (discoverChecks workspace source changedOnly requestedChecks) := by
  apply FailsWith.bind readConfiguration_ordinary
  intro configuration
  apply FailsWith.bind discoverLanguages_ordinary
  intro languageChecks
  apply FailsWith.bind (discoverWorkflows_ordinary _)
  intro inspected
  apply FailsWith.bind (configuredChecks_ordinary _ _)
  intro explicit
  apply FailsWith.bind (validateChecks_ordinary _ _)
  intro _
  exact .bind (applyWorkflowReplacements_ordinary _ _) fun _ => assembleReport_ordinary _ _ _ _ _ _

end Discovery

/-! Reading and storing -/

section Store

variable {disk : Disk} {store : StateStore} {path : String}

theorem readFile_ordinary (openAction readAction : String) :
    FailsWith Ordinary (disk.readFile openAction readAction path) := by
  unfold Disk.readFile
  split
  · exact .error (ordinary_io _ _ _)
  · split
    · exact .ok _
    · exact .error (ordinary_io _ _ _)
    · exact .error (ordinary_io _ _ _)

theorem receiptPath_ordinary (receiptId : String) :
    FailsWith Ordinary (store.receiptPath receiptId) := by
  have valid : FailsWith Ordinary (validateReceiptId receiptId) := by
    unfold validateReceiptId
    split
    · exact .error (ordinary_receipt _)
    · exact .ite (.ok _) (.error (ordinary_receipt _))
  exact .bind valid fun _ => .pure _

theorem storeBlob_ordinary [Sha2] (call : BlobCall) (faults : BlobFaults) :
    FailsWith Ordinary (store.storeBlob call faults disk).1 := by
  have verifies : FailsWith Ordinary
      (verifyExistingBlob disk (store.blobTarget call.digest) call.digest call.expectedBytes) := by
    have hashes : FailsWith Ordinary (do
        let actual ← sha256Path disk (store.blobTarget call.digest)
        if actual ≠ call.digest then
          throw (TaskError.receipt ("content-addressed blob does not match its handle: " ++
            store.blobTarget call.digest))) :=
      .bind (.map _ (readFile_ordinary _ _)) fun _ => .ite (.throw (ordinary_receipt _)) (.pure _)
    unfold verifyExistingBlob
    split
    · exact .error (ordinary_io _ _ _)
    · exact .ite (.bind (.throw (ordinary_receipt _)) fun _ => hashes) hashes
  have removes (action : String) (disk : Disk) :
      FailsWith Ordinary (store.removeTemporary call action faults.remove disk).1 := by
    unfold StateStore.removeTemporary
    split
    · exact .error (ordinary_io _ _ _)
    · exact .ok _
  have adopts (action : String) :
      FailsWith Ordinary (store.adoptBlob call action faults disk).1 := by
    have checked : FailsWith Ordinary (store.verifyBlobStep call faults.verify disk) := by
      unfold StateStore.verifyBlobStep
      simp only
      split
      · exact .error (ordinary_io _ _ _)
      · exact verifies
    unfold StateStore.adoptBlob
    split
    · rename_i error failed
      exact .error (checked error failed)
    · exact removes _ _
  have valid : FailsWith Ordinary (validateSha256 call.digest) :=
    .ite (.ok _) (.error (ordinary_receipt _))
  unfold StateStore.storeBlob
  split
  · rename_i error failed
    exact .error (valid error failed)
  · simp only
    split
    · exact adopts _
    · split
      · exact removes _ _
      · split
        · exact adopts _
        · exact .error (ordinary_io _ _ _)

variable {faults : PublishFaults}

theorem jsonOutputParent_ordinary : FailsWith Ordinary (jsonOutputParent path) := by
  unfold jsonOutputParent
  split
  · exact .error (ordinary_execution _)
  · split
    · exact .error (ordinary_execution _)
    · exact .ok _

private theorem preflight_ordinary :
    FailsWith Ordinary (preflightJsonOutput faults path disk).1 := by
  unfold preflightJsonOutput
  split
  · rename_i error failed
    exact .error (jsonOutputParent_ordinary error failed)
  · split
    · exact .error (ordinary_io _ _ _)
    · split
      · exact .error (ordinary_io _ _ _)
      · split
        · exact .error (by simp [Ordinary, TaskError.new])
        · split
          · exact .error (by simp [Ordinary, TaskError.new])
          · split
            · exact .ok _
            · exact .error (ordinary_io _ _ _)

theorem allocation_ordinary {allocation : Allocation} (exhausted : Ordinary allocation.exhausted)
    (faults : Nat → Option IoError) (attempts sequence : Nat) :
    FailsWith Ordinary (allocation.run faults attempts sequence disk).1 := by
  induction attempts generalizing sequence with
  | zero => exact .error exhausted
  | succ attempts ih =>
      simp only [Allocation.run]
      split
      · exact .ok _
      · split
        · exact ih _
        · exact .error (ordinary_io _ _ _)

private theorem fillAndLink_ordinary (document : List UInt8) (temporary : String) :
    FailsWith Ordinary (fillAndLink faults document temporary path disk).1 := by
  unfold fillAndLink
  split
  · exact .error (ordinary_json _)
  · simp only
    split
    · exact .error (ordinary_io _ _ _)
    · split
      · exact .error (ordinary_io _ _ _)
      · split
        · exact .error (ordinary_io _ _ _)
        · exact .ok _

private theorem writeJsonAtomic_ordinary (process sequence : Nat) (document : List UInt8) :
    FailsWith Ordinary (writeJsonAtomic process faults path document sequence disk).1 := by
  unfold writeJsonAtomic
  split
  · rename_i failed
    exact .error (preflight_ordinary.of_fst failed)
  · split
    · rename_i error failed
      exact .error (jsonOutputParent_ordinary error failed)
    · rename_i parent name _
      have exhausted : Ordinary (jsonAllocation process parent name).exhausted :=
        ordinary_execution _
      split
      · rename_i failed
        exact .error ((allocation_ordinary exhausted _ _ _).of_fst failed)
      · split
        · exact .ok _
        · rename_i failed
          exact .error ((fillAndLink_ordinary _ _).of_fst failed)

theorem readReceiptFile_ordinary [JsonDiagnostics] :
    FailsWith Ordinary (readReceiptFile disk path) := by
  have distinct (bytes : List UInt8) : FailsWith Ordinary (rejectDuplicateObjectKeys bytes) := by
    unfold rejectDuplicateObjectKeys
    split
    · exact .ite (.ok _) (.error (ordinary_json _))
    · exact .error (ordinary_json _)
  have typed {Value : Type} (read : Json.Value → Option Value) (bytes : List UInt8) :
      FailsWith Ordinary (fromSlice read bytes) := by
    unfold fromSlice
    split
    · exact .ok _
    · exact .error (ordinary_json _)
  have parses (bytes : List UInt8) : FailsWith Ordinary (parseReceiptDocument bytes) := by
    have reads : FailsWith Ordinary (do
        rejectDuplicateObjectKeys bytes
        let receipt ← fromSlice (@Json.deserialize Receipt _) bytes
        let document ← fromSlice (fun value => some value.normalize) bytes
        let normalized := toValue receipt
        if document ≠ normalized then
          throw (TaskError.receipt "receipt contains unknown or omitted fields")
        return receipt) := by
      apply FailsWith.bind (distinct bytes)
      intro _
      apply FailsWith.bind (typed _ bytes)
      intro receipt
      apply FailsWith.bind (typed _ bytes)
      intro document
      exact .ite (.bind (.throw (ordinary_receipt _)) fun _ => .pure _) (.pure _)
    exact .ite (.bind (.throw (ordinary_receipt _)) fun _ => reads) reads
  unfold readReceiptFile
  split
  · exact .error (ordinary_io _ _ _)
  · apply FailsWith.ite (.error (ordinary_receipt _))
    split
    · rename_i error failed
      exact .error (readFile_ordinary _ _ error failed)
    · exact parses _

theorem writeReceipt_ordinary [JsonDiagnostics] (process sequence : Nat) (receipt : Receipt) :
    FailsWith Ordinary (store.writeReceipt process faults receipt sequence disk).1 := by
  unfold StateStore.writeReceipt
  split
  · rename_i error failed
    exact .error (receiptPath_ordinary _ error failed)
  · split
    · exact .error (ordinary_receipt _)
    · split
      · split
        · rename_i error failed
          exact .error (readReceiptFile_ordinary error failed)
        · split
          · exact .ok _
          · exact .error (ordinary_receipt _)
      · split
        · rename_i failed
          exact .error ((writeJsonAtomic_ordinary _ _ _).of_fst failed)
        · exact .ok _

end Store

/-! Supervision -/

section Supervision

variable [Sha2] {setup : SuperviseSetup}

/-- The polling loop fails with an error of its own. -/
theorem superviseStep_ordinary {before after : SuperviseState}
    (step : SuperviseStep setup before after)
    (ordinary : ∀ error, before.phase = .failed error → Ordinary error) :
    ∀ error, after.phase = .failed error → Ordinary error := by
  intro error failed
  cases step with
  | waitFails fault _ =>
      cases failed
      exact ordinary_execution _
  | terminationFails fault _ =>
      cases failed
      exact ordinary_execution _
  | @proceed reason _ _ => cases reason <;> cases failed
  | stillRunning | hasExited | stop | terminate | alreadyExited | wake => cases failed
  | cancel | expire | exit | stdout | stderr => exact ordinary error failed

theorem supervision_ordinary (supervision : Supervision setup) :
    FailsWith Ordinary supervision.result := by
  have joins (thread : CaptureThread) (stream : String) :
      FailsWith Ordinary (joinCapture thread stream) := by
    unfold joinCapture
    split
    · exact .ok _
    · exact .error (ordinary_execution _)
    · exact .error (ordinary_execution _)
  have reached : ∀ error, supervision.ended.phase = .failed error → Ordinary error :=
    @Transition.run_invariant _ _
      (fun state => ∀ error, state.phase = .failed error → Ordinary error)
      (fun step => superviseStep_ordinary step) _ _ supervision.reached
      fun _ failed => by cases failed
  intro error failed
  have returned : supervision.ended.result = some (.error error) := by
    rw [← failed, Supervision.result, Option.some_get]
  unfold SuperviseState.result at returned
  split at returned
  · rename_i phase
    cases returned
    exact reached error phase
  · split at returned
    · cases returned
    · split at returned
      · rename_i failure
        cases returned
        exact joins _ _ error failure
      · split at returned
        · cases returned
        · exact (joins _ _).map _ error (Option.some.inj returned)
  · cases returned

end Supervision

end TaskAttest
