import TaskAttest.Workflow

/-! Discovery: the checks of a workspace, those selected, and the gaps they leave. -/

set_option autoImplicit false

namespace TaskAttest

/-! Configuration -/

structure ConfiguredCheck where
  id : String
  label : String
  kind : CheckKind
  command : List String
  workingDirectory : String
  reason : String
  coveragePaths : List String
  passEnvironment : List String
  nonHermeticInputs : List String
  replacesWorkflowSteps : List String

structure TaskAttestConfig where
  version : UInt32
  disableChecks : List String
  checks : List ConfiguredCheck

def defaultWorkingDirectory : String := "."

def CheckDocument.configured (document : CheckDocument) : ConfiguredCheck where
  id := document.id
  label := document.label
  kind := document.kind
  command := document.command
  workingDirectory := document.workingDirectory.getD defaultWorkingDirectory
  reason := document.reason
  coveragePaths := document.coveragePaths.getD []
  passEnvironment := document.passEnvironment.getD []
  nonHermeticInputs := document.nonHermeticInputs.getD []
  replacesWorkflowSteps := document.replacesWorkflowSteps.getD []

namespace TaskAttestConfig

def default : TaskAttestConfig := ⟨0, [], []⟩

/-- Absent fields take their defaults. -/
def ofDocument (document : ConfigDocument) : TaskAttestConfig where
  version := document.version
  disableChecks := document.disableChecks.getD []
  checks := (document.checks.getD []).map CheckDocument.configured

end TaskAttestConfig

/-! Identifiers and coverage -/

def isCheckIdByte (byte : UInt8) : Bool :=
  (97 ≤ byte.toNat && byte.toNat ≤ 122) || (48 ≤ byte.toNat && byte.toNat ≤ 57)

def validCheckId (value : String) : Bool :=
  let bytes := textBytes value
  (decide (1 ≤ bytes.length) && decide (bytes.length ≤ 64)) &&
    (bytes.all fun byte => isCheckIdByte byte || byte == 45 || byte == 95) &&
    bytes.head?.any isCheckIdByte

section Coverage

variable [Packages]

def compilePatterns : List String → Except TaskError Unit
  | [] => return ()
  | pattern :: rest => do
      orElseFail
        (fun error =>
          TaskError.configuration ("invalid coverage pattern " ++ pattern ++ ": " ++ error))
        (Packages.glob pattern)
      compilePatterns rest

def compileCoverage (patterns : List String) : Except TaskError (String → Bool) := do
  compilePatterns patterns
  orElseFail (fun error => TaskError.configuration ("build coverage matcher: " ++ error))
    (Packages.globSet patterns)

/-- `ids` are those of the checks before. -/
def validateChecks : List CheckDefinition → List String → Except TaskError Unit
  | [], _ => return ()
  | check :: rest, ids => do
      if !validCheckId check.id then
        throw (TaskError.configuration ("invalid check id " ++ check.id ++
          "; use 1-64 lowercase letters, digits, hyphens, or underscores"))
      if ids.contains check.id then
        throw (TaskError.configuration ("duplicate check id: " ++ check.id))
      let _ ← compileCoverage check.coveragePaths
      validateChecks rest (check.id :: ids)

end Coverage

/-! Explicit checks -/

def isEnvironmentByte (byte : UInt8) : Bool :=
  isCheckIdByte byte || (65 ≤ byte.toNat && byte.toNat ≤ 90) || byte == 95

def validateEnvironmentNames (id : String) : List String → Except TaskError Unit
  | [] => return ()
  | name :: rest => do
      if name = "" || !(textBytes name).all isEnvironmentByte then
        throw (TaskError.configuration
          ("check " ++ id ++ " has an invalid environment variable name: " ++ name))
      validateEnvironmentNames id rest

def configuredCheck (workspace : Workspace) (configured : ConfiguredCheck)
    (configSource : Option DiscoverySource) : Except TaskError CheckDefinition :=
  let emptyCommand := TaskError.configuration
    ("check " ++ configured.id ++ " has an empty command array")
  match configured.command with
  | [] => .error emptyCommand
  | program :: arguments =>
      if (trim program.toList).isEmpty then .error emptyCommand
      else do
        workspace.validateWorkingDirectory configured.workingDirectory
        validateEnvironmentNames configured.id configured.passEnvironment
        return {
          id := configured.id
          label := configured.label
          kind := configured.kind
          command :=
            { program, args := arguments, workingDirectory := configured.workingDirectory }
          reason := configured.reason
          sources := configSource.toList
          confidence := .explicit
          coveragePaths := configured.coveragePaths
          passEnvironment := configured.passEnvironment
          nonHermeticInputs := configured.nonHermeticInputs
          replacesWorkflowSteps := configured.replacesWorkflowSteps }

/-! Replacement of workflow steps -/

/-- What a replacement makes of the observation it names. -/
def replaced (checkId : String) (observation : WorkflowObservation) : WorkflowObservation :=
  { observation with
    classification := .replacedByExplicitCheck
    checkId := some checkId
    reason := "explicit check " ++ checkId ++
      " declares an argv-based replacement for this workflow step" }

/-- The steps claimed so far, each with the check that claims it, and the observations. -/
abbrev Replacing := List (String × String) × List WorkflowObservation

def claimStep (checkId observationId : String) : Replacing → Except TaskError Replacing
  | (claimed, observations) =>
      match claimed.lookup observationId with
      | some previous => .error (TaskError.configuration
          ("workflow step " ++ observationId ++ " is replaced by both " ++ previous ++ " and " ++
            checkId))
      | none =>
          match observations.updateFirst (fun observation => observation.id == observationId)
              (replaced checkId) with
          | none => .error (TaskError.configuration
              ("check " ++ checkId ++ " replaces an unknown workflow step: " ++ observationId))
          | some (observation, observations) =>
              if observation.classification = .unmodeledVerification then
                .ok ((observationId, checkId) :: claimed, observations)
              else .error (TaskError.configuration
                ("check " ++ checkId ++ " can only replace an unmodeled workflow step: " ++
                  observationId))

/-- The claims of all checks in order: who claims, and which step. -/
def claims (checks : List CheckDefinition) : List (String × String) :=
  checks.flatMap fun check => check.replacesWorkflowSteps.map fun step => (check.id, step)

def claimSteps : List (String × String) → Replacing → Except TaskError Replacing
  | [], replacing => return replacing
  | (checkId, observationId) :: rest, replacing => do
      let replacing ← claimStep checkId observationId replacing
      claimSteps rest replacing

/-- A gap is dropped when its text ends with a claimed identifier. -/
def keepsGap (claimed : List String) (gap : String) : Bool :=
  !claimed.any fun observationId => observationId.toList.isSuffixOf gap.toList

def applyWorkflowReplacements (checks : List CheckDefinition) (workflow : WorkflowDiscovery) :
    Except TaskError WorkflowDiscovery := do
  let (claimed, observations) ← claimSteps (claims checks) ([], workflow.observations)
  return { workflow with
    observations
    coverageGaps := workflow.coverageGaps.filter (keepsGap (claimed.map Prod.fst)) }

/-! Selection -/

def selectCheck (check : CheckDefinition) (isMatch : String → Bool) (changedPaths : List String)
    (changedOnly : Bool) (requested : List String) : CheckSelection :=
  if !requested.isEmpty then
    let selected := requested.contains check.id
    { checkId := check.id
      selected
      reason :=
        if selected then "explicitly requested" else "omitted by explicit check selection" }
  else if !changedOnly then
    { checkId := check.id
      selected := true
      reason := "full verification selects every discovered check" }
  else if changedPaths.isEmpty then
    { checkId := check.id
      selected := true
      reason := "no dirty paths; baseline verification selects every check" }
  else
    let found := (changedPaths.filter isMatch).take 3
    { checkId := check.id
      selected := !found.isEmpty
      reason :=
        if found.isEmpty then "no changed path matches declared coverage"
        else "changed coverage matched: " ++ ", ".intercalate found }

/-- Some check selected at the position of its matcher covers the path. -/
def covered (matchers : List (String → Bool)) (selection : List CheckSelection)
    (path : String) : Bool :=
  (matchers.zip selection).any fun pair => pair.2.selected && pair.1 path

def coverageGaps (changedPaths : List String) (checks : List CheckDefinition)
    (matchers : List (String → Bool)) (selection : List CheckSelection) : List String :=
  let uncovered := (changedPaths.filter fun path => !covered matchers selection path).map fun path =>
    "no discovered check declares coverage for " ++ path
  let unselected :=
    if checks.isEmpty then
      ["no checks discovered; add a supported manifest or .taskattest.toml"]
    else if !selection.any CheckSelection.selected then ["no checks were selected"]
    else []
  sortedSet (uncovered ++ unselected)

/-- The last selection entry of an identifier decides. -/
def selectedChecks (discovery : DiscoveryReport) : List CheckDefinition :=
  let selected := SortedMap.ofList (discovery.selection.map fun selection =>
    (selection.checkId, selection.selected))
  discovery.checks.filter fun check => (selected.find? check.id).getD false

/-! The whole of discovery -/

section Discovery

variable [Sha2] [Packages]

def readConfiguration (workspace : Workspace) :
    Except TaskError (TaskAttestConfig × Option DiscoverySource) := do
  if !workspace.isFile (workspace.within ".taskattest.toml") then
    return (.default, none)
  let text ← workspace.readBoundedProjectFile ".taskattest.toml"
  let document ← orElseFail
    (fun error => TaskError.configuration ("parse .taskattest.toml: " ++ error))
    (Packages.config text)
  let config := TaskAttestConfig.ofDocument document
  if config.version.toNat ≠ configVersion then
    throw (TaskError.configuration ("unsupported .taskattest.toml version " ++
      toString config.version.toNat ++ "; expected " ++ toString configVersion))
  let source ← workspace.discoverySource ".taskattest.toml" "explicit TaskAttest configuration"
  return (config, some source)

omit [Sha2] [Packages] in
/-- The checks of a language, if one of its files is there. -/
def discoverPresent (workspace : Workspace) (files : List String)
    (discover : Workspace → Except TaskError (List CheckDefinition)) :
    Except TaskError (List CheckDefinition) :=
  if files.any fun file => workspace.isFile (workspace.within file) then discover workspace
  else return []

def discoverLanguages (workspace : Workspace) : Except TaskError (List CheckDefinition) := do
  let javascript ← discoverPresent workspace ["package.json"] discoverJavascript
  let python ← discoverPresent workspace pythonFiles discoverPython
  let rust ← discoverPresent workspace ["Cargo.toml"] discoverRust
  let go ← discoverPresent workspace ["go.mod"] discoverGo
  return javascript ++ python ++ rust ++ go

def configuredChecks (workspace : Workspace) (configSource : Option DiscoverySource) :
    List ConfiguredCheck → Except TaskError (List CheckDefinition)
  | [] => return []
  | configured :: rest => do
      let check ← configuredCheck workspace configured configSource
      let checks ← configuredChecks workspace configSource rest
      return check :: checks

omit [Sha2] [Packages] in
/-- Every requested check must have been discovered. -/
def validateRequested (checks : List CheckDefinition) : List String → Except TaskError Unit
  | [] => return ()
  | checkId :: rest => do
      if !checks.any fun check => check.id == checkId then
        throw (TaskError.discovery ("requested check was not discovered: " ++ checkId))
      validateRequested checks rest

omit [Sha2] in
def compileAll : List CheckDefinition → Except TaskError (List (String → Bool))
  | [] => return []
  | check :: rest => do
      let isMatch ← compileCoverage check.coveragePaths
      let others ← compileAll rest
      return isMatch :: others

omit [Sha2] in
/-- The report on the checks and the workflow steps that were found. -/
def assembleReport (source : SourceIdentity) (changedOnly : Bool) (requestedChecks : List String)
    (checks : List CheckDefinition) (workflow : WorkflowDiscovery)
    (configSource : Option DiscoverySource) : Except TaskError DiscoveryReport := do
  let requested := sortedSet requestedChecks
  validateRequested checks requested
  let matchers ← compileAll checks
  let selection := (checks.zip matchers).map fun pair =>
    selectCheck pair.1 pair.2 source.changedPaths changedOnly requested
  let gaps := coverageGaps source.changedPaths checks matchers selection
  return {
    schemaVersion := discoverySchemaVersion
    source
    checks
    selection
    coverageGaps := sortedSet (gaps ++ workflow.coverageGaps)
    configurationFiles := configSource.toList ++ workflow.sources
    workflowObservations := workflow.observations }

/-- The checks that are not disabled and the explicit ones, by identifier. -/
def orderedChecks (config : TaskAttestConfig) (discovered explicit : List CheckDefinition) :
    List CheckDefinition :=
  ((discovered.filter fun check => !config.disableChecks.contains check.id) ++
    explicit).insertionSort fun left right => left.id ≤ right.id

def discoverChecks (workspace : Workspace) (source : SourceIdentity) (changedOnly : Bool)
    (requestedChecks : List String) : Except TaskError DiscoveryReport := do
  let (config, configSource) ← readConfiguration workspace
  let languageChecks ← discoverLanguages workspace
  let (discovered, workflow) ← discoverWorkflows workspace languageChecks
  let explicit ← configuredChecks workspace configSource config.checks
  let checks := orderedChecks config discovered explicit
  validateChecks checks []
  let workflow ← applyWorkflowReplacements checks workflow
  assembleReport source changedOnly requestedChecks checks workflow configSource

end Discovery

example : validCheckId "rust-test" = true ∧ validCheckId "-leading" = false := by decide

end TaskAttest
