import TaskAttest.Library.FirstMatch
import TaskAttest.LanguageChecks

/-! Checks and verification steps found in GitHub Actions workflows. -/

set_option autoImplicit false

namespace TaskAttest

/-! Access to a document -/

namespace Yaml

/-- The value under any number of tags. -/
def untag : Yaml → Yaml
  | .tagged _ value => value.untag
  | value => value

def asMapping (value : Yaml) : Option (List (Yaml × Yaml)) :=
  match value.untag with
  | .mapping entries => some entries
  | _ => none

def asSequence (value : Yaml) : Option (List Yaml) :=
  match value.untag with
  | .sequence elements => some elements
  | _ => none

def asStr (value : Yaml) : Option String :=
  match value.untag with
  | .string text => some text
  | _ => none

def isKey (key : String) : Yaml → Bool
  | .string text => text == key
  | _ => false

def field (value : Yaml) (key : String) : Option Yaml := do
  let entries ← value.asMapping
  let entry ← entries.find? fun entry => entry.1.isKey key
  return entry.2

/-- A tagged key is no scalar here. -/
def scalar : Yaml → Option String
  | .string text => some text
  | .number text => some text
  | _ => none

end Yaml

/-! Commands that can be run without a shell -/

def shellCharacters : List Char := ['\n', '\r', '|', '&', ';', '>', '<', '$', Char.ofNat 0x60]

/-- The kind of a command and the position its kind was read from. -/
def workflowCommandKind (tokens : List String) : Option (CheckKind × Nat) :=
  match tokens with
  | [] => none
  | program :: arguments =>
      if program = "cargo" then
        let toolchain := arguments.head?.any fun value => value.toList.head? == some '+'
        let index := (if toolchain then 1 else 0) + 1
        match tokens[index]? with
        | none => none
        | some subcommand =>
            if subcommand = "fmt" then some (.format, index)
            else if subcommand = "clippy" then some (.lint, index)
            else if subcommand = "test" then some (.test, index)
            else if subcommand = "check" then some (.typeCheck, index)
            else if subcommand = "build" ∨ subcommand = "package" then some (.build, index)
            else none
      else if program ∈ ["npm", "pnpm", "yarn", "bun"] then
        let script? :=
          match arguments with
          | command :: script :: _ => some (if command = "run" then script else command)
          | [script] => some script
          | [] => none
        script?.bind fun script => (javascriptScriptKind script "").map fun kind => (kind, 1)
      else if program ∈ ["python", "python3"] then
        match (tokens.zip arguments).find? fun pair => pair.1 = "-m" with
        | none => none
        | some (_, module) =>
            if module ∈ ["pytest", "unittest", "tox"] then some (.test, 1)
            else if module = "ruff" then some (.lint, 1)
            else if module ∈ ["mypy", "pyright"] then some (.typeCheck, 1)
            else if module = "build" then some (.build, 1)
            else none
      else if program = "go" then
        match arguments.head? with
        | some "test" => some (.test, 1)
        | some "vet" => some (.lint, 1)
        | some "build" => some (.build, 1)
        | _ => none
      else none

def safeWorkflowCommand [Packages] (run workingDirectory : String) :
    Option (CheckKind × CommandSpec) :=
  if (run.toList.any fun character => shellCharacters.contains character) ||
      containsText "$\x7b\x7b".toList workingDirectory.toList then none
  else
    match Packages.split run with
    | none => none
    | some [] => none
    | some (program :: arguments) =>
        if program.toList.contains '=' then none
        else
          match workflowCommandKind (program :: arguments) with
          | none => none
          | some (kind, commandIndex) =>
              if commandIndex ≥ (program :: arguments).length then none
              else some (kind, { program, args := arguments, workingDirectory })

def checkKindId : CheckKind → String
  | .format => "format"
  | .lint => "lint"
  | .test => "test"
  | .typeCheck => "typecheck"
  | .build => "build"
  | .custom => "custom"

def languageCoverage (run : String) : List String :=
  let text := trimStart run.toList
  if "cargo ".toList.isPrefixOf text then rustCoverage
  else if ["npm ", "pnpm ", "yarn ", "bun "].any fun start => start.toList.isPrefixOf text then
    javascriptCoverage
  else if ["python ", "python3 "].any fun start => start.toList.isPrefixOf text then pythonCoverage
  else if "go ".toList.isPrefixOf text then goCoverage
  else []

/-- The words of a step, cut after 240 characters. -/
def boundedRunSummary (run : String) : String :=
  let flattened := [' '].intercalate (splitWhitespace run.toList)
  let ellipsis := if flattened.length > 240 then [Char.ofNat 0x2026] else []
  String.ofList (flattened.take 240 ++ ellipsis)

/-! Steps that verify something but cannot be run -/

def setupPrefixes : List String :=
  ["install ", "set up ", "setup ", "configure ", "checkout ", "cache ", "upload ", "download "]

def deliveryMarkers : List String :=
  ["stage ", "archive", "checksum", "sbom", "create release", "publish", "upload", "sign ",
    "provenance"]

def verificationMarkers : List String :=
  [" test", "test ", "clippy", " fmt", "fmt ", " lint", "lint ", " check", "check ", "require",
    "fixture", "schema", "capability", "pytest", "ruff", "mypy", "go vet"]

def containsAny (markers : List String) (text : List Char) : Bool :=
  markers.any fun marker => containsText marker.toList text

def looksLikeOperationalStep (relative job step : String) : Bool :=
  let relative := toAsciiLowercase relative.toList
  let job := toAsciiLowercase job.toList
  let step := toAsciiLowercase step.toList
  (setupPrefixes.any fun start => start.toList.isPrefixOf step) ||
    ((containsAny ["release"] relative || containsAny ["publish", "release"] job) &&
      containsAny deliveryMarkers step)

/-- An invocation of the program itself is never a verification step. -/
def looksLikeUnmodeledVerification (relative job step run : String) : Bool :=
  if looksLikeOperationalStep relative job step then false
  else if containsAny ["taskattest"] (toAsciiLowercase run.toList) then false
  else containsAny verificationMarkers (toAsciiLowercase (step ++ " " ++ run).toList)

/-! Inspection -/

structure WorkflowDiscovery where
  observations : List WorkflowObservation
  sources : List DiscoverySource
  coverageGaps : List String

def WorkflowDiscovery.empty : WorkflowDiscovery := ⟨[], [], []⟩

/-- The checks found so far and what was observed of the workflows. -/
abbrev Inspection := List CheckDefinition × WorkflowDiscovery

/-- A step of a job that runs a command line. -/
structure RunStep where
  relative : String
  job : String
  step : String
  run : String
  workingDirectory : String
deriving DecidableEq

namespace RunStep

def observationId (step : RunStep) : String :=
  step.relative ++ "#" ++ step.job ++ "#" ++ step.step

def command [Packages] (step : RunStep) : Option (CheckKind × CommandSpec) :=
  safeWorkflowCommand step.run step.workingDirectory

def unmodeled (step : RunStep) : Bool :=
  looksLikeUnmodeledVerification step.relative step.job step.step step.run

end RunStep

/-- The gap an unmodeled step leaves. -/
def unmodeledGap (observationId : String) : String :=
  "verification workflow step is not safely modeled: " ++ observationId

/-- The command of a step that has one. A step without a name has its position. -/
def runStep? (relative job : String) (index : Nat) (value : Yaml) : Option RunStep := do
  let run ← (value.field "run").bind Yaml.asStr
  let step := ((value.field "name").bind Yaml.asStr).getD ("step-" ++ toString (index + 1))
  let workingDirectory := ((value.field "working-directory").bind Yaml.asStr).getD "."
  return { relative, job, step, run, workingDirectory }

section Inspection

variable [Sha2]

def observation (source : DiscoverySource) (step : RunStep)
    (classification : WorkflowClassification) (checkId : Option String) (reason : String) :
    WorkflowObservation where
  id := step.observationId
  source
  job := step.job
  step := step.step
  runSha256 := sha256Bytes (textBytes step.run)
  runSummary := boundedRunSummary step.run
  classification
  checkId
  reason

/-- The existing check that runs the command of a step is declared by the step too. -/
def declaredAlso (source : DiscoverySource) (step : RunStep) (existing : CheckDefinition) :
    CheckDefinition :=
  { existing with
    sources :=
      if existing.sources.any fun item => item.path == source.path then existing.sources
      else existing.sources ++ [source]
    reason := existing.reason ++ "; also declared by " ++ step.observationId }

def workflowCheck (source : DiscoverySource) (step : RunStep) (kind : CheckKind)
    (command : CommandSpec) : CheckDefinition where
  id := "ci-" ++ checkKindId kind ++ "-" ++ sliceTo (sha256Bytes (textBytes step.run)) 8
  label := "CI: " ++ step.step
  kind
  command
  reason := "safe single-command workflow step " ++ step.observationId
  sources := [source]
  confidence := .high
  coveragePaths := languageCoverage step.run
  passEnvironment := []
  nonHermeticInputs :=
    ["GitHub Actions environment is not reproduced locally",
      "workflow job services and setup steps are not reproduced"]
  replacesWorkflowSteps := []

namespace WorkflowDiscovery

def observe (result : WorkflowDiscovery) (observation : WorkflowObservation) : WorkflowDiscovery :=
  { result with observations := result.observations ++ [observation] }

def addGap (result : WorkflowDiscovery) (gap : String) : WorkflowDiscovery :=
  { result with coverageGaps := result.coverageGaps ++ [gap] }

end WorkflowDiscovery

/-- A safe command is matched with the check that runs it, or becomes a check. -/
def inspectCommand (source : DiscoverySource) (step : RunStep) (kind : CheckKind)
    (command : CommandSpec) : Inspection → Inspection
  | (checks, result) =>
      match checks.updateFirst (fun check => check.command == command)
          (declaredAlso source step) with
      | some (existing, checks) =>
          (checks, result.observe (observation source step .matchedCheck (some existing.id)
            "safe workflow command matches an existing discovered check"))
      | none =>
          let check := workflowCheck source step kind command
          (checks ++ [check], result.observe (observation source step .discoveredCheck
            (some check.id) "safe workflow command was converted to an argument vector"))

variable [Packages]

def inspectStep (workspace : Workspace) (source : DiscoverySource) (step : RunStep)
    (inspected : Inspection) : Except TaskError Inspection :=
  match step.command with
  | some (kind, command) => do
      workspace.validateWorkingDirectory command.workingDirectory
      return inspectCommand source step kind command inspected
  | none =>
      if step.unmodeled then
        let (checks, result) := inspected
        return (checks, (result.addGap (unmodeledGap step.observationId)).observe
          (observation source step .unmodeledVerification none
            ("step requires shell syntax, an unsupported verifier, or dynamic workflow context")))
      else return inspected

def inspectSteps (workspace : Workspace) (source : DiscoverySource) (relative job : String) :
    Nat → List Yaml → Inspection → Except TaskError Inspection
  | _, [], inspected => return inspected
  | index, value :: rest, inspected =>
      match runStep? relative job index value with
      | none => inspectSteps workspace source relative job (index + 1) rest inspected
      | some step => do
          let inspected ← inspectStep workspace source step inspected
          inspectSteps workspace source relative job (index + 1) rest inspected

def inspectJobs (workspace : Workspace) (source : DiscoverySource) (relative : String) :
    List (Yaml × Yaml) → Inspection → Except TaskError Inspection
  | [], inspected => return inspected
  | (jobKey, jobValue) :: rest, inspected =>
      let job := jobKey.scalar.getD "unnamed-job"
      match (jobValue.field "steps").bind Yaml.asSequence with
      | none => inspectJobs workspace source relative rest inspected
      | some steps => do
          let inspected ← inspectSteps workspace source relative job 0 steps inspected
          inspectJobs workspace source relative rest inspected

def inspectWorkflowDocument (workspace : Workspace) (relative : String) (source : DiscoverySource)
    (document : Yaml) (inspected : Inspection) : Except TaskError Inspection :=
  match (document.field "jobs").bind Yaml.asMapping with
  | none => return inspected
  | some jobs => inspectJobs workspace source relative jobs inspected

/-! The workflow files -/

omit [Sha2] [Packages] in
/-- A directory entry whose extension is `yml` or `yaml`. -/
def isWorkflowName (name : List UInt8) : Bool :=
  let extension := (name.reverse.takeWhile (· ≠ 46)).reverse
  decide (extension.length + 1 < name.length) &&
    (extension == textBytes "yml" || extension == textBytes "yaml")

omit [Sha2] [Packages] in
/-- The names of the workflow files in the order of their paths. -/
def workflowNames (entries : List (Except IoError (List UInt8))) : List (List UInt8) :=
  ((entries.filterMap Except.toOption).filter isWorkflowName).insertionSort (· ≤ ·)

/-- A workflow file as it was read. -/
structure WorkflowDocument where
  relative : String
  source : DiscoverySource
  content : Yaml

def workflowsDirectory (workspace : Workspace) : String :=
  joinPath (joinPath workspace.root ".github") "workflows"

def readWorkflow (workspace : Workspace) (name : List UInt8) :
    Except TaskError WorkflowDocument := do
  let path := joinPath (workflowsDirectory workspace) (String.ofList (fromUtf8Lossy name))
  let length ← orElseFail (TaskError.io "inspect workflow" path) (workspace.length path)
  if length > maxWorkflowBytes then
    throw (TaskError.discovery ("workflow exceeds the 1 MiB safety bound: " ++ path))
  let relative ←
    match fromUtf8 name with
    | none => throw (TaskError.discovery "workflow path is not portable UTF-8")
    | some name => pure (".github/workflows/" ++
        String.ofList (name.toList.map fun character => if character = '\\' then '/' else character))
  let source ← workspace.discoverySource relative "GitHub Actions workflow"
  let text ← orElseFail (TaskError.io "read workflow" path) (workspace.readToString path)
  let content ← orElseFail
    (fun error =>
      TaskError.discovery ("parse GitHub Actions workflow " ++ relative ++ ": " ++ error))
    (Packages.yaml text)
  return { relative, source, content }

/-- Each file is inspected before the next one is read. -/
def inspectWorkflows (workspace : Workspace) :
    List (List UInt8) → Inspection → Except TaskError Inspection
  | [], inspected => return inspected
  | name :: rest, (checks, result) => do
      let document ← readWorkflow workspace name
      let result := { result with sources := result.sources ++ [document.source] }
      let inspected ← inspectWorkflowDocument workspace document.relative document.source
        document.content (checks, result)
      inspectWorkflows workspace rest inspected

def discoverWorkflows (workspace : Workspace) (checks : List CheckDefinition) :
    Except TaskError Inspection := do
  if !workspace.isDir (workflowsDirectory workspace) then
    return (checks, .empty)
  let entries ← orElseFail
    (TaskError.io "read GitHub Actions workflow directory" (workflowsDirectory workspace))
    (workspace.readDir (workflowsDirectory workspace))
  inspectWorkflows workspace (workflowNames entries) (checks, .empty)

end Inspection

end TaskAttest
