import TaskAttest.Library.Json.Codec
import TaskAttest.Model

/-! The JSON encodings of the data model: each structure is an object with one
member a field, in declaration order; each enumeration is the snake-case name
of its variant. -/

set_option autoImplicit false

namespace TaskAttest

open Json

/-! Enumerations -/

def CheckKind.name : CheckKind → String
  | .format => "format"
  | .lint => "lint"
  | .test => "test"
  | .typeCheck => "type_check"
  | .build => "build"
  | .custom => "custom"

instance : Codec CheckKind :=
  enumeration CheckKind.name
    [.format, .lint, .test, .typeCheck, .build, .custom]
    (by intro kind; cases kind <;> decide)

def Confidence.name : Confidence → String
  | .high => "high"
  | .medium => "medium"
  | .explicit => "explicit"

instance : Codec Confidence :=
  enumeration Confidence.name
    [.high, .medium, .explicit]
    (by intro confidence; cases confidence <;> decide)

def WorkflowClassification.name : WorkflowClassification → String
  | .matchedCheck => "matched_check"
  | .discoveredCheck => "discovered_check"
  | .unmodeledVerification => "unmodeled_verification"
  | .replacedByExplicitCheck => "replaced_by_explicit_check"

instance : Codec WorkflowClassification :=
  enumeration WorkflowClassification.name
    [.matchedCheck, .discoveredCheck, .unmodeledVerification, .replacedByExplicitCheck]
    (by intro classification; cases classification <;> decide)

def CheckOutcome.name : CheckOutcome → String
  | .passed => "passed"
  | .failed => "failed"
  | .timedOut => "timed_out"
  | .cancelled => "cancelled"
  | .logLimitExceeded => "log_limit_exceeded"
  | .spawnFailed => "spawn_failed"
  | .skipped => "skipped"

instance : Codec CheckOutcome :=
  enumeration CheckOutcome.name
    [.passed, .failed, .timedOut, .cancelled, .logLimitExceeded, .spawnFailed, .skipped]
    (by intro outcome; cases outcome <;> decide)

def ReceiptOutcome.name : ReceiptOutcome → String
  | .passed => "passed"
  | .failed => "failed"
  | .incomplete => "incomplete"
  | .cancelled => "cancelled"

instance : Codec ReceiptOutcome :=
  enumeration ReceiptOutcome.name
    [.passed, .failed, .incomplete, .cancelled]
    (by intro outcome; cases outcome <;> decide)

/-! Structures -/

def CommandSpec.fieldNames : List String :=
  ["program", "args", "working_directory"]

def CommandSpec.fields (spec : CommandSpec) : Members :=
  [("program", serialize spec.program), ("args", serialize spec.args),
    ("working_directory", serialize spec.workingDirectory)]

def CommandSpec.ofMembers (members : Members) : Option CommandSpec := do
  let program ← required members "program"
  let args ← required members "args"
  let workingDirectory ← required members "working_directory"
  some { program, args, workingDirectory }

instance : Codec CommandSpec :=
  structure_ CommandSpec.fieldNames CommandSpec.fields CommandSpec.ofMembers 1
    (by decide) (fun _ => rfl)
    (by intro spec; simp (disch := decide) [CommandSpec.fields, written_serialize])
    (by
      intro spec members reordered
      have program := reordered.required "program" spec.program (by simp [CommandSpec.fields])
      have args := reordered.required "args" spec.args (by simp [CommandSpec.fields])
      have workingDirectory := reordered.required "working_directory" spec.workingDirectory
        (by simp [CommandSpec.fields])
      simp [CommandSpec.ofMembers, program, args, workingDirectory])

def DiscoverySource.fieldNames : List String :=
  ["path", "sha256", "evidence"]

def DiscoverySource.fields (source : DiscoverySource) : Members :=
  [("path", serialize source.path), ("sha256", serialize source.sha256),
    ("evidence", serialize source.evidence)]

def DiscoverySource.ofMembers (members : Members) : Option DiscoverySource := do
  let path ← required members "path"
  let sha256 ← required members "sha256"
  let evidence ← required members "evidence"
  some { path, sha256, evidence }

instance : Codec DiscoverySource :=
  structure_ DiscoverySource.fieldNames DiscoverySource.fields DiscoverySource.ofMembers 0
    (by decide) (fun _ => rfl)
    (by intro source; simp (disch := decide) [DiscoverySource.fields, written_serialize])
    (by
      intro source members reordered
      have path := reordered.required "path" source.path (by simp [DiscoverySource.fields])
      have sha256 := reordered.required "sha256" source.sha256 (by simp [DiscoverySource.fields])
      have evidence := reordered.required "evidence" source.evidence
        (by simp [DiscoverySource.fields])
      simp [DiscoverySource.ofMembers, path, sha256, evidence])

def CheckDefinition.fieldNames : List String :=
  ["id", "label", "kind", "command", "reason", "sources", "confidence", "coverage_paths",
   "pass_environment", "non_hermetic_inputs", "replaces_workflow_steps"]

def CheckDefinition.fields (check : CheckDefinition) : Members :=
  [("id", serialize check.id), ("label", serialize check.label), ("kind", serialize check.kind),
    ("command", serialize check.command), ("reason", serialize check.reason),
    ("sources", serialize check.sources), ("confidence", serialize check.confidence),
    ("coverage_paths", serialize check.coveragePaths),
    ("pass_environment", serialize check.passEnvironment),
    ("non_hermetic_inputs", serialize check.nonHermeticInputs),
    ("replaces_workflow_steps", serialize check.replacesWorkflowSteps)]

def CheckDefinition.ofMembers (members : Members) : Option CheckDefinition := do
  let id ← required members "id"
  let label ← required members "label"
  let kind ← required members "kind"
  let command ← required members "command"
  let reason ← required members "reason"
  let sources ← required members "sources"
  let confidence ← required members "confidence"
  let coveragePaths ← required members "coverage_paths"
  let passEnvironment ← required members "pass_environment"
  let nonHermeticInputs ← required members "non_hermetic_inputs"
  let replacesWorkflowSteps ← required members "replaces_workflow_steps"
  some {
    id, label, kind, command, reason, sources, confidence, coveragePaths, passEnvironment,
    nonHermeticInputs, replacesWorkflowSteps }

instance : Codec CheckDefinition :=
  structure_ CheckDefinition.fieldNames CheckDefinition.fields CheckDefinition.ofMembers 2
    (by decide) (fun _ => rfl)
    (by intro check; simp (disch := decide) [CheckDefinition.fields, written_serialize])
    (by
      intro check members reordered
      have id := reordered.required "id" check.id (by simp [CheckDefinition.fields])
      have label := reordered.required "label" check.label (by simp [CheckDefinition.fields])
      have kind := reordered.required "kind" check.kind (by simp [CheckDefinition.fields])
      have command := reordered.required "command" check.command (by simp [CheckDefinition.fields])
      have reason := reordered.required "reason" check.reason (by simp [CheckDefinition.fields])
      have sources := reordered.required "sources" check.sources (by simp [CheckDefinition.fields])
      have confidence := reordered.required "confidence" check.confidence
        (by simp [CheckDefinition.fields])
      have coveragePaths := reordered.required "coverage_paths" check.coveragePaths
        (by simp [CheckDefinition.fields])
      have passEnvironment := reordered.required "pass_environment" check.passEnvironment
        (by simp [CheckDefinition.fields])
      have nonHermeticInputs := reordered.required "non_hermetic_inputs" check.nonHermeticInputs
        (by simp [CheckDefinition.fields])
      have replacesWorkflowSteps := reordered.required "replaces_workflow_steps"
        check.replacesWorkflowSteps
        (by simp [CheckDefinition.fields])
      simp [CheckDefinition.ofMembers, id, label, kind, command, reason, sources, confidence,
        coveragePaths, passEnvironment, nonHermeticInputs, replacesWorkflowSteps])

def CheckSelection.fieldNames : List String :=
  ["check_id", "selected", "reason"]

def CheckSelection.fields (selection : CheckSelection) : Members :=
  [("check_id", serialize selection.checkId), ("selected", serialize selection.selected),
    ("reason", serialize selection.reason)]

def CheckSelection.ofMembers (members : Members) : Option CheckSelection := do
  let checkId ← required members "check_id"
  let selected ← required members "selected"
  let reason ← required members "reason"
  some { checkId, selected, reason }

instance : Codec CheckSelection :=
  structure_ CheckSelection.fieldNames CheckSelection.fields CheckSelection.ofMembers 0
    (by decide) (fun _ => rfl)
    (by intro selection; simp (disch := decide) [CheckSelection.fields, written_serialize])
    (by
      intro selection members reordered
      have checkId := reordered.required "check_id" selection.checkId
        (by simp [CheckSelection.fields])
      have selected := reordered.required "selected" selection.selected
        (by simp [CheckSelection.fields])
      have reason := reordered.required "reason" selection.reason (by simp [CheckSelection.fields])
      simp [CheckSelection.ofMembers, checkId, selected, reason])

def SourceIdentity.fieldNames : List String :=
  ["git_commit", "git_ref", "dirty", "status_sha256", "workspace_sha256", "workspace_file_count",
   "changed_paths"]

def SourceIdentity.fields (source : SourceIdentity) : Members :=
  [("git_commit", serialize source.gitCommit), ("git_ref", serialize source.gitRef),
    ("dirty", serialize source.dirty), ("status_sha256", serialize source.statusSha256),
    ("workspace_sha256", serialize source.workspaceSha256),
    ("workspace_file_count", serialize source.workspaceFileCount),
    ("changed_paths", serialize source.changedPaths)]

def SourceIdentity.ofMembers (members : Members) : Option SourceIdentity := do
  let gitCommit ← nullable members "git_commit"
  let gitRef ← nullable members "git_ref"
  let dirty ← required members "dirty"
  let statusSha256 ← required members "status_sha256"
  let workspaceSha256 ← required members "workspace_sha256"
  let workspaceFileCount ← required members "workspace_file_count"
  let changedPaths ← required members "changed_paths"
  some { gitCommit, gitRef, dirty, statusSha256, workspaceSha256, workspaceFileCount, changedPaths }

instance : Codec SourceIdentity :=
  structure_ SourceIdentity.fieldNames SourceIdentity.fields SourceIdentity.ofMembers 1
    (by decide) (fun _ => rfl)
    (by intro source; simp (disch := decide) [SourceIdentity.fields, written_serialize])
    (by
      intro source members reordered
      have gitCommit := reordered.nullable "git_commit" source.gitCommit
        (by simp [SourceIdentity.fields])
      have gitRef := reordered.nullable "git_ref" source.gitRef (by simp [SourceIdentity.fields])
      have dirty := reordered.required "dirty" source.dirty (by simp [SourceIdentity.fields])
      have statusSha256 := reordered.required "status_sha256" source.statusSha256
        (by simp [SourceIdentity.fields])
      have workspaceSha256 := reordered.required "workspace_sha256" source.workspaceSha256
        (by simp [SourceIdentity.fields])
      have workspaceFileCount := reordered.required "workspace_file_count" source.workspaceFileCount
        (by simp [SourceIdentity.fields])
      have changedPaths := reordered.required "changed_paths" source.changedPaths
        (by simp [SourceIdentity.fields])
      simp [SourceIdentity.ofMembers, gitCommit, gitRef, dirty, statusSha256, workspaceSha256,
        workspaceFileCount, changedPaths])

def WorkflowObservation.fieldNames : List String :=
  ["id", "source", "job", "step", "run_sha256", "run_summary", "classification", "check_id",
   "reason"]

def WorkflowObservation.fields (observation : WorkflowObservation) : Members :=
  [("id", serialize observation.id), ("source", serialize observation.source),
    ("job", serialize observation.job), ("step", serialize observation.step),
    ("run_sha256", serialize observation.runSha256),
    ("run_summary", serialize observation.runSummary),
    ("classification", serialize observation.classification),
    ("check_id", serialize observation.checkId), ("reason", serialize observation.reason)]

def WorkflowObservation.ofMembers (members : Members) : Option WorkflowObservation := do
  let id ← required members "id"
  let source ← required members "source"
  let job ← required members "job"
  let step ← required members "step"
  let runSha256 ← required members "run_sha256"
  let runSummary ← required members "run_summary"
  let classification ← required members "classification"
  let checkId ← nullable members "check_id"
  let reason ← required members "reason"
  some { id, source, job, step, runSha256, runSummary, classification, checkId, reason }

instance : Codec WorkflowObservation :=
  structure_ WorkflowObservation.fieldNames WorkflowObservation.fields WorkflowObservation.ofMembers 1
    (by decide) (fun _ => rfl)
    (by intro observation; simp (disch := decide) [WorkflowObservation.fields, written_serialize])
    (by
      intro observation members reordered
      have id := reordered.required "id" observation.id (by simp [WorkflowObservation.fields])
      have source := reordered.required "source" observation.source
        (by simp [WorkflowObservation.fields])
      have job := reordered.required "job" observation.job (by simp [WorkflowObservation.fields])
      have step := reordered.required "step" observation.step (by simp [WorkflowObservation.fields])
      have runSha256 := reordered.required "run_sha256" observation.runSha256
        (by simp [WorkflowObservation.fields])
      have runSummary := reordered.required "run_summary" observation.runSummary
        (by simp [WorkflowObservation.fields])
      have classification := reordered.required "classification" observation.classification
        (by simp [WorkflowObservation.fields])
      have checkId := reordered.nullable "check_id" observation.checkId
        (by simp [WorkflowObservation.fields])
      have reason := reordered.required "reason" observation.reason
        (by simp [WorkflowObservation.fields])
      simp [WorkflowObservation.ofMembers, id, source, job, step, runSha256, runSummary,
        classification, checkId, reason])

def DiscoveryReport.fieldNames : List String :=
  ["schema_version", "source", "checks", "selection", "coverage_gaps", "configuration_files",
   "workflow_observations"]

def DiscoveryReport.fields (report : DiscoveryReport) : Members :=
  [("schema_version", serialize report.schemaVersion), ("source", serialize report.source),
    ("checks", serialize report.checks), ("selection", serialize report.selection),
    ("coverage_gaps", serialize report.coverageGaps),
    ("configuration_files", serialize report.configurationFiles),
    ("workflow_observations", serialize report.workflowObservations)]

def DiscoveryReport.ofMembers (members : Members) : Option DiscoveryReport := do
  let schemaVersion ← required members "schema_version"
  let source ← required members "source"
  let checks ← required members "checks"
  let selection ← required members "selection"
  let coverageGaps ← required members "coverage_gaps"
  let configurationFiles ← required members "configuration_files"
  let workflowObservations ← required members "workflow_observations"
  some {
    schemaVersion, source, checks, selection, coverageGaps, configurationFiles,
    workflowObservations }

instance : Codec DiscoveryReport :=
  structure_ DiscoveryReport.fieldNames DiscoveryReport.fields DiscoveryReport.ofMembers 4
    (by decide) (fun _ => rfl)
    (by intro report; simp (disch := decide) [DiscoveryReport.fields, written_serialize])
    (by
      intro report members reordered
      have schemaVersion := reordered.required "schema_version" report.schemaVersion
        (by simp [DiscoveryReport.fields])
      have source := reordered.required "source" report.source (by simp [DiscoveryReport.fields])
      have checks := reordered.required "checks" report.checks (by simp [DiscoveryReport.fields])
      have selection := reordered.required "selection" report.selection
        (by simp [DiscoveryReport.fields])
      have coverageGaps := reordered.required "coverage_gaps" report.coverageGaps
        (by simp [DiscoveryReport.fields])
      have configurationFiles := reordered.required "configuration_files" report.configurationFiles
        (by simp [DiscoveryReport.fields])
      have workflowObservations := reordered.required "workflow_observations"
        report.workflowObservations
        (by simp [DiscoveryReport.fields])
      simp [DiscoveryReport.ofMembers, schemaVersion, source, checks, selection, coverageGaps,
        configurationFiles, workflowObservations])

def ExecutionLimits.fieldNames : List String :=
  ["max_runtime_ms_per_check", "max_log_bytes_per_check"]

def ExecutionLimits.fields (limits : ExecutionLimits) : Members :=
  [("max_runtime_ms_per_check", serialize limits.maxRuntimeMsPerCheck),
    ("max_log_bytes_per_check", serialize limits.maxLogBytesPerCheck)]

def ExecutionLimits.ofMembers (members : Members) : Option ExecutionLimits := do
  let maxRuntimeMsPerCheck ← required members "max_runtime_ms_per_check"
  let maxLogBytesPerCheck ← required members "max_log_bytes_per_check"
  some { maxRuntimeMsPerCheck, maxLogBytesPerCheck }

instance : Codec ExecutionLimits :=
  structure_ ExecutionLimits.fieldNames ExecutionLimits.fields ExecutionLimits.ofMembers 0
    (by decide) (fun _ => rfl)
    (by intro limits; simp (disch := decide) [ExecutionLimits.fields, written_serialize])
    (by
      intro limits members reordered
      have maxRuntimeMsPerCheck := reordered.required "max_runtime_ms_per_check"
        limits.maxRuntimeMsPerCheck
        (by simp [ExecutionLimits.fields])
      have maxLogBytesPerCheck := reordered.required "max_log_bytes_per_check"
        limits.maxLogBytesPerCheck
        (by simp [ExecutionLimits.fields])
      simp [ExecutionLimits.ofMembers, maxRuntimeMsPerCheck, maxLogBytesPerCheck])

def Invocation.fieldNames : List String :=
  ["changed_only", "requested_checks", "fail_fast", "limits"]

def Invocation.fields (invocation : Invocation) : Members :=
  [("changed_only", serialize invocation.changedOnly),
    ("requested_checks", serialize invocation.requestedChecks),
    ("fail_fast", serialize invocation.failFast), ("limits", serialize invocation.limits)]

def Invocation.ofMembers (members : Members) : Option Invocation := do
  let changedOnly ← required members "changed_only"
  let requestedChecks ← required members "requested_checks"
  let failFast ← required members "fail_fast"
  let limits ← required members "limits"
  some { changedOnly, requestedChecks, failFast, limits }

instance : Codec Invocation :=
  structure_ Invocation.fieldNames Invocation.fields Invocation.ofMembers 1
    (by decide) (fun _ => rfl)
    (by intro invocation; simp (disch := decide) [Invocation.fields, written_serialize])
    (by
      intro invocation members reordered
      have changedOnly := reordered.required "changed_only" invocation.changedOnly
        (by simp [Invocation.fields])
      have requestedChecks := reordered.required "requested_checks" invocation.requestedChecks
        (by simp [Invocation.fields])
      have failFast := reordered.required "fail_fast" invocation.failFast
        (by simp [Invocation.fields])
      have limits := reordered.required "limits" invocation.limits (by simp [Invocation.fields])
      simp [Invocation.ofMembers, changedOnly, requestedChecks, failFast, limits])

def LogReference.fieldNames : List String :=
  ["algorithm", "digest", "bytes", "handle", "content_encoding", "sensitivity"]

def LogReference.fields (reference : LogReference) : Members :=
  [("algorithm", serialize reference.algorithm), ("digest", serialize reference.digest),
    ("bytes", serialize reference.bytes), ("handle", serialize reference.handle),
    ("content_encoding", serialize reference.contentEncoding),
    ("sensitivity", serialize reference.sensitivity)]

def LogReference.ofMembers (members : Members) : Option LogReference := do
  let algorithm ← required members "algorithm"
  let digest ← required members "digest"
  let bytes ← required members "bytes"
  let handle ← required members "handle"
  let contentEncoding ← required members "content_encoding"
  let sensitivity ← required members "sensitivity"
  some { algorithm, digest, bytes, handle, contentEncoding, sensitivity }

instance : Codec LogReference :=
  structure_ LogReference.fieldNames LogReference.fields LogReference.ofMembers 0
    (by decide) (fun _ => rfl)
    (by intro reference; simp (disch := decide) [LogReference.fields, written_serialize])
    (by
      intro reference members reordered
      have algorithm := reordered.required "algorithm" reference.algorithm
        (by simp [LogReference.fields])
      have digest := reordered.required "digest" reference.digest (by simp [LogReference.fields])
      have bytes := reordered.required "bytes" reference.bytes (by simp [LogReference.fields])
      have handle := reordered.required "handle" reference.handle (by simp [LogReference.fields])
      have contentEncoding := reordered.required "content_encoding" reference.contentEncoding
        (by simp [LogReference.fields])
      have sensitivity := reordered.required "sensitivity" reference.sensitivity
        (by simp [LogReference.fields])
      simp [LogReference.ofMembers, algorithm, digest, bytes, handle, contentEncoding, sensitivity])

instance : Codec (Option LogReference) := optional (by intro value; exact Value.noConfusion)

def CheckExecution.fieldNames : List String :=
  ["check", "started_unix_ms", "completed_unix_ms", "duration_ms", "outcome", "exit_code",
   "stdout", "stderr", "stdout_summary", "stderr_summary", "diagnostic_summaries_truncated"]

def CheckExecution.fields (execution : CheckExecution) : Members :=
  [("check", serialize execution.check), ("started_unix_ms", serialize execution.startedUnixMs),
    ("completed_unix_ms", serialize execution.completedUnixMs),
    ("duration_ms", serialize execution.durationMs), ("outcome", serialize execution.outcome),
    ("exit_code", serialize execution.exitCode), ("stdout", serialize execution.stdout),
    ("stderr", serialize execution.stderr),
    ("stdout_summary", serialize execution.stdoutSummary),
    ("stderr_summary", serialize execution.stderrSummary),
    ("diagnostic_summaries_truncated", serialize execution.diagnosticSummariesTruncated)]

def CheckExecution.ofMembers (members : Members) : Option CheckExecution := do
  let check ← required members "check"
  let startedUnixMs ← required members "started_unix_ms"
  let completedUnixMs ← required members "completed_unix_ms"
  let durationMs ← required members "duration_ms"
  let outcome ← required members "outcome"
  let exitCode ← nullable members "exit_code"
  let stdout ← nullable members "stdout"
  let stderr ← nullable members "stderr"
  let stdoutSummary ← required members "stdout_summary"
  let stderrSummary ← required members "stderr_summary"
  let diagnosticSummariesTruncated ← required members "diagnostic_summaries_truncated"
  some {
    check, startedUnixMs, completedUnixMs, durationMs, outcome, exitCode, stdout, stderr,
    stdoutSummary, stderrSummary, diagnosticSummariesTruncated }

instance : Codec CheckExecution :=
  structure_ CheckExecution.fieldNames CheckExecution.fields CheckExecution.ofMembers 3
    (by decide) (fun _ => rfl)
    (by intro execution; simp (disch := decide) [CheckExecution.fields, written_serialize])
    (by
      intro execution members reordered
      have check := reordered.required "check" execution.check (by simp [CheckExecution.fields])
      have startedUnixMs := reordered.required "started_unix_ms" execution.startedUnixMs
        (by simp [CheckExecution.fields])
      have completedUnixMs := reordered.required "completed_unix_ms" execution.completedUnixMs
        (by simp [CheckExecution.fields])
      have durationMs := reordered.required "duration_ms" execution.durationMs
        (by simp [CheckExecution.fields])
      have outcome := reordered.required "outcome" execution.outcome
        (by simp [CheckExecution.fields])
      have exitCode := reordered.nullable "exit_code" execution.exitCode
        (by simp [CheckExecution.fields])
      have stdout := reordered.nullable "stdout" execution.stdout (by simp [CheckExecution.fields])
      have stderr := reordered.nullable "stderr" execution.stderr (by simp [CheckExecution.fields])
      have stdoutSummary := reordered.required "stdout_summary" execution.stdoutSummary
        (by simp [CheckExecution.fields])
      have stderrSummary := reordered.required "stderr_summary" execution.stderrSummary
        (by simp [CheckExecution.fields])
      have diagnosticSummariesTruncated := reordered.required "diagnostic_summaries_truncated"
        execution.diagnosticSummariesTruncated
        (by simp [CheckExecution.fields])
      simp [CheckExecution.ofMembers, check, startedUnixMs, completedUnixMs, durationMs, outcome,
        exitCode, stdout, stderr, stdoutSummary, stderrSummary, diagnosticSummariesTruncated])

def ToolIdentity.fieldNames : List String :=
  ["name", "command", "output_sha256", "summary", "available"]

def ToolIdentity.fields (tool : ToolIdentity) : Members :=
  [("name", serialize tool.name), ("command", serialize tool.command),
    ("output_sha256", serialize tool.outputSha256), ("summary", serialize tool.summary),
    ("available", serialize tool.available)]

def ToolIdentity.ofMembers (members : Members) : Option ToolIdentity := do
  let name ← required members "name"
  let command ← required members "command"
  let outputSha256 ← required members "output_sha256"
  let summary ← required members "summary"
  let available ← required members "available"
  some { name, command, outputSha256, summary, available }

instance : Codec ToolIdentity :=
  structure_ ToolIdentity.fieldNames ToolIdentity.fields ToolIdentity.ofMembers 1
    (by decide) (fun _ => rfl)
    (by intro tool; simp (disch := decide) [ToolIdentity.fields, written_serialize])
    (by
      intro tool members reordered
      have name := reordered.required "name" tool.name (by simp [ToolIdentity.fields])
      have command := reordered.required "command" tool.command (by simp [ToolIdentity.fields])
      have outputSha256 := reordered.required "output_sha256" tool.outputSha256
        (by simp [ToolIdentity.fields])
      have summary := reordered.required "summary" tool.summary (by simp [ToolIdentity.fields])
      have available := reordered.required "available" tool.available
        (by simp [ToolIdentity.fields])
      simp [ToolIdentity.ofMembers, name, command, outputSha256, summary, available])

def EnvironmentPolicy.fieldNames : List String :=
  ["mode", "forwarded_names", "values_recorded"]

def EnvironmentPolicy.fields (policy : EnvironmentPolicy) : Members :=
  [("mode", serialize policy.mode), ("forwarded_names", serialize policy.forwardedNames),
    ("values_recorded", serialize policy.valuesRecorded)]

def EnvironmentPolicy.ofMembers (members : Members) : Option EnvironmentPolicy := do
  let mode ← required members "mode"
  let forwardedNames ← required members "forwarded_names"
  let valuesRecorded ← required members "values_recorded"
  some { mode, forwardedNames, valuesRecorded }

instance : Codec EnvironmentPolicy :=
  structure_ EnvironmentPolicy.fieldNames EnvironmentPolicy.fields EnvironmentPolicy.ofMembers 1
    (by decide) (fun _ => rfl)
    (by intro policy; simp (disch := decide) [EnvironmentPolicy.fields, written_serialize])
    (by
      intro policy members reordered
      have mode := reordered.required "mode" policy.mode (by simp [EnvironmentPolicy.fields])
      have forwardedNames := reordered.required "forwarded_names" policy.forwardedNames
        (by simp [EnvironmentPolicy.fields])
      have valuesRecorded := reordered.required "values_recorded" policy.valuesRecorded
        (by simp [EnvironmentPolicy.fields])
      simp [EnvironmentPolicy.ofMembers, mode, forwardedNames, valuesRecorded])

def RedactionPolicy.fieldNames : List String :=
  ["name", "full_logs_redacted", "diagnostic_summaries_redacted"]

def RedactionPolicy.fields (policy : RedactionPolicy) : Members :=
  [("name", serialize policy.name), ("full_logs_redacted", serialize policy.fullLogsRedacted),
    ("diagnostic_summaries_redacted", serialize policy.diagnosticSummariesRedacted)]

def RedactionPolicy.ofMembers (members : Members) : Option RedactionPolicy := do
  let name ← required members "name"
  let fullLogsRedacted ← required members "full_logs_redacted"
  let diagnosticSummariesRedacted ← required members "diagnostic_summaries_redacted"
  some { name, fullLogsRedacted, diagnosticSummariesRedacted }

instance : Codec RedactionPolicy :=
  structure_ RedactionPolicy.fieldNames RedactionPolicy.fields RedactionPolicy.ofMembers 0
    (by decide) (fun _ => rfl)
    (by intro policy; simp (disch := decide) [RedactionPolicy.fields, written_serialize])
    (by
      intro policy members reordered
      have name := reordered.required "name" policy.name (by simp [RedactionPolicy.fields])
      have fullLogsRedacted := reordered.required "full_logs_redacted" policy.fullLogsRedacted
        (by simp [RedactionPolicy.fields])
      have diagnosticSummariesRedacted := reordered.required "diagnostic_summaries_redacted"
        policy.diagnosticSummariesRedacted
        (by simp [RedactionPolicy.fields])
      simp [RedactionPolicy.ofMembers, name, fullLogsRedacted, diagnosticSummariesRedacted])

def ArtifactReference.fieldNames : List String :=
  ["path", "sha256", "bytes"]

def ArtifactReference.fields (artifact : ArtifactReference) : Members :=
  [("path", serialize artifact.path), ("sha256", serialize artifact.sha256),
    ("bytes", serialize artifact.bytes)]

def ArtifactReference.ofMembers (members : Members) : Option ArtifactReference := do
  let path ← required members "path"
  let sha256 ← required members "sha256"
  let bytes ← required members "bytes"
  some { path, sha256, bytes }

instance : Codec ArtifactReference :=
  structure_ ArtifactReference.fieldNames ArtifactReference.fields ArtifactReference.ofMembers 0
    (by decide) (fun _ => rfl)
    (by intro artifact; simp (disch := decide) [ArtifactReference.fields, written_serialize])
    (by
      intro artifact members reordered
      have path := reordered.required "path" artifact.path (by simp [ArtifactReference.fields])
      have sha256 := reordered.required "sha256" artifact.sha256
        (by simp [ArtifactReference.fields])
      have bytes := reordered.required "bytes" artifact.bytes (by simp [ArtifactReference.fields])
      simp [ArtifactReference.ofMembers, path, sha256, bytes])

def ReceiptPayload.fieldNames : List String :=
  ["schema_version", "taskattest_version", "source", "source_after", "source_unchanged",
   "invocation", "discovery", "started_unix_ms", "completed_unix_ms", "duration_ms", "outcome",
   "checks", "coverage_gaps", "toolchains", "environment", "redaction", "non_hermetic_inputs",
   "artifacts", "annotations"]

def ReceiptPayload.fields (payload : ReceiptPayload) : Members :=
  [("schema_version", serialize payload.schemaVersion),
    ("taskattest_version", serialize payload.taskattestVersion),
    ("source", serialize payload.source), ("source_after", serialize payload.sourceAfter),
    ("source_unchanged", serialize payload.sourceUnchanged),
    ("invocation", serialize payload.invocation), ("discovery", serialize payload.discovery),
    ("started_unix_ms", serialize payload.startedUnixMs),
    ("completed_unix_ms", serialize payload.completedUnixMs),
    ("duration_ms", serialize payload.durationMs), ("outcome", serialize payload.outcome),
    ("checks", serialize payload.checks), ("coverage_gaps", serialize payload.coverageGaps),
    ("toolchains", serialize payload.toolchains), ("environment", serialize payload.environment),
    ("redaction", serialize payload.redaction),
    ("non_hermetic_inputs", serialize payload.nonHermeticInputs),
    ("artifacts", serialize payload.artifacts), ("annotations", serialize payload.annotations)]

def ReceiptPayload.ofMembers (members : Members) : Option ReceiptPayload := do
  let schemaVersion ← required members "schema_version"
  let taskattestVersion ← required members "taskattest_version"
  let source ← required members "source"
  let sourceAfter ← required members "source_after"
  let sourceUnchanged ← required members "source_unchanged"
  let invocation ← required members "invocation"
  let discovery ← required members "discovery"
  let startedUnixMs ← required members "started_unix_ms"
  let completedUnixMs ← required members "completed_unix_ms"
  let durationMs ← required members "duration_ms"
  let outcome ← required members "outcome"
  let checks ← required members "checks"
  let coverageGaps ← required members "coverage_gaps"
  let toolchains ← required members "toolchains"
  let environment ← required members "environment"
  let redaction ← required members "redaction"
  let nonHermeticInputs ← required members "non_hermetic_inputs"
  let artifacts ← required members "artifacts"
  let annotations ← required members "annotations"
  some {
    schemaVersion, taskattestVersion, source, sourceAfter, sourceUnchanged, invocation, discovery,
    startedUnixMs, completedUnixMs, durationMs, outcome, checks, coverageGaps, toolchains,
    environment, redaction, nonHermeticInputs, artifacts, annotations }

private theorem ReceiptPayload.fields_written (payload : ReceiptPayload) :
    ∀ member ∈ payload.fields, member.2.Written 5 := by
  simp (disch := decide) [ReceiptPayload.fields, written_serialize]

instance : Codec ReceiptPayload :=
  structure_ ReceiptPayload.fieldNames ReceiptPayload.fields ReceiptPayload.ofMembers 5
    (by decide) (fun _ => rfl) ReceiptPayload.fields_written
    (by
      intro payload members reordered
      have schemaVersion := reordered.required "schema_version" payload.schemaVersion
        (by simp [ReceiptPayload.fields])
      have taskattestVersion := reordered.required "taskattest_version" payload.taskattestVersion
        (by simp [ReceiptPayload.fields])
      have source := reordered.required "source" payload.source (by simp [ReceiptPayload.fields])
      have sourceAfter := reordered.required "source_after" payload.sourceAfter
        (by simp [ReceiptPayload.fields])
      have sourceUnchanged := reordered.required "source_unchanged" payload.sourceUnchanged
        (by simp [ReceiptPayload.fields])
      have invocation := reordered.required "invocation" payload.invocation
        (by simp [ReceiptPayload.fields])
      have discovery := reordered.required "discovery" payload.discovery
        (by simp [ReceiptPayload.fields])
      have startedUnixMs := reordered.required "started_unix_ms" payload.startedUnixMs
        (by simp [ReceiptPayload.fields])
      have completedUnixMs := reordered.required "completed_unix_ms" payload.completedUnixMs
        (by simp [ReceiptPayload.fields])
      have durationMs := reordered.required "duration_ms" payload.durationMs
        (by simp [ReceiptPayload.fields])
      have outcome := reordered.required "outcome" payload.outcome (by simp [ReceiptPayload.fields])
      have checks := reordered.required "checks" payload.checks (by simp [ReceiptPayload.fields])
      have coverageGaps := reordered.required "coverage_gaps" payload.coverageGaps
        (by simp [ReceiptPayload.fields])
      have toolchains := reordered.required "toolchains" payload.toolchains
        (by simp [ReceiptPayload.fields])
      have environment := reordered.required "environment" payload.environment
        (by simp [ReceiptPayload.fields])
      have redaction := reordered.required "redaction" payload.redaction
        (by simp [ReceiptPayload.fields])
      have nonHermeticInputs := reordered.required "non_hermetic_inputs" payload.nonHermeticInputs
        (by simp [ReceiptPayload.fields])
      have artifacts := reordered.required "artifacts" payload.artifacts
        (by simp [ReceiptPayload.fields])
      have annotations := reordered.required "annotations" payload.annotations
        (by simp [ReceiptPayload.fields])
      simp [ReceiptPayload.ofMembers, schemaVersion, taskattestVersion, source, sourceAfter,
        sourceUnchanged, invocation, discovery, startedUnixMs, completedUnixMs, durationMs,
        outcome, checks, coverageGaps, toolchains, environment, redaction, nonHermeticInputs,
        artifacts, annotations])

/-! Receipts: the payload is flattened, so its members stand next to the
receipt's own two fields and there is no array spelling. -/

def Receipt.ownNames : List String := ["receipt_id", "canonical_digest"]

def Receipt.fields (receipt : Receipt) : Members :=
  ("receipt_id", serialize receipt.receiptId) ::
    ("canonical_digest", serialize receipt.canonicalDigest) :: receipt.payload.fields

/-- The flattened payload is read from the members that bear its field names. -/
def Receipt.read : Value → Option Receipt
  | .object members => do
      let own ← structMembers ownNames (.object members)
      let receiptId ← required own "receipt_id"
      let canonicalDigest ← required own "canonical_digest"
      let payload ← deserialize
        (.object (members.filter fun member => member.1 ∈ ReceiptPayload.fieldNames))
      some { receiptId, canonicalDigest, payload }
  | _ => none

private theorem Receipt.fields_written (receipt : Receipt) :
    (Value.object receipt.fields).Written (Codec.nesting ReceiptPayload) := by
  refine Value.Written.object ?_ ?_
  · show (Receipt.ownNames ++ ReceiptPayload.fieldNames).Nodup
    decide
  · intro member included
    rcases List.mem_cons.mp included with rfl | included
    · exact written_serialize (by decide) receipt.receiptId
    · rcases List.mem_cons.mp included with rfl | included
      · exact written_serialize (by decide) receipt.canonicalDigest
      · exact ReceiptPayload.fields_written receipt.payload member included

private theorem Receipt.payload_fields_of_fields (receipt : Receipt) :
    receipt.fields.filter (fun member => decide (member.1 ∈ ReceiptPayload.fieldNames)) =
      receipt.payload.fields := rfl

private theorem Receipt.read_of_sameTree {receipt : Receipt} {document : Value}
    (same : (Value.object receipt.fields).SameTree document) (unique : document.UniqueKeys) :
    Receipt.read document = some receipt := by
  simp only [Value.SameTree] at same
  obtain ⟨members, rfl, related⟩ := same
  have reordered : Reordered receipt.fields members := ⟨related, unique⟩
  have receiptId := reordered.required "receipt_id" receipt.receiptId (by simp [Receipt.fields])
  have canonicalDigest := reordered.required "canonical_digest" receipt.canonicalDigest
    (by simp [Receipt.fields])
  have filtered := related.filter_keys fun key => decide (key ∈ ReceiptPayload.fieldNames)
  rw [Receipt.payload_fields_of_fields] at filtered
  have payloadTree : (serialize receipt.payload).SameTree
      (.object (members.filter fun member => member.1 ∈ ReceiptPayload.fieldNames)) := by
    simp only [serialize, Value.SameTree]
    exact ⟨_, rfl, filtered⟩
  have payloadUnique : (Value.object
      (members.filter fun member => member.1 ∈ ReceiptPayload.fieldNames)).UniqueKeys := by
    simp only [Value.UniqueKeys, Value.uniqueKeysMembers_iff] at unique ⊢
    exact ⟨(List.filter_sublist.map Prod.fst).nodup unique.1,
      fun member included => unique.2 member (List.mem_of_mem_filter included)⟩
  have payload := Codec.deserialize_of_sameTree payloadTree payloadUnique
  simp [Receipt.read, structMembers_object unique, receiptId, canonicalDigest, payload]

instance : Codec Receipt where
  serialize receipt := .object receipt.fields
  deserialize := Receipt.read
  nesting := Codec.nesting ReceiptPayload
  deserialize_of_sameTree := Receipt.read_of_sameTree
  uniqueKeys receipt := receipt.fields_written.1
  integral receipt := receipt.fields_written.2.1
  depth_le receipt := receipt.fields_written.2.2

end TaskAttest
