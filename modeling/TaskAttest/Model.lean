import TaskAttest.Library.SortedMap
import Mathlib.Data.String.Basic

/-! The receipt data model. -/

set_option autoImplicit false

namespace TaskAttest

inductive CheckKind where
  | format
  | lint
  | test
  | typeCheck
  | build
  | custom
deriving DecidableEq

inductive Confidence where
  | high
  | medium
  | explicit
deriving DecidableEq

structure CommandSpec where
  program : String
  args : List String
  workingDirectory : String
deriving DecidableEq

structure DiscoverySource where
  path : String
  sha256 : String
  evidence : String
deriving DecidableEq

structure CheckDefinition where
  id : String
  label : String
  kind : CheckKind
  command : CommandSpec
  reason : String
  sources : List DiscoverySource
  confidence : Confidence
  coveragePaths : List String
  passEnvironment : List String
  nonHermeticInputs : List String
  replacesWorkflowSteps : List String
deriving DecidableEq

structure CheckSelection where
  checkId : String
  selected : Bool
  reason : String
deriving DecidableEq

structure SourceIdentity where
  gitCommit : Option String
  gitRef : Option String
  dirty : Bool
  statusSha256 : String
  workspaceSha256 : String
  workspaceFileCount : UInt64
  changedPaths : List String
deriving DecidableEq

inductive WorkflowClassification where
  | matchedCheck
  | discoveredCheck
  | unmodeledVerification
  | replacedByExplicitCheck
deriving DecidableEq

structure WorkflowObservation where
  id : String
  source : DiscoverySource
  job : String
  step : String
  runSha256 : String
  runSummary : String
  classification : WorkflowClassification
  checkId : Option String
  reason : String
deriving DecidableEq

structure DiscoveryReport where
  schemaVersion : String
  source : SourceIdentity
  checks : List CheckDefinition
  selection : List CheckSelection
  coverageGaps : List String
  configurationFiles : List DiscoverySource
  workflowObservations : List WorkflowObservation
deriving DecidableEq

structure ExecutionLimits where
  maxRuntimeMsPerCheck : UInt64
  maxLogBytesPerCheck : UInt64
deriving DecidableEq

structure Invocation where
  changedOnly : Bool
  requestedChecks : List String
  failFast : Bool
  limits : ExecutionLimits
deriving DecidableEq

structure LogReference where
  algorithm : String
  digest : String
  bytes : UInt64
  handle : String
  contentEncoding : String
  sensitivity : String
deriving DecidableEq

inductive CheckOutcome where
  | passed
  | failed
  | timedOut
  | cancelled
  | logLimitExceeded
  | spawnFailed
  | skipped
deriving DecidableEq

structure CheckExecution where
  check : CheckDefinition
  startedUnixMs : UInt64
  completedUnixMs : UInt64
  durationMs : UInt64
  outcome : CheckOutcome
  exitCode : Option Int32
  stdout : Option LogReference
  stderr : Option LogReference
  stdoutSummary : String
  stderrSummary : String
  diagnosticSummariesTruncated : Bool
deriving DecidableEq

structure ToolIdentity where
  name : String
  command : List String
  outputSha256 : String
  summary : String
  available : Bool
deriving DecidableEq

structure EnvironmentPolicy where
  mode : String
  forwardedNames : List String
  valuesRecorded : Bool
deriving DecidableEq

structure RedactionPolicy where
  name : String
  fullLogsRedacted : Bool
  diagnosticSummariesRedacted : Bool
deriving DecidableEq

inductive ReceiptOutcome where
  | passed
  | failed
  | incomplete
  | cancelled
deriving DecidableEq

structure ArtifactReference where
  path : String
  sha256 : String
  bytes : UInt64
deriving DecidableEq

structure ReceiptPayload where
  schemaVersion : String
  taskattestVersion : String
  source : SourceIdentity
  sourceAfter : SourceIdentity
  sourceUnchanged : Bool
  invocation : Invocation
  discovery : DiscoveryReport
  startedUnixMs : UInt64
  completedUnixMs : UInt64
  durationMs : UInt64
  outcome : ReceiptOutcome
  checks : List CheckExecution
  coverageGaps : List String
  toolchains : List ToolIdentity
  environment : EnvironmentPolicy
  redaction : RedactionPolicy
  nonHermeticInputs : List String
  artifacts : List ArtifactReference
  annotations : SortedMap String String

/-- The payload's fields are flattened next to the two identity fields when a
receipt is serialized. -/
structure Receipt where
  receiptId : String
  canonicalDigest : String
  payload : ReceiptPayload

inductive ProgressState where
  | checkStarted
  | checkFinished
  | receiptStored
deriving DecidableEq

structure ProgressEvent where
  schemaVersion : String
  sequence : UInt64
  unixMs : UInt64
  state : ProgressState
  checkId : Option String
  outcome : Option CheckOutcome
  receiptId : Option String
deriving DecidableEq

structure BlobVerification where
  handle : String
  found : Bool
  digestMatches : Bool
  expectedBytes : UInt64
  actualBytes : Option UInt64
deriving DecidableEq

structure VerificationReport where
  schemaVersion : String
  receiptId : String
  valid : Bool
  schemaSupported : Bool
  canonicalDigestMatches : Bool
  receiptIdMatches : Bool
  blobs : List BlobVerification
  problems : List String
deriving DecidableEq

/-! Versions of the published documents. -/

def discoverySchemaVersion : String := "taskattest.discovery.v1"
def receiptSchemaVersion : String := "taskattest.receipt.v1"
def progressSchemaVersion : String := "taskattest.progress.v1"
def verificationSchemaVersion : String := "taskattest.verification.v1"
def configVersion : Nat := 1
def version : String := "0.3.0"

end TaskAttest
