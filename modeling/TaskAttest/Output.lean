import TaskAttest.RunCommand

/-! What the program writes to its two standard streams: documents, and texts for people. -/

set_option autoImplicit false

namespace TaskAttest

open Json

/-! The documents beside discovery reports and receipts -/

def ProgressState.name : ProgressState → String
  | .checkStarted => "check_started"
  | .checkFinished => "check_finished"
  | .receiptStored => "receipt_stored"

instance : Codec ProgressState :=
  enumeration ProgressState.name
    [.checkStarted, .checkFinished, .receiptStored]
    (by intro state; cases state <;> decide)

instance : Codec (Option CheckOutcome) := optional (by intro value; exact Value.noConfusion)

def ProgressEvent.fieldNames : List String :=
  ["schema_version", "sequence", "unix_ms", "state", "check_id", "outcome", "receipt_id"]

def ProgressEvent.fields (event : ProgressEvent) : Members :=
  [("schema_version", serialize event.schemaVersion), ("sequence", serialize event.sequence),
    ("unix_ms", serialize event.unixMs), ("state", serialize event.state),
    ("check_id", serialize event.checkId), ("outcome", serialize event.outcome),
    ("receipt_id", serialize event.receiptId)]

def ProgressEvent.ofMembers (members : Members) : Option ProgressEvent := do
  let schemaVersion ← required members "schema_version"
  let sequence ← required members "sequence"
  let unixMs ← required members "unix_ms"
  let state ← required members "state"
  let checkId ← nullable members "check_id"
  let outcome ← nullable members "outcome"
  let receiptId ← nullable members "receipt_id"
  some { schemaVersion, sequence, unixMs, state, checkId, outcome, receiptId }

instance : Codec ProgressEvent :=
  structure_ ProgressEvent.fieldNames ProgressEvent.fields ProgressEvent.ofMembers 0
    (by decide) (fun _ => rfl)
    (by intro event; simp (disch := decide) [ProgressEvent.fields, written_serialize])
    (by
      intro event members reordered
      have schemaVersion := reordered.required "schema_version" event.schemaVersion
        (by simp [ProgressEvent.fields])
      have sequence := reordered.required "sequence" event.sequence
        (by simp [ProgressEvent.fields])
      have unixMs := reordered.required "unix_ms" event.unixMs (by simp [ProgressEvent.fields])
      have state := reordered.required "state" event.state (by simp [ProgressEvent.fields])
      have checkId := reordered.nullable "check_id" event.checkId
        (by simp [ProgressEvent.fields])
      have outcome := reordered.nullable "outcome" event.outcome (by simp [ProgressEvent.fields])
      have receiptId := reordered.nullable "receipt_id" event.receiptId
        (by simp [ProgressEvent.fields])
      simp [ProgressEvent.ofMembers, schemaVersion, sequence, unixMs, state, checkId, outcome,
        receiptId])

instance : Codec (Option UInt64) := optional (by intro value; exact Value.noConfusion)

def BlobVerification.fieldNames : List String :=
  ["handle", "found", "digest_matches", "expected_bytes", "actual_bytes"]

def BlobVerification.fields (verification : BlobVerification) : Members :=
  [("handle", serialize verification.handle), ("found", serialize verification.found),
    ("digest_matches", serialize verification.digestMatches),
    ("expected_bytes", serialize verification.expectedBytes),
    ("actual_bytes", serialize verification.actualBytes)]

def BlobVerification.ofMembers (members : Members) : Option BlobVerification := do
  let handle ← required members "handle"
  let found ← required members "found"
  let digestMatches ← required members "digest_matches"
  let expectedBytes ← required members "expected_bytes"
  let actualBytes ← nullable members "actual_bytes"
  some { handle, found, digestMatches, expectedBytes, actualBytes }

instance : Codec BlobVerification :=
  structure_ BlobVerification.fieldNames BlobVerification.fields BlobVerification.ofMembers 0
    (by decide) (fun _ => rfl)
    (by intro verification; simp (disch := decide) [BlobVerification.fields, written_serialize])
    (by
      intro verification members reordered
      have handle := reordered.required "handle" verification.handle
        (by simp [BlobVerification.fields])
      have found := reordered.required "found" verification.found
        (by simp [BlobVerification.fields])
      have digestMatches := reordered.required "digest_matches" verification.digestMatches
        (by simp [BlobVerification.fields])
      have expectedBytes := reordered.required "expected_bytes" verification.expectedBytes
        (by simp [BlobVerification.fields])
      have actualBytes := reordered.nullable "actual_bytes" verification.actualBytes
        (by simp [BlobVerification.fields])
      simp [BlobVerification.ofMembers, handle, found, digestMatches, expectedBytes, actualBytes])

def VerificationReport.fieldNames : List String :=
  ["schema_version", "receipt_id", "valid", "schema_supported", "canonical_digest_matches",
   "receipt_id_matches", "blobs", "problems"]

def VerificationReport.fields (report : VerificationReport) : Members :=
  [("schema_version", serialize report.schemaVersion), ("receipt_id", serialize report.receiptId),
    ("valid", serialize report.valid), ("schema_supported", serialize report.schemaSupported),
    ("canonical_digest_matches", serialize report.canonicalDigestMatches),
    ("receipt_id_matches", serialize report.receiptIdMatches), ("blobs", serialize report.blobs),
    ("problems", serialize report.problems)]

def VerificationReport.ofMembers (members : Members) : Option VerificationReport := do
  let schemaVersion ← required members "schema_version"
  let receiptId ← required members "receipt_id"
  let valid ← required members "valid"
  let schemaSupported ← required members "schema_supported"
  let canonicalDigestMatches ← required members "canonical_digest_matches"
  let receiptIdMatches ← required members "receipt_id_matches"
  let blobs ← required members "blobs"
  let problems ← required members "problems"
  some {
    schemaVersion, receiptId, valid, schemaSupported, canonicalDigestMatches, receiptIdMatches,
    blobs, problems }

instance : Codec VerificationReport :=
  structure_ VerificationReport.fieldNames VerificationReport.fields VerificationReport.ofMembers 2
    (by decide) (fun _ => rfl)
    (by intro report; simp (disch := decide) [VerificationReport.fields, written_serialize])
    (by
      intro report members reordered
      have schemaVersion := reordered.required "schema_version" report.schemaVersion
        (by simp [VerificationReport.fields])
      have receiptId := reordered.required "receipt_id" report.receiptId
        (by simp [VerificationReport.fields])
      have valid := reordered.required "valid" report.valid (by simp [VerificationReport.fields])
      have schemaSupported := reordered.required "schema_supported" report.schemaSupported
        (by simp [VerificationReport.fields])
      have canonicalDigestMatches := reordered.required "canonical_digest_matches"
        report.canonicalDigestMatches (by simp [VerificationReport.fields])
      have receiptIdMatches := reordered.required "receipt_id_matches" report.receiptIdMatches
        (by simp [VerificationReport.fields])
      have blobs := reordered.required "blobs" report.blobs (by simp [VerificationReport.fields])
      have problems := reordered.required "problems" report.problems
        (by simp [VerificationReport.fields])
      simp [VerificationReport.ofMembers, schemaVersion, receiptId, valid, schemaSupported,
        canonicalDigestMatches, receiptIdMatches, blobs, problems])

/-! The documents of a failure. The program only writes them; their readers stand for
whoever reads its standard error. -/

structure ErrorDocument where
  schemaVersion : String
  errorCode : String
  message : String
  exitCode : UInt8
deriving DecidableEq

def errorSchemaVersion : String := "taskattest.error.v1"

/-- The conversion from a failure. -/
def ErrorDocument.of (error : TaskError) : ErrorDocument where
  schemaVersion := errorSchemaVersion
  errorCode := error.code
  message := error.message
  exitCode := error.exitCode

def ErrorDocument.fieldNames : List String :=
  ["schema_version", "error_code", "message", "exit_code"]

def ErrorDocument.fields (document : ErrorDocument) : Members :=
  [("schema_version", serialize document.schemaVersion),
    ("error_code", serialize document.errorCode), ("message", serialize document.message),
    ("exit_code", serialize document.exitCode)]

def ErrorDocument.ofMembers (members : Members) : Option ErrorDocument := do
  let schemaVersion ← required members "schema_version"
  let errorCode ← required members "error_code"
  let message ← required members "message"
  let exitCode ← required members "exit_code"
  some { schemaVersion, errorCode, message, exitCode }

instance : Codec ErrorDocument :=
  structure_ ErrorDocument.fieldNames ErrorDocument.fields ErrorDocument.ofMembers 0
    (by decide) (fun _ => rfl)
    (by intro document; simp (disch := decide) [ErrorDocument.fields, written_serialize])
    (by
      intro document members reordered
      have schemaVersion := reordered.required "schema_version" document.schemaVersion
        (by simp [ErrorDocument.fields])
      have errorCode := reordered.required "error_code" document.errorCode
        (by simp [ErrorDocument.fields])
      have message := reordered.required "message" document.message
        (by simp [ErrorDocument.fields])
      have exitCode := reordered.required "exit_code" document.exitCode
        (by simp [ErrorDocument.fields])
      simp [ErrorDocument.ofMembers, schemaVersion, errorCode, message, exitCode])

def ReceiptRecoveryAction.name : ReceiptRecoveryAction → String
  | .doNotRetryRun => "do_not_retry_run"

instance : Codec ReceiptRecoveryAction :=
  enumeration ReceiptRecoveryAction.name [.doNotRetryRun] (by intro action; cases action; decide)

def ReceiptCommandState.name : ReceiptCommandState → String
  | .checksCompleted => "checks_completed"

instance : Codec ReceiptCommandState :=
  enumeration ReceiptCommandState.name [.checksCompleted] (by intro state; cases state; decide)

def ReceiptRecoveryDocument.fieldNames : List String :=
  ["schema_version", "error_code", "message", "exit_code", "action", "command_state",
   "receipt_id", "receipt_persisted", "stored_receipt", "requested_receipt",
   "publication_error_code"]

def ReceiptRecoveryDocument.fields (document : ReceiptRecoveryDocument) : Members :=
  [("schema_version", serialize document.schemaVersion),
    ("error_code", serialize document.errorCode), ("message", serialize document.message),
    ("exit_code", serialize document.exitCode), ("action", serialize document.action),
    ("command_state", serialize document.commandState),
    ("receipt_id", serialize document.receiptId),
    ("receipt_persisted", serialize document.receiptPersisted),
    ("stored_receipt", serialize document.storedReceipt),
    ("requested_receipt", serialize document.requestedReceipt),
    ("publication_error_code", serialize document.publicationErrorCode)]

def ReceiptRecoveryDocument.ofMembers (members : Members) : Option ReceiptRecoveryDocument := do
  let schemaVersion ← required members "schema_version"
  let errorCode ← required members "error_code"
  let message ← required members "message"
  let exitCode ← required members "exit_code"
  let action ← required members "action"
  let commandState ← required members "command_state"
  let receiptId ← required members "receipt_id"
  let receiptPersisted ← required members "receipt_persisted"
  let storedReceipt ← required members "stored_receipt"
  let requestedReceipt ← required members "requested_receipt"
  let publicationErrorCode ← required members "publication_error_code"
  some {
    schemaVersion, errorCode, message, exitCode, action, commandState, receiptId,
    receiptPersisted, storedReceipt, requestedReceipt, publicationErrorCode }

instance : Codec ReceiptRecoveryDocument :=
  structure_ ReceiptRecoveryDocument.fieldNames ReceiptRecoveryDocument.fields
    ReceiptRecoveryDocument.ofMembers 0 (by decide) (fun _ => rfl)
    (by intro document; simp (disch := decide) [ReceiptRecoveryDocument.fields, written_serialize])
    (by
      intro document members reordered
      have schemaVersion := reordered.required "schema_version" document.schemaVersion
        (by simp [ReceiptRecoveryDocument.fields])
      have errorCode := reordered.required "error_code" document.errorCode
        (by simp [ReceiptRecoveryDocument.fields])
      have message := reordered.required "message" document.message
        (by simp [ReceiptRecoveryDocument.fields])
      have exitCode := reordered.required "exit_code" document.exitCode
        (by simp [ReceiptRecoveryDocument.fields])
      have action := reordered.required "action" document.action
        (by simp [ReceiptRecoveryDocument.fields])
      have commandState := reordered.required "command_state" document.commandState
        (by simp [ReceiptRecoveryDocument.fields])
      have receiptId := reordered.required "receipt_id" document.receiptId
        (by simp [ReceiptRecoveryDocument.fields])
      have receiptPersisted := reordered.required "receipt_persisted" document.receiptPersisted
        (by simp [ReceiptRecoveryDocument.fields])
      have storedReceipt := reordered.required "stored_receipt" document.storedReceipt
        (by simp [ReceiptRecoveryDocument.fields])
      have requestedReceipt := reordered.required "requested_receipt" document.requestedReceipt
        (by simp [ReceiptRecoveryDocument.fields])
      have publicationErrorCode := reordered.required "publication_error_code"
        document.publicationErrorCode (by simp [ReceiptRecoveryDocument.fields])
      simp [ReceiptRecoveryDocument.ofMembers, schemaVersion, errorCode, message, exitCode, action,
        commandState, receiptId, receiptPersisted, storedReceipt, requestedReceipt,
        publicationErrorCode])

/-! Texts for people: `debugName` is what `{:?}` displays. -/

def ReceiptOutcome.debugName : ReceiptOutcome → String
  | .passed => "Passed"
  | .failed => "Failed"
  | .incomplete => "Incomplete"
  | .cancelled => "Cancelled"

def CheckOutcome.debugName : CheckOutcome → String
  | .passed => "Passed"
  | .failed => "Failed"
  | .timedOut => "TimedOut"
  | .cancelled => "Cancelled"
  | .logLimitExceeded => "LogLimitExceeded"
  | .spawnFailed => "SpawnFailed"
  | .skipped => "Skipped"

def ProgressState.debugName : ProgressState → String
  | .checkStarted => "CheckStarted"
  | .checkFinished => "CheckFinished"
  | .receiptStored => "ReceiptStored"

def discoveryTexts (report : DiscoveryReport) : List String :=
  (toString report.checks.length ++ " checks discovered; " ++
      toString (report.selection.filter fun selection => selection.selected).length ++
      " selected; " ++ toString report.coverageGaps.length ++ " coverage gaps") ::
    report.selection.map (fun selection =>
      (if selection.selected then "select" else "omit") ++ " " ++ selection.checkId ++ " — " ++
        selection.reason) ++
    report.coverageGaps.map fun gap => "coverage gap: " ++ gap

def receiptTexts (receipt : Receipt) : List String :=
  (receipt.receiptId ++ " " ++ receipt.payload.outcome.debugName ++ ": " ++
      toString receipt.payload.checks.length ++ " checks, " ++
      toString receipt.payload.coverageGaps.length ++ " coverage gaps") ::
    receipt.payload.checks.map fun execution =>
      execution.outcome.debugName ++ " " ++ execution.check.id ++ " (" ++
        toString execution.durationMs ++ " ms)"

def verificationTexts (report : VerificationReport) : List String :=
  (report.receiptId ++ ": " ++ (if report.valid then "valid" else "invalid") ++ " (" ++
      toString report.blobs.length ++ " blobs)") ::
    report.problems.map fun problem => "problem: " ++ problem

def progressText (event : ProgressEvent) : String :=
  event.state.debugName ++ " " ++ (event.checkId.or event.receiptId).getD "-"

namespace Console

/-! The standard output: what is written to it, and how the writing ends. A failing
write of a document leaves the torn bytes. -/

/-- What the print macros write. They would panic when a write fails; here they do not. -/
def emitTexts (texts : List String) : List UInt8 :=
  texts.flatMap fun text => textBytes text ++ [10]

/-- A document in the layout of a format. -/
def encode (format : OutputFormat) (document : Value) : List UInt8 :=
  match format with
  | .ndjson => utf8 document.compact
  | .human | .json => utf8 document.pretty

def emitJson (document : Value) (format : OutputFormat) (faults : OutputFaults)
    (torn : List UInt8) : List UInt8 × Except TaskError Unit :=
  match faults.serialize, faults.newline with
  | some text, _ => (torn, .error (TaskError.json text))
  | none, some error =>
      (encode format document, .error (TaskError.new "output_failed" error.text 6))
  | none, none => (encode format document ++ [10], .ok ())

/-- A document, or texts in its place where people read. -/
def emitDocument (texts : List String) (document : Value) (format : OutputFormat)
    (faults : OutputFaults) (torn : List UInt8) : List UInt8 × Except TaskError Unit :=
  match format with
  | .human => (emitTexts texts, .ok ())
  | .json | .ndjson => emitJson document format faults torn

def emitDiscovery (report : DiscoveryReport) : OutputFormat → OutputFaults → List UInt8 →
    List UInt8 × Except TaskError Unit :=
  emitDocument (discoveryTexts report) (serialize report)

def emitReceipt (receipt : Receipt) : OutputFormat → OutputFaults → List UInt8 →
    List UInt8 × Except TaskError Unit :=
  emitDocument (receiptTexts receipt) (serialize receipt)

def emitVerification (report : VerificationReport) : OutputFormat → OutputFaults → List UInt8 →
    List UInt8 × Except TaskError Unit :=
  emitDocument (verificationTexts report) (serialize report)

/-! The standard error, whose writes succeed -/

/-- A failing write of a document would be ignored, and one of a text would panic. -/
def emitProgress (format : OutputFormat) (quiet : Bool) (event : ProgressEvent) : List UInt8 :=
  if quiet then []
  else
    match format with
    | .human => emitTexts [progressText event]
    | .ndjson => encode .ndjson (serialize event) ++ [10]
    | .json => []

def emitError (error : TaskError) (format : OutputFormat) : List UInt8 :=
  match format with
  | .human => emitTexts [error.code ++ ": " ++ error.message]
  | .json | .ndjson =>
      match error.recovery with
      | some recovery => encode format (serialize recovery) ++ [10]
      | none => encode format (serialize (ErrorDocument.of error)) ++ [10]

end Console

end TaskAttest
