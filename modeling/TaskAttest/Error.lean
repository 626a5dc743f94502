/-! Failures reported to the caller, with the process exit code each one asks for. -/

set_option autoImplicit false

namespace TaskAttest

inductive IoErrorKind where
  | notFound
  | alreadyExists
  | interrupted
  | other
deriving DecidableEq

/-- An operating system error and the text it is displayed with. -/
structure IoError where
  kind : IoErrorKind
  text : String
deriving DecidableEq

inductive ReceiptRecoveryAction where
  | doNotRetryRun
deriving DecidableEq

inductive ReceiptCommandState where
  | checksCompleted
deriving DecidableEq

structure ReceiptRecoveryDocument where
  schemaVersion : String
  errorCode : String
  message : String
  exitCode : UInt8
  action : ReceiptRecoveryAction
  commandState : ReceiptCommandState
  receiptId : String
  receiptPersisted : Bool
  storedReceipt : String
  requestedReceipt : String
  publicationErrorCode : String
deriving DecidableEq

structure TaskError where
  code : String
  message : String
  exitCode : UInt8
  recovery : Option ReceiptRecoveryDocument
deriving DecidableEq

def receiptRecoverySchemaVersion : String := "taskattest.receipt-recovery.v1"

namespace TaskError

def new (code message : String) (exitCode : UInt8) : TaskError :=
  { code, message, exitCode, recovery := none }

def io (action path : String) (error : IoError) : TaskError :=
  new "io_failed" (action ++ " " ++ path ++ ": " ++ error.text) 6

def git (message : String) : TaskError := new "git_failed" message 3

def discovery (message : String) : TaskError := new "discovery_failed" message 3

def configuration (message : String) : TaskError := new "configuration_invalid" message 3

def execution (message : String) : TaskError := new "execution_failed" message 4

def receipt (message : String) : TaskError := new "receipt_invalid" message 5

/-- The conversion from a JSON library error, displayed as `message`. -/
def json (message : String) : TaskError := new "json_invalid" message 5

/-- The checks ran and the receipt is stored, but the requested copy could not be published. -/
def postExecutionReceiptPublication (receiptId storedReceipt requestedReceipt : String)
    (cause : TaskError) : TaskError :=
  let code := "receipt_publication_failed_after_execution"
  let message := "checks completed and receipt " ++ receiptId ++ " is stored at " ++
    storedReceipt ++ ", but standalone publication to " ++ requestedReceipt ++ " failed: " ++
    cause.message ++ "; do not retry taskattest run"
  { code, message, exitCode := 7
    recovery := some {
      schemaVersion := receiptRecoverySchemaVersion
      errorCode := code
      message
      exitCode := 7
      action := .doNotRetryRun
      commandState := .checksCompleted
      receiptId
      receiptPersisted := true
      storedReceipt
      requestedReceipt
      publicationErrorCode := cause.code } }

end TaskError

/-- `Path::join` for a path that is not absolute. -/
def joinPath (base relative : String) : String :=
  if base = "" ∨ base.toList.getLast? = some '/' then base ++ relative
  else base ++ "/" ++ relative

end TaskAttest
