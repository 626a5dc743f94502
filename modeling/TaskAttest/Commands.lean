import TaskAttest.Verify

/-! The commands of the program, after the store has been opened. -/

set_option autoImplicit false

namespace TaskAttest

variable [Sha2] [JsonDiagnostics]

/-- The receipt the argument of the verify command names. -/
def loadReceipt (store : StateStore) (disk : Disk) (argument : String) :
    Except TaskError Receipt :=
  if looksLikePath argument then readReceiptFile disk argument
  else do
    let (receipt, _) ← store.readReceipt disk argument
    return receipt

/-- The verify command: its report and its exit code. -/
def verifyCommand (store : StateStore) (disk : Disk) (argument : String) :
    Except TaskError (VerificationReport × UInt8) := do
  let receipt ← loadReceipt store disk argument
  let report ← verifyReceipt receipt store disk
  return (report, if report.valid then 0 else 1)

end TaskAttest
