import TaskAttest.Store

/-! Offline verification of a receipt against the blobs of a store. -/

set_option autoImplicit false

namespace TaskAttest

open Json

/-- The references of one execution that are present, stdout first. -/
def CheckExecution.references (execution : CheckExecution) : List LogReference :=
  [execution.stdout, execution.stderr].filterMap id

def logReferences (receipt : Receipt) : List LogReference :=
  receipt.payload.checks.flatMap CheckExecution.references

/-- The outcome the stored payload must have. -/
def expectedOutcome (payload : ReceiptPayload) : ReceiptOutcome :=
  let anyCancelled := payload.checks.any fun execution => execution.outcome == .cancelled
  let anyFailed := !payload.sourceUnchanged ||
    payload.checks.any fun execution => execution.outcome != .passed
  let incomplete := payload.checks.isEmpty || !payload.coverageGaps.isEmpty
  if anyCancelled then .cancelled
  else if anyFailed then .failed
  else if incomplete then .incomplete
  else .passed

def selectedIds (discovery : DiscoveryReport) : List String :=
  sortedSet ((discovery.selection.filter fun selection => selection.selected).map
    fun selection => selection.checkId)

def executedIds (payload : ReceiptPayload) : List String :=
  sortedSet (payload.checks.map fun execution => execution.check.id)

/-- A problem that is pushed when its condition holds. -/
def problem (condition : Bool) (text : String) : List String := if condition then [text] else []

def invalidReference (reference : LogReference) : Bool :=
  reference.algorithm != "sha256" || reference.handle != "sha256:" ++ reference.digest ||
    !(validateSha256 reference.digest).isOk

def executionProblems (execution : CheckExecution) : List String :=
  problem (decide (execution.completedUnixMs < execution.startedUnixMs))
      ("check " ++ execution.check.id ++ " completes before it starts") ++
    execution.references.flatMap fun reference =>
      problem (invalidReference reference)
        ("check " ++ execution.check.id ++ " has an invalid log reference")

/-- The problems found in the receipt itself. -/
def verifySemantics (receipt : Receipt) : List String :=
  let payload := receipt.payload
  problem (toValue payload.source != toValue payload.discovery.source)
      "receipt source and discovery source differ" ++
    problem (payload.sourceUnchanged != decide (payload.source = payload.sourceAfter))
      "source_unchanged is inconsistent with the source identities" ++
    problem (decide (payload.completedUnixMs < payload.startedUnixMs))
      "receipt completion precedes its start" ++
    problem (selectedIds payload.discovery != executedIds payload)
      "executed checks do not equal the selected discovery set" ++
    problem ((executedIds payload).length != payload.checks.length)
      "receipt contains duplicate executed check ids" ++
    payload.checks.flatMap executionProblems ++
    problem (payload.outcome != expectedOutcome payload)
      "receipt outcome is inconsistent with check results and coverage"

section Blobs

variable [Sha2]

def verifyBlob (reference : LogReference) (store : StateStore) (disk : Disk) :
    Except TaskError BlobVerification := do
  let path ← store.blobPath reference.digest
  if !disk.isFile path then
    return {
      handle := reference.handle
      found := false
      digestMatches := false
      expectedBytes := reference.bytes
      actualBytes := none }
  match disk.metadata path with
  | .error error => throw (TaskError.io "inspect log blob" path error)
  | .ok metadata =>
      let digestMatches ←
        if metadata.length = reference.bytes.toNat then
          (sha256Path disk path).map fun digest => digest == reference.digest
        else pure false
      return {
        handle := reference.handle
        found := true
        digestMatches
        expectedBytes := reference.bytes
        actualBytes := some (UInt64.ofNat metadata.length) }

def blobProblems (reference : LogReference) (verification : BlobVerification) : List String :=
  if !verification.found then ["referenced log blob is missing: " ++ reference.handle]
  else if !verification.digestMatches then
    ["referenced log blob does not match: " ++ reference.handle]
  else []

def verifyBlobs (store : StateStore) (disk : Disk) :
    List LogReference → Except TaskError (List BlobVerification × List String)
  | [] => .ok ([], [])
  | reference :: rest => do
      let verification ← verifyBlob reference store disk
      let (verifications, problems) ← verifyBlobs store disk rest
      return (verification :: verifications, blobProblems reference verification ++ problems)

def verifyReceipt (receipt : Receipt) (store : StateStore) (disk : Disk) :
    Except TaskError VerificationReport := do
  let schemaSupported := receipt.payload.schemaVersion == receiptSchemaVersion
  let canonicalDigest := sha256Bytes (toVec receipt.payload)
  let canonicalDigestMatches := canonicalDigest == receipt.canonicalDigest
  let expectedId := "rcpt_" ++ sliceTo canonicalDigest 32
  let receiptIdMatches :=
    (validateReceiptId receipt.receiptId).isOk && receipt.receiptId == expectedId
  let identityProblems :=
    problem (!schemaSupported) ("unsupported receipt schema " ++ receipt.payload.schemaVersion ++
        "; expected " ++ receiptSchemaVersion) ++
      problem (!canonicalDigestMatches)
        "canonical receipt digest does not match the payload" ++
      problem (!receiptIdMatches)
        "receipt id is not derived from the canonical payload digest" ++
      problem (!(validateSha256 receipt.canonicalDigest).isOk)
        "canonical digest is not lowercase SHA-256"
  let (blobs, missing) ← verifyBlobs store disk (logReferences receipt)
  let problems := identityProblems ++ verifySemantics receipt ++ missing
  return {
    schemaVersion := verificationSchemaVersion
    receiptId := receipt.receiptId
    valid := schemaSupported && canonicalDigestMatches && receiptIdMatches && problems.isEmpty
    schemaSupported
    canonicalDigestMatches
    receiptIdMatches
    blobs
    problems }

end Blobs

/-- `build_receipt`: the identity of a payload is its digest. -/
def buildReceipt [Sha2] (payload : ReceiptPayload) : Receipt :=
  let canonicalDigest := sha256Bytes (toVec payload)
  { receiptId := "rcpt_" ++ sliceTo canonicalDigest 32, canonicalDigest, payload }

end TaskAttest
