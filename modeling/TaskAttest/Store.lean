import TaskAttest.ReceiptDocument
import TaskAttest.Disk
import TaskAttest.Path

/-! The state store: receipts by identifier and log blobs by content digest. -/

set_option autoImplicit false

namespace TaskAttest

structure StateStore where
  root : String
deriving DecidableEq

def validateReceiptId (value : String) : Except TaskError Unit :=
  match stripPrefix? "rcpt_" value with
  | none => .error (TaskError.receipt "receipt id must start with rcpt_")
  | some digest =>
      if isLowerHex 32 digest then .ok ()
      else .error
        (TaskError.receipt "receipt id must end with 32 lowercase hexadecimal characters")

def validateSha256 (value : String) : Except TaskError Unit :=
  if isLowerHex 64 value then .ok ()
  else .error
    (TaskError.receipt "SHA-256 digest must contain 64 lowercase hexadecimal characters")

/-- One system call, which the environment may fail instead of performing it. -/
def attempt {α : Type} (fault : Option IoError) (operation : Except IoError α) :
    Except IoError α :=
  match fault with
  | some error => .error error
  | none => operation

/-! Reading receipts -/

def readReceiptFile [JsonDiagnostics] (disk : Disk) (path : String) : Except TaskError Receipt :=
  match disk.metadata path with
  | .error error => .error (TaskError.io "inspect receipt" path error)
  | .ok metadata =>
      if metadata.length > maxReceiptBytes then
        .error (TaskError.receipt ("receipt exceeds the 4 MiB safety bound: " ++ path))
      else
        match disk.readFile "open receipt" "read receipt" path with
        | .error error => .error error
        | .ok bytes => parseReceiptDocument (bytes.take (maxReceiptBytes + 1))

namespace StateStore

def receiptsDirectory (store : StateStore) : String := joinPath store.root "receipts"

def blobsDirectory (store : StateStore) : String := joinPath (joinPath store.root "blobs") "sha256"

def temporaryDirectory (store : StateStore) : String := joinPath store.root "tmp"

def receiptPath (store : StateStore) (receiptId : String) : Except TaskError String := do
  validateReceiptId receiptId
  return joinPath store.receiptsDirectory (receiptId ++ ".json")

def blobTarget (store : StateStore) (digest : String) : String :=
  joinPath store.blobsDirectory digest

def blobPath (store : StateStore) (digest : String) : Except TaskError String := do
  validateSha256 digest
  return store.blobTarget digest

/-- An argument that names a file rather than a receipt identifier. -/
def readReceipt [JsonDiagnostics] (store : StateStore) (disk : Disk) (idOrPath : String) :
    Except TaskError (Receipt × String) := do
  let path ← if looksLikePath idOrPath then pure idOrPath else store.receiptPath idOrPath
  let receipt ← readReceiptFile disk path
  return (receipt, path)

end StateStore

/-! Storing blobs -/

def verifyExistingBlob [Sha2] (disk : Disk) (path digest : String) (expectedBytes : UInt64) :
    Except TaskError Unit :=
  match disk.metadata path with
  | .error error => .error (TaskError.io "inspect blob" path error)
  | .ok metadata => do
      if metadata.length ≠ expectedBytes.toNat then
        throw (TaskError.receipt ("content-addressed blob does not match its handle: " ++ path))
      let actual ← sha256Path disk path
      if actual ≠ digest then
        throw (TaskError.receipt ("content-addressed blob does not match its handle: " ++ path))

/-- The temporary file, digest and length one call is made with. -/
structure BlobCall where
  temporary : String
  digest : String
  expectedBytes : UInt64
deriving DecidableEq

/-- Where the environment fails a call. A failed existence test answers no. -/
structure BlobFaults where
  lookup : Bool
  verify : Option IoError
  link : Option IoError
  relookup : Bool
  remove : Option IoError

namespace BlobFaults

def none : BlobFaults := ⟨false, .none, .none, false, .none⟩

end BlobFaults

namespace StateStore

variable [Sha2]

def verifyBlobStep (store : StateStore) (call : BlobCall) (fault : Option IoError) (disk : Disk) :
    Except TaskError Unit :=
  let target := store.blobTarget call.digest
  match fault with
  | some error => .error (TaskError.io "inspect blob" target error)
  | none => verifyExistingBlob disk target call.digest call.expectedBytes

omit [Sha2] in
def removeTemporary (store : StateStore) (call : BlobCall) (action : String)
    (fault : Option IoError) (disk : Disk) : Except TaskError String × Disk :=
  match attempt fault (disk.removeFile call.temporary) with
  | .error error => (.error (TaskError.io action call.temporary error), disk)
  | .ok removed => (.ok (store.blobTarget call.digest), removed)

/-- Adopt a blob that is already there, after checking it. -/
def adoptBlob (store : StateStore) (call : BlobCall) (action : String) (faults : BlobFaults)
    (disk : Disk) : Except TaskError String × Disk :=
  match store.verifyBlobStep call faults.verify disk with
  | .error error => (.error error, disk)
  | .ok () => store.removeTemporary call action faults.remove disk

def storeBlob (store : StateStore) (call : BlobCall) (faults : BlobFaults) (disk : Disk) :
    Except TaskError String × Disk :=
  match validateSha256 call.digest with
  | .error error => (.error error, disk)
  | .ok () =>
      let target := store.blobTarget call.digest
      if !faults.lookup && disk.pathExists target then
        store.adoptBlob call "remove duplicate temporary log" faults disk
      else
        match attempt faults.link (disk.hardLink call.temporary target) with
        | .ok linked =>
            store.removeTemporary call "remove published temporary log" faults.remove linked
        | .error error =>
            if !faults.relookup && disk.pathExists target then
              store.adoptBlob call "remove raced temporary log" faults disk
            else
              (.error (TaskError.io "publish content-addressed log without overwriting" target
                error), disk)

end StateStore

end TaskAttest
