import TaskAttest.BlobStore

/-! Publishing files: exclusively created temporary files, JSON documents that
appear at once under their name, and the receipts of a store. -/

set_option autoImplicit false

namespace TaskAttest

def notADirectory : IoError := ⟨.other, "Not a directory (os error 20)"⟩

namespace Disk

def isDir (disk : Disk) (path : String) : Bool := (disk.lookup path).any Entry.isDir

/-- `create_dir_all`. The number bounds the components of the path. -/
def createDirAll : Nat → Disk → String → Except IoError Disk
  | 0, disk, _ => .ok disk
  | depth + 1, disk, path =>
      match disk.lookup path, parent? path with
      | some .directory, _ => .ok disk
      | some (.file ..), _ => .error occupiedPath
      | none, none => .ok (disk.create path .directory)
      | none, some parent =>
          if disk.isFile parent then .error notADirectory
          else (createDirAll depth disk parent).map fun created => created.create path .directory

end Disk

/-! Temporary files -/

/-- How the temporary files of one kind are named and reported. -/
structure Allocation where
  name : Nat → String
  action : String
  exhausted : TaskError

def allocationAttempts : Nat := 100

/-- Create the first name that is free. Every attempt consumes a sequence number. -/
def Allocation.run (allocation : Allocation) (faults : Nat → Option IoError) :
    Nat → Nat → Disk → Except TaskError String × Nat × Disk
  | 0, sequence, disk => (.error allocation.exhausted, sequence, disk)
  | attempts + 1, sequence, disk =>
      let path := allocation.name sequence
      match attempt (faults sequence) (disk.createNew path) with
      | .ok created => (.ok path, sequence + 1, created)
      | .error error =>
          if error.kind = .alreadyExists then
            allocation.run faults attempts (sequence + 1) disk
          else (.error (TaskError.io allocation.action path error), sequence + 1, disk)

/-- `create_capture_file` -/
def StateStore.captureAllocation (store : StateStore) (process : Nat) (stream : String) :
    Allocation where
  name sequence := capturePath store process sequence stream
  action := "create temporary log"
  exhausted := TaskError.execution "could not allocate a unique temporary log file"

def jsonAllocation (process : Nat) (parent fileName : String) : Allocation where
  name sequence := joinPath parent
    ("." ++ fileName ++ "." ++ toString process ++ "." ++ toString sequence ++ ".tmp")
  action := "create temporary JSON file"
  exhausted := TaskError.execution "could not allocate a unique temporary JSON file"

/-! JSON documents -/

/-- Where the environment fails the publication of a document. A failed write
leaves a part of the document. -/
structure PublishFaults where
  lookup : Bool
  parent : Option IoError
  inspectParent : Option IoError
  inspectTarget : Option IoError
  allocate : Nat → Option IoError
  serialize : Option (List UInt8 × String)
  newline : Option IoError
  sync : Option IoError
  link : Option IoError
  remove : Option IoError

def PublishFaults.none : PublishFaults :=
  ⟨false, .none, .none, .none, fun _ => .none, .none, .none, .none, .none, .none⟩

/-- The parent directory and the file name of an output path. -/
def jsonOutputParent (path : String) : Except TaskError (String × String) :=
  match fileName? path with
  | none => .error (TaskError.execution ("output path has no UTF-8 file name: " ++ path))
  | some name =>
      match parent? path with
      | none => .error (TaskError.execution ("output path has no parent: " ++ path))
      | some parent => .ok (if parent = "" then "." else parent, String.ofList name)

def preflightJsonOutput (faults : PublishFaults) (path : String) (disk : Disk) :
    Except TaskError Unit × Disk :=
  match jsonOutputParent path with
  | .error error => (.error error, disk)
  | .ok (parent, _) =>
      match attempt faults.parent (disk.createDirAll ((components parent).length + 1) parent) with
      | .error error => (.error (TaskError.io "create output directory" parent error), disk)
      | .ok created =>
          match attempt faults.inspectParent (created.metadata parent) with
          | .error error =>
              (.error (TaskError.io "inspect output directory" parent error), created)
          | .ok metadata =>
              if !metadata.isDir then
                (.error (TaskError.new "output_parent_invalid"
                  ("output parent is not a directory: " ++ parent) 4), created)
              else
                match attempt faults.inspectTarget (created.metadata path) with
                | .ok _ =>
                    (.error (TaskError.new "output_already_exists"
                      ("receipt output already exists: " ++ path) 4), created)
                | .error error =>
                    if error.kind = .notFound then (.ok (), created)
                    else (.error (TaskError.io "inspect receipt output" path error), created)

/-- Remove a file where a failure to do so is ignored. -/
def Disk.discard (disk : Disk) (fault : Option IoError) (path : String) : Disk :=
  match attempt fault (disk.removeFile path) with
  | .ok removed => removed
  | .error _ => disk

/-- Write the document to the temporary file and give that file its final name. -/
def fillAndLink (faults : PublishFaults) (document : List UInt8) (temporary path : String)
    (disk : Disk) : Except TaskError Unit × Disk :=
  match faults.serialize with
  | some (torn, text) => (.error (TaskError.json text), disk.modify temporary (Entry.append torn))
  | none =>
      let written : Disk := disk.modify temporary (Entry.append document)
      match faults.newline with
      | some error => (.error (TaskError.io "finish temporary JSON file" temporary error), written)
      | none =>
          let finished : Disk := written.modify temporary (Entry.append [10])
          match faults.sync with
          | some error =>
              (.error (TaskError.io "sync temporary JSON file" temporary error), finished)
          | none =>
              match attempt faults.link (finished.hardLink temporary path) with
              | .error error =>
                  (.error (TaskError.io "publish JSON file without overwriting" path error),
                    finished)
              | .ok linked => (.ok (), linked.discard faults.remove temporary)

/-- `write_json_atomic`. The number is the next of the temporary names. -/
def writeJsonAtomic (process : Nat) (faults : PublishFaults) (path : String)
    (document : List UInt8) (sequence : Nat) (disk : Disk) :
    Except TaskError Unit × Nat × Disk :=
  match preflightJsonOutput faults path disk with
  | (.error error, checked) => (.error error, sequence, checked)
  | (.ok (), checked) =>
      match jsonOutputParent path with
      | .error error => (.error error, sequence, checked)
      | .ok (parent, name) =>
          match (jsonAllocation process parent name).run faults.allocate allocationAttempts
              sequence checked with
          | (.error error, next, disk) => (.error error, next, disk)
          | (.ok temporary, next, created) =>
              match fillAndLink faults document temporary path created with
              | (.ok (), published) => (.ok (), next, published)
              | (.error error, filled) =>
                  (.error error, next, filled.discard faults.remove temporary)

/-- The bytes of a stored receipt: the pretty document and a newline. -/
def receiptFile (receipt : Receipt) : List UInt8 := toVecPretty receipt ++ [10]

def StateStore.writeReceipt [JsonDiagnostics] (store : StateStore) (process : Nat)
    (faults : PublishFaults) (receipt : Receipt) (sequence : Nat) (disk : Disk) :
    Except TaskError String × Nat × Disk :=
  match store.receiptPath receipt.receiptId with
  | .error error => (.error error, sequence, disk)
  | .ok path =>
      if (toVecPretty receipt).length + 1 > maxReceiptBytes then
        (.error (TaskError.receipt "receipt exceeds the 4 MiB persistence safety bound"),
          sequence, disk)
      else if !faults.lookup && disk.pathExists path then
        match readReceiptFile disk path with
        | .error error => (.error error, sequence, disk)
        | .ok existing =>
            if existing.canonicalDigest = receipt.canonicalDigest then (.ok path, sequence, disk)
            else (.error (TaskError.receipt ("receipt id collision at " ++ path)), sequence, disk)
      else
        match writeJsonAtomic process faults path (toVecPretty receipt) sequence disk with
        | (.error error, next, failed) => (.error error, next, failed)
        | (.ok (), next, published) => (.ok path, next, published)

end TaskAttest
