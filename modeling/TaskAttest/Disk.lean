import TaskAttest.Library.FileSystem
import TaskAttest.Error
import TaskAttest.Hash

/-! The file system as the program sees it: what a path resolves to, and the
system calls that may fail. -/

set_option autoImplicit false

namespace TaskAttest

/-- A file that cannot be opened, or that fails while it is read. -/
inductive ReadFailure where
  | opening (error : IoError)
  | reading (error : IoError)
deriving DecidableEq

/-- What a path resolves to. A regular file has a content even when it cannot be read. -/
inductive Entry where
  | file (content : List UInt8) (failure : Option ReadFailure)
  | directory
deriving DecidableEq

namespace Entry

def isFile : Entry → Bool
  | .file .. => true
  | _ => false

def isDir : Entry → Bool
  | .directory => true
  | _ => false

/-- `Metadata::len`. -/
def length : Entry → Nat
  | .file content _ => content.length
  | .directory => 4096

/-- Opening a path and reading it to its end. -/
def read : Entry → Except ReadFailure (List UInt8)
  | .file content none => .ok content
  | .file _ (some failure) => .error failure
  | .directory => .error (.reading ⟨.other, "Is a directory (os error 21)"⟩)

end Entry

abbrev Disk := FileSystem String Entry

def missingFile : IoError := ⟨.notFound, "No such file or directory (os error 2)"⟩

def occupiedPath : IoError := ⟨.alreadyExists, "File exists (os error 17)"⟩

namespace Disk

def empty : Disk := FileSystem.empty .directory

/-- `Path::exists`. -/
def pathExists (disk : Disk) (path : String) : Bool := (disk.lookup path).isSome

/-- `Path::is_file`. -/
def isFile (disk : Disk) (path : String) : Bool := (disk.lookup path).any Entry.isFile

def metadata (disk : Disk) (path : String) : Except IoError Entry :=
  match disk.lookup path with
  | some entry => .ok entry
  | none => .error missingFile

/-- Open and read a whole file. The two actions name themselves in the error. -/
def readFile (disk : Disk) (openAction readAction path : String) :
    Except TaskError (List UInt8) :=
  match disk.lookup path with
  | none => .error (TaskError.io openAction path missingFile)
  | some entry =>
      match entry.read with
      | .ok content => .ok content
      | .error (.opening error) => .error (TaskError.io openAction path error)
      | .error (.reading error) => .error (TaskError.io readAction path error)

/-- `hard_link`, which never replaces an existing target. -/
def hardLink (disk : Disk) (source target : String) : Except IoError Disk :=
  if disk.pathExists target then .error occupiedPath
  else if disk.pathExists source then .ok (disk.link source target)
  else .error missingFile

/-- `remove_file`. -/
def removeFile (disk : Disk) (path : String) : Except IoError Disk :=
  if disk.pathExists path then .ok (disk.unlink path) else .error missingFile

/-- `OpenOptions::create_new`. -/
def createNew (disk : Disk) (path : String) : Except IoError Disk :=
  if disk.pathExists path then .error occupiedPath else .ok (disk.create path (.file [] none))

/-- A regular file at a path that reads as the given content. -/
def Holds (disk : Disk) (path : String) (content : List UInt8) : Prop :=
  disk.lookup path = some (.file content none)

end Disk

/-- `sha256_path`: incremental hashing of the chunks read is hashing of the content. -/
def sha256Path [Sha2] (disk : Disk) (path : String) : Except TaskError String :=
  (disk.readFile "open file for hashing" "read file for hashing" path).map sha256Bytes

end TaskAttest
