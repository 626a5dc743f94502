import TaskAttest.Library.Framing
import TaskAttest.Disk
import TaskAttest.Model
import TaskAttest.Path
import TaskAttest.Text

/-! The identity of a workspace: what git reports and a digest over every listed path. -/

set_option autoImplicit false

namespace TaskAttest

/-- What a finished git process left behind. -/
structure GitOutput where
  success : Bool
  status : String
  stdout : List UInt8
  stderr : List UInt8

/-- What a workspace path is, without following links, and what reading it gives. -/
inductive WorkspaceNode where
  | symlink (target : Except IoError (List UInt8))
  | file (read : Except ReadFailure (List UInt8)) (mode : Nat)
  | directory
  | other

/-- A workspace at one moment. The answers of the system and of git are given by path. -/
structure Repository where
  root : String
  git : String → List String → Except IoError GitOutput
  inspect : String → Except IoError WorkspaceNode

def maxGitOutputBytes : Nat := 64 * 1024 * 1024

def gitOutputTooLarge : TaskError := TaskError.git "Git output exceeded the 64 MiB safety bound"

def joinArguments (arguments : List String) : String := " ".intercalate arguments

namespace Repository

/-- The output of a git command in the root, within the bound. -/
def output (repository : Repository) (arguments : List String) : Except TaskError GitOutput :=
  match repository.git repository.root arguments with
  | .error error =>
      .error (TaskError.git ("start git " ++ joinArguments arguments ++ ": " ++ error.text))
  | .ok output =>
      if output.stdout.length > maxGitOutputBytes ∨ output.stderr.length > maxGitOutputBytes then
        .error gitOutputTooLarge
      else .ok output

def bytes (repository : Repository) (arguments : List String) :
    Except TaskError (List UInt8) := do
  let output ← repository.output arguments
  if !output.success then
    throw (TaskError.git ("git " ++ joinArguments arguments ++ " failed with " ++ output.status ++
      ": " ++ String.ofList (trim (fromUtf8Lossy output.stderr))))
  return output.stdout

def optionalText (repository : Repository) (arguments : List String) :
    Except TaskError (Option String) := do
  let output ← repository.output arguments
  if output.success then
    match fromUtf8 output.stdout with
    | some text => return some (String.ofList (trim text.toList))
    | none => throw (TaskError.git "Git emitted non-UTF-8 text")
  else return none

end Repository

def validateGitPath (path : String) : Except TaskError Unit :=
  if (components path).any fun part => part == .parentDir || part == .rootDir then
    .error (TaskError.git ("Git returned an unsafe workspace path: " ++ path))
  else .ok ()

/-- Maximal pieces between NUL bytes. -/
def splitNul : List UInt8 → List (List UInt8)
  | [] => [[]]
  | byte :: rest =>
      if byte = 0 then [] :: splitNul rest
      else
        match splitNul rest with
        | [] => [[byte]]
        | piece :: pieces => (byte :: piece) :: pieces

def parseNulPath (value : List UInt8) : Except TaskError String :=
  match fromUtf8 value with
  | none => .error (TaskError.git "Git path is not valid UTF-8")
  | some path => do
      validateGitPath path
      return path

def parseNulPaths (bytes : List UInt8) : Except TaskError (List String) := do
  let paths ← ((splitNul bytes).filter fun value => !value.isEmpty).mapM parseNulPath
  return sortedSet paths

namespace Repository

def workspaceFiles (repository : Repository) : Except TaskError (List String) := do
  parseNulPaths
    (← repository.bytes ["ls-files", "-z", "--cached", "--others", "--exclude-standard"])

def changedPaths (repository : Repository) (hasHead : Bool) : Except TaskError (List String) := do
  if !hasHead then repository.workspaceFiles
  else
    let unstaged ← parseNulPaths (← repository.bytes ["diff", "--name-only", "-z", "HEAD"])
    let staged ←
      parseNulPaths (← repository.bytes ["diff", "--cached", "--name-only", "-z", "HEAD"])
    let untracked ←
      parseNulPaths (← repository.bytes ["ls-files", "--others", "--exclude-standard", "-z"])
    return sortedSet (unstaged ++ staged ++ untracked)

end Repository

/-! The stream that is hashed -/

/-- What is hashed of one workspace path. -/
inductive SnapshotEntry where
  | file (content : List UInt8) (executable : Bool)
  | symlink (target : String)
  | submodule (head status : List UInt8)
deriving DecidableEq

/-- `update_length_prefixed` -/
def lengthPrefixed (bytes : List UInt8) : List UInt8 :=
  Framing.littleEndian 8 (min bytes.length (2 ^ 64 - 1)) ++ bytes

/-- An ASCII literal and the NUL byte after it. -/
def tag (name : String) : List UInt8 := textBytes name ++ [0]

/-- The content of a regular file is not preceded by its length. -/
def SnapshotEntry.bytes : SnapshotEntry → List UInt8
  | .symlink target => tag "symlink" ++ lengthPrefixed (textBytes target)
  | .file content executable => tag "file" ++ content ++ [if executable then 1 else 0]
  | .submodule head status => tag "submodule" ++ lengthPrefixed head ++ lengthPrefixed status

def pathBytes (path : String) (entry : SnapshotEntry) : List UInt8 :=
  lengthPrefixed (textBytes path) ++ entry.bytes

def entriesBytes (entries : List (String × SnapshotEntry)) : List UInt8 :=
  entries.flatMap fun entry => pathBytes entry.1 entry.2

def workspaceStream (entries : List (String × SnapshotEntry)) : List UInt8 :=
  tag "taskattest-workspace-v1" ++ entriesBytes entries

namespace Repository

/-- One of the two outputs hashed of a submodule. -/
def submoduleOutput (repository : Repository) (path : String) (arguments : List String) :
    Except TaskError (List UInt8) :=
  match repository.git path arguments with
  | .error error => .error (TaskError.git ("inspect submodule " ++ path ++ ": " ++ error.text))
  | .ok output =>
      if output.success then .ok output.stdout
      else .error (TaskError.git
        ("workspace entry is a directory but not a readable submodule: " ++ path))

/-- What a path contributes to the stream, or why it cannot be hashed. -/
def inspectPath (repository : Repository) (relative : String) :
    Except TaskError SnapshotEntry :=
  let path := joinPath repository.root relative
  match repository.inspect path with
  | .error error => .error (TaskError.io "inspect workspace path" path error)
  | .ok (.symlink (.error error)) => .error (TaskError.io "read symbolic link" path error)
  | .ok (.symlink (.ok target)) =>
      match fromUtf8 target with
      | some target => .ok (.symlink target)
      | none => .error (TaskError.git ("symbolic-link target is not valid UTF-8: " ++ path))
  | .ok (.file (.error (.opening error)) _) =>
      .error (TaskError.io "open workspace file" path error)
  | .ok (.file (.error (.reading error)) _) =>
      .error (TaskError.io "read workspace file" path error)
  | .ok (.file (.ok content) mode) => .ok (.file content (mode &&& 0o111 != 0))
  | .ok .directory => do
      let head ← repository.submoduleOutput path ["rev-parse", "--verify", "HEAD"]
      let status ← repository.submoduleOutput path
        ["status", "--porcelain=v1", "-z", "--untracked-files=all"]
      return .submodule head status
  | .ok .other => .error (TaskError.git ("unsupported workspace file type: " ++ path))

/-- What every path contributes, in order; the first that cannot be hashed fails. -/
def snapshot (repository : Repository) :
    List String → Except TaskError (List (String × SnapshotEntry))
  | [] => .ok []
  | relative :: rest => do
      let entry ← repository.inspectPath relative
      let entries ← repository.snapshot rest
      return (relative, entry) :: entries

end Repository

variable [Sha2]

def hashWorkspace (repository : Repository) (paths : List String) : Except TaskError String := do
  let entries ← repository.snapshot paths
  return sha256Bytes (workspaceStream entries)

def identifySource (repository : Repository) : Except TaskError SourceIdentity := do
  let gitCommit ← repository.optionalText ["rev-parse", "--verify", "HEAD"]
  let gitRef ← repository.optionalText ["symbolic-ref", "--quiet", "--short", "HEAD"]
  let status ← repository.bytes ["status", "--porcelain=v1", "-z", "--untracked-files=all"]
  let changedPaths ← repository.changedPaths gitCommit.isSome
  let files ← repository.workspaceFiles
  let workspaceSha256 ← hashWorkspace repository files
  return {
    gitCommit
    gitRef
    dirty := !status.isEmpty
    statusSha256 := sha256Bytes status
    workspaceSha256
    workspaceFileCount := UInt64.ofNat (min files.length (2 ^ 64 - 1))
    changedPaths }

end TaskAttest
