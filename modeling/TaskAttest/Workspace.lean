import TaskAttest.Hash
import TaskAttest.Disk
import TaskAttest.Model
import TaskAttest.Path

/-! The files discovery reads, and what the libraries it uses make of them. -/

set_option autoImplicit false

namespace TaskAttest

/-- A workspace as discovery finds it: what the system answers for each path. A
file name that is not UTF-8 stands in a path by the text it is displayed with. -/
structure Workspace where
  root : String
  isFile : String → Bool
  isDir : String → Bool
  length : String → Except IoError Nat
  readToString : String → Except IoError String
  read : String → Except ReadFailure (List UInt8)
  readDir : String → Except IoError (List (Except IoError (List UInt8)))
  canonicalize : String → Except IoError String

/-- A YAML document. A number stands for itself by the text it is displayed with. -/
inductive Yaml where
  | null
  | bool (value : Bool)
  | number (text : String)
  | string (value : String)
  | sequence (elements : List Yaml)
  | mapping (entries : List (Yaml × Yaml))
  | tagged (tag : String) (value : Yaml)

/-- A TOML value. Those discovery never looks into are not told apart. -/
inductive Toml where
  | string (value : String)
  | array (elements : List Toml)
  | table (entries : List (String × Toml))
  | other

/-- An entry of the configuration's list of checks, with the fields that may be absent. -/
structure CheckDocument where
  id : String
  label : String
  kind : CheckKind
  command : List String
  workingDirectory : Option String
  reason : String
  coveragePaths : Option (List String)
  passEnvironment : Option (List String)
  nonHermeticInputs : Option (List String)
  replacesWorkflowSteps : Option (List String)

structure ConfigDocument where
  version : UInt32
  disableChecks : Option (List String)
  checks : Option (List CheckDocument)

/-- The readers and matchers of other packages. An error is the text it is displayed with. -/
class Packages where
  config : String → Except String ConfigDocument
  packageScripts : String → Except String (Option (SortedMap String String))
  toml : String → Except String Toml
  yaml : String → Except String Yaml
  /-- Words of a shell command line, unless it ends inside a quotation. -/
  split : String → Option (List String)
  glob : String → Except String Unit
  globSet : List String → Except String (String → Bool)

def maxWorkflowBytes : Nat := 1024 * 1024

def maxProjectFileBytes : Nat := 1024 * 1024

/-- `?` after a conversion of the error. -/
def orElseFail {α Fault : Type} (failure : Fault → TaskError) (result : Except Fault α) :
    Except TaskError α :=
  result.mapError failure

namespace Workspace

def within (workspace : Workspace) (relative : String) : String :=
  joinPath workspace.root relative

def readBoundedProjectFile (workspace : Workspace) (label : String) : Except TaskError String := do
  let path := workspace.within label
  let length ← orElseFail (TaskError.io "inspect project file" path) (workspace.length path)
  if length > maxProjectFileBytes then
    throw (TaskError.discovery (label ++ " exceeds the 1 MiB safety bound"))
  orElseFail (TaskError.io "read project file" path) (workspace.readToString path)

def sha256Path [Sha2] (workspace : Workspace) (path : String) : Except TaskError String :=
  match workspace.read path with
  | .ok content => .ok (sha256Bytes content)
  | .error (.opening error) => .error (TaskError.io "open file for hashing" path error)
  | .error (.reading error) => .error (TaskError.io "read file for hashing" path error)

def discoverySource [Sha2] (workspace : Workspace) (relative evidence : String) :
    Except TaskError DiscoverySource := do
  let sha256 ← workspace.sha256Path (workspace.within relative)
  return { path := relative, sha256, evidence }

def validateWorkingDirectory (workspace : Workspace) (relative : String) :
    Except TaskError Unit := do
  if relative.toList.head? = some '/' || (components relative).contains .parentDir then
    throw (TaskError.configuration
      ("working directory must stay inside the repository: " ++ relative))
  let resolved ← orElseFail
    (fun error => TaskError.configuration
      ("resolve working directory " ++ relative ++ ": " ++ error.text))
    (workspace.canonicalize (pathJoin workspace.root relative))
  if !startsWith resolved workspace.root || !workspace.isDir resolved then
    throw (TaskError.configuration
      ("working directory must resolve to a repository directory: " ++ relative))

end Workspace

end TaskAttest
