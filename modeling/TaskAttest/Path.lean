import TaskAttest.Error
import TaskAttest.Text

/-! Paths as text, and the components the standard library splits them into. -/

set_option autoImplicit false

namespace TaskAttest

inductive Component where
  | rootDir
  | curDir
  | parentDir
  | normal (name : List Char)
deriving DecidableEq

def componentOf (piece : List Char) : Option Component :=
  if piece = [] ∨ piece = ['.'] then none
  else if piece = ['.', '.'] then some .parentDir
  else some (.normal piece)

/-- `Path::components`: empty pieces disappear, and so does a dot that does not
begin a relative path. -/
def components (path : String) : List Component :=
  match path.toList with
  | '/' :: rest => .rootDir :: (splitOnChar '/' rest).filterMap componentOf
  | text =>
      let pieces := splitOnChar '/' text
      (if pieces.head? = some ['.'] then [.curDir] else []) ++ pieces.filterMap componentOf

def fileName? (path : String) : Option (List Char) :=
  match (components path).getLast? with
  | some (.normal name) => some name
  | _ => none

/-- The part of a file name after its last dot, unless that dot is first. -/
def extension? (path : String) : Option (List Char) := do
  let name ← fileName? path
  let tail := name.reverse.takeWhile (· ≠ '.')
  if tail.length + 1 < name.length then some tail.reverse else none

def Component.text : Component → List Char
  | .rootDir => []
  | .curDir => ['.']
  | .parentDir => ['.', '.']
  | .normal name => name

/-- The path without its last component. -/
def parent? (path : String) : Option String :=
  match components path with
  | [] => none
  | [.rootDir] => none
  | [.rootDir, _] => some "/"
  | parts => some (String.ofList (['/'].intercalate (parts.dropLast.map Component.text)))

/-- An argument of several components, or with the extension `json`, is a path. -/
def looksLikePath (value : String) : Bool :=
  (components value).length > 1 || extension? value == some ['j', 's', 'o', 'n']

/-- `Path::join`: an absolute second path replaces the first. -/
def pathJoin (base path : String) : String :=
  if path.toList.head? = some '/' then path else joinPath base path

/-- `Path::starts_with`, component by component. -/
def startsWith (path base : String) : Bool := (components base).isPrefixOf (components path)

def stripPrefix? (pre text : String) : Option String :=
  if pre.toList.isPrefixOf text.toList then
    some (String.ofList (text.toList.drop pre.toList.length))
  else none

example : components "./a//b/./.." =
    [.curDir, .normal ['a'], .normal ['b'], .parentDir] := by decide

example : parent? "/state/receipts/r.json" = some "/state/receipts" := by decide

end TaskAttest
