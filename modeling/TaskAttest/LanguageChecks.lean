import TaskAttest.Workspace

/-! Checks discovered from the manifests of a language. -/

set_option autoImplicit false

namespace TaskAttest

def languageCheck (id label : String) (kind : CheckKind) (program : String) (args : List String)
    (reason : String) (sources : List DiscoverySource)
    (coveragePaths nonHermeticInputs : List String) : CheckDefinition where
  id
  label
  kind
  command := { program, args, workingDirectory := "." }
  reason
  sources
  confidence := .high
  coveragePaths
  passEnvironment := []
  nonHermeticInputs
  replacesWorkflowSteps := []

/-! JavaScript -/

def javascriptCoverage : List String :=
  ["**/*.js", "**/*.jsx", "**/*.mjs", "**/*.cjs", "**/*.ts", "**/*.tsx", "package.json",
    "package-lock.json", "npm-shrinkwrap.json", "pnpm-lock.yaml", "yarn.lock", "bun.lock",
    "bun.lockb", "tsconfig*.json", ".github/workflows/**", ".taskattest.toml"]

def javascriptScriptKind (script commandText : String) : Option CheckKind :=
  let name := toAsciiLowercase script.toList
  let command := toAsciiLowercase commandText.toList
  let parts := name.splitOnP fun character => character = ':' || character = '-' || character = '_'
  if (["watch", "dev", "serve", "start", "update", "snapshot"].any fun marker =>
        parts.contains marker.toList) ||
      (["--watch", "--fix", "--write"].any fun marker => containsText marker.toList command) then
    none
  else
    let base := String.ofList (name.takeWhile (· ≠ ':'))
    if base ∈ ["typecheck", "type-check", "check-types", "tsc"] then some .typeCheck
    else if base = "test" then some .test
    else if base = "lint" then some .lint
    else if base = "build" then some .build
    else if (base = "format" || base = "fmt") &&
        (containsText "check".toList name || containsText "--check".toList command) then
      some .format
    else none

/-- Runs of other bytes become one separator; the text is cut after 55 bytes. -/
def portableIdBytes : List UInt8 → List Char → Bool → List Char
  | [], result, _ => result
  | byte :: rest, result, previousSeparator =>
      let character := (Char.ofNat byte.toNat).toLower
      let plain := character.isLower || character.isDigit
      let result :=
        if plain then result ++ [character]
        else if previousSeparator then result
        else result ++ ['-']
      if result.length = 55 then result else portableIdBytes rest result !plain

variable [Sha2]

def portableIdFragment (value : String) : String :=
  let result := trimMatches '-' (portableIdBytes (textBytes value) [] false)
  if result = [] then sliceTo (sha256Bytes (textBytes value)) 12 else String.ofList result

/-- The lockfiles in order of precedence, and the manager each one belongs to. -/
def lockfiles : List (String × String) :=
  [("pnpm", "pnpm-lock.yaml"), ("yarn", "yarn.lock"), ("bun", "bun.lock"), ("bun", "bun.lockb"),
    ("npm", "npm-shrinkwrap.json"), ("npm", "package-lock.json")]

def javascriptCheck (manager : String) (sources : List DiscoverySource) (script id : String)
    (kind : CheckKind) : CheckDefinition where
  id
  label := "JavaScript package script: " ++ script
  kind
  command := { program := manager, args := ["run", script], workingDirectory := "." }
  reason := "package.json declares the verification script " ++ script
  sources
  confidence := .high
  coveragePaths := javascriptCoverage
  passEnvironment := []
  nonHermeticInputs :=
    [manager ++ " installation and dependency store",
      "package-manager script runners may invoke a platform shell",
      "host operating system and services used by checks"]
  replacesWorkflowSteps := []

/-- An identifier that is taken is followed by a prefix of the script name's digest. -/
def javascriptId (script : String) (ids : List String) : String :=
  let id := "js-" ++ portableIdFragment script
  if id ∈ ids then id ++ "-" ++ sliceTo (sha256Bytes (textBytes script)) 8 else id

/-- One check for each verification script; `ids` are those already given. -/
def javascriptChecks (manager : String) (sources : List DiscoverySource) :
    List (String × String) → List String → List CheckDefinition
  | [], _ => []
  | (script, commandText) :: rest, ids =>
      match javascriptScriptKind script commandText with
      | none => javascriptChecks manager sources rest ids
      | some kind =>
          let id := javascriptId script ids
          javascriptCheck manager sources script id kind ::
            javascriptChecks manager sources rest (id :: ids)

variable [Packages]

omit [Packages] in
/-- The lockfile of the selected manager, if there is one. -/
def lockfileSources (workspace : Workspace) (lockfile : String) :
    Except TaskError (List DiscoverySource) :=
  if lockfile = "" then return []
  else do
    let source ← workspace.discoverySource lockfile
      "JavaScript locked dependency graph and package-manager selection"
    return [source]

def discoverJavascript (workspace : Workspace) : Except TaskError (List CheckDefinition) := do
  let text ← workspace.readBoundedProjectFile "package.json"
  let scripts ← orElseFail
    (fun error => TaskError.discovery ("parse package.json: " ++ error))
    (Packages.packageScripts text)
  let (manager, lockfile) :=
    (lockfiles.find? fun candidate => workspace.isFile (workspace.within candidate.2)).getD
      ("npm", "")
  let manifest ← workspace.discoverySource "package.json" "JavaScript package scripts"
  let locked ← lockfileSources workspace lockfile
  return javascriptChecks manager (manifest :: locked) (scripts.getD .empty).entries []

/-! Python -/

def pythonCoverage : List String :=
  ["**/*.py", "**/*.pyi", "pyproject.toml", "requirements*.txt", "tox.ini", "setup.cfg",
    ".github/workflows/**", ".taskattest.toml"]

structure PythonToolEvidence where
  pytest : Bool
  tox : Bool
  ruff : Bool
  mypy : Bool
deriving DecidableEq

/-- Lowercase letters and digits; a run of separators becomes one hyphen. -/
def normalizePythonCharacters : List Char → Bool → List Char
  | [], _ => []
  | character :: rest, separator =>
      if character.isAlphanum then character.toLower :: normalizePythonCharacters rest false
      else if (character = '-' || character = '_' || character = '.') && !separator then
        '-' :: normalizePythonCharacters rest true
      else normalizePythonCharacters rest separator

def normalizePythonDistribution (value : List Char) : List Char :=
  trimMatches '-' (normalizePythonCharacters value false)

def isReference (text : List Char) : Bool :=
  containsText "://".toList text || "git+".toList.isPrefixOf text

/-- The text a distribution's name is taken from. -/
def pythonNameSource (requirement : List Char) : Option (List Char) :=
  match splitOnce '@' requirement with
  | some (distribution, reference) =>
      if isReference (trim reference) then some (trim distribution) else some requirement
  | none => if isReference requirement then none else some requirement

def pythonDistributionName (requirement : List Char) : Option (List Char) := do
  let requirement := trim requirement
  match requirement.head? with
  | none => none
  | some first =>
      if first ∈ ['-', '.', '/', '\\'] then none
      else
        let source ← pythonNameSource requirement
        let name := source.takeWhile fun character =>
          character.isAlphanum || character ∈ ['-', '_', '.']
        if name = [] then none else some (normalizePythonDistribution name)

namespace PythonToolEvidence

def none : PythonToolEvidence := ⟨false, false, false, false⟩

def recordDistribution (evidence : PythonToolEvidence) (distribution : List Char) :
    PythonToolEvidence :=
  if distribution = "pytest".toList then { evidence with pytest := true }
  else if distribution = "tox".toList then { evidence with tox := true }
  else if distribution = "ruff".toList then { evidence with ruff := true }
  else if distribution = "mypy".toList then { evidence with mypy := true }
  else if "pytest-".toList.isPrefixOf distribution then { evidence with pytest := true }
  else evidence

def recordRequirement (evidence : PythonToolEvidence) (requirement : List Char) :
    PythonToolEvidence :=
  match pythonDistributionName requirement with
  | some distribution => evidence.recordDistribution distribution
  | Option.none => evidence

end PythonToolEvidence

namespace Toml

def asTable : Toml → Option (List (String × Toml))
  | .table entries => some entries
  | _ => none

/-- The field of a table, if the value is one. -/
def field (value : Toml) (key : String) : Option Toml := do
  let entries ← value.asTable
  entries.lookup key

/-- The table under a key. -/
def tableAt (value : Toml) (key : String) : Option Toml := do
  let inner ← value.field key
  if inner.asTable.isSome then some inner else none

def values (value : Toml) : List Toml := (value.asTable.getD []).map Prod.snd

end Toml

def collectRequirementArray (value : Option Toml) (evidence : PythonToolEvidence) :
    PythonToolEvidence :=
  match value with
  | some (.array requirements) =>
      requirements.foldl (fun evidence requirement =>
        match requirement with
        | .string text => evidence.recordRequirement text.toList
        | _ => evidence) evidence
  | _ => evidence

def collectDependencyTable (value : Option Toml) (evidence : PythonToolEvidence) :
    PythonToolEvidence :=
  match value with
  | some (.table dependencies) =>
      dependencies.foldl (fun evidence dependency =>
        evidence.recordDistribution (normalizePythonDistribution dependency.1.toList)) evidence
  | _ => evidence

/-- Every value of a table of groups is a list of requirements. -/
def collectRequirementGroups (groups : Option Toml) (evidence : PythonToolEvidence) :
    PythonToolEvidence :=
  ((groups.map Toml.values).getD []).foldl
    (fun evidence requirements => collectRequirementArray (some requirements) evidence) evidence

def collectPyprojectEvidence (document : Toml) (evidence : PythonToolEvidence) :
    PythonToolEvidence :=
  let project := document.tableAt "project"
  let evidence := collectRequirementArray (project.bind (·.field "dependencies")) evidence
  let evidence := collectRequirementGroups
    (project.bind (·.tableAt "optional-dependencies")) evidence
  let evidence := collectRequirementGroups (document.tableAt "dependency-groups") evidence
  match document.tableAt "tool" with
  | none => evidence
  | some tool =>
      let evidence : PythonToolEvidence := {
        pytest := evidence.pytest || (tool.field "pytest").isSome
        ruff := evidence.ruff || (tool.field "ruff").isSome
        mypy := evidence.mypy || (tool.field "mypy").isSome
        tox := evidence.tox || (tool.field "tox").isSome }
      let poetry := tool.tableAt "poetry"
      let evidence := collectDependencyTable (poetry.bind (·.field "dependencies")) evidence
      let evidence := collectDependencyTable (poetry.bind (·.field "dev-dependencies")) evidence
      let evidence := (((poetry.bind (·.tableAt "group")).map Toml.values).getD []).foldl
        (fun evidence group => collectDependencyTable (group.field "dependencies") evidence)
        evidence
      let evidence := collectRequirementArray
        ((tool.tableAt "uv").bind (·.field "dev-dependencies")) evidence
      let evidence := collectRequirementGroups
        ((tool.tableAt "pdm").bind (·.tableAt "dev-dependencies")) evidence
      (((tool.tableAt "hatch").bind (·.tableAt "envs")).map Toml.values).getD [] |>.foldl
        (fun evidence environment =>
          collectRequirementArray (environment.field "dependencies") evidence)
        evidence

def pythonFiles : List String :=
  ["pyproject.toml", "requirements.txt", "requirements-dev.txt", "tox.ini"]

/-- The part of a requirements line before a comment, without blanks around it. -/
def requirementOfLine (line : List Char) : List Char := trim (line.takeWhile (· ≠ '#'))

/-- What one Python file adds to the evidence. -/
def pythonFileEvidence (path text : String) (evidence : PythonToolEvidence) :
    Except TaskError PythonToolEvidence :=
  if path = "pyproject.toml" then do
    let document ← orElseFail
      (fun error => TaskError.discovery ("parse pyproject.toml: " ++ error)) (Packages.toml text)
    return collectPyprojectEvidence document evidence
  else if "requirements".toList.isPrefixOf path.toList then
    return (lines text.toList).foldl
      (fun evidence line => evidence.recordRequirement (requirementOfLine line)) evidence
  else if path = "tox.ini" then return { evidence with tox := true }
  else return evidence

def collectPythonFiles (workspace : Workspace) : List String →
    PythonToolEvidence × List DiscoverySource →
    Except TaskError (PythonToolEvidence × List DiscoverySource)
  | [], collected => return collected
  | path :: rest, (evidence, sources) =>
      if !workspace.isFile (workspace.within path) then
        collectPythonFiles workspace rest (evidence, sources)
      else do
        let text ← workspace.readBoundedProjectFile path
        let evidence ← pythonFileEvidence path text evidence
        let source ← workspace.discoverySource path "Python project and verification configuration"
        collectPythonFiles workspace rest (evidence, sources ++ [source])

def pythonChecks (evidence : PythonToolEvidence) (sources : List DiscoverySource) :
    List CheckDefinition :=
  let tests :=
    if evidence.pytest then
      [languageCheck "python-test" "Python tests" .test "python3" ["-m", "pytest"]
        "Python project configuration declares pytest" sources pythonCoverage
        ["Python interpreter and installed environment",
          "host operating system and services used by tests"]]
    else if evidence.tox then
      [languageCheck "python-test" "Python tox environments" .test "python3" ["-m", "tox"]
        "tox.ini declares Python test environments" sources pythonCoverage
        ["Python interpreter, tox, and installed environments"]]
    else []
  let ruff :=
    if evidence.ruff then
      [languageCheck "python-ruff" "Python Ruff lints" .lint "python3"
        ["-m", "ruff", "check", "."] "Python project configuration declares Ruff" sources
        pythonCoverage ["Python interpreter and installed environment"]]
    else []
  let mypy :=
    if evidence.mypy then
      [languageCheck "python-mypy" "Python mypy type checking" .typeCheck "python3"
        ["-m", "mypy", "."] "Python project configuration declares mypy" sources pythonCoverage
        ["Python interpreter, type stubs, and installed environment"]]
    else []
  tests ++ ruff ++ mypy

def discoverPython (workspace : Workspace) : Except TaskError (List CheckDefinition) := do
  let (evidence, sources) ← collectPythonFiles workspace pythonFiles (.none, [])
  return pythonChecks evidence sources

/-! Go -/

def goCoverage : List String :=
  ["**/*.go", "go.mod", "go.sum", "go.work", ".github/workflows/**", ".taskattest.toml"]

omit [Packages] in
/-- A manifest and, where it exists, the file that locks its dependencies. -/
def manifestSources (workspace : Workspace) (manifest manifestEvidence lock lockEvidence : String) :
    Except TaskError (List DiscoverySource) := do
  let first ← workspace.discoverySource manifest manifestEvidence
  if workspace.isFile (workspace.within lock) then
    let second ← workspace.discoverySource lock lockEvidence
    return [first, second]
  else return [first]

def discoverGo (workspace : Workspace) : Except TaskError (List CheckDefinition) := do
  let sources ← manifestSources workspace "go.mod" "Go module manifest" "go.sum"
    "Go dependency checksums"
  return [
    languageCheck "go-test" "Go tests" .test "go" ["test", "./..."]
      "go.mod declares a Go module" sources goCoverage
      ["Go module and build caches", "host operating system and services used by tests"],
    languageCheck "go-vet" "Go vet analysis" .lint "go" ["vet", "./..."]
      "go.mod declares packages analyzable by go vet" sources goCoverage
      ["Go module and build caches"],
    languageCheck "go-build" "Go build" .build "go" ["build", "./..."]
      "go.mod declares buildable Go packages" sources goCoverage
      ["Go module and build caches", "host linker and native libraries"]]

/-! Rust -/

def rustCoverage : List String :=
  ["**/*.rs", "Cargo.toml", "Cargo.lock", ".cargo/**", ".github/workflows/**", ".taskattest.toml"]

def discoverRust (workspace : Workspace) : Except TaskError (List CheckDefinition) := do
  let sources ← manifestSources workspace "Cargo.toml" "Rust package or workspace manifest"
    "Cargo.lock" "locked Rust dependency graph"
  let locked := if workspace.isFile (workspace.within "Cargo.lock") then ["--locked"] else []
  return [
    languageCheck "rust-format" "Rust formatting" .format "cargo" ["fmt", "--check"]
      "Cargo.toml declares a Rust workspace; rustfmt is the canonical formatter" sources
      rustCoverage ["installed rustfmt component"],
    languageCheck "rust-lint" "Rust clippy lints" .lint "cargo"
      (["clippy", "--all-targets"] ++ locked ++ ["--", "-D", "warnings"])
      "Cargo.toml declares Rust targets and clippy can check every target" sources rustCoverage
      ["installed clippy component", "Cargo registry and cache state"],
    languageCheck "rust-test" "Rust tests" .test "cargo" (["test", "--all-targets"] ++ locked)
      "Cargo.toml declares Rust targets and cargo test covers their test suites" sources
      rustCoverage
      ["Cargo registry and cache state", "host operating system and services used by tests"],
    languageCheck "rust-build" "Rust release build" .build "cargo"
      (["build", "--release"] ++ locked) "Cargo.toml declares buildable Rust targets" sources
      rustCoverage ["Cargo registry and cache state", "host linker and native libraries"]]

end TaskAttest
