import TaskAttest.Hash
import TaskAttest.Error
import TaskAttest.Model
import TaskAttest.Summary

/-! What a run records of its surroundings: the forwarded environment and the
identities of the tools. -/

set_option autoImplicit false

namespace TaskAttest

def safeEnvironment : List String :=
  ["PATH", "HOME", "USERPROFILE", "TMPDIR", "TEMP", "TMP", "SYSTEMROOT", "COMSPEC", "PATHEXT",
    "WINDIR", "CARGO_HOME", "RUSTUP_HOME", "RUSTUP_TOOLCHAIN", "TERM", "NO_COLOR", "CI"]

/-- The variables of the program's own process. -/
abbrev Environment := String → Option String

def forwardedEnvironmentNames (environment : Environment) (checks : List CheckDefinition) :
    List String :=
  sortedSet ((safeEnvironment ++ checks.flatMap CheckDefinition.passEnvironment).filter
    fun name => (environment name).isSome)

/-- What a child started for a check finds in its environment. -/
def forwardEnvironment (environment : Environment) (explicit : List String) :
    List (String × String) :=
  (sortedSet (safeEnvironment ++ explicit)).filterMap fun name =>
    (environment name).map fun value => (name, value)

structure ToolOutput where
  success : Bool
  stdout : List UInt8
  stderr : List UInt8

def maxToolOutputBytes : Nat := 64 * 1024

/-- The commands that identify the tools of the given programs, in the order of
the tools' names. -/
def toolCommands (programs : List String) : SortedMap String (List String) :=
  let cargo :=
    if "cargo" ∈ programs then
      [("cargo", ["cargo", "--version", "--verbose"]),
        ("rustc", ["rustc", "--version", "--verbose"])]
    else []
  let managers := (["npm", "pnpm", "yarn", "bun"].filter (· ∈ programs)).map fun manager =>
    (manager, [manager, "--version"])
  let interpreters := (["python", "python3"].filter (· ∈ programs)).map fun interpreter =>
    (interpreter, [interpreter, "--version"])
  let go := if "go" ∈ programs then [("go", ["go", "version"])] else []
  SortedMap.ofList (("git", ["git", "--version"]) :: cargo ++ managers ++ interpreters ++ go)

def toolIdentity [Sha2] (name : String) (command : List String)
    (output : Except IoError ToolOutput) : ToolIdentity :=
  match output with
  | .ok output =>
      if output.stdout.length + output.stderr.length ≤ maxToolOutputBytes then
        let evidence := output.stdout ++ output.stderr
        { name
          command
          outputSha256 := sha256Bytes evidence
          summary := String.ofList (redactSummary ((fromUtf8Lossy evidence).take 2048))
          available := output.success }
      else
        { name
          command
          outputSha256 := sha256Bytes (textBytes "tool output exceeded bound")
          summary := "tool output exceeded the 64 KiB safety bound"
          available := false }
  | .error error =>
      { name
        command
        outputSha256 := sha256Bytes (textBytes error.text)
        summary := String.ofList (redactSummary error.text.toList)
        available := false }

def collectToolchains [Sha2] (tool : List String → Except IoError ToolOutput)
    (checks : List CheckDefinition) : List ToolIdentity :=
  (toolCommands (checks.map fun check => check.command.program)).entries.map fun entry =>
    toolIdentity entry.1 entry.2 (tool entry.2)

end TaskAttest
