import TaskAttest.Text

/-! Diagnostic summaries: the text of a log's tail with sensitive lines redacted. -/

set_option autoImplicit false

namespace TaskAttest

def sensitiveMarkers : List (List Char) :=
  ["token".toList, "secret".toList, "password".toList, "authorization".toList, "api_key".toList,
    "apikey".toList]

def sensitive (line : List Char) : Bool :=
  sensitiveMarkers.any fun marker => containsText marker (toAsciiLowercase line)

/-- The part of a line before the first separator of an assignment. -/
def assignmentName? (line : List Char) : Option (List Char) :=
  if '=' ∈ line then some (line.takeWhile (· ≠ '='))
  else if ':' ∈ line then some (line.takeWhile (· ≠ ':'))
  else none

def redactLine (line : List Char) : List Char :=
  if !sensitive line then line
  else
    match assignmentName? line with
    | some name => trimEnd name ++ "=[REDACTED]".toList
    | none => "[REDACTED SENSITIVE LINE]".toList

def redactSummary (summary : List Char) : List Char :=
  ['\n'].intercalate ((lines summary).map redactLine)

end TaskAttest
