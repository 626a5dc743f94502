import TaskAttest.Library.Json.Limit
import TaskAttest.Serialize
import TaskAttest.Error

/-! The strict reader of receipt documents. -/

set_option autoImplicit false

namespace TaskAttest

open Json

/-- The passes of the reader that the JSON library can fail. -/
inductive JsonPass where
  | duplicateKeys
  | typed
deriving DecidableEq

/-- The text the JSON library displays for a pass that failed on a document. -/
class JsonDiagnostics where
  describe : JsonPass → List UInt8 → String

/-- The texts the JSON library displays for documents that end too early. -/
@[reducible] def endOfInputDiagnostics : JsonDiagnostics :=
  ⟨fun _ _ => "EOF while parsing a value at line 1 column 0"⟩

def maxReceiptBytes : Nat := 4 * 1024 * 1024

/-- How deep the JSON library lets arrays and objects nest. -/
def recursionLimit : Nat := 127

/-! The duplicate-key visitor: `keys` are those already seen in the object. -/

mutual
def visit : Value → Bool
  | .array elements => visitSeq elements
  | .object members => visitMap [] members
  | .null | .bool _ | .number _ | .float _ | .string _ => true
def visitSeq : List Value → Bool
  | [] => true
  | element :: rest => visit element && visitSeq rest
def visitMap (keys : List String) : Members → Bool
  | [] => true
  | (key, value) :: rest =>
      if key ∈ keys then false else visit value && visitMap (key :: keys) rest
end

def rejectDuplicateObjectKeys [JsonDiagnostics] (bytes : List UInt8) : Except TaskError Unit :=
  match parse recursionLimit bytes with
  | some document =>
      if visit document then .ok ()
      else .error (TaskError.json (JsonDiagnostics.describe .duplicateKeys bytes))
  | none => .error (TaskError.json (JsonDiagnostics.describe .duplicateKeys bytes))

/-- `serde_json::from_slice`. -/
def fromSlice [JsonDiagnostics] {α : Type} (read : Value → Option α) (bytes : List UInt8) :
    Except TaskError α :=
  match parse recursionLimit bytes >>= read with
  | some value => .ok value
  | none => .error (TaskError.json (JsonDiagnostics.describe .typed bytes))

/-- `serde_json::to_value`: untyped values are ordered maps, in which a repeated
key keeps its last value. -/
def toValue {α : Type} [Codec α] (value : α) : Value := (serialize value).normalize

def parseReceiptDocument [JsonDiagnostics] (bytes : List UInt8) : Except TaskError Receipt := do
  if bytes.length > maxReceiptBytes then
    throw (TaskError.receipt "receipt exceeds the 4 MiB safety bound")
  rejectDuplicateObjectKeys bytes
  let receipt ← fromSlice (deserialize (α := Receipt)) bytes
  let document ← fromSlice (fun value => some value.normalize) bytes
  let normalized := toValue receipt
  if document ≠ normalized then
    throw (TaskError.receipt "receipt contains unknown or omitted fields")
  return receipt

/-- `serde_json::to_vec`. -/
def toVec {α : Type} [Codec α] (value : α) : List UInt8 := utf8 (serialize value).compact

/-- `serde_json::to_vec_pretty`. -/
def toVecPretty {α : Type} [Codec α] (value : α) : List UInt8 := utf8 (serialize value).pretty

end TaskAttest
