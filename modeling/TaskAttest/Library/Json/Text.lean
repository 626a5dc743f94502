import TaskAttest.Library.Json.Value

/-! JSON text. One printer covers every layout of whitespace; the compact and
the pretty encodings are two layouts of it. -/

set_option autoImplicit false

namespace Json

def isWhitespace (character : Char) : Bool :=
  character = ' ' || character = '\t' || character = '\n' || character = '\r'

/-- Whitespace written inside arrays and objects, and after a member's colon. -/
structure Layout where
  line : Nat → List Char
  colon : List Char
  line_whitespace : ∀ indent, ∀ character ∈ line indent, isWhitespace character = true
  colon_whitespace : ∀ character ∈ colon, isWhitespace character = true

def Layout.compact : Layout where
  line _ := []
  colon := []
  line_whitespace := by simp
  colon_whitespace := by simp

/-- A new line for each element, indented by two blanks a level. -/
def Layout.pretty : Layout where
  line indent := '\n' :: List.replicate (2 * indent) ' '
  colon := [' ']
  line_whitespace := by
    intro indent character member
    rcases List.mem_cons.mp member with rfl | member
    · rfl
    · rw [(List.mem_replicate.mp member).2]
      rfl
  colon_whitespace := by simp [isWhitespace]

def hexDigits : List Char :=
  ['0', '1', '2', '3', '4', '5', '6', '7', '8', '9', 'a', 'b', 'c', 'd', 'e', 'f']

def hexDigit (value : Nat) : Char := hexDigits.getD value '0'

/-- Quotation marks, backslashes and control characters are escaped; all other
characters stand for themselves. -/
def escapeChar (character : Char) : List Char :=
  if character = '"' then ['\\', '"']
  else if character = '\\' then ['\\', '\\']
  else if character.toNat = 0x08 then ['\\', 'b']
  else if character.toNat = 0x0c then ['\\', 'f']
  else if character.toNat = 0x0a then ['\\', 'n']
  else if character.toNat = 0x0d then ['\\', 'r']
  else if character.toNat = 0x09 then ['\\', 't']
  else if character.toNat < 0x20 then
    ['\\', 'u', '0', '0', hexDigit (character.toNat / 16), hexDigit (character.toNat % 16)]
  else [character]

def renderString (value : String) : List Char :=
  '"' :: (value.toList.flatMap escapeChar ++ ['"'])

private theorem length_escapeChar_le (character : Char) : (escapeChar character).length ≤ 6 := by
  unfold escapeChar
  repeat' split
  all_goals simp

theorem length_renderString_le (value : String) :
    (renderString value).length ≤ 6 * value.toList.length + 2 := by
  have bounded : ∀ text : List Char, (text.flatMap escapeChar).length ≤ 6 * text.length := by
    intro text
    induction text with
    | nil => exact Nat.le_refl _
    | cons character rest ih =>
        have size := length_escapeChar_le character
        rw [List.flatMap_cons, List.length_append, List.length_cons]
        omega
  have size := bounded value.toList
  simp only [renderString, List.length_cons, List.length_append, List.length_nil]
  omega

def renderNumber (value : Int) : List Char :=
  if value < 0 then '-' :: Nat.toDigits 10 value.natAbs else Nat.toDigits 10 value.natAbs

namespace Value

mutual
def render (layout : Layout) (indent : Nat) : Value → List Char
  | .null => ['n', 'u', 'l', 'l']
  | .bool true => ['t', 'r', 'u', 'e']
  | .bool false => ['f', 'a', 'l', 's', 'e']
  | .number value => renderNumber value
  | .float text => text
  | .string value => renderString value
  | .array [] => ['[', ']']
  | .array (element :: rest) =>
      '[' :: (layout.line (indent + 1) ++ render layout (indent + 1) element ++
        renderElements layout (indent + 1) rest ++ layout.line indent ++ [']'])
  | .object [] => ['{', '}']
  | .object ((key, value) :: rest) =>
      '{' :: (layout.line (indent + 1) ++ renderString key ++ ':' :: layout.colon ++
        render layout (indent + 1) value ++
        renderMembers layout (indent + 1) rest ++ layout.line indent ++ ['}'])
/-- The elements after the first, each with the comma before it. -/
def renderElements (layout : Layout) (indent : Nat) : List Value → List Char
  | [] => []
  | element :: rest =>
      ',' :: (layout.line indent ++ render layout indent element ++
        renderElements layout indent rest)
def renderMembers (layout : Layout) (indent : Nat) : Members → List Char
  | [] => []
  | (key, value) :: rest =>
      ',' :: (layout.line indent ++ renderString key ++ ':' :: layout.colon ++
        render layout indent value ++ renderMembers layout indent rest)
end

theorem renderMembers_append (layout : Layout) (indent : Nat) (first second : Members) :
    renderMembers layout indent (first ++ second) =
      renderMembers layout indent first ++ renderMembers layout indent second := by
  induction first with
  | nil => simp [renderMembers]
  | cons member rest ih =>
      obtain ⟨key, value⟩ := member
      simp [renderMembers, ih]

def compact (value : Value) : List Char := value.render .compact 0

def pretty (value : Value) : List Char := value.render .pretty 0

end Value

end Json
