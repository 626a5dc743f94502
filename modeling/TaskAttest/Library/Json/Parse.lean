import TaskAttest.Library.Json.Text
import TaskAttest.Library.Utf8

/-! A strict JSON reader with a nesting limit. Fuel bounds the number of nested
calls; the length of the input is always enough. -/

set_option autoImplicit false

namespace Json

def skipWhitespace : List Char → List Char
  | [] => []
  | character :: rest =>
      if isWhitespace character then skipWhitespace rest else character :: rest

def hexValue? (character : Char) : Option Nat :=
  if character.isDigit then some (character.toNat - '0'.toNat)
  else if 'a' ≤ character ∧ character ≤ 'f' then some (character.toNat - 'a'.toNat + 10)
  else if 'A' ≤ character ∧ character ≤ 'F' then some (character.toNat - 'A'.toNat + 10)
  else none

/-- Four hexadecimal digits, as a UTF-16 code unit. -/
def parseUnit : List Char → Option (Nat × List Char)
  | first :: second :: third :: fourth :: rest => do
      let first ← hexValue? first
      let second ← hexValue? second
      let third ← hexValue? third
      let fourth ← hexValue? fourth
      some (((first * 16 + second) * 16 + third) * 16 + fourth, rest)
  | _ => none

/-- The part of an escape after its backslash. Surrogates must come in pairs. -/
def parseEscape : List Char → Option (Char × List Char)
  | '"' :: rest => some ('"', rest)
  | '\\' :: rest => some ('\\', rest)
  | '/' :: rest => some ('/', rest)
  | 'b' :: rest => some (Char.ofNat 0x08, rest)
  | 'f' :: rest => some (Char.ofNat 0x0c, rest)
  | 'n' :: rest => some ('\n', rest)
  | 'r' :: rest => some ('\r', rest)
  | 't' :: rest => some ('\t', rest)
  | 'u' :: rest => do
      let (unit, rest) ← parseUnit rest
      if 0xd800 ≤ unit ∧ unit < 0xdc00 then
        match rest with
        | '\\' :: 'u' :: rest => do
            let (low, rest) ← parseUnit rest
            if 0xdc00 ≤ low ∧ low < 0xe000 then
              some (Char.ofNat (0x10000 + (unit - 0xd800) * 0x400 + (low - 0xdc00)), rest)
            else none
        | _ => none
      else if 0xdc00 ≤ unit ∧ unit < 0xe000 then none
      else some (Char.ofNat unit, rest)
  | _ => none

/-- The part of a string after its opening quotation mark. -/
def parseString : Nat → List Char → Option (List Char × List Char)
  | 0, _ => none
  | _ + 1, [] => none
  | fuel + 1, character :: rest =>
      if character = '"' then some ([], rest)
      else if character = '\\' then do
        let (character, rest) ← parseEscape rest
        let (text, rest) ← parseString fuel rest
        some (character :: text, rest)
      else if character.toNat < 0x20 then none
      else do
        let (text, rest) ← parseString fuel rest
        some (character :: text, rest)

def spanDigits : List Char → List Char × List Char
  | [] => ([], [])
  | character :: rest =>
      if character.isDigit then
        let (digits, rest) := spanDigits rest
        (character :: digits, rest)
      else ([], character :: rest)

/-- A fraction with its point, or nothing. -/
def parseFraction : List Char → Option (List Char × List Char)
  | '.' :: rest =>
      let (digits, rest) := spanDigits rest
      if digits = [] then none else some ('.' :: digits, rest)
  | rest => some ([], rest)

/-- An exponent with its sign, or nothing. -/
def parseExponent : List Char → Option (List Char × List Char)
  | [] => some ([], [])
  | mark :: rest =>
      if mark = 'e' ∨ mark = 'E' then
        let (sign, rest) := match rest with
          | '+' :: rest => (['+'], rest)
          | '-' :: rest => (['-'], rest)
          | rest => ([], rest)
        let (digits, rest) := spanDigits rest
        if digits = [] then none else some (mark :: (sign ++ digits), rest)
      else some ([], mark :: rest)

/-- Integers that do not fit in 64 bits, and negative zero, are read as floating point. -/
def integerOrFloat (negative : Bool) (digits : List Char) : Value :=
  let magnitude := Nat.ofDigitChars 10 digits 0
  if negative then
    if magnitude = 0 ∨ 2 ^ 63 < magnitude then .float ('-' :: digits)
    else .number (-(magnitude : Int))
  else if 2 ^ 64 ≤ magnitude then .float digits
  else .number magnitude

def parseUnsigned (negative : Bool) (input : List Char) : Option (Value × List Char) := do
  let (digits, rest) := spanDigits input
  if digits = [] ∨ digits.head? = some '0' ∧ digits.length ≠ 1 then none
  else do
    let (fraction, rest) ← parseFraction rest
    let (exponent, rest) ← parseExponent rest
    if fraction = [] ∧ exponent = [] then some (integerOrFloat negative digits, rest)
    else some (.float ((if negative then ['-'] else []) ++ digits ++ fraction ++ exponent), rest)

mutual
def parseValue : Nat → Nat → List Char → Option (Value × List Char)
  | 0, _, _ => none
  | fuel + 1, depth, input =>
      match skipWhitespace input with
      | 'n' :: 'u' :: 'l' :: 'l' :: rest => some (.null, rest)
      | 't' :: 'r' :: 'u' :: 'e' :: rest => some (.bool true, rest)
      | 'f' :: 'a' :: 'l' :: 's' :: 'e' :: rest => some (.bool false, rest)
      | '"' :: rest => do
          let (text, rest) ← parseString (fuel + 1) rest
          some (.string (String.ofList text), rest)
      | '[' :: rest =>
          match depth with
          | 0 => none
          | depth + 1 =>
              match skipWhitespace rest with
              | ']' :: rest => some (.array [], rest)
              | rest => do
                  let (element, rest) ← parseValue fuel depth rest
                  let (elements, rest) ← parseElements fuel depth rest
                  some (.array (element :: elements), rest)
      | '{' :: rest =>
          match depth with
          | 0 => none
          | depth + 1 =>
              match skipWhitespace rest with
              | '}' :: rest => some (.object [], rest)
              | rest => do
                  let (key, value, rest) ← parseMember fuel depth rest
                  let (members, rest) ← parseMembers fuel depth rest
                  some (.object ((key, value) :: members), rest)
      | '-' :: rest => parseUnsigned true rest
      | rest => parseUnsigned false rest
/-- What follows an element: further elements, or the closing bracket. -/
def parseElements : Nat → Nat → List Char → Option (List Value × List Char)
  | 0, _, _ => none
  | fuel + 1, depth, input =>
      match skipWhitespace input with
      | ',' :: rest => do
          let (element, rest) ← parseValue fuel depth rest
          let (elements, rest) ← parseElements fuel depth rest
          some (element :: elements, rest)
      | ']' :: rest => some ([], rest)
      | _ => none
def parseMember : Nat → Nat → List Char → Option (String × Value × List Char)
  | 0, _, _ => none
  | fuel + 1, depth, input =>
      match skipWhitespace input with
      | '"' :: rest => do
          let (key, rest) ← parseString (fuel + 1) rest
          match skipWhitespace rest with
          | ':' :: rest => do
              let (value, rest) ← parseValue fuel depth rest
              some (String.ofList key, value, rest)
          | _ => none
      | _ => none
/-- What follows a member: further members, or the closing brace. -/
def parseMembers : Nat → Nat → List Char → Option (Members × List Char)
  | 0, _, _ => none
  | fuel + 1, depth, input =>
      match skipWhitespace input with
      | ',' :: rest => do
          let (key, value, rest) ← parseMember fuel depth rest
          let (members, rest) ← parseMembers fuel depth rest
          some ((key, value) :: members, rest)
      | '}' :: rest => some ([], rest)
      | _ => none
end

/-- One JSON text with nothing but whitespace around it. -/
def parseText (depth : Nat) (input : List Char) : Option Value := do
  let (value, rest) ← parseValue (input.length + 1) depth input
  if skipWhitespace rest = [] then some value else none

def parse (depth : Nat) (bytes : List UInt8) : Option Value := do
  let input ← decodeUtf8? bytes
  parseText depth input

end Json
