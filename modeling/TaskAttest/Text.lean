import TaskAttest.Library.Utf8
import Mathlib.Algebra.Group.Nat.Defs

/-! Operations of the standard library on text, as functions of its characters. -/

set_option autoImplicit false

namespace TaskAttest

/-- `char::is_whitespace`: the code points with the White_Space property. -/
def isWhitespace (character : Char) : Bool :=
  let code := character.toNat
  (9 ≤ code && code ≤ 13) || code == 0x20 || code == 0x85 || code == 0xa0 || code == 0x1680 ||
    (0x2000 ≤ code && code ≤ 0x200a) || code == 0x2028 || code == 0x2029 || code == 0x202f ||
    code == 0x205f || code == 0x3000

def trimStart (text : List Char) : List Char := text.dropWhile isWhitespace

def trimEnd (text : List Char) : List Char := (text.reverse.dropWhile isWhitespace).reverse

/-- `str::trim`. -/
def trim (text : List Char) : List Char := trimEnd (trimStart text)

/-- Maximal pieces between separators. -/
def splitOnChar (separator : Char) : List Char → List (List Char)
  | [] => [[]]
  | character :: rest =>
      if character = separator then [] :: splitOnChar separator rest
      else
        match splitOnChar separator rest with
        | [] => [[character]]
        | piece :: pieces => (character :: piece) :: pieces

/-- A line terminator is a newline and the carriage return before it, if any. -/
def stripCarriageReturn (line : List Char) : List Char :=
  if line.getLast? = some '\r' then line.dropLast else line

/-- `str::lines`: the empty piece after a final newline is not a line. -/
def lines (text : List Char) : List (List Char) :=
  let pieces := splitOnChar '\n' text
  let unterminated := pieces.getLast?.getD []
  pieces.dropLast.map stripCarriageReturn ++ (if unterminated = [] then [] else [unterminated])

/-- `str::to_ascii_lowercase`. -/
def toAsciiLowercase (text : List Char) : List Char := text.map Char.toLower

/-- `str::contains`. -/
def containsText (marker : List Char) : List Char → Bool
  | [] => marker.isEmpty
  | character :: rest => marker.isPrefixOf (character :: rest) || containsText marker rest

/-- `str::split_whitespace`. -/
def splitWhitespace (text : List Char) : List (List Char) :=
  (text.splitOnP isWhitespace).filter fun piece => !piece.isEmpty

/-- `str::split_once`: the text on both sides of the first separator. -/
def splitOnce (separator : Char) (text : List Char) : Option (List Char × List Char) :=
  if separator ∈ text then
    some (text.takeWhile (· ≠ separator), (text.dropWhile (· ≠ separator)).drop 1)
  else none

/-- `str::trim_matches` with one character. -/
def trimMatches (character : Char) (text : List Char) : List Char :=
  ((text.dropWhile (· = character)).reverse.dropWhile (· = character)).reverse

/-- `String::from_utf8`. -/
def fromUtf8 (bytes : List UInt8) : Option String := (decodeUtf8? bytes).map String.ofList

/-! `String::from_utf8_lossy` -/

def replacementCharacter : Char := Char.ofNat 0xfffd

def isContinuation (byte : UInt8) : Bool := 0x80 ≤ byte.toNat && byte.toNat ≤ 0xbf

/-- The length of the sequence a leading byte announces, and the range its
second byte must lie in. -/
def sequenceShape (lead : UInt8) : Option (Nat × Nat × Nat) :=
  let code := lead.toNat
  if 0xc2 ≤ code ∧ code ≤ 0xdf then some (2, 0x80, 0xbf)
  else if code = 0xe0 then some (3, 0xa0, 0xbf)
  else if code = 0xed then some (3, 0x80, 0x9f)
  else if 0xe1 ≤ code ∧ code ≤ 0xef then some (3, 0x80, 0xbf)
  else if code = 0xf0 then some (4, 0x90, 0xbf)
  else if 0xf1 ≤ code ∧ code ≤ 0xf3 then some (4, 0x80, 0xbf)
  else if code = 0xf4 then some (4, 0x80, 0x8f)
  else none

/-- The character of a complete sequence. -/
def decodeSequence (lead : UInt8) (others : List UInt8) : Char :=
  let high := lead.toNat % 2 ^ (6 - others.length)
  Char.ofNat (others.foldl (fun code byte => code * 64 + byte.toNat % 64) high)

/-- How many bytes after the lead belong to the sequence, up to the first that cannot. -/
def sequenceBytes (count low high : Nat) (rest : List UInt8) : List UInt8 :=
  match rest with
  | [] => []
  | second :: others =>
      if low ≤ second.toNat ∧ second.toNat ≤ high then
        second :: (others.take (count - 2)).takeWhile isContinuation
      else []

/-- Each maximal ill-formed piece becomes one replacement character. -/
def decodeLossy : Nat → List UInt8 → List Char
  | 0, _ => []
  | _ + 1, [] => []
  | fuel + 1, lead :: rest =>
      if lead.toNat < 0x80 then Char.ofNat lead.toNat :: decodeLossy fuel rest
      else
        match sequenceShape lead with
        | none => replacementCharacter :: decodeLossy fuel rest
        | some (count, low, high) =>
            let others := sequenceBytes count low high rest
            let character :=
              if others.length + 1 = count then decodeSequence lead others
              else replacementCharacter
            character :: decodeLossy fuel (rest.drop others.length)

def fromUtf8Lossy (bytes : List UInt8) : List Char := decodeLossy bytes.length bytes

example : fromUtf8Lossy [0xe2, 0x9c, 0x93, 0x61, 0xe2, 0x9c, 0xff] =
    [Char.ofNat 0x2713, 'a', replacementCharacter, replacementCharacter] := by decide

end TaskAttest
