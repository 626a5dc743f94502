import TaskAttest.Library.Utf8
import TaskAttest.Library.Sha256
import Mathlib.Data.Set.Function
import Mathlib.Data.List.Basic

/-! Lowercase hexadecimal SHA-256 digests. The hash itself comes from the sha2
package: any function to thirty-two bytes. -/

set_option autoImplicit false

namespace TaskAttest

class Sha2 where
  digest : List UInt8 → List UInt8
  length_digest : ∀ bytes, (digest bytes).length = 32

/-- The function the package implements. -/
@[reducible] def standardSha2 : Sha2 := ⟨Sha256.hash, Sha256.length_hash⟩

def hexDigits : List Char :=
  ['0', '1', '2', '3', '4', '5', '6', '7', '8', '9', 'a', 'b', 'c', 'd', 'e', 'f']

def encodeByte (byte : UInt8) : List Char :=
  [hexDigits.getD (byte.toNat / 16) '0', hexDigits.getD (byte.toNat % 16) '0']

def encodeLower (bytes : List UInt8) : String := String.ofList (bytes.flatMap encodeByte)

def sha256Bytes [Sha2] (bytes : List UInt8) : String := encodeLower (Sha2.digest bytes)

/-- The first `count` bytes of a text, which must be ASCII there. -/
def sliceTo (text : String) (count : Nat) : String := String.ofList (text.toList.take count)

def isLowerHexByte (byte : UInt8) : Bool :=
  (48 ≤ byte.toNat && byte.toNat ≤ 57) || (97 ≤ byte.toNat && byte.toNat ≤ 102)

/-- The bytes of a text, as `str::as_bytes` gives them. -/
def textBytes (text : String) : List UInt8 := utf8 text.toList

/-- A text of `count` bytes, each a lowercase hexadecimal digit. -/
def isLowerHex (count : Nat) (text : String) : Bool :=
  (textBytes text).length == count && (textBytes text).all isLowerHexByte

section Laws

private theorem hexDigits_lower :
    ∀ digit ∈ hexDigits, (utf8 [digit]).length = 1 ∧ (utf8 [digit]).all isLowerHexByte = true := by
  have allLower : (hexDigits.all fun digit =>
      (utf8 [digit]).length == 1 && (utf8 [digit]).all isLowerHexByte) = true := by
    decide
  intro digit member
  simpa only [Bool.and_eq_true, beq_iff_eq] using List.all_eq_true.mp allLower digit member

private theorem hexDigits_distinct :
    ∀ left < 16, ∀ right < 16, hexDigits.getD left '0' = hexDigits.getD right '0' →
      left = right := by
  decide

private theorem hexDigits_getD : ∀ index < 16, hexDigits.getD index '0' ∈ hexDigits := by decide

private theorem mem_encodeByte {byte : UInt8} {digit : Char} (member : digit ∈ encodeByte byte) :
    digit ∈ hexDigits := by
  have bound := byte.toNat_lt
  rcases List.mem_pair.mp member with rfl | rfl
  · exact hexDigits_getD _ (by omega)
  · exact hexDigits_getD _ (by omega)

private theorem encodeByte_injective {left right : UInt8}
    (same : encodeByte left = encodeByte right) :
    left = right := by
  have leftBound := left.toNat_lt
  have rightBound := right.toNat_lt
  simp only [encodeByte, List.cons.injEq, and_true] at same
  have high := hexDigits_distinct _ (by omega) _ (by omega) same.1
  have low := hexDigits_distinct _ (by omega) _ (by omega) same.2
  exact UInt8.toNat_inj.mp (by omega)

private theorem encodeLower_injective {left right : List UInt8}
    (same : encodeLower left = encodeLower right) : left = right := by
  have sameChars : left.flatMap encodeByte = right.flatMap encodeByte :=
    String.ofList_injective same
  clear same
  induction left generalizing right with
  | nil =>
      cases right with
      | nil => rfl
      | cons byte rest => simp [encodeByte] at sameChars
  | cons byte rest ih =>
      cases right with
      | nil => simp [encodeByte] at sameChars
      | cons other others =>
          simp only [List.flatMap_cons] at sameChars
          obtain ⟨sameByte, sameRest⟩ := List.append_inj sameChars (by simp [encodeByte])
          rw [encodeByte_injective sameByte, ih sameRest]

private theorem length_encodeLower (bytes : List UInt8) :
    (encodeLower bytes).toList.length = 2 * bytes.length := by
  simp [encodeLower, encodeByte, List.length_flatMap, Nat.mul_comm]

/-- Texts over the hexadecimal digits have one byte a character. -/
theorem isLowerHex_of_digits {text : String} (digits : ∀ digit ∈ text.toList, digit ∈ hexDigits) :
    isLowerHex text.toList.length text = true := by
  simp only [isLowerHex, textBytes, Bool.and_eq_true, beq_iff_eq]
  generalize text.toList = characters at digits
  induction characters with
  | nil => exact ⟨rfl, rfl⟩
  | cons digit rest ih =>
      obtain ⟨oneByte, lower⟩ := hexDigits_lower digit (digits digit (List.mem_cons_self ..))
      obtain ⟨sameLength, allLower⟩ := ih fun other member =>
        digits other (List.mem_cons_of_mem _ member)
      have split : utf8 (digit :: rest) = utf8 [digit] ++ utf8 rest := utf8_append [digit] rest
      rw [split, List.length_append, List.all_append, oneByte, lower, sameLength, allLower]
      exact ⟨by simp [Nat.add_comm], rfl⟩

private theorem mem_encodeLower {bytes : List UInt8} :
    ∀ digit ∈ (encodeLower bytes).toList, digit ∈ hexDigits := by
  intro digit member
  simp only [encodeLower, String.toList_ofList, List.mem_flatMap] at member
  obtain ⟨byte, _, included⟩ := member
  exact mem_encodeByte included

variable [Sha2]

theorem sha256Bytes_length (bytes : List UInt8) : (sha256Bytes bytes).toList.length = 64 := by
  rw [sha256Bytes, length_encodeLower, Sha2.length_digest]

theorem isLowerHex_sha256Bytes (bytes : List UInt8) : isLowerHex 64 (sha256Bytes bytes) = true := by
  have lower := isLowerHex_of_digits (@mem_encodeLower (Sha2.digest bytes))
  rwa [← sha256Bytes, sha256Bytes_length] at lower

theorem isLowerHex_slice_sha256Bytes (bytes : List UInt8) {count : Nat} (bound : count ≤ 64) :
    isLowerHex count (sliceTo (sha256Bytes bytes) count) = true := by
  have digits : ∀ digit ∈ (sliceTo (sha256Bytes bytes) count).toList, digit ∈ hexDigits := by
    intro digit member
    rw [sliceTo, String.toList_ofList] at member
    exact mem_encodeLower digit (List.mem_of_mem_take member)
  have lower := isLowerHex_of_digits digits
  rwa [sliceTo, String.toList_ofList, List.length_take, sha256Bytes_length,
    Nat.min_eq_left bound] at lower

/-- Equal digest texts mean equal inputs wherever the hash itself has no collision. -/
theorem eq_of_sha256Bytes_eq {inputs : Set (List UInt8)} (collisionFree : inputs.InjOn Sha2.digest)
    {left right : List UInt8} (leftMember : left ∈ inputs) (rightMember : right ∈ inputs)
    (same : sha256Bytes left = sha256Bytes right) : left = right :=
  collisionFree leftMember rightMember (encodeLower_injective same)

end Laws

end TaskAttest
