import Mathlib.Data.List.TakeWhile
import TaskAttest.Text

/-! Lossy decoding of well-formed text, whole or cut at its front. -/

set_option autoImplicit false

namespace TaskAttest

/-! One sequence -/

private theorem decodeLossy_fuel {fuel other : Nat} {bytes : List UInt8}
    (enough : bytes.length ≤ fuel)
    (otherEnough : bytes.length ≤ other) : decodeLossy fuel bytes = decodeLossy other bytes := by
  induction fuel generalizing other bytes with
  | zero =>
      obtain rfl := List.length_eq_zero_iff.mp (Nat.le_zero.mp enough)
      cases other <;> rfl
  | succ fuel ih =>
      cases bytes with
      | nil => cases other <;> rfl
      | cons lead rest =>
          cases other with
          | zero => cases otherEnough
          | succ other =>
              have later (count : Nat) :
                  decodeLossy fuel (rest.drop count) = decodeLossy other (rest.drop count) := by
                apply ih <;> simp only [List.length_drop, List.length_cons] at * <;> omega
              have whole := later 0
              rw [List.drop_zero] at whole
              simp only [decodeLossy]
              split
              · rw [whole]
              · split
                · rw [whole]
                · rw [later]

section Sequences

variable {lead : UInt8} {rest others : List UInt8} {count low high : Nat}

private theorem fromUtf8Lossy_drop (count : Nat) :
    decodeLossy rest.length (rest.drop count) = fromUtf8Lossy (rest.drop count) :=
  decodeLossy_fuel (by rw [List.length_drop]; omega) (Nat.le_refl _)

private theorem fromUtf8Lossy_ascii (ascii : lead.toNat < 0x80) :
    fromUtf8Lossy (lead :: rest) = Char.ofNat lead.toNat :: fromUtf8Lossy rest := by
  rw [fromUtf8Lossy, List.length_cons, decodeLossy, if_pos ascii]
  rfl

/-- A byte that begins no sequence. -/
theorem fromUtf8Lossy_stray (high : ¬lead.toNat < 0x80) (stray : sequenceShape lead = none) :
    fromUtf8Lossy (lead :: rest) = replacementCharacter :: fromUtf8Lossy rest := by
  rw [fromUtf8Lossy, List.length_cons, decodeLossy, if_neg high, stray]
  rfl

/-- A complete sequence. -/
theorem fromUtf8Lossy_sequence (notAscii : ¬lead.toNat < 0x80)
    (shape : sequenceShape lead = some (count, low, high))
    (bytes : sequenceBytes count low high (others ++ rest) = others)
    (complete : others.length + 1 = count) :
    fromUtf8Lossy (lead :: (others ++ rest)) =
      decodeSequence lead others :: fromUtf8Lossy rest := by
  rw [fromUtf8Lossy, List.length_cons, decodeLossy, if_neg notAscii, shape]
  simp only [bytes, if_pos complete]
  rw [fromUtf8Lossy_drop, List.drop_left]

private theorem sequenceBytes_append {second : UInt8}
    (allowed : low ≤ second.toNat ∧ second.toNat ≤ high)
    (length : others.length = count - 2) (continued : ∀ byte ∈ others, isContinuation byte = true) :
    sequenceBytes count low high (second :: others ++ rest) = second :: others := by
  have front : (others ++ rest).take (count - 2) = others := by
    rw [← length, List.take_left]
  rw [List.cons_append, sequenceBytes, if_pos allowed, front]
  congr 1
  exact List.takeWhile_eq_self_iff.mpr continued

end Sequences

theorem toNat_ofNat_small {code : Nat} (small : code < 256) : (UInt8.ofNat code).toNat = code := by
  simp only [UInt8.toNat_ofNat']
  omega

/-- A byte of a sequence after its first. -/
def tailByte (code : Nat) : UInt8 := UInt8.ofNat (code % 64 + 128)

private theorem toNat_tailByte (code : Nat) : (tailByte code).toNat = code % 64 + 128 :=
  toNat_ofNat_small (by omega)

private theorem isContinuation_tailByte (code : Nat) : isContinuation (tailByte code) = true := by
  simp only [isContinuation, toNat_tailByte, Bool.and_eq_true, decide_eq_true_eq]
  omega

private theorem sequenceShape_two {code : Nat} (low : 0x80 ≤ code) (high : code ≤ 0x7ff) :
    sequenceShape (UInt8.ofNat (code / 64 % 32 + 192)) = some (2, 0x80, 0xbf) := by
  simp only [sequenceShape, toNat_ofNat_small (show code / 64 % 32 + 192 < 256 by omega)]
  rw [if_pos (by omega)]

private theorem sequenceShape_three {code : Nat} (low : 0x800 ≤ code) (high : code ≤ 0xffff)
    (scalar : code < 0xd800 ∨ 0xdfff < code) : ∃ lowest highest,
    sequenceShape (UInt8.ofNat (code / 4096 % 16 + 224)) = some (3, lowest, highest) ∧
      lowest ≤ code / 64 % 64 + 128 ∧ code / 64 % 64 + 128 ≤ highest := by
  simp only [sequenceShape, toNat_ofNat_small (show code / 4096 % 16 + 224 < 256 by omega)]
  rw [if_neg (by omega)]
  by_cases first : code / 4096 % 16 + 224 = 0xe0
  · rw [if_pos first]
    exact ⟨_, _, rfl, by omega, by omega⟩
  · rw [if_neg first]
    by_cases surrogate : code / 4096 % 16 + 224 = 0xed
    · rw [if_pos surrogate]
      exact ⟨_, _, rfl, by omega, by omega⟩
    · rw [if_neg surrogate, if_pos (by omega)]
      exact ⟨_, _, rfl, by omega, by omega⟩

private theorem sequenceShape_four {code : Nat} (low : 0x10000 ≤ code) (high : code < 0x110000) :
    ∃ lowest highest,
    sequenceShape (UInt8.ofNat (code / 262144 % 8 + 240)) = some (4, lowest, highest) ∧
      lowest ≤ code / 4096 % 64 + 128 ∧ code / 4096 % 64 + 128 ≤ highest := by
  simp only [sequenceShape, toNat_ofNat_small (show code / 262144 % 8 + 240 < 256 by omega)]
  rw [if_neg (by omega), if_neg (by omega), if_neg (by omega), if_neg (by omega)]
  by_cases first : code / 262144 % 8 + 240 = 0xf0
  · rw [if_pos first]
    exact ⟨_, _, rfl, by omega, by omega⟩
  · rw [if_neg first]
    by_cases middle : code / 262144 % 8 + 240 ≤ 0xf3
    · rw [if_pos (by omega)]
      exact ⟨_, _, rfl, by omega, by omega⟩
    · rw [if_neg (by omega), if_pos (by omega)]
      exact ⟨_, _, rfl, by omega, by omega⟩

private theorem fromUtf8Lossy_encoded (character : Char) (rest : List UInt8) :
    fromUtf8Lossy (String.utf8EncodeChar character ++ rest) = character :: fromUtf8Lossy rest := by
  have valid := character.valid
  have value : Char.ofNat character.val.toNat = character := Char.ofNat_toNat _
  simp only [UInt32.isValidChar, Nat.isValidChar] at valid
  unfold String.utf8EncodeChar
  generalize character.val.toNat = code at value valid
  have refold : ∀ code, UInt8.ofNat (code % 64 + 128) = tailByte code := fun _ => rfl
  simp only [refold]
  split
  · have lead : (UInt8.ofNat code).toNat = code := toNat_ofNat_small (by omega)
    rw [List.singleton_append, fromUtf8Lossy_ascii (by omega), lead, value]
  · split
    · have lead : (UInt8.ofNat (code / 64 % 32 + 192)).toNat = code / 64 % 32 + 192 :=
        toNat_ofNat_small (by omega)
      have bytes := @sequenceBytes_append rest [] 2 0x80 0xbf (tailByte code)
        (by rw [toNat_tailByte]; omega) rfl (by simp)
      have shape := @sequenceShape_two code (by omega) (by omega)
      rw [List.cons_append, fromUtf8Lossy_sequence (by omega) shape bytes rfl, decodeSequence]
      simp only [List.length_singleton, List.foldl_cons, List.foldl_nil, lead, toNat_tailByte]
      rw [← value]
      congr 2
      omega
    · split
      · have lead : (UInt8.ofNat (code / 4096 % 16 + 224)).toNat = code / 4096 % 16 + 224 :=
          toNat_ofNat_small (by omega)
        obtain ⟨low, high, shape, allowed⟩ := @sequenceShape_three code (by omega) (by omega)
          (by omega)
        have bytes := @sequenceBytes_append rest [tailByte code] 3 low high (tailByte (code / 64))
          (by rw [toNat_tailByte]; exact allowed) rfl (by simp [isContinuation_tailByte])
        rw [List.cons_append, fromUtf8Lossy_sequence (by omega) shape bytes rfl, decodeSequence]
        simp only [List.length_cons, List.length_nil, List.foldl_cons, List.foldl_nil, lead,
          toNat_tailByte]
        rw [← value]
        congr 2
        omega
      · have lead : (UInt8.ofNat (code / 262144 % 8 + 240)).toNat = code / 262144 % 8 + 240 :=
          toNat_ofNat_small (by omega)
        obtain ⟨low, high, shape, allowed⟩ := @sequenceShape_four code (by omega) (by omega)
        have bytes := @sequenceBytes_append rest [tailByte (code / 64), tailByte code] 4 low high
          (tailByte (code / 4096)) (by rw [toNat_tailByte]; exact allowed) rfl
          (by simp [isContinuation_tailByte])
        rw [List.cons_append, fromUtf8Lossy_sequence (by omega) shape bytes rfl, decodeSequence]
        simp only [List.length_cons, List.length_nil, List.foldl_cons, List.foldl_nil, lead,
          toNat_tailByte]
        rw [← value]
        congr 2
        omega

/-! Whole texts and cut ones -/

private theorem fromUtf8Lossy_utf8_append (text : List Char) (rest : List UInt8) :
    fromUtf8Lossy (utf8 text ++ rest) = text ++ fromUtf8Lossy rest := by
  induction text with
  | nil => rfl
  | cons character others ih =>
      have step : utf8 (character :: others) = String.utf8EncodeChar character ++ utf8 others := rfl
      rw [step, List.append_assoc, fromUtf8Lossy_encoded, ih, List.cons_append]

theorem fromUtf8Lossy_utf8 (text : List Char) : fromUtf8Lossy (utf8 text) = text := by
  have whole := fromUtf8Lossy_utf8_append text []
  rw [List.append_nil] at whole
  exact whole.trans (List.append_nil text)

/-- The bytes of a sequence after its first are continuations. -/
theorem isContinuation_of_mem_drop {character : Char} {count : Nat} {byte : UInt8}
    (member : byte ∈ (String.utf8EncodeChar character).drop (count + 1)) :
    isContinuation byte = true := by
  have continued (code : Nat) : isContinuation (UInt8.ofNat (code % 64 + 128)) = true :=
    isContinuation_tailByte code
  have later : byte ∈ (String.utf8EncodeChar character).tail := by
    rw [← List.drop_one]
    refine List.mem_of_mem_drop (i := count) ?_
    rw [List.drop_drop, Nat.add_comm]
    exact member
  unfold String.utf8EncodeChar at later
  simp only at later
  split at later
  · cases later
  · split at later
    · rw [List.tail_cons, List.mem_singleton] at later
      rw [later]
      exact continued _
    · split at later <;>
        simp only [List.tail_cons, List.mem_cons, List.not_mem_nil, or_false] at later
      · rcases later with rfl | rfl <;> exact continued _
      · rcases later with rfl | rfl | rfl <;> exact continued _

theorem fromUtf8Lossy_strays {strays : List UInt8}
    (continued : ∀ byte ∈ strays, isContinuation byte = true) (rest : List UInt8) :
    fromUtf8Lossy (strays ++ rest) =
      List.replicate strays.length replacementCharacter ++ fromUtf8Lossy rest := by
  induction strays with
  | nil => rfl
  | cons byte others ih =>
      have bounds := continued byte (List.mem_cons_self ..)
      simp only [isContinuation, Bool.and_eq_true, decide_eq_true_eq] at bounds
      have stray : sequenceShape byte = none := by
        unfold sequenceShape
        simp only
        rw [if_neg (by omega), if_neg (by omega), if_neg (by omega), if_neg (by omega),
          if_neg (by omega), if_neg (by omega), if_neg (by omega)]
      rw [List.cons_append, fromUtf8Lossy_stray (by omega) stray,
        ih fun other member => continued other (List.mem_cons_of_mem _ member)]
      rfl

/-- A cut text begins with what is left of one sequence. -/
theorem utf8_drop (text : List Char) (count : Nat) : ∃ strays suffix,
    (utf8 text).drop count = strays ++ utf8 suffix ∧
      (∀ byte ∈ strays, isContinuation byte = true) ∧ suffix <:+ text := by
  induction text generalizing count with
  | nil => exact ⟨[], [], by simp, by simp, List.suffix_rfl⟩
  | cons character others ih =>
      have step : utf8 (character :: others) = String.utf8EncodeChar character ++ utf8 others := rfl
      cases count with
      | zero => exact ⟨[], character :: others, rfl, by simp, List.suffix_rfl⟩
      | succ count =>
          by_cases within : count + 1 ≤ (String.utf8EncodeChar character).length
          · refine ⟨(String.utf8EncodeChar character).drop (count + 1), others, ?_, ?_,
              List.suffix_cons ..⟩
            · rw [step, List.drop_append_of_le_length within]
            · exact fun byte member => isContinuation_of_mem_drop member
          · obtain ⟨strays, suffix, shape, continued, ends⟩ :=
              ih (count + 1 - (String.utf8EncodeChar character).length)
            refine ⟨strays, suffix, ?_, continued, ends.trans (List.suffix_cons ..)⟩
            rw [step, List.drop_append, List.drop_eq_nil_of_le (by omega), List.nil_append, shape]

/-- What follows a cut text is decoded as it is. -/
theorem fromUtf8Lossy_drop_append (left right : List Char) (count : Nat) :
    fromUtf8Lossy ((utf8 left).drop count ++ utf8 right) =
      fromUtf8Lossy ((utf8 left).drop count) ++ right := by
  obtain ⟨strays, suffix, shape, continued, _⟩ := utf8_drop left count
  rw [shape, List.append_assoc, fromUtf8Lossy_strays continued, fromUtf8Lossy_strays continued,
    ← utf8_append, fromUtf8Lossy_utf8, fromUtf8Lossy_utf8, List.append_assoc]

/-- The characters of a cut text are its own, besides the replacement. -/
theorem mem_fromUtf8Lossy_drop {text : List Char} {count : Nat} {character : Char}
    (member : character ∈ fromUtf8Lossy ((utf8 text).drop count)) :
    character = replacementCharacter ∨ character ∈ text := by
  obtain ⟨strays, suffix, shape, continued, ends⟩ := utf8_drop text count
  rw [shape, fromUtf8Lossy_strays continued, fromUtf8Lossy_utf8, List.mem_append] at member
  rcases member with stray | kept
  · exact .inl (List.eq_of_mem_replicate stray)
  · exact .inr (ends.subset kept)

end TaskAttest
