import TaskAttest.Library.Json.Codec
import TaskAttest.Library.Json.Size

/-! Streams of JSON documents, one a line. A reader of a stream that was cut off
anywhere has the documents of its complete lines. -/

set_option autoImplicit false

/-- An ASCII byte of a text is one of its characters. -/
theorem mem_utf8_ascii {byte : UInt8} (ascii : byte.toNat < 128) {text : List Char}
    (member : byte ∈ utf8 text) : ∃ character ∈ text, character.toNat = byte.toNat := by
  obtain ⟨character, listed, encoded⟩ := List.mem_flatMap.mp member
  refine ⟨character, listed, ?_⟩
  have bound : character.toNat < 2 ^ 32 := character.val.toNat_lt
  simp only [Char.toNat] at bound ⊢
  simp only [String.utf8EncodeChar] at encoded
  -- A byte of a longer sequence has its top bit set.
  split at encoded
  · rw [List.mem_singleton] at encoded
    rw [encoded, UInt8.toNat_ofNat']
    omega
  · split at encoded
    · simp only [List.mem_cons, List.not_mem_nil, or_false] at encoded
      rcases encoded with rfl | rfl <;> simp only [UInt8.toNat_ofNat'] at ascii <;> omega
    · split at encoded
      · simp only [List.mem_cons, List.not_mem_nil, or_false] at encoded
        rcases encoded with rfl | rfl | rfl <;> simp only [UInt8.toNat_ofNat'] at ascii <;> omega
      · simp only [List.mem_cons, List.not_mem_nil, or_false] at encoded
        rcases encoded with rfl | rfl | rfl | rfl <;> simp only [UInt8.toNat_ofNat'] at ascii <;>
          omega

namespace Json

def lineBreak : UInt8 := 10

/-- The lines that a break ends, and what follows the last of them. -/
def splitLines : List UInt8 → List (List UInt8) × List UInt8
  | [] => ([], [])
  | byte :: rest =>
      if byte = lineBreak then ([] :: (splitLines rest).1, (splitLines rest).2)
      else
        match (splitLines rest).1 with
        | [] => ([], byte :: (splitLines rest).2)
        | line :: others => ((byte :: line) :: others, (splitLines rest).2)

/-- One document a line, in the compact layout. -/
def toLines (documents : List Value) : List UInt8 :=
  documents.flatMap fun document => utf8 document.compact ++ [lineBreak]

/-- The documents of the complete lines. -/
def readLines (depth : Nat) (bytes : List UInt8) : Option (List Value) :=
  (splitLines bytes).1.mapM (parse depth)

/-! Lines -/

private theorem splitLines_line {line : List UInt8} (unbroken : lineBreak ∉ line)
    (rest : List UInt8) :
    splitLines (line ++ lineBreak :: rest) =
      (line :: (splitLines rest).1, (splitLines rest).2) := by
  induction line with
  | nil => simp [splitLines]
  | cons byte others ih =>
      obtain ⟨different, later⟩ := not_or.mp (List.mem_cons.not.mp unbroken)
      simp only [List.cons_append, splitLines, if_neg (Ne.symm different), ih later]

/-- The lines of a stream begin with those of every part of it that it begins with. -/
theorem splitLines_append (first second : List UInt8) :
    (splitLines (first ++ second)).1 =
      (splitLines first).1 ++ (splitLines ((splitLines first).2 ++ second)).1 := by
  induction first with
  | nil => rfl
  | cons byte rest ih =>
      by_cases broken : byte = lineBreak
      · simp only [List.cons_append, splitLines, if_pos broken, ih]
      · simp only [List.cons_append, splitLines, if_neg broken, ih]
        cases (splitLines rest).1 with
        | nil =>
            simp only [List.nil_append, List.cons_append, splitLines, if_neg broken]
            cases (splitLines ((splitLines rest).2 ++ second)).1 <;> rfl
        | cons line others => rfl

/-! Documents -/

namespace Value

private theorem lineBreak_not_mem_renderNumber (value : Int) : '\n' ∉ renderNumber value := by
  have digits (magnitude : Nat) : '\n' ∉ Nat.toDigits 10 magnitude := by
    intro member
    have digit := Nat.isDigit_of_mem_toDigits (by decide) (by decide) member
    exact absurd digit (by decide)
  unfold renderNumber
  split
  · exact List.not_mem_cons_of_ne_of_not_mem (by decide) (digits _)
  · exact digits _

private theorem lineBreak_not_mem_renderString (value : String) : '\n' ∉ renderString value := by
  have escaped (character : Char) : '\n' ∉ escapeChar character := by
    unfold escapeChar
    repeat' split
    all_goals try decide
    · have digit : ∀ value < 16, hexDigit value ≠ '\n' := by decide
      have high := digit (character.toNat / 16) (by omega)
      have low := digit (character.toNat % 16) (by omega)
      simp [Ne.symm high, Ne.symm low]
    · rename_i notBreak _ _ _
      intro member
      rw [List.mem_singleton] at member
      exact notBreak (congrArg Char.toNat member.symm)
  intro member
  simp [renderString, List.mem_flatMap] at member
  obtain ⟨character, _, found⟩ := member
  exact escaped character found

mutual
/-- The compact text of an integral tree is one line. -/
theorem lineBreak_not_mem_render (indent : Nat) : ∀ {value : Value}, value.Integral →
    '\n' ∉ value.render .compact indent
  | .null, _ => by simp [render]
  | .bool true, _ => by simp [render]
  | .bool false, _ => by simp [render]
  | .number value, _ => lineBreak_not_mem_renderNumber value
  | .float _, never => never.elim
  | .string value, _ => lineBreak_not_mem_renderString value
  | .array [], _ => by simp [render]
  | .array (element :: rest), integral => by
      have first := lineBreak_not_mem_render (indent + 1) integral.1
      have others := lineBreak_not_mem_renderElements (indent + 1) integral.2
      simp [render, first, others]
  | .object [], _ => by simp [render]
  | .object ((key, value) :: rest), integral => by
      have name := lineBreak_not_mem_renderString key
      have first := lineBreak_not_mem_render (indent + 1) integral.1
      have others := lineBreak_not_mem_renderMembers (indent + 1) integral.2
      simp [render, name, first, others]
private theorem lineBreak_not_mem_renderElements (indent : Nat) : ∀ {elements : List Value},
    IntegralElements elements → '\n' ∉ renderElements .compact indent elements
  | [], _ => List.not_mem_nil
  | element :: rest, integral => by
      have first := lineBreak_not_mem_render indent integral.1
      have others := lineBreak_not_mem_renderElements indent integral.2
      simp [renderElements, first, others]
private theorem lineBreak_not_mem_renderMembers (indent : Nat) : ∀ {members : Members},
    IntegralMembers members → '\n' ∉ renderMembers .compact indent members
  | [], _ => List.not_mem_nil
  | (key, value) :: rest, integral => by
      have name := lineBreak_not_mem_renderString key
      have first := lineBreak_not_mem_render indent integral.1
      have others := lineBreak_not_mem_renderMembers indent integral.2
      simp [renderMembers, name, first, others]
end

private theorem lineBreak_not_mem_utf8_compact {value : Value} (integral : value.Integral) :
    lineBreak ∉ utf8 value.compact := by
  intro member
  obtain ⟨character, listed, same⟩ := mem_utf8_ascii (by decide) member
  have newline : character = '\n' := Char.toNat_inj.mp same
  exact lineBreak_not_mem_render 0 integral (newline ▸ listed)

end Value

section Streams

variable {documents : List Value} {depth : Nat}

private theorem splitLines_toLines (integral : ∀ document ∈ documents, document.Integral) :
    splitLines (toLines documents) = (documents.map fun document => utf8 document.compact, []) := by
  induction documents with
  | nil => rfl
  | cons document rest ih =>
      have first := Value.lineBreak_not_mem_utf8_compact (integral document (List.mem_cons_self ..))
      have others := ih fun other member => integral other (List.mem_cons_of_mem _ member)
      have step : toLines (document :: rest) =
          utf8 document.compact ++ lineBreak :: toLines rest := by simp [toLines]
      rw [step, splitLines_line first, others, List.map_cons]

private theorem mapM_parse_compact (integral : ∀ document ∈ documents, document.Integral)
    (shallow : ∀ document ∈ documents, document.depth ≤ depth) :
    (documents.map fun document => utf8 document.compact).mapM (parse depth) =
      some documents := by
  induction documents with
  | nil => rfl
  | cons document rest ih =>
      have parsed := parse_utf8_render .compact [] []
        (integral document (List.mem_cons_self ..)) (shallow document (List.mem_cons_self ..))
        (by simp) (by simp)
      rw [List.nil_append, List.append_nil] at parsed
      have others := ih (fun other member => integral other (List.mem_cons_of_mem _ member))
        fun other member => shallow other (List.mem_cons_of_mem _ member)
      rw [List.map_cons, List.mapM_cons, Value.compact, parsed, others]
      rfl

/-- A stream of documents is read back as those documents. -/
theorem readLines_toLines (integral : ∀ document ∈ documents, document.Integral)
    (shallow : ∀ document ∈ documents, document.depth ≤ depth) :
    readLines depth (toLines documents) = some documents := by
  rw [readLines, splitLines_toLines integral]
  exact mapM_parse_compact integral shallow

/-- A stream that was cut off is read back as the first of its documents: those whose
lines are complete. -/
theorem readLines_of_cut (integral : ∀ document ∈ documents, document.Integral)
    (shallow : ∀ document ∈ documents, document.depth ≤ depth) {cut : List UInt8}
    (cutOff : cut <+: toLines documents) :
    ∃ count, readLines depth cut = some (documents.take count) ∧
      ∀ more, toLines (documents.take more) <+: cut → min more documents.length ≤ count := by
  obtain ⟨rest, whole⟩ := cutOff
  have lines : (splitLines cut).1 ++ (splitLines ((splitLines cut).2 ++ rest)).1 =
      documents.map fun document => utf8 document.compact := by
    rw [← splitLines_append, whole, splitLines_toLines integral]
  have first : (splitLines cut).1 =
      (documents.take (splitLines cut).1.length).map fun document => utf8 document.compact := by
    rw [List.map_take, ← lines, List.take_left']
    rfl
  refine ⟨(splitLines cut).1.length, ?_, ?_⟩
  · rw [readLines, first, List.length_map, List.length_take]
    have counted : (splitLines cut).1.length ≤ documents.length := by
      have sizes := congrArg List.length lines
      rw [List.length_append, List.length_map] at sizes
      omega
    rw [Nat.min_eq_left counted]
    apply mapM_parse_compact
    · exact fun document member => integral document (List.mem_of_mem_take member)
    · exact fun document member => shallow document (List.mem_of_mem_take member)
  · intro more complete
    obtain ⟨later, same⟩ := complete
    have taken := splitLines_toLines
      fun document member => integral document (List.mem_of_mem_take (i := more) member)
    rw [← same, splitLines_append, taken, List.length_append, List.length_map, List.length_take]
    omega

end Streams

end Json
