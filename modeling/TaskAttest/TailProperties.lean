import TaskAttest.CaptureProperties
import TaskAttest.Execute
import TaskAttest.LossyProperties
import TaskAttest.SummaryProperties

/-! What the summary of a cut stream tells of a value that the cut may have separated
from its name. -/

set_option autoImplicit false

namespace TaskAttest

/-! Sensitive text around an equals sign -/

private theorem equals_not_mem_marker : ∀ marker ∈ sensitiveMarkers, '=' ∉ marker := by decide

private theorem sensitive_equals_iff {left right : List Char} :
    sensitive (left ++ '=' :: right) = true ↔ sensitive left = true ∨ sensitive right = true := by
  have lowered : toAsciiLowercase (left ++ '=' :: right) =
      toAsciiLowercase left ++ '=' :: toAsciiLowercase right := by
    have same : Char.toLower '=' = '=' := by decide
    rw [toAsciiLowercase, List.map_append, List.map_cons, same]
    rfl
  simp only [sensitive_iff, lowered]
  constructor
  · intro found
    obtain ⟨marker, known, found⟩ := found
    have absent := equals_not_mem_marker marker known
    rcases infix_of_infix_append_cons absent found with earlier | later
    · exact .inl ⟨marker, known, earlier⟩
    · exact .inr ⟨marker, known, later⟩
  · intro either
    rcases either with ⟨marker, known, found⟩ | ⟨marker, known, found⟩
    · exact ⟨marker, known, found.trans (List.prefix_append _ _).isInfix⟩
    · exact ⟨marker, known, found.trans
        ((List.suffix_cons ..).trans (List.suffix_append ..)).isInfix⟩

/-- Every marker has two different letters. -/
theorem sensitive_replicate (count : Nat) (character : Char) :
    sensitive (List.replicate count character) = false := by
  have letters : (sensitiveMarkers.all fun marker => marker.any fun first =>
      marker.any fun second => first != second) = true := by
    decide
  rw [Bool.eq_false_iff]
  intro marked
  obtain ⟨marker, known, found⟩ := sensitive_iff.mp marked
  rw [toAsciiLowercase, List.map_replicate] at found
  obtain ⟨first, firstMember, others⟩ := List.any_eq_true.mp (List.all_eq_true.mp letters _ known)
  obtain ⟨second, secondMember, different⟩ := List.any_eq_true.mp others
  rw [List.eq_of_mem_replicate (found.subset firstMember),
    List.eq_of_mem_replicate (found.subset secondMember)] at different
  exact bne_iff_ne.mp different rfl

/-! The parts of a cut stream -/

/-- How many bytes of a stream its tail leaves out. -/
def leftOut (stream : List UInt8) : Nat := stream.length - summaryBytes

private theorem utf8_drop_within {left right : List Char} {count : Nat}
    (within : count ≤ (utf8 left).length) :
    fromUtf8Lossy ((utf8 (left ++ right)).drop count) =
      fromUtf8Lossy ((utf8 left).drop count) ++ right := by
  rw [utf8_append, List.drop_append_of_le_length within, fromUtf8Lossy_drop_append]

private theorem utf8_drop_past {left right : List Char} {count : Nat}
    (past : (utf8 left).length ≤ count) :
    (utf8 (left ++ right)).drop count = (utf8 right).drop (count - (utf8 left).length) := by
  rw [utf8_append, List.drop_append, List.drop_eq_nil_of_le past, List.nil_append]

/-- What is left of the text before a line still ends with a line end. -/
theorem closed_drop {before : List Char} (closed : Closed before) (count : Nat) :
    Closed (fromUtf8Lossy ((utf8 before).drop count)) := by
  rcases closed with rfl | ended
  · exact .inl (by simp [fromUtf8Lossy, decodeLossy])
  · obtain ⟨initial, rfl⟩ := List.getLast?_eq_some_iff.mp ended
    by_cases within : count ≤ (utf8 initial).length
    · rw [utf8_drop_within within]
      exact .inr List.getLast?_concat
    · rw [utf8_drop_past (by omega), List.drop_eq_nil_of_le]
      · exact .inl rfl
      · have newline : (utf8 ['\n']).length = 1 := by decide
        omega

/-- What is left of a name when so many bytes are cut off the front of the stream. -/
def nameLeft (before name : List Char) (count : Nat) : List Char :=
  fromUtf8Lossy ((utf8 name).drop (count - (utf8 before).length))

section Assignments

variable {before name value other after : List Char} {count : Nat}

/-- The cut lies before the separator. -/
theorem decoded_within (within : count ≤ (utf8 (before ++ name)).length) :
    fromUtf8Lossy ((utf8 (before ++ (name ++ '=' :: value) ++ after)).drop count) =
      fromUtf8Lossy ((utf8 before).drop count) ++ (nameLeft before name count ++ '=' :: value) ++
        after := by
  have shape : before ++ (name ++ '=' :: value) ++ after =
      (before ++ name) ++ ('=' :: value ++ after) := by simp
  have kept : fromUtf8Lossy ((utf8 (before ++ name)).drop count) =
      fromUtf8Lossy ((utf8 before).drop count) ++ nameLeft before name count := by
    unfold nameLeft
    by_cases early : count ≤ (utf8 before).length
    · rw [utf8_drop_within early, Nat.sub_eq_zero_of_le early, List.drop_zero, fromUtf8Lossy_utf8]
    · have gone : (utf8 before).drop count = [] := List.drop_eq_nil_of_le (by omega)
      rw [utf8_drop_past (by omega), gone]
      rfl
  rw [shape, utf8_drop_within within, kept]
  simp

/-- The cut lies behind the separator. -/
theorem decoded_past (past : (utf8 (before ++ name)).length < count) :
    (utf8 (before ++ (name ++ '=' :: value) ++ after)).drop count =
      (utf8 (value ++ after)).drop (count - (utf8 (before ++ name ++ ['='])).length) := by
  have shape : before ++ (name ++ '=' :: value) ++ after =
      (before ++ name ++ ['=']) ++ (value ++ after) := by simp
  have separator : (utf8 ['=']).length = 1 := by decide
  rw [shape, utf8_drop_past]
  rw [utf8_append, List.length_append, separator]
  omega

private theorem nameLeft_past (past : (utf8 (before ++ name)).length < count) :
    nameLeft before name count = [] := by
  rw [utf8_append, List.length_append] at past
  rw [nameLeft, List.drop_eq_nil_of_le (by omega)]
  rfl

private theorem not_mem_nameLeft {character : Char} (absent : character ∉ name)
    (ordinary : character ≠ replacementCharacter) : character ∉ nameLeft before name count := by
  intro member
  rcases mem_fromUtf8Lossy_drop member with replaced | present
  · exact ordinary replaced
  · exact absent present

private theorem length_assignment (sameLength : (utf8 other).length = (utf8 value).length) :
    (utf8 (before ++ (name ++ '=' :: other) ++ after)).length =
      (utf8 (before ++ (name ++ '=' :: value) ++ after)).length := by
  rw [List.append_cons _ _ other, List.append_cons _ _ value]
  simp only [utf8_append, List.length_append, sameLength]

private theorem leftOut_assignment (sameLength : (utf8 other).length = (utf8 value).length) :
    leftOut (utf8 (before ++ (name ++ '=' :: other) ++ after)) =
      leftOut (utf8 (before ++ (name ++ '=' :: value) ++ after)) := by
  rw [leftOut, length_assignment sameLength, leftOut]

/-- Nothing of the value is told when the rest of the name is still sensitive, or when
nothing of the value is left. -/
theorem redactSummary_cut_same (noEquals : '=' ∉ name) (noNewline : '\n' ∉ name)
    (valueLine : '\n' ∉ value) (otherLine : '\n' ∉ other)
    (sameLength : (utf8 other).length = (utf8 value).length) (closed : Closed before)
    (opens : Opens after)
    (hidden : sensitive (nameLeft before name count) = true ∨
      (utf8 value).length ≤ count - (utf8 (before ++ name ++ ['='])).length) :
    redactSummary (fromUtf8Lossy ((utf8 (before ++ (name ++ '=' :: other) ++ after)).drop count)) =
      redactSummary
        (fromUtf8Lossy ((utf8 (before ++ (name ++ '=' :: value) ++ after)).drop count)) := by
  by_cases within : count ≤ (utf8 (before ++ name)).length
  · rw [decoded_within within, decoded_within within]
    rcases hidden with marked | short
    · have leftEquals : '=' ∉ nameLeft before name count := not_mem_nameLeft noEquals (by decide)
      have leftNewline : '\n' ∉ nameLeft before name count := not_mem_nameLeft noNewline (by decide)
      rw [redactSummary_embedded_iff (by simp [leftNewline, otherLine])
        (by simp [leftNewline, valueLine]) (by simp) (by simp) (closed_drop closed count) opens]
      obtain ⟨left, leftShape, _⟩ := @lineBefore_assignment (nameLeft before name count) other '='
        after (by decide)
      obtain ⟨right, rightShape, _⟩ := @lineBefore_assignment (nameLeft before name count) value '='
        after (by decide)
      rw [leftShape, rightShape, redactLine_equals marked leftEquals,
        redactLine_equals marked leftEquals]
    · rw [utf8_append _ ['='], List.length_append] at short
      have bare : value = [] := utf8_injective (List.length_eq_zero_iff.mp (by omega))
      have otherBare : other = [] := utf8_injective (List.length_eq_zero_iff.mp (by omega))
      rw [bare, otherBare]
  · rw [decoded_past (by omega), decoded_past (by omega)]
    rcases hidden with marked | short
    · rw [nameLeft_past (by omega)] at marked
      exact absurd marked (by decide)
    · rw [utf8_drop_past short, utf8_drop_past (by omega), sameLength]

/-- A line that is not sensitive shows its end. -/
theorem redactSummary_shows {line : List Char} (noNewline : '\n' ∉ line) (positive : count ≠ 0)
    (closed : Closed before) (opens : Opens after)
    (plain : ∀ character, character = 'a' ∨ character = 'b' →
      sensitive (line ++ List.replicate count character) = false) :
    redactSummary (before ++ (line ++ List.replicate count 'a') ++ after) ≠
      redactSummary (before ++ (line ++ List.replicate count 'b') ++ after) := by
  have shown (character : Char) (letter : character = 'a' ∨ character = 'b') :
      redactLine (lineBefore after (line ++ List.replicate count character)) =
        line ++ List.replicate count character := by
    have last : (line ++ List.replicate count character).getLast? ≠ some '\r' := by
      rw [List.getLast?_append, List.getLast?_replicate, if_neg positive]
      rcases letter with rfl | rfl <;> simp
    rw [lineBefore, stripCarriageReturn, if_neg last, ite_self, redactLine,
      plain character letter]
    rfl
  have shape (character : Char) (letter : character = 'a' ∨ character = 'b') :
      '\n' ∉ line ++ List.replicate count character ∧
        line ++ List.replicate count character ≠ [] := by
    rcases letter with rfl | rfl <;> simp [noNewline, positive]
  obtain ⟨firstLine, firstNonempty⟩ := shape 'a' (.inl rfl)
  obtain ⟨secondLine, secondNonempty⟩ := shape 'b' (.inr rfl)
  intro same
  rw [redactSummary_embedded_iff firstLine secondLine firstNonempty secondNonempty closed opens,
    shown 'a' (.inl rfl), shown 'b' (.inr rfl), List.append_cancel_left_eq] at same
  have member : 'a' ∈ List.replicate count 'b' := by
    rw [← same]
    exact List.mem_replicate.mpr ⟨positive, rfl⟩
  exact absurd (List.eq_of_mem_replicate member) (by decide)

theorem length_utf8_replicate (count : Nat) (character : Char) :
    (utf8 (List.replicate count character)).length = count * character.utf8Size := by
  simp [utf8, List.flatMap_replicate]

private theorem utf8_replicate {character : Char} (letter : character = 'a' ∨ character = 'b') :
    (utf8 (List.replicate count character)).length = count := by
  have single : character.utf8Size = 1 := by
    rcases letter with rfl | rfl <;> decide
  rw [length_utf8_replicate, single, Nat.mul_one]

private theorem utf8_drop_replicate {character : Char} (letter : character = 'a' ∨ character = 'b')
    {total : Nat} (within : count ≤ total) :
    (utf8 (List.replicate total character)).drop count =
      utf8 (List.replicate (total - count) character) := by
  have shape : List.replicate total character =
      List.replicate count character ++ List.replicate (total - count) character := by
    rw [List.replicate_append_replicate, Nat.add_sub_cancel' within]
  rw [shape, utf8_drop_past (utf8_replicate letter).le, utf8_replicate letter, Nat.sub_self,
    List.drop_zero]

/-- What is left of a value shows behind a name that is no longer sensitive. -/
theorem redactSummary_cut_shows (noNewline : '\n' ∉ name) (closed : Closed before)
    (opens : Opens after) {total : Nat}
    (plain : sensitive (nameLeft before name count) = false)
    (long : count - (utf8 (before ++ name ++ ['='])).length < total) :
    redactSummary (fromUtf8Lossy
        ((utf8 (before ++ (name ++ '=' :: List.replicate total 'a') ++ after)).drop count)) ≠
      redactSummary (fromUtf8Lossy
        ((utf8 (before ++ (name ++ '=' :: List.replicate total 'b') ++ after)).drop count)) := by
  by_cases within : count ≤ (utf8 (before ++ name)).length
  · have leftNewline : '\n' ∉ nameLeft before name count := not_mem_nameLeft noNewline (by decide)
    rw [decoded_within within, decoded_within within,
      List.append_cons _ _ (List.replicate total 'a'),
      List.append_cons _ _ (List.replicate total 'b')]
    have positive : total ≠ 0 := by omega
    apply redactSummary_shows (by simp [leftNewline]) positive (closed_drop closed count) opens
    intro character letter
    rw [← List.append_cons, Bool.eq_false_iff]
    intro marked
    rcases sensitive_equals_iff.mp marked with named | valued
    · exact absurd named (by simp [plain])
    · exact absurd valued (by simp [sensitive_replicate])
  · have short := Nat.le_of_lt long
    rw [decoded_past (by omega), decoded_past (by omega), utf8_drop_within, utf8_drop_within,
      utf8_drop_replicate (.inl rfl) short, utf8_drop_replicate (.inr rfl) short,
      fromUtf8Lossy_utf8, fromUtf8Lossy_utf8]
    · apply @redactSummary_shows [] after _ [] (by simp) (by omega) (.inl rfl) opens
      intro character letter
      exact sensitive_replicate _ _
    · rw [utf8_replicate (.inr rfl)]
      exact short
    · rw [utf8_replicate (.inl rfl)]
      exact short

end Assignments

/-! Captured streams -/

section Streams

variable [Sha2] {path : String} {maxLogBytes : UInt64} {before name value after : List Char}

private theorem tailSummary_eq {stream : List UInt8} {capture : Capture}
    (captures : CaptureThread.CapturesStream path maxLogBytes stream capture) :
    tailSummary capture =
      String.ofList (redactSummary (fromUtf8Lossy (stream.drop (leftOut stream)))) := by
  rw [tailSummary, CaptureThread.capturesStream_tail captures]
  rfl

/-- A summary hides a value exactly when the part of the stream it is made from still
begins with enough of the name, or has nothing of the value. -/
theorem tailSummary_hides_iff {capture : Capture} (noEquals : '=' ∉ name)
    (noNewline : '\n' ∉ name) (valueLine : '\n' ∉ value) (closed : Closed before)
    (opens : Opens after)
    (captures : CaptureThread.CapturesStream path maxLogBytes
      (utf8 (before ++ (name ++ '=' :: value) ++ after)) capture) :
    (∀ (other : List Char) (otherCapture : Capture), '\n' ∉ other →
        (utf8 other).length = (utf8 value).length →
        CaptureThread.CapturesStream path maxLogBytes
          (utf8 (before ++ (name ++ '=' :: other) ++ after)) otherCapture →
        tailSummary otherCapture = tailSummary capture) ↔
      sensitive (nameLeft before name
          (leftOut (utf8 (before ++ (name ++ '=' :: value) ++ after)))) = true ∨
        (utf8 value).length ≤ leftOut (utf8 (before ++ (name ++ '=' :: value) ++ after)) -
          (utf8 (before ++ name ++ ['='])).length := by
  constructor
  · intro hides
    by_contra exposed
    rw [not_or, Bool.not_eq_true, Nat.not_le] at exposed
    have hidden (character : Char) (letter : character = 'a' ∨ character = 'b') :
        redactSummary (fromUtf8Lossy ((utf8 (before ++
            (name ++ '=' :: List.replicate (utf8 value).length character) ++ after)).drop
          (leftOut (utf8 (before ++ (name ++ '=' :: value) ++ after))))) =
        (tailSummary capture).toList := by
      have sameLength := @utf8_replicate (utf8 value).length _ letter
      have fits := CaptureThread.capturesStream_bounded captures
      rw [← length_assignment sameLength] at fits
      obtain ⟨other, otherCaptures⟩ :=
        @CaptureThread.exists_capturesStream _ path maxLogBytes _ fits
      rw [← hides _ other (by rcases letter with rfl | rfl <;> simp) sameLength otherCaptures,
        tailSummary_eq otherCaptures, leftOut_assignment sameLength, String.toList_ofList]
    exact redactSummary_cut_shows noNewline closed opens exposed.1 exposed.2
      ((hidden 'a' (.inl rfl)).trans (hidden 'b' (.inr rfl)).symm)
  · intro hidden other otherCapture otherLine sameLength otherCaptures
    rw [tailSummary_eq otherCaptures, tailSummary_eq captures, leftOut_assignment sameLength]
    exact congrArg String.ofList (redactSummary_cut_same noEquals noNewline valueLine otherLine
      sameLength closed opens hidden)

end Streams

section LongValue

attribute [local instance] standardSha2

private theorem length_token {count : Nat} {character : Char}
    (letter : character = 'a' ∨ character = 'b') :
    (utf8 (([] : List Char) ++ ("API_TOKEN".toList ++ '=' :: List.replicate count character) ++
      [])).length = 10 + count := by
  have name : (utf8 ("API_TOKEN".toList ++ ['='])).length = 10 := by decide
  rw [List.append_nil, List.nil_append, List.append_cons, utf8_append, List.length_append, name,
    utf8_replicate letter]

private theorem exists_token {count : Nat} {character : Char}
    (letter : character = 'a' ∨ character = 'b') (short : count ≤ 5000) : ∃ capture,
    CaptureThread.CapturesStream "stdout.log" 65536
      (utf8 (([] : List Char) ++ ("API_TOKEN".toList ++ '=' :: List.replicate count character) ++
        [])) capture := by
  have fits : 5010 ≤ maxFileBytes := by decide
  exact CaptureThread.exists_capturesStream (by rw [length_token letter]; omega)

/-- Of a value that is longer than a summary the end is shown. -/
theorem tailSummary_shows_value : ∃ capture otherCapture,
    CaptureThread.CapturesStream "stdout.log" 65536
      (utf8 (([] : List Char) ++ ("API_TOKEN".toList ++ '=' :: List.replicate 5000 'a') ++ []))
      capture ∧
    CaptureThread.CapturesStream "stdout.log" 65536
      (utf8 (([] : List Char) ++ ("API_TOKEN".toList ++ '=' :: List.replicate 5000 'b') ++ []))
      otherCapture ∧
    sensitive "API_TOKEN".toList = true ∧ tailSummary capture ≠ tailSummary otherCapture := by
  obtain ⟨capture, captures⟩ := exists_token (.inl rfl) (Nat.le_refl 5000)
  obtain ⟨otherCapture, otherCaptures⟩ := exists_token (.inr rfl) (Nat.le_refl 5000)
  refine ⟨capture, otherCapture, captures, otherCaptures, by decide, ?_⟩
  rw [tailSummary_eq captures, tailSummary_eq otherCaptures, leftOut, leftOut,
    length_token (.inl rfl), length_token (.inr rfl)]
  intro same
  have cut : nameLeft [] "API_TOKEN".toList (5010 - summaryBytes) = [] := nameLeft_past (by decide)
  exact redactSummary_cut_shows (by decide) (.inl rfl) (.inl rfl) (by rw [cut]; decide) (by decide)
    (String.ofList_injective same)

/-- The stream is four bytes too long for a summary, and the name that is left still marks
its line. -/
theorem tailSummary_hides_iff_token : ∃ capture,
    CaptureThread.CapturesStream "stdout.log" 65536
      (utf8 (([] : List Char) ++ ("API_TOKEN".toList ++ '=' :: List.replicate 4090 'a') ++ []))
      capture ∧
    leftOut (utf8 (([] : List Char) ++ ("API_TOKEN".toList ++ '=' :: List.replicate 4090 'a') ++
      [])) = 4 ∧
    ∀ (other : List Char) (otherCapture : Capture), '\n' ∉ other →
      (utf8 other).length = (utf8 (List.replicate 4090 'a')).length →
      CaptureThread.CapturesStream "stdout.log" 65536
        (utf8 (([] : List Char) ++ ("API_TOKEN".toList ++ '=' :: other) ++ [])) otherCapture →
      tailSummary otherCapture = tailSummary capture := by
  obtain ⟨capture, captures⟩ := exists_token (.inl rfl) (by decide : 4090 ≤ 5000)
  have cut : leftOut (utf8 (([] : List Char) ++
      ("API_TOKEN".toList ++ '=' :: List.replicate 4090 'a') ++ [])) = 4 := by
    rw [leftOut, length_token (.inl rfl)]
    rfl
  have marked : sensitive (nameLeft [] "API_TOKEN".toList 4) = true := by decide
  have valueLine : '\n' ∉ List.replicate 4090 'a' := fun member =>
    absurd (List.eq_of_mem_replicate member) (by decide)
  refine ⟨capture, captures, cut, ?_⟩
  exact (tailSummary_hides_iff (by decide) (by decide) valueLine (.inl rfl) (.inl rfl)
    captures).mpr (.inl (cut ▸ marked))

end LongValue

end TaskAttest
