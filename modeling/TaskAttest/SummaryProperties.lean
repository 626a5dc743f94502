import TaskAttest.Summary
import TaskAttest.TextProperties

/-! What a summary tells of the values on sensitive lines. -/

set_option autoImplicit false

namespace TaskAttest

/-! Sensitive lines -/

theorem sensitive_iff {line : List Char} :
    sensitive line = true ↔ ∃ marker ∈ sensitiveMarkers, marker <:+: toAsciiLowercase line := by
  simp [sensitive, containsText_iff]

private theorem sensitive_append {line : List Char} (rest : List Char)
    (marked : sensitive line = true) :
    sensitive (line ++ rest) = true := by
  obtain ⟨marker, known, found⟩ := sensitive_iff.mp marked
  refine sensitive_iff.mpr ⟨marker, known, found.trans ?_⟩
  rw [toAsciiLowercase, toAsciiLowercase, List.map_append]
  exact (List.prefix_append _ _).isInfix

/-- What stands for a value. -/
def redactedValue : List Char := "=[REDACTED]".toList

section Assignments

variable {name value other before after : List Char} {separator : Char}

theorem redactLine_equals (marked : sensitive name = true) (noEquals : '=' ∉ name) :
    redactLine (name ++ '=' :: value) = trimEnd name ++ redactedValue := by
  have found : assignmentName? (name ++ '=' :: value) = some name := by
    rw [assignmentName?, if_pos (by simp), takeWhile_append_of_not_mem noEquals]
    simp
  rw [redactLine, sensitive_append _ marked, found]
  rfl

private theorem redactLine_colon (marked : sensitive name = true) (noEquals : '=' ∉ name)
    (noColon : ':' ∉ name) (plain : '=' ∉ value) :
    redactLine (name ++ ':' :: value) = trimEnd name ++ redactedValue := by
  have found : assignmentName? (name ++ ':' :: value) = some name := by
    rw [assignmentName?, if_neg (by simp [noEquals, plain]), if_pos (by simp),
      takeWhile_append_of_not_mem noColon]
    simp
  rw [redactLine, sensitive_append _ marked, found]
  rfl

/-- The first equals sign of the value ends what is kept. -/
theorem redactLine_colon_equals (marked : sensitive name = true) (noEquals : '=' ∉ name)
    (cut : '=' ∈ value) :
    redactLine (name ++ ':' :: value) =
      name ++ ':' :: (trimEnd (value.takeWhile (· ≠ '=')) ++ redactedValue) := by
  have found : assignmentName? (name ++ ':' :: value) =
      some (name ++ ':' :: value.takeWhile (· ≠ '=')) := by
    rw [assignmentName?, if_pos (by simp [cut]), takeWhile_append_of_not_mem noEquals]
    simp
  rw [redactLine, sensitive_append _ marked, found]
  simp only [Bool.not_true, Bool.false_eq_true, if_false]
  rw [trimEnd_append_cons (by decide), List.append_assoc]
  rfl

/-- A line end that is dropped with the line terminator is no part of what is kept. -/
theorem lineBefore_assignment (after : List Char) (plain : separator ≠ '\r') :
    ∃ kept, lineBefore after (name ++ separator :: value) = name ++ separator :: kept ∧
      ('=' ∈ kept ↔ '=' ∈ value) ∧
      ('=' ∈ value → kept.takeWhile (· ≠ '=') = value.takeWhile (· ≠ '=')) := by
  unfold lineBefore
  split
  · exact ⟨value, rfl, .rfl, fun _ => rfl⟩
  · refine ⟨stripCarriageReturn value, stripCarriageReturn_append_cons plain, ?_⟩
    unfold stripCarriageReturn
    split
    · rename_i ended
      obtain ⟨initial, rfl⟩ := List.getLast?_eq_some_iff.mp ended
      rw [List.dropLast_concat]
      refine ⟨by simp, fun member => ?_⟩
      have within : '=' ∈ initial := by simpa using member
      exact (takeWhile_append_of_mem within _).symm
    · exact ⟨.rfl, fun _ => rfl⟩

/-- One line in its place decides whether two summaries are the same. -/
theorem redactSummary_embedded_iff {line instead : List Char} (lineShape : '\n' ∉ line)
    (insteadShape : '\n' ∉ instead) (lineNonempty : line ≠ []) (insteadNonempty : instead ≠ [])
    (closed : Closed before) (opens : Opens after) :
    redactSummary (before ++ line ++ after) = redactSummary (before ++ instead ++ after) ↔
      redactLine (lineBefore after line) = redactLine (lineBefore after instead) := by
  obtain ⟨start, finish, shape⟩ := intercalate_middle ['\n'] ((lines before).map redactLine)
    ((lines (after.drop 1)).map redactLine)
  rw [redactSummary, redactSummary, lines_embedded closed opens lineShape lineNonempty,
    lines_embedded closed opens insteadShape insteadNonempty]
  simp only [List.map_append, List.map_cons, shape, List.append_cancel_right_eq,
    List.append_cancel_left_eq]

/-- A name that is kept whole is longer than one that is trimmed. -/
theorem kept_ne_trimmed (kept : List Char) :
    trimEnd name ++ redactedValue ≠ name ++ ':' :: (kept ++ redactedValue) := by
  intro same
  have lengths := congrArg List.length same
  have shorter := length_trimEnd_le name
  simp only [List.length_append, List.length_cons] at lengths
  omega

/-- For which pairs of values a sensitive line hides the difference: always after an
equals sign; after a colon only when an equals sign gives nothing away. -/
theorem redactSummary_hides_iff (separates : separator = '=' ∨ separator = ':')
    (marked : sensitive name = true) (noEquals : '=' ∉ name) (noColon : ':' ∉ name)
    (noNewline : '\n' ∉ name) (valueLine : '\n' ∉ value) (otherLine : '\n' ∉ other)
    (closed : Closed before) (opens : Opens after) :
    redactSummary (before ++ (name ++ separator :: value) ++ after) =
        redactSummary (before ++ (name ++ separator :: other) ++ after) ↔
      separator = '=' ∨ ('=' ∉ value ∧ '=' ∉ other) ∨
        ('=' ∈ value ∧ '=' ∈ other ∧
          trimEnd (value.takeWhile (· ≠ '=')) = trimEnd (other.takeWhile (· ≠ '='))) := by
  have plain : separator ≠ '\r' ∧ separator ≠ '\n' := by
    rcases separates with rfl | rfl <;> decide
  rw [redactSummary_embedded_iff (by simp [noNewline, valueLine, Ne.symm plain.2])
    (by simp [noNewline, otherLine, Ne.symm plain.2]) (by simp) (by simp) closed opens]
  obtain ⟨left, leftShape, leftCut, leftText⟩ := @lineBefore_assignment name value _
    after plain.1
  obtain ⟨right, rightShape, rightCut, rightText⟩ := @lineBefore_assignment name other _
    after plain.1
  rw [leftShape, rightShape]
  rcases separates with rfl | rfl
  · simp [redactLine_equals marked noEquals]
  · by_cases valueCut : '=' ∈ value
    · rw [redactLine_colon_equals marked noEquals (leftCut.mpr valueCut), leftText valueCut]
      by_cases otherCut : '=' ∈ other
      · rw [redactLine_colon_equals marked noEquals (rightCut.mpr otherCut), rightText otherCut]
        simp [valueCut, otherCut]
      · rw [redactLine_colon marked noEquals noColon (fun cut => otherCut (rightCut.mp cut))]
        simp [valueCut, otherCut, Ne.symm (kept_ne_trimmed _)]
    · rw [redactLine_colon marked noEquals noColon (fun cut => valueCut (leftCut.mp cut))]
      by_cases otherCut : '=' ∈ other
      · rw [redactLine_colon_equals marked noEquals (rightCut.mpr otherCut), rightText otherCut]
        simp [valueCut, otherCut, kept_ne_trimmed]
      · rw [redactLine_colon marked noEquals noColon (fun cut => otherCut (rightCut.mp cut))]
        simp [valueCut, otherCut]

end Assignments

/-- A password in a connection string shows up to its first equals sign. -/
theorem redactSummary_shows_value :
    redactSummary "x\npassword: hunter2?mode=on\ny".toList =
        "x\npassword: hunter2?mode=[REDACTED]\ny".toList ∧
      redactSummary "x\npassword: hunter2?mode=on\ny".toList ≠
        redactSummary "x\npassword: letmein?mode=on\ny".toList := by
  decide

theorem redactSummary_hides_iff_colon :
    redactSummary ("x\n".toList ++ ("password".toList ++ ':' :: "a".toList) ++ "\ny".toList) =
        redactSummary ("x\n".toList ++ ("password".toList ++ ':' :: "b".toList) ++
          "\ny".toList) ↔
      ':' = '=' ∨ ('=' ∉ "a".toList ∧ '=' ∉ "b".toList) ∨
        ('=' ∈ "a".toList ∧ '=' ∈ "b".toList ∧
          trimEnd ("a".toList.takeWhile (· ≠ '=')) = trimEnd ("b".toList.takeWhile (· ≠ '='))) :=
  redactSummary_hides_iff (.inr rfl) (by decide) (by decide) (by decide) (by decide) (by decide)
    (by decide) (.inr rfl) (.inr rfl)

end TaskAttest
