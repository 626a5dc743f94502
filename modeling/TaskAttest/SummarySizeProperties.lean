import Mathlib.Algebra.BigOperators.Group.List.Basic
import Mathlib.Algebra.GroupWithZero.Nat
import TaskAttest.RunReceiptProperties
import TaskAttest.TailProperties

/-! How long a summary is: decoding and redaction change the length of the tail
it is made from. -/

set_option autoImplicit false

namespace TaskAttest

/-! Lossy decoding -/

/-- The ill-formed pieces of a byte string, in the order they are replaced. -/
def illFormedPieces : Nat → List UInt8 → List (List UInt8)
  | 0, _ => []
  | _ + 1, [] => []
  | fuel + 1, lead :: rest =>
      if lead.toNat < 0x80 then illFormedPieces fuel rest
      else
        match sequenceShape lead with
        | none => [lead] :: illFormedPieces fuel rest
        | some (count, low, high) =>
            let others := sequenceBytes count low high rest
            let later := illFormedPieces fuel (rest.drop others.length)
            if others.length + 1 = count then later else (lead :: others) :: later

/-- The bytes that decoding adds: a replacement takes three. -/
def replacementGrowth (bytes : List UInt8) : Nat :=
  ((illFormedPieces bytes.length bytes).map fun piece => 3 - piece.length).sum

private theorem utf8Size_ofNat {code : Nat} (valid : code.isValidChar) :
    (Char.ofNat code).utf8Size =
      if code ≤ 0x7f then 1 else if code ≤ 0x7ff then 2 else if code ≤ 0xffff then 3 else 4 := by
  have value : (Char.ofNat code).val.toNat = code := by
    rw [Char.ofNat, dif_pos valid]
    rfl
  simp only [Char.utf8Size, UInt32.le_iff_toNat_le, value]
  rfl

section Sequences

variable {lead : UInt8} {rest : List UInt8} {count low high : Nat}

private theorem sequenceBytes_spec (length : 2 ≤ count) :
    (sequenceBytes count low high rest).length + 1 ≤ count ∧
      (sequenceBytes count low high rest).length ≤ rest.length ∧
      ∀ second others, sequenceBytes count low high rest = second :: others →
        low ≤ second.toNat ∧ second.toNat ≤ high := by
  unfold sequenceBytes
  split
  · exact ⟨by simp; omega, Nat.zero_le _, nofun⟩
  · rename_i second others
    split
    · rename_i allowed
      have taken := (List.takeWhile_sublist isContinuation (l := others.take (count - 2))).length_le
      rw [List.length_take] at taken
      refine ⟨by simp only [List.length_cons]; omega, by simp only [List.length_cons]; omega, ?_⟩
      intro first later same
      cases same
      exact allowed
    · exact ⟨by simp; omega, Nat.zero_le _, nofun⟩

/-- A lead and the range of its second byte leave out overlong sequences, surrogates
and what lies past the last code point. -/
theorem sequenceShape_spec (shape : sequenceShape lead = some (count, low, high)) :
    0x80 ≤ low ∧ high ≤ 0xbf ∧
      (count = 2 ∧ 0xc2 ≤ lead.toNat ∧ lead.toNat ≤ 0xdf ∨
        count = 3 ∧ 0xe0 ≤ lead.toNat ∧ lead.toNat ≤ 0xef ∧ (lead.toNat = 0xe0 → 0xa0 ≤ low) ∧
          (lead.toNat = 0xed → high ≤ 0x9f) ∨
        count = 4 ∧ 0xf0 ≤ lead.toNat ∧ lead.toNat ≤ 0xf4 ∧ (lead.toNat = 0xf0 → 0x90 ≤ low) ∧
          (lead.toNat = 0xf4 → high ≤ 0x8f)) := by
  simp only [sequenceShape] at shape
  repeat' split at shape
  all_goals cases shape <;> omega

/-- A complete sequence is as long as the encoding of its character. -/
theorem utf8Size_decodeSequence (shape : sequenceShape lead = some (count, low, high))
    (complete : (sequenceBytes count low high rest).length + 1 = count) :
    (decodeSequence lead (sequenceBytes count low high rest)).utf8Size = count := by
  obtain ⟨lowest, highest, kinds⟩ := sequenceShape_spec shape
  obtain ⟨_, _, allowed⟩ := @sequenceBytes_spec rest count low high (by omega)
  rcases others : sequenceBytes count low high rest with _ | ⟨second, later⟩
  · rw [others, List.length_nil] at complete
    omega
  · rw [others, List.length_cons] at complete
    have range := allowed second later others
    rcases kinds with ⟨rfl, kind⟩ | ⟨rfl, kind⟩ | ⟨rfl, kind⟩
    · obtain rfl : later = [] := List.length_eq_zero_iff.mp (by omega)
      simp only [decodeSequence, List.length_cons, List.length_nil, List.foldl_cons, List.foldl_nil]
      rw [utf8Size_ofNat (by simp only [Nat.isValidChar]; omega), if_neg (by omega),
        if_pos (by omega)]
    · obtain ⟨third, rfl⟩ := List.length_eq_one_iff.mp (by omega : later.length = 1)
      simp only [decodeSequence, List.length_cons, List.length_nil, List.foldl_cons, List.foldl_nil]
      rw [utf8Size_ofNat (by simp only [Nat.isValidChar]; omega), if_neg (by omega),
        if_neg (by omega), if_pos (by omega)]
    · obtain ⟨third, fourth, rfl⟩ := List.length_eq_two.mp (by omega : later.length = 2)
      simp only [decodeSequence, List.length_cons, List.length_nil, List.foldl_cons, List.foldl_nil]
      rw [utf8Size_ofNat (by simp only [Nat.isValidChar]; omega), if_neg (by omega),
        if_neg (by omega), if_neg (by omega)]

private theorem length_utf8_cons (character : Char) (text : List Char) :
    (utf8 (character :: text)).length = character.utf8Size + (utf8 text).length := by
  have step : utf8 (character :: text) = String.utf8EncodeChar character ++ utf8 text := rfl
  rw [step, List.length_append, String.length_utf8EncodeChar]

/-- Decoding keeps the length of well-formed sequences and makes three bytes of every
ill-formed piece. -/
theorem length_decodeLossy {fuel : Nat} {bytes : List UInt8} (enough : bytes.length ≤ fuel) :
    (utf8 (decodeLossy fuel bytes)).length =
      bytes.length + ((illFormedPieces fuel bytes).map fun piece => 3 - piece.length).sum := by
  have replaced : replacementCharacter.utf8Size = 3 := by decide
  induction fuel generalizing bytes with
  | zero =>
      obtain rfl := List.length_eq_zero_iff.mp (Nat.le_zero.mp enough)
      rfl
  | succ fuel ih =>
      cases bytes with
      | nil => rfl
      | cons lead rest =>
          have shorter : rest.length ≤ fuel := Nat.le_of_succ_le_succ enough
          simp only [decodeLossy, illFormedPieces, List.length_cons]
          by_cases ascii : lead.toNat < 0x80
          · have single : (Char.ofNat lead.toNat).utf8Size = 1 := by
              rw [utf8Size_ofNat (by simp only [Nat.isValidChar]; omega), if_pos (by omega)]
            rw [if_pos ascii, if_pos ascii, length_utf8_cons, ih shorter, single]
            omega
          · rw [if_neg ascii, if_neg ascii]
            cases shape : sequenceShape lead with
            | none =>
                simp only [length_utf8_cons, ih shorter, replaced, List.map_cons, List.sum_cons,
                  List.length_singleton]
                omega
            | some found =>
                obtain ⟨count, low, high⟩ := found
                obtain ⟨_, _, kinds⟩ := sequenceShape_spec shape
                obtain ⟨within, taken, _⟩ := @sequenceBytes_spec rest count low high (by omega)
                have later : (rest.drop (sequenceBytes count low high rest).length).length ≤ fuel :=
                  (List.drop_sublist ..).length_le.trans shorter
                simp only [length_utf8_cons, ih later, List.length_drop]
                by_cases complete : (sequenceBytes count low high rest).length + 1 = count
                · rw [if_pos complete, if_pos complete, utf8Size_decodeSequence shape complete]
                  omega
                · rw [if_neg complete, if_neg complete, replaced]
                  simp only [List.map_cons, List.sum_cons, List.length_cons]
                  omega

private theorem length_fromUtf8Lossy (bytes : List UInt8) :
    (utf8 (fromUtf8Lossy bytes)).length = bytes.length + replacementGrowth bytes :=
  length_decodeLossy (Nat.le_refl _)

end Sequences

/-! Lines -/

/-- The bytes of line ends that no line and no separator keeps: carriage returns before
a newline, and a newline at the end. -/
def droppedLineEnds (text : List Char) : Nat :=
  ((splitOnChar '\n' text).dropLast.countP fun line => line.getLast? = some '\r') +
    if text.getLast? = some '\n' then 1 else 0

private theorem length_stripCarriageReturn (line : List Char) :
    (utf8 (stripCarriageReturn line)).length + (if line.getLast? = some '\r' then 1 else 0) =
      (utf8 line).length := by
  unfold stripCarriageReturn
  by_cases ended : line.getLast? = some '\r'
  · obtain ⟨initial, rfl⟩ := List.getLast?_eq_some_iff.mp ended
    have single : (utf8 ['\r']).length = 1 := by decide
    rw [if_pos ended, if_pos ended, List.dropLast_concat, utf8_append, List.length_append, single]
  · rw [if_neg ended, if_neg ended, Nat.add_zero]

private theorem length_utf8_intercalate (first : List Char) (others : List (List Char)) :
    (utf8 (['\n'].intercalate (first :: others))).length =
      ((first :: others).map fun line => (utf8 line).length).sum + others.length := by
  have newline : (utf8 ['\n']).length = 1 := by decide
  induction others generalizing first with
  | nil => simp
  | cons second others ih =>
      have step : ['\n'].intercalate (first :: second :: others) =
          first ++ ['\n'] ++ ['\n'].intercalate (second :: others) := by simp [List.intercalate]
      rw [step, utf8_append, utf8_append, List.length_append, List.length_append, newline, ih]
      simp only [List.map_cons, List.sum_cons, List.length_cons]
      omega

private theorem droppedLineEnds_terminated {line : List Char} (noNewline : '\n' ∉ line)
    {rest : List Char} (more : rest ≠ []) :
    droppedLineEnds (line ++ '\n' :: rest) =
      (if line.getLast? = some '\r' then 1 else 0) + droppedLineEnds rest := by
  have last : (line ++ '\n' :: rest).getLast? = rest.getLast? := by
    rw [List.append_cons, List.getLast?_append_of_ne_nil _ more]
  rw [droppedLineEnds, last, splitOnChar_append, splitOnChar_of_not_mem noNewline,
    List.singleton_append, List.dropLast_cons_of_ne_nil (splitOnChar_ne_nil _ _), List.countP_cons,
    droppedLineEnds]
  simp only [decide_eq_true_eq]
  omega

private theorem lines_ne_nil {text : List Char} (nonempty : text ≠ []) : lines text ≠ [] := by
  by_cases newline : '\n' ∈ text
  · obtain ⟨line, rest, rfl, noNewline⟩ := List.eq_append_cons_of_mem newline
    rw [lines_terminated noNewline]
    exact List.cons_ne_nil _ _
  · rw [lines_unterminated newline nonempty]
    exact List.cons_ne_nil _ _

/-- Joined lines are the text without the line ends that are dropped. -/
theorem length_joined_lines (text : List Char) :
    (utf8 (['\n'].intercalate (lines text))).length + droppedLineEnds text =
      (utf8 text).length := by
  induction size : text.length using Nat.strong_induction_on generalizing text with
  | _ size ih =>
    by_cases newline : '\n' ∈ text
    · obtain ⟨line, rest, rfl, noNewline⟩ := List.eq_append_cons_of_mem newline
      have stripped := length_stripCarriageReturn line
      have single : (utf8 ['\n']).length = 1 := by decide
      rw [lines_terminated noNewline, List.append_cons line '\n' rest, utf8_append, utf8_append,
        List.length_append, List.length_append, single, ← List.append_cons]
      cases rest with
      | nil =>
          have dropped : droppedLineEnds (line ++ ['\n']) =
              (if line.getLast? = some '\r' then 1 else 0) + 1 := by
            simp [droppedLineEnds, splitOnChar_append, splitOnChar_of_not_mem noNewline,
              splitOnChar]
          have none_ : lines [] = [] := rfl
          rw [dropped, none_, List.intercalate_singleton]
          simp only [utf8_nil, List.length_nil]
          omega
      | cons first others =>
          have later := ih _ (by simp [← size]; omega) (first :: others) rfl
          have more : first :: others ≠ [] := List.cons_ne_nil _ _
          rw [droppedLineEnds_terminated noNewline more]
          obtain ⟨next, following, shape⟩ := List.exists_cons_of_ne_nil (lines_ne_nil more)
          rw [shape] at later ⊢
          rw [length_utf8_intercalate] at later ⊢
          simp only [List.map_cons, List.sum_cons, List.length_cons] at later ⊢
          omega
    · cases text with
      | nil => rfl
      | cons first others =>
          have dropped : droppedLineEnds (first :: others) = 0 := by
            have last : (first :: others).getLast? ≠ some '\n' :=
              fun ended => newline (List.mem_of_getLast? ended)
            simp [droppedLineEnds, splitOnChar_of_not_mem newline, last]
          rw [lines_unterminated newline (List.cons_ne_nil _ _), dropped,
            List.intercalate_singleton, Nat.add_zero]

/-! Redaction -/

/-- The length of what stands for a sensitive line: the text before the first separator
and a mark, or a text that stands for the whole line. -/
def substituteLength (line : List Char) : Nat :=
  match assignmentName? line with
  | some name => (utf8 (trimEnd name)).length + (utf8 "=[REDACTED]".toList).length
  | none => (utf8 "[REDACTED SENSITIVE LINE]".toList).length

/-- The bytes that redaction adds to a line. -/
def lineGrowth (line : List Char) : Nat :=
  if sensitive line then substituteLength line - (utf8 line).length else 0

/-- The bytes that redaction takes from a line. -/
def lineShrinkage (line : List Char) : Nat :=
  if sensitive line then (utf8 line).length - substituteLength line else 0

private theorem length_redactLine (line : List Char) :
    (utf8 (redactLine line)).length + lineShrinkage line =
      (utf8 line).length + lineGrowth line := by
  cases marked : sensitive line with
  | false => simp [redactLine, lineShrinkage, lineGrowth, marked]
  | true =>
      have substitute : (utf8 (redactLine line)).length = substituteLength line := by
        rw [redactLine, marked, substituteLength]
        cases assignmentName? line <;> simp
      rw [substitute, lineShrinkage, lineGrowth, marked, if_pos rfl, if_pos rfl]
      omega

/-- How the lengths of the lines add up to that of the summary. -/
theorem length_redactSummary (text : List Char) :
    (utf8 (redactSummary text)).length + droppedLineEnds text +
        ((lines text).map lineShrinkage).sum =
      (utf8 text).length + ((lines text).map lineGrowth).sum := by
  have joined := length_joined_lines text
  have redacted (found : List (List Char)) :
      ((found.map redactLine).map fun line => (utf8 line).length).sum +
          (found.map lineShrinkage).sum =
        (found.map fun line => (utf8 line).length).sum + (found.map lineGrowth).sum := by
    induction found with
    | nil => rfl
    | cons line others ih =>
        have first := length_redactLine line
        simp only [List.map_cons, List.sum_cons]
        omega
  have whole := redacted (lines text)
  rw [redactSummary]
  cases shape : lines text with
  | nil =>
      rw [shape] at joined
      simpa using joined
  | cons first others =>
      rw [shape] at joined whole
      rw [List.map_cons, length_utf8_intercalate, ← List.map_cons, List.length_map]
      rw [length_utf8_intercalate] at joined
      omega

/-! The summaries of a check -/

/-- What decoding and redaction add to the tail of a stream fits in the room that the
tail leaves and in what redaction and the line ends give back. -/
def SummaryFits (stream : List UInt8) : Prop :=
  let tail := lastBytes stream
  let text := fromUtf8Lossy tail
  replacementGrowth tail + ((lines text).map lineGrowth).sum ≤
    (summaryBytes - tail.length) + droppedLineEnds text + ((lines text).map lineShrinkage).sum

section Summaries

variable [Sha2]

private theorem length_tailSummary_le_iff {path : String} {maxLogBytes : UInt64}
    {stream : List UInt8}
    {capture : Capture} (captures : CaptureThread.CapturesStream path maxLogBytes stream capture) :
    (textBytes (tailSummary capture)).length ≤ summaryBytes ↔ SummaryFits stream := by
  have redacted := length_redactSummary (fromUtf8Lossy (lastBytes stream))
  have decoded := length_fromUtf8Lossy (lastBytes stream)
  have short : (lastBytes stream).length ≤ summaryBytes := by
    rw [length_lastBytes]
    exact Nat.min_le_right ..
  rw [textBytes, tailSummary, String.toList_ofList, CaptureThread.capturesStream_tail captures]
  simp only [SummaryFits]
  omega

/-- The two summaries of a check that was spawned stay within their bound exactly when
each fits; the threads have hashed the streams that the child has written. -/
theorem executeCheck_summaries_bounded_iff {world : World} {here : CheckWorld}
    {store : StateStore} {check : CheckDefinition} {maxLogBytes : UInt64}
    {execution : CheckExecution} {before after : RunState} (spawns : here.spawn = none)
    (ran : executeCheck world here store check maxLogBytes before = .ok execution after) :
    ∃ ended : SuperviseState, after.supervised = before.supervised ++ [(check, ended)] ∧
      ((textBytes execution.stdoutSummary).length ≤ summaryBytes ∧
          (textBytes execution.stderrSummary).length ≤ summaryBytes ↔
        SummaryFits ended.stdout.hashed ∧ SummaryFits ended.stderr.hashed) := by
  obtain ⟨_, paths, created, creating, ⟨error, fails, _⟩ | ⟨_, spawned, starting, supervising⟩⟩ :=
    executeCheck_cases ran
  · rw [spawns] at fails
    cases fails
  · obtain ⟨supervision, _, _, stdout, stderr, _, _, _, _, returned, _, _, rfl, rfl⟩ :=
      supervisedExecution_cases supervising
    obtain ⟨stdoutCaptures, stderrCaptures⟩ := supervision_capturesStream returned
    have supervised : spawned.supervised = before.supervised := by
      obtain ⟨_, _, spawnedShape⟩ := spawnChild_ok starting
      rw [spawnedShape, (createCaptureFiles_ok creating).2]
      rfl
    refine ⟨supervision.ended, ?_, ?_⟩
    · simp only [RunState.observed, RunState.supervisedBy, supervised]
    · simp only [length_tailSummary_le_iff stdoutCaptures,
        length_tailSummary_le_iff stderrCaptures]

end Summaries

section Sample

/-- Bytes none of which begins a sequence. -/
def strayBytes : List UInt8 := List.replicate 2000 0x80

private theorem length_strayBytes : strayBytes.length = 2000 := List.length_replicate ..

private theorem strayBytes_ne_nil : strayBytes ≠ [] :=
  List.ne_nil_of_length_pos (by rw [length_strayBytes]; decide)

private theorem strayBytes_short : strayBytes.length ≤ summaryBytes := by
  rw [length_strayBytes]
  decide

def stray : Chunk := ⟨strayBytes, ⟨some 0⟩, strayBytes_ne_nil, strayBytes_short⟩

private theorem executeCheck_stray [Sha2] : ∃ after,
    executeCheck (stray.world fun _ => 1) stray.here quietStore quietCheck 65536
        (.start Disk.empty 0 0 false) =
      .ok (stray.execution (fun _ => 1) quietCheck 65536 0) after := by
  obtain ⟨after, ran, _⟩ := @Chunk.executeCheck_eq _ stray (fun _ => 1) quietCheck 65536
    (.start Disk.empty 0 0 false) rfl Chunk.fresh_empty rfl
  exact ⟨after, ran⟩

private theorem redactSummary_replicate {count : Nat} (positive : count ≠ 0) {character : Char}
    (sameLine : character ≠ '\n') : redactSummary (List.replicate count character) =
      List.replicate count character := by
  have noNewline : '\n' ∉ List.replicate count character := by
    intro member
    exact sameLine (List.eq_of_mem_replicate member).symm
  have nonempty : List.replicate count character ≠ [] := by simp [positive]
  rw [redactSummary, lines_unterminated noNewline nonempty, List.map_singleton,
    List.intercalate_singleton, redactLine, sensitive_replicate]
  rfl

private theorem length_stray_summary [Sha2] (path : String) :
    (textBytes (tailSummary (stray.capture path))).length = 6000 := by
  have continued : ∀ byte ∈ strayBytes, isContinuation byte = true := by
    intro byte member
    rw [List.eq_of_mem_replicate member]
    decide
  have decoded := fromUtf8Lossy_strays continued []
  have empty : fromUtf8Lossy [] = [] := rfl
  rw [List.append_nil, length_strayBytes, empty, List.append_nil] at decoded
  have size : replacementCharacter.utf8Size = 3 := by decide
  have tail : (stray.capture path).tail = strayBytes := rfl
  rw [textBytes, tailSummary, String.toList_ofList, tail, decoded,
    redactSummary_replicate (by decide) (by decide), length_utf8_replicate, size]

end Sample

section FixedHash

attribute [local instance] standardSha2

/-- Two thousand bytes that begin no sequence are summarised in six thousand. -/
theorem straySummary_exceeds_bound : ∃ execution after,
    executeCheck (stray.world fun _ => 1) stray.here quietStore quietCheck 65536
      (.start Disk.empty 0 0 false) = .ok execution after ∧
    stray.here.spawn = none ∧ summaryBytes < (textBytes execution.stdoutSummary).length := by
  obtain ⟨after, ran⟩ := executeCheck_stray
  refine ⟨_, after, ran, rfl, ?_⟩
  rw [Chunk.execution, length_stray_summary]
  decide

theorem executeCheck_summaries_bounded_iff_stray : ∃ execution after ended,
    executeCheck (stray.world fun _ => 1) stray.here quietStore quietCheck 65536
      (.start Disk.empty 0 0 false) = .ok execution after ∧
    after.supervised = [(quietCheck, ended)] ∧
    ((textBytes execution.stdoutSummary).length ≤ summaryBytes ∧
        (textBytes execution.stderrSummary).length ≤ summaryBytes ↔
      SummaryFits ended.stdout.hashed ∧ SummaryFits ended.stderr.hashed) := by
  obtain ⟨after, ran⟩ := executeCheck_stray
  obtain ⟨ended, supervised, bounded⟩ := executeCheck_summaries_bounded_iff rfl ran
  exact ⟨_, after, ended, ran, supervised, bounded⟩

end FixedHash

end TaskAttest
