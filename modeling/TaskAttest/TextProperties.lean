import TaskAttest.PathProperties
import TaskAttest.Text
import Mathlib.Data.List.TakeWhile

/-! Laws of lines, of trimming and of lossy decoding. -/

set_option autoImplicit false

namespace TaskAttest

/-! Lines -/

/-- A text that a line may follow. -/
def Closed (text : List Char) : Prop := text = [] ∨ text.getLast? = some '\n'

/-- A text that may follow a line. -/
def Opens (text : List Char) : Prop := text = [] ∨ text.head? = some '\n'

private theorem lines_append {before : List Char} (closed : Closed before) (rest : List Char) :
    lines (before ++ rest) = lines before ++ lines rest := by
  rcases closed with rfl | ended
  · rfl
  · obtain ⟨initial, rfl⟩ := List.getLast?_eq_some_iff.mp ended
    have nonempty := splitOnChar_ne_nil '\n' rest
    obtain ⟨last, found⟩ :=
      Option.ne_none_iff_exists'.mp (List.getLast?_eq_none_iff.not.mpr nonempty)
    unfold lines
    rw [List.append_assoc, List.singleton_append, splitOnChar_append, splitOnChar_append]
    simp [splitOnChar, List.dropLast_append_of_ne_nil nonempty, List.getLast?_append, found]

theorem lines_terminated {line : List Char} (noNewline : '\n' ∉ line) (rest : List Char) :
    lines (line ++ '\n' :: rest) = stripCarriageReturn line :: lines rest := by
  have whole : lines (line ++ ['\n']) = [stripCarriageReturn line] := by
    unfold lines
    rw [splitOnChar_append, splitOnChar_of_not_mem noNewline]
    simp [splitOnChar]
  have closed : Closed (line ++ ['\n']) := .inr (by simp)
  rw [List.append_cons, lines_append closed, whole, List.singleton_append]

theorem lines_unterminated {line : List Char} (noNewline : '\n' ∉ line) (nonempty : line ≠ []) :
    lines line = [line] := by
  unfold lines
  rw [splitOnChar_of_not_mem noNewline]
  simp [nonempty]

/-- The carriage return of a line goes only when the line is terminated. -/
def lineBefore (after line : List Char) : List Char :=
  if after = [] then line else stripCarriageReturn line

/-- One line in its place. -/
theorem lines_embedded {before line after : List Char} (closed : Closed before)
    (opens : Opens after) (noNewline : '\n' ∉ line) (nonempty : line ≠ []) :
    lines (before ++ line ++ after) =
      lines before ++ lineBefore after line :: lines (after.drop 1) := by
  rw [List.append_assoc, lines_append closed]
  congr 1
  rcases opens with rfl | started
  · rw [List.append_nil, lines_unterminated noNewline nonempty]
    rfl
  · cases after with
    | nil => cases started
    | cons first rest =>
        cases started
        rw [lines_terminated noNewline]
        rfl

theorem stripCarriageReturn_append_cons {name value : List Char} {separator : Char}
    (plain : separator ≠ '\r') :
    stripCarriageReturn (name ++ separator :: value) =
      name ++ separator :: stripCarriageReturn value := by
  cases ended : value.getLast? with
  | none =>
      rw [List.getLast?_eq_none_iff] at ended
      subst ended
      simp [stripCarriageReturn, plain]
  | some last =>
      obtain ⟨initial, rfl⟩ := List.getLast?_eq_some_iff.mp ended
      have whole : name ++ separator :: (initial ++ [last]) =
          (name ++ separator :: initial) ++ [last] := by simp
      simp only [whole, stripCarriageReturn, List.getLast?_concat, List.dropLast_concat]
      split <;> simp

/-- A separated text with one piece in its place. -/
theorem intercalate_middle (separator : List Char) (before after : List (List Char)) :
    ∃ start finish, ∀ piece, separator.intercalate (before ++ piece :: after) =
      start ++ piece ++ finish := by
  induction before with
  | nil =>
      cases after with
      | nil => exact ⟨[], [], fun piece => by simp⟩
      | cons next rest =>
          refine ⟨[], separator ++ separator.intercalate (next :: rest), fun piece => ?_⟩
          simp [List.intercalate]
  | cons first rest ih =>
      obtain ⟨start, finish, shape⟩ := ih
      refine ⟨first ++ separator ++ start, finish, fun piece => ?_⟩
      have step : separator.intercalate (first :: (rest ++ piece :: after)) =
          first ++ separator ++ separator.intercalate (rest ++ piece :: after) := by
        cases rest <;> simp [List.intercalate]
      rw [List.cons_append, step, shape]
      simp

/-! Pieces of a text -/

theorem containsText_iff {marker text : List Char} :
    containsText marker text = true ↔ marker <:+: text := by
  induction text with
  | nil => simp [containsText]
  | cons character rest ih =>
      simp [containsText, ih, List.infix_cons_iff]

/-- A piece lies where its first character can be. -/
theorem infix_of_infix_append {piece left right : List Char} {first : Char}
    (absent : first ∉ left) (found : first :: piece <:+: left ++ right) :
    first :: piece <:+: right := by
  induction left with
  | nil => exact found
  | cons character rest ih =>
      rw [List.mem_cons, not_or] at absent
      rcases List.infix_cons_iff.mp found with begins | later
      · exact absurd (List.cons_prefix_cons.mp begins).1 absent.1
      · exact ih absent.2 later

/-! Text up to a character -/

theorem takeWhile_append_of_not_mem {left : List Char} {stop : Char} (absent : stop ∉ left)
    (right : List Char) :
    (left ++ right).takeWhile (· ≠ stop) = left ++ right.takeWhile (· ≠ stop) := by
  apply List.takeWhile_append_of_pos
  intro character member
  have different : character ≠ stop := by
    intro same
    rw [same] at member
    exact absent member
  simpa using different

theorem takeWhile_append_of_mem {left : List Char} {stop : Char} (present : stop ∈ left)
    (right : List Char) : (left ++ right).takeWhile (· ≠ stop) = left.takeWhile (· ≠ stop) := by
  induction left with
  | nil => cases present
  | cons first rest ih =>
      by_cases same : first = stop
      · simp [same]
      · have later : stop ∈ rest := by
          rcases List.mem_cons.mp present with here | later
          · exact absurd here.symm same
          · exact later
        simpa [same] using ih later

/-- A separator that a piece does not contain does not cut its occurrences. -/
theorem infix_of_infix_append_cons {piece left right : List Char} {separator : Char}
    (absent : separator ∉ piece) (found : piece <:+: left ++ separator :: right) :
    piece <:+: left ∨ piece <:+: right := by
  obtain ⟨start, finish, shape⟩ := found
  rcases List.append_eq_append_iff.mp shape with ⟨between, within, _⟩ | ⟨beyond, crosses, ends⟩
  · exact .inl ⟨start, between, within.symm⟩
  · rcases List.cons_eq_append_iff.mp ends with ⟨rfl, _⟩ | ⟨rest, rfl, rfl⟩
    · exact .inl ⟨start, [], by rw [crosses]; simp⟩
    · rcases List.append_eq_append_iff.mp crosses with ⟨between, _, cut⟩ | ⟨beyond, _, later⟩
      · exact absurd (by simp [cut]) absent
      · rcases List.cons_eq_append_iff.mp later with ⟨rfl, cut⟩ | ⟨skipped, rfl, rfl⟩
        · exact absurd (by simp [cut]) absent
        · exact .inr ⟨skipped, finish, rfl⟩

/-! Trimming -/

theorem trimEnd_append_cons {name rest : List Char} {character : Char}
    (visible : isWhitespace character = false) :
    trimEnd (name ++ character :: rest) = name ++ character :: trimEnd rest := by
  unfold trimEnd
  rw [List.reverse_append, List.reverse_cons, List.append_assoc]
  cases spaces : rest.reverse.dropWhile isWhitespace with
  | nil =>
      have all := List.dropWhile_eq_nil_iff.mp spaces
      rw [List.dropWhile_append_of_pos all]
      simp [visible]
  | cons first others =>
      have split : (rest.reverse ++ ([character] ++ name.reverse)).dropWhile isWhitespace =
          rest.reverse.dropWhile isWhitespace ++ ([character] ++ name.reverse) := by
        rw [List.dropWhile_append, if_neg (by simp [spaces])]
      rw [split, spaces]
      simp

theorem length_trimEnd_le (text : List Char) : (trimEnd text).length ≤ text.length := by
  unfold trimEnd
  rw [List.length_reverse]
  exact Nat.le_trans (List.dropWhile_sublist _).length_le (Nat.le_of_eq List.length_reverse)

theorem trimEnd_isPrefixOf (text : List Char) : trimEnd text <+: text := by
  unfold trimEnd
  rw [← List.reverse_suffix, List.reverse_reverse]
  exact List.dropWhile_suffix _

private theorem trimEnd_append_blank {blanks : List Char}
    (blank : ∀ character ∈ blanks, isWhitespace character = true) (text : List Char) :
    trimEnd (text ++ blanks) = trimEnd text := by
  unfold trimEnd
  rw [List.reverse_append, List.dropWhile_append_of_pos]
  intro character member
  exact blank character (List.mem_reverse.mp member)

/-- A text that begins with a visible character, between blanks. -/
theorem trim_surrounded {before after : List Char} {first : Char}
    (blankBefore : ∀ character ∈ before, isWhitespace character = true)
    (blankAfter : ∀ character ∈ after, isWhitespace character = true)
    (visible : isWhitespace first = false) (rest : List Char) :
    trim (before ++ first :: rest ++ after) = first :: trimEnd rest := by
  have start : trimStart (before ++ first :: rest ++ after) = first :: rest ++ after := by
    rw [trimStart, List.append_assoc, List.dropWhile_append_of_pos blankBefore, List.cons_append,
      List.dropWhile_cons, if_neg (by simp [visible])]
  rw [trim, start, trimEnd_append_blank blankAfter]
  exact @trimEnd_append_cons [] rest first visible

theorem mem_trimEnd {character : Char} (visible : isWhitespace character = false)
    {text : List Char} : character ∈ trimEnd text ↔ character ∈ text := by
  constructor
  · exact fun member => (trimEnd_isPrefixOf text).subset member
  · intro member
    obtain ⟨left, right, rfl⟩ := List.append_of_mem member
    rw [trimEnd_append_cons visible]
    simp

/-- A piece with a visible first character is not cut by trimming. -/
theorem infix_trimStart {piece text : List Char} {first : Char}
    (visible : isWhitespace first = false) (found : first :: piece <:+: text) :
    first :: piece <:+: trimStart text := by
  obtain ⟨left, right, rfl⟩ := found
  rw [trimStart, List.append_assoc, List.dropWhile_append]
  split
  · rw [List.cons_append, List.dropWhile_cons, if_neg (by simp [visible])]
    exact (List.prefix_append (first :: piece) right).isInfix
  · exact ⟨left.dropWhile isWhitespace, right, List.append_assoc ..⟩

theorem infix_trimEnd {piece text : List Char} {last : Char}
    (visible : isWhitespace last = false) (found : piece ++ [last] <:+: text) :
    piece ++ [last] <:+: trimEnd text := by
  have reversed : last :: piece.reverse <:+: text.reverse := by
    have flipped := List.reverse_infix.mpr found
    rwa [List.reverse_append] at flipped
  have kept := infix_trimStart visible reversed
  unfold trimEnd
  rw [← List.reverse_infix, List.reverse_reverse, List.reverse_append]
  exact kept

theorem splitOnce_append {separator : Char} {left : List Char} (absent : separator ∉ left)
    (right : List Char) :
    splitOnce separator (left ++ separator :: right) = some (left, right) := by
  have taken : (left ++ separator :: right).takeWhile (· ≠ separator) = left := by
    rw [takeWhile_append_of_not_mem absent]
    simp
  have dropped : (left ++ separator :: right).dropWhile (· ≠ separator) = separator :: right := by
    have whole := (left ++ separator :: right).takeWhile_append_dropWhile (p := (· ≠ separator))
    rw [taken] at whole
    exact List.append_cancel_left whole
  rw [splitOnce, if_pos (by simp), taken, dropped]
  rfl

end TaskAttest
