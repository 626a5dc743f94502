import TaskAttest.Library.Json.Parse

/-! Every layout of an integral tree is read back as that tree. -/

set_option autoImplicit false

namespace Json

/-! Whitespace -/

private theorem skipWhitespace_append {blanks : List Char} (rest : List Char)
    (blank : ∀ character ∈ blanks, isWhitespace character = true) :
    skipWhitespace (blanks ++ rest) = skipWhitespace rest := by
  induction blanks with
  | nil => rfl
  | cons character blanks ih =>
      have head := blank character (List.mem_cons_self ..)
      simp only [List.cons_append, skipWhitespace, head, if_true]
      exact ih fun other member => blank other (List.mem_cons_of_mem _ member)

private theorem skipWhitespace_cons {character : Char} (rest : List Char)
    (visible : isWhitespace character = false) :
    skipWhitespace (character :: rest) = character :: rest := by
  simp [skipWhitespace, visible]

private theorem parseValue_blanks {blanks : List Char} (fuel depth : Nat) (rest : List Char)
    (blank : ∀ character ∈ blanks, isWhitespace character = true) :
    parseValue fuel depth (blanks ++ rest) = parseValue fuel depth rest := by
  cases fuel with
  | zero => simp only [parseValue]
  | succ fuel => simp only [parseValue, skipWhitespace_append rest blank]

private theorem parseMember_blanks {blanks : List Char} (fuel depth : Nat) (rest : List Char)
    (blank : ∀ character ∈ blanks, isWhitespace character = true) :
    parseMember fuel depth (blanks ++ rest) = parseMember fuel depth rest := by
  cases fuel with
  | zero => simp only [parseMember]
  | succ fuel => simp only [parseMember, skipWhitespace_append rest blank]

/-! Strings -/

private theorem hexValue?_hexDigit :
    ∀ value < 16, hexValue? (hexDigit value) = some value := by decide

private theorem escapeChar_ne_nil (character : Char) : escapeChar character ≠ [] := by
  unfold escapeChar
  split_ifs <;> simp

private theorem length_le_flatMap_escapeChar (text : List Char) :
    text.length ≤ (text.flatMap escapeChar).length := by
  induction text with
  | nil => simp
  | cons character rest ih =>
      have nonempty := List.length_pos_iff.mpr (escapeChar_ne_nil character)
      simp only [List.flatMap_cons, List.length_append, List.length_cons]
      omega

private theorem char_eq_of_toNat {character : Char} {code : Nat} (same : character.toNat = code) :
    Char.ofNat code = character := by
  rw [← same]
  exact Char.ofNat_toNat character

private theorem parseString_escapeChar (fuel : Nat) (character : Char) (rest : List Char) :
    parseString (fuel + 1) (escapeChar character ++ rest) =
      (parseString fuel rest).map fun parsed => (character :: parsed.1, parsed.2) := by
  have short : ∀ (mark : Char), parseEscape (mark :: rest) = some (character, rest) →
      parseString (fuel + 1) ('\\' :: mark :: rest) =
        (parseString fuel rest).map fun parsed => (character :: parsed.1, parsed.2) := by
    intro mark escape
    simp only [parseString, escape, Option.bind_eq_bind, Option.bind_some]
    cases parseString fuel rest with
    | none => rfl
    | some parsed => rfl
  unfold escapeChar
  split_ifs with quote backslash backspace formFeed newline return_ tab control
  · exact short _ (by rw [quote]; rfl)
  · exact short _ (by rw [backslash]; rfl)
  · exact short _ (by rw [← char_eq_of_toNat backspace]; rfl)
  · exact short _ (by rw [← char_eq_of_toNat formFeed]; rfl)
  · exact short _ (by rw [← char_eq_of_toNat newline]; rfl)
  · exact short _ (by rw [← char_eq_of_toNat return_]; rfl)
  · exact short _ (by rw [← char_eq_of_toNat tab]; rfl)
  · -- a control character without a short escape: two digits follow "\u00"
    have high := hexValue?_hexDigit (character.toNat / 16) (by omega)
    have low := hexValue?_hexDigit (character.toNat % 16) (by omega)
    have code : ((0 * 16 + 0) * 16 + character.toNat / 16) * 16 + character.toNat % 16 =
        character.toNat := by omega
    have zero : hexValue? '0' = some 0 := rfl
    have escape : parseEscape ('u' :: '0' :: '0' :: hexDigit (character.toNat / 16) ::
        hexDigit (character.toNat % 16) :: rest) = some (character, rest) := by
      simp only [parseEscape, parseUnit, zero, high, low, Option.bind_eq_bind, Option.bind_some,
        code]
      rw [if_neg (by omega), if_neg (by omega), Char.ofNat_toNat]
    simp only [List.cons_append, List.nil_append, parseString, escape, Option.bind_eq_bind,
      Option.bind_some]
    cases parseString fuel rest with
    | none => rfl
    | some parsed => rfl
  · simp only [List.cons_append, List.nil_append, parseString]
    rw [if_neg quote, if_neg backslash, if_neg control]
    cases parseString fuel rest with
    | none => rfl
    | some parsed => rfl

private theorem parseString_render (text rest : List Char) (fuel : Nat)
    (enough : text.length < fuel) :
    parseString fuel (text.flatMap escapeChar ++ '"' :: rest) = some (text, rest) := by
  induction text generalizing fuel with
  | nil =>
      obtain ⟨fuel, rfl⟩ := Nat.exists_eq_add_of_lt enough
      simp [parseString]
  | cons character tail ih =>
      cases fuel with
      | zero => simp at enough
      | succ fuel =>
          rw [List.flatMap_cons, List.append_assoc, parseString_escapeChar,
            ih fuel (by simpa using enough)]
          rfl

/-! Numbers -/

/-- The text after a number neither extends its digits nor starts a fraction or an exponent. -/
def NumberEnd (rest : List Char) : Prop :=
  ∀ character tail, rest = character :: tail →
    character.isDigit = false ∧ character ≠ '.' ∧ character ≠ 'e' ∧ character ≠ 'E'

private theorem numberEnd_nil : NumberEnd [] := by
  intro character tail same
  cases same

private theorem numberEnd_cons {character : Char} {rest : List Char}
    (ending : character.isDigit = false ∧ character ≠ '.' ∧ character ≠ 'e' ∧ character ≠ 'E') :
    NumberEnd (character :: rest) := by
  intro other tail same
  cases same
  exact ending

private theorem numberEnd_blanks {blanks rest : List Char}
    (blank : ∀ character ∈ blanks, isWhitespace character = true) (ending : NumberEnd rest) :
    NumberEnd (blanks ++ rest) := by
  cases blanks with
  | nil => exact ending
  | cons character tail =>
      have head := blank character (List.mem_cons_self ..)
      apply numberEnd_cons
      simp only [isWhitespace, Bool.or_eq_true, decide_eq_true_eq] at head
      rcases head with ((rfl | rfl) | rfl) | rfl <;> decide

private theorem spanDigits_append {digits rest : List Char}
    (allDigits : ∀ character ∈ digits, character.isDigit = true) (ending : NumberEnd rest) :
    spanDigits (digits ++ rest) = (digits, rest) := by
  induction digits with
  | nil =>
      cases rest with
      | nil => rfl
      | cons character tail => simp [spanDigits, (ending character tail rfl).1]
  | cons character digits ih =>
      have head := allDigits character (List.mem_cons_self ..)
      simp [spanDigits, head,
        ih fun other member => allDigits other (List.mem_cons_of_mem _ member)]

private theorem parseFraction_none {rest : List Char} (ending : NumberEnd rest) :
    parseFraction rest = some ([], rest) := by
  cases rest with
  | nil => rfl
  | cons character tail =>
      unfold parseFraction
      split
      · rename_i same
        exact absurd (List.cons.inj same).1 (ending character tail rfl).2.1
      · rfl

private theorem parseExponent_none {rest : List Char} (ending : NumberEnd rest) :
    parseExponent rest = some ([], rest) := by
  cases rest with
  | nil => rfl
  | cons character tail =>
      have mark := (ending character tail rfl).2.2
      simp [parseExponent, mark.1, mark.2]

private theorem toDigits_isDigit (magnitude : Nat) :
    ∀ character ∈ Nat.toDigits 10 magnitude, character.isDigit = true :=
  fun _ member => Nat.isDigit_of_mem_toDigits (by decide) (by decide) member

/-- Decimal notation has no leading zero. -/
theorem toDigits_head {magnitude : Nat} (zero : (Nat.toDigits 10 magnitude).head? = some '0') :
    (Nat.toDigits 10 magnitude).length = 1 := by
  induction magnitude using Nat.strongRecOn with
  | ind magnitude ih =>
      by_cases small : magnitude < 10
      · rw [Nat.toDigits_of_lt_base small]
        rfl
      · have split := Nat.toDigits_of_base_le (b := 10) (by decide) (Nat.le_of_not_lt small)
        have nonempty : Nat.toDigits 10 (magnitude / 10) ≠ [] := Nat.toDigits_ne_nil
        rw [split, List.head?_append_of_ne_nil _ nonempty] at zero
        have short := ih (magnitude / 10) (by omega) zero
        exfalso
        -- a single digit '0' in front means that the quotient is zero
        have value := Nat.ofDigitChars_ten_toDigits (n := magnitude / 10)
        obtain ⟨digit, single⟩ := List.length_eq_one_iff.mp short
        rw [single] at zero value
        simp only [List.head?_cons, Option.some.injEq] at zero
        subst zero
        have none : Nat.ofDigitChars 10 ['0'] 0 = 0 := by decide
        omega

private theorem parseUnsigned_toDigits (negative : Bool) (magnitude : Nat) {rest : List Char}
    (ending : NumberEnd rest) :
    parseUnsigned negative (Nat.toDigits 10 magnitude ++ rest) =
      some (integerOrFloat negative (Nat.toDigits 10 magnitude), rest) := by
  have nonempty : Nat.toDigits 10 magnitude ≠ [] := Nat.toDigits_ne_nil
  have wellFormed : ¬(Nat.toDigits 10 magnitude = [] ∨
      (Nat.toDigits 10 magnitude).head? = some '0' ∧ (Nat.toDigits 10 magnitude).length ≠ 1) := by
    rintro (empty | ⟨zero, long⟩)
    · exact nonempty empty
    · exact long (toDigits_head zero)
  simp only [parseUnsigned, spanDigits_append (toDigits_isDigit magnitude) ending]
  rw [if_neg wellFormed]
  simp [parseFraction_none ending, parseExponent_none ending]

private theorem digit_cases {character : Char} (digit : character.isDigit = true) :
    isWhitespace character = false ∧ character ≠ 'n' ∧ character ≠ 't' ∧ character ≠ 'f' ∧
      character ≠ '"' ∧ character ≠ '[' ∧ character ≠ '{' ∧ character ≠ '-' ∧ character ≠ ']' := by
  refine ⟨?_, ?_, ?_, ?_, ?_, ?_, ?_, ?_, ?_⟩
  · cases blank : isWhitespace character with
    | false => rfl
    | true =>
        simp only [isWhitespace, Bool.or_eq_true, decide_eq_true_eq] at blank
        rcases blank with ((rfl | rfl) | rfl) | rfl <;> exact absurd digit (by decide)
  all_goals
    rintro rfl
    exact absurd digit (by decide)

private theorem parseValue_digit {character : Char} (fuel depth : Nat) (rest : List Char)
    (digit : character.isDigit = true) :
    parseValue (fuel + 1) depth (character :: rest) = parseUnsigned false (character :: rest) := by
  obtain ⟨visible, different⟩ := digit_cases digit
  simp only [parseValue, skipWhitespace_cons rest visible]
  split <;> simp_all

private theorem parseValue_number {value : Int} {rest : List Char} (fuel depth : Nat)
    (fits : -2 ^ 63 ≤ value ∧ value < 2 ^ 64) (ending : NumberEnd rest) :
    parseValue (fuel + 1) depth (renderNumber value ++ rest) = some (.number value, rest) := by
  unfold renderNumber
  split
  · rename_i negative
    have parsed := parseUnsigned_toDigits true value.natAbs ending
    have inRange : ¬(value.natAbs = 0 ∨ 2 ^ 63 < value.natAbs) := by omega
    simp only [List.cons_append, parseValue,
      skipWhitespace_cons _ (show isWhitespace '-' = false from rfl)]
    rw [parsed]
    simp only [integerOrFloat, Nat.ofDigitChars_ten_toDigits, if_true, if_neg inRange]
    rw [show -(value.natAbs : Int) = value by omega]
  · rename_i nonnegative
    have parsed := parseUnsigned_toDigits false value.natAbs ending
    have inRange : ¬2 ^ 64 ≤ value.natAbs := by omega
    obtain ⟨digit, digits, shape⟩ := List.exists_cons_of_ne_nil
      (Nat.toDigits_ne_nil (n := value.natAbs) (b := 10))
    have isDigit := toDigits_isDigit value.natAbs digit (by rw [shape]; exact List.mem_cons_self ..)
    rw [shape, List.cons_append] at parsed
    rw [shape, List.cons_append, parseValue_digit fuel depth _ isDigit, parsed, ← shape]
    simp only [integerOrFloat, Nat.ofDigitChars_ten_toDigits, if_neg inRange]
    rw [show (value.natAbs : Int) = value by omega]
    simp

/-! Trees -/

namespace Value

/-- The text of a value starts with a visible character that closes nothing. -/
theorem render_head (layout : Layout) (indent : Nat) {value : Value} (integral : value.Integral) :
    ∃ character rest, value.render layout indent = character :: rest ∧
      isWhitespace character = false ∧ character ≠ ']' := by
  cases value with
  | null => exact ⟨_, _, by rw [render], rfl, by decide⟩
  | bool value => cases value <;> exact ⟨_, _, by rw [render], rfl, by decide⟩
  | number value =>
      rw [render, renderNumber]
      split
      · exact ⟨_, _, rfl, rfl, by decide⟩
      · obtain ⟨digit, digits, shape⟩ := List.exists_cons_of_ne_nil
          (Nat.toDigits_ne_nil (n := value.natAbs) (b := 10))
        have facts := digit_cases (toDigits_isDigit value.natAbs digit
          (by rw [shape]; exact List.mem_cons_self ..))
        exact ⟨digit, digits, shape, facts.1, facts.2.2.2.2.2.2.2.2⟩
  | float text => exact absurd integral (by simp [Integral])
  | string value => exact ⟨_, _, by rw [render, renderString], rfl, by decide⟩
  | array elements => cases elements <;> exact ⟨_, _, by rw [render], rfl, by decide⟩
  | object members =>
      cases members with
      | nil => exact ⟨_, _, by rw [render], rfl, by decide⟩
      | cons member rest => exact ⟨_, _, by rw [render], rfl, by decide⟩

private theorem numberEnd_elements (layout : Layout) (indent close : Nat) (elements : List Value)
    (rest : List Char) :
    NumberEnd (renderElements layout indent elements ++ layout.line close ++ ']' :: rest) := by
  cases elements with
  | nil =>
      simpa [renderElements] using
        numberEnd_blanks (layout.line_whitespace close) (numberEnd_cons (by decide))
  | cons element tail =>
      simp only [renderElements, List.cons_append]
      exact numberEnd_cons (by decide)

private theorem numberEnd_members (layout : Layout) (indent close : Nat) (members : Members)
    (rest : List Char) :
    NumberEnd (renderMembers layout indent members ++ layout.line close ++ '}' :: rest) := by
  cases members with
  | nil =>
      simpa [renderMembers] using
        numberEnd_blanks (layout.line_whitespace close) (numberEnd_cons (by decide))
  | cons member tail =>
      obtain ⟨key, value⟩ := member
      simp only [renderMembers, List.cons_append]
      exact numberEnd_cons (by decide)

/-- A member with its key, its colon and its value, on a line of its own. -/
private theorem parseMember_of_value (layout : Layout) (key : String) {value : Value}
    (fuel : Nat) {depth : Nat} (indent : Nat) {text rest : List Char}
    (parsed : parseValue (fuel - 1) depth (text ++ rest) = some (value, rest))
    (enough : key.toList.length < fuel) :
    parseMember fuel depth
      (layout.line indent ++ renderString key ++ ':' :: layout.colon ++ text ++ rest) =
      some (key, value, rest) := by
  obtain ⟨fuel, rfl⟩ := Nat.exists_eq_add_of_le' (Nat.one_le_of_lt enough)
  rw [Nat.add_sub_cancel] at parsed
  have keyParsed := parseString_render key.toList (':' :: (layout.colon ++ (text ++ rest)))
    (fuel + 1) (by omega)
  simp only [parseMember, renderString, List.append_assoc, List.cons_append, List.nil_append,
    skipWhitespace_append _ (layout.line_whitespace indent),
    skipWhitespace_cons _ (show isWhitespace '"' = false from rfl),
    skipWhitespace_cons _ (show isWhitespace ':' = false from rfl), keyParsed,
    Option.bind_eq_bind, Option.bind_some,
    parseValue_blanks fuel depth _ layout.colon_whitespace, parsed]
  simp

mutual
private theorem parseValue_render (layout : Layout) : ∀ (value : Value) (fuel depth indent : Nat)
    (rest : List Char), value.Integral → value.depth ≤ depth →
      (value.render layout indent).length < fuel → NumberEnd rest →
      parseValue fuel depth (value.render layout indent ++ rest) = some (value, rest)
  | value, 0, _, _, _, _, _, enough, _ => by simp at enough
  | .null, fuel + 1, depth, indent, rest, _, _, _, _ => by
      simp [render, parseValue, skipWhitespace, isWhitespace]
  | .bool true, fuel + 1, depth, indent, rest, _, _, _, _ => by
      simp [render, parseValue, skipWhitespace, isWhitespace]
  | .bool false, fuel + 1, depth, indent, rest, _, _, _, _ => by
      simp [render, parseValue, skipWhitespace, isWhitespace]
  | .number value, fuel + 1, depth, indent, rest, integral, _, _, ending => by
      rw [render]
      exact parseValue_number fuel depth (by simpa [Integral] using integral) ending
  | .float _, _, _, _, _, integral, _, _, _ => by simp [Integral] at integral
  | .string value, fuel + 1, depth, indent, rest, _, _, enough, _ => by
      have size := length_le_flatMap_escapeChar value.toList
      simp only [render, renderString, List.length_cons, List.length_append] at enough
      have parsed := parseString_render value.toList rest (fuel + 1) (by omega)
      simp only [render, renderString, List.cons_append, List.append_assoc, List.nil_append,
        parseValue, skipWhitespace_cons _ (show isWhitespace '"' = false from rfl), parsed]
      simp
  | .array [], fuel + 1, depth, indent, rest, _, shallow, _, _ => by
      cases depth with
      | zero => simp [Value.depth] at shallow
      | succ depth => simp [render, parseValue, skipWhitespace, isWhitespace]
  | .array (element :: elements), fuel + 1, 0, _, _, _, shallow, _, _ => by
      simp [Value.depth] at shallow
  | .array (element :: elements), fuel + 1, depth + 1, indent, rest, integral, shallow, enough, _ => by
      simp only [Integral, IntegralElements] at integral
      simp only [Value.depth, depthElements] at shallow
      simp only [render, List.length_cons, List.length_append] at enough
      have first := parseValue_render layout element fuel depth (indent + 1)
        (renderElements layout (indent + 1) elements ++ layout.line indent ++ ']' :: rest)
        integral.1 (by omega) (by omega)
        (numberEnd_elements layout (indent + 1) indent elements rest)
      have remaining := parseElements_render layout elements fuel depth (indent + 1) indent rest
        integral.2 (by omega) (by omega)
      obtain ⟨character, tail, shape, visible, opens⟩ := render_head layout (indent + 1) integral.1
      rw [shape, List.cons_append] at first
      simp only [render, List.cons_append, List.append_assoc, List.nil_append, parseValue, shape,
        skipWhitespace_cons _ (show isWhitespace '[' = false from rfl),
        skipWhitespace_append _ (layout.line_whitespace (indent + 1)),
        skipWhitespace_cons _ visible] at first remaining ⊢
      simp [first, remaining, opens]
  | .object [], fuel + 1, depth, indent, rest, _, shallow, _, _ => by
      cases depth with
      | zero => simp [Value.depth] at shallow
      | succ depth => simp [render, parseValue, skipWhitespace, isWhitespace]
  | .object ((key, value) :: members), fuel + 1, 0, _, _, _, shallow, _, _ => by
      simp [Value.depth] at shallow
  | .object ((key, value) :: members), fuel + 1, depth + 1, indent, rest, integral, shallow,
      enough, _ => by
      simp only [Integral, IntegralMembers] at integral
      simp only [Value.depth, depthMembers] at shallow
      simp only [render, renderString, List.length_cons, List.length_append] at enough
      have size := length_le_flatMap_escapeChar key.toList
      have first := parseMember_of_value layout key fuel (indent + 1)
        (parseValue_render layout value (fuel - 1) depth (indent + 1)
          (renderMembers layout (indent + 1) members ++ layout.line indent ++ '}' :: rest)
          integral.1 (by omega) (by omega)
          (numberEnd_members layout (indent + 1) indent members rest)) (by omega)
      have remaining := parseMembers_render layout members fuel depth (indent + 1) indent
        rest integral.2 (by omega) (by omega)
      simp only [List.append_assoc, List.cons_append] at first remaining
      rw [parseMember_blanks fuel depth _ (layout.line_whitespace (indent + 1))] at first
      simp only [renderString, List.cons_append] at first
      simp only [render, renderString, List.cons_append, List.append_assoc, List.nil_append,
        parseValue, skipWhitespace_cons _ (show isWhitespace '{' = false from rfl),
        skipWhitespace_append _ (layout.line_whitespace (indent + 1)),
        skipWhitespace_cons _ (show isWhitespace '"' = false from rfl)] at first ⊢
      simp [first, remaining]
private theorem parseElements_render (layout : Layout) : ∀ (elements : List Value)
    (fuel depth indent close : Nat) (rest : List Char), IntegralElements elements →
      depthElements elements ≤ depth → (renderElements layout indent elements).length < fuel →
      parseElements fuel depth
        (renderElements layout indent elements ++ layout.line close ++ ']' :: rest) =
        some (elements, rest)
  | _, 0, _, _, _, _, _, _, enough => by simp at enough
  | [], fuel + 1, depth, indent, close, rest, _, _, _ => by
      simp [renderElements, parseElements, skipWhitespace_append _ (layout.line_whitespace close),
        skipWhitespace, isWhitespace]
  | element :: elements, fuel + 1, depth, indent, close, rest, integral, shallow, enough => by
      simp only [IntegralElements] at integral
      simp only [depthElements] at shallow
      simp only [renderElements, List.length_cons, List.length_append] at enough
      have first := parseValue_render layout element fuel depth indent
        (renderElements layout indent elements ++ layout.line close ++ ']' :: rest)
        integral.1 (by omega) (by omega) (numberEnd_elements layout indent close elements rest)
      have remaining := parseElements_render layout elements fuel depth indent close rest
        integral.2 (by omega) (by omega)
      simp only [List.append_assoc] at first remaining
      simp only [renderElements, List.cons_append, List.append_assoc, parseElements,
        skipWhitespace_cons _ (show isWhitespace ',' = false from rfl),
        parseValue_blanks fuel depth _ (layout.line_whitespace indent), first, remaining,
        Option.bind_eq_bind, Option.bind_some]
private theorem parseMembers_render (layout : Layout) : ∀ (members : Members)
    (fuel depth indent close : Nat) (rest : List Char), IntegralMembers members →
      depthMembers members ≤ depth → (renderMembers layout indent members).length < fuel →
      parseMembers fuel depth
        (renderMembers layout indent members ++ layout.line close ++ '}' :: rest) =
        some (members, rest)
  | _, 0, _, _, _, _, _, _, enough => by simp at enough
  | [], fuel + 1, depth, indent, close, rest, _, _, _ => by
      simp [renderMembers, parseMembers, skipWhitespace_append _ (layout.line_whitespace close),
        skipWhitespace, isWhitespace]
  | (key, value) :: members, fuel + 1, depth, indent, close, rest, integral, shallow, enough => by
      simp only [IntegralMembers] at integral
      simp only [depthMembers] at shallow
      simp only [renderMembers, renderString, List.length_cons, List.length_append] at enough
      have size := length_le_flatMap_escapeChar key.toList
      have first := parseMember_of_value layout key fuel indent
        (parseValue_render layout value (fuel - 1) depth indent
          (renderMembers layout indent members ++ layout.line close ++ '}' :: rest)
          integral.1 (by omega) (by omega)
          (numberEnd_members layout indent close members rest)) (by omega)
      have remaining := parseMembers_render layout members fuel depth indent close rest
        integral.2 (by omega) (by omega)
      simp only [List.append_assoc, List.cons_append] at first remaining
      simp only [renderMembers, List.cons_append, List.append_assoc, parseMembers,
        skipWhitespace_cons _ (show isWhitespace ',' = false from rfl), first, remaining,
        Option.bind_eq_bind, Option.bind_some]
end

end Value

section Documents

variable {value : Value} {depth : Nat} (layout : Layout) (before after : List Char)

private theorem parseText_render (integral : value.Integral) (shallow : value.depth ≤ depth)
    (beforeBlank : ∀ character ∈ before, isWhitespace character = true)
    (afterBlank : ∀ character ∈ after, isWhitespace character = true) :
    parseText depth (before ++ value.render layout 0 ++ after) = some value := by
  have ending : NumberEnd after := by
    simpa using numberEnd_blanks afterBlank numberEnd_nil
  have parsed := Value.parseValue_render layout value
    ((before ++ value.render layout 0 ++ after).length + 1) depth 0 after integral shallow
    (by simp only [List.length_append]; omega) ending
  have finished : skipWhitespace after = [] := by
    simpa [skipWhitespace] using skipWhitespace_append [] afterBlank
  rw [parseText]
  rw [List.append_assoc] at parsed ⊢
  rw [parseValue_blanks _ _ _ beforeBlank, parsed]
  simp [finished]

/-- A rendered document surrounded by whitespace is read back as its tree. -/
theorem parse_utf8_render (integral : value.Integral) (shallow : value.depth ≤ depth)
    (beforeBlank : ∀ character ∈ before, isWhitespace character = true)
    (afterBlank : ∀ character ∈ after, isWhitespace character = true) :
    parse depth (utf8 (before ++ value.render layout 0 ++ after)) = some value := by
  rw [parse, decodeUtf8?_utf8]
  exact parseText_render layout before after integral shallow beforeBlank afterBlank

/-- One layout gives different trees different texts. -/
theorem render_injective {left right : Value} (leftIntegral : left.Integral)
    (rightIntegral : right.Integral) (same : left.render layout 0 = right.render layout 0) :
    left = right := by
  have leftParsed := parseText_render layout [] [] leftIntegral
    (Nat.le_max_left left.depth right.depth) (by simp) (by simp)
  have rightParsed := parseText_render layout [] [] rightIntegral
    (Nat.le_max_right left.depth right.depth) (by simp) (by simp)
  rw [same, rightParsed] at leftParsed
  exact (Option.some.inj leftParsed).symm

end Documents

end Json
