import TaskAttest.LanguageChecks
import TaskAttest.TextProperties

/-! What the lines of a requirements file are, and the distributions that are read
from them. -/

set_option autoImplicit false

namespace TaskAttest

namespace Requirement

/-! Requirement lines -/

def Blank (text : List Char) : Prop := ∀ character ∈ text, isWhitespace character = true

def isSeparator (character : Char) : Bool :=
  character = '-' || character = '_' || character = '.'

def isNameCharacter (character : Char) : Bool := character.isAlphanum || isSeparator character

/-- The name of a distribution or of an extra begins and ends with a letter or a digit. -/
structure IsName (name : List Char) : Prop where
  first : ∃ character, name.head? = some character ∧ character.isAlphanum = true
  last : ∃ character, name.getLast? = some character ∧ character.isAlphanum = true
  characters : ∀ character ∈ name, isNameCharacter character = true

/-- Lower case, and one hyphen for every run of separators: the last of a run stands for
the others. -/
def normalForm : List Char → List Char
  | [] => []
  | character :: rest =>
      if isSeparator character then
        if rest.head?.any isSeparator then normalForm rest else '-' :: normalForm rest
      else character.toLower :: normalForm rest

inductive Names : List Char → Prop where
  | one {name : List Char} : IsName name → Names name
  | more {name before after rest : List Char} : IsName name → Blank before → Blank after →
      Names rest → Names (name ++ before ++ ',' :: (after ++ rest))

/-- Names in square brackets. -/
inductive Extras : List Char → Prop where
  | absent : Extras []
  | empty {blanks : List Char} : Blank blanks → Extras ('[' :: (blanks ++ [']']))
  | names {before names after : List Char} : Blank before → Names names → Blank after →
      Extras ('[' :: (before ++ names ++ after ++ [']']))

def versionOperators : List (List Char) :=
  ["<=".toList, "<".toList, "!=".toList, "==".toList, ">=".toList, ">".toList, "~=".toList,
    "===".toList]

def isVersionCharacter (character : Char) : Bool :=
  isNameCharacter character || character = '*' || character = '+' || character = '!'

/-- An operator and a version. -/
inductive Clause : List Char → Prop where
  | compare {before operator between version after : List Char} : Blank before →
      operator ∈ versionOperators → Blank between → version ≠ [] →
      (∀ character ∈ version, isVersionCharacter character = true) → Blank after →
      Clause (before ++ operator ++ between ++ version ++ after)

inductive Clauses : List Char → Prop where
  | one {clause : List Char} : Clause clause → Clauses clause
  | more {clause blanks rest : List Char} : Clause clause → Blank blanks → Clauses rest →
      Clauses (clause ++ blanks ++ ',' :: rest)

inductive Versions : List Char → Prop where
  | absent : Versions []
  | bare {clauses : List Char} : Clauses clauses → Versions clauses
  | parenthesized {clauses : List Char} : Clauses clauses → Versions ('(' :: (clauses ++ [')']))

/-- Any text may stand for the condition of a marker. -/
inductive Marker : List Char → Prop where
  | absent : Marker []
  | condition (text : List Char) : Marker (';' :: text)

/-- Extras, version specifiers and a marker after a name, without an at sign and without
the mark of a URL. -/
structure Specifiers (text : List Char) : Prop where
  parts : ∃ before extras between versions after marker, Blank before ∧ Extras extras ∧
    Blank between ∧ Versions versions ∧ Blank after ∧ Marker marker ∧
    text = before ++ extras ++ between ++ versions ++ after ++ marker
  noAtSign : '@' ∉ text
  noUrl : ¬"://".toList <:+: text

/-- Extras and the URL of a direct reference after a name. -/
def DirectReference (text : List Char) : Prop :=
  ∃ before extras between url, Blank before ∧ Extras extras ∧ Blank between ∧
    "://".toList <:+: url ∧ text = before ++ extras ++ between ++ '@' :: url

def isSchemeCharacter (character : Char) : Bool :=
  character.isAlphanum || character = '+' || character = '-' || character = '.'

structure IsScheme (scheme : List Char) : Prop where
  first : ∃ character, scheme.head? = some character ∧ character.isAlpha = true
  characters : ∀ character ∈ scheme, isSchemeCharacter character = true

/-- A URL, or a reference to a git repository. -/
inductive BareReference : List Char → Prop where
  | url {scheme : List Char} (rest : List Char) : IsScheme scheme →
      BareReference (scheme ++ "://".toList ++ rest)
  | git (rest : List Char) : BareReference ("git+".toList ++ rest)

/-- What a line is. -/
inductive Kind where
  | distribution (name : List Char)
  | reference
  | option
  | path

namespace Kind

/-- The distribution that a line of this kind requires, in its normal form. -/
def expected : Kind → Option (List Char)
  | .distribution name => some (normalForm name)
  | .reference | .option | .path => none

def Reads : Kind → List Char → Prop
  | .distribution name, text => IsName name ∧
      ∃ rest, (Specifiers rest ∨ DirectReference rest) ∧ text = name ++ rest
  | .reference, text => BareReference text
  | .option, text => ∃ rest, text = '-' :: rest
  | .path, text => ∃ first rest, first ∈ ['.', '/', '\\'] ∧ text = first :: rest

/-- The text of a line may stand between blanks. -/
def ReadsLine (kind : Kind) (line : List Char) : Prop :=
  ∃ before text after, Blank before ∧ Blank after ∧ kind.Reads text ∧
    line = before ++ text ++ after

end Kind

/-! Normal forms -/

private theorem not_isSeparator {character : Char} (letter : character.isAlphanum = true) :
    isSeparator character = false := by
  cases separates : isSeparator character with
  | false => rfl
  | true =>
      simp only [isSeparator, Bool.or_eq_true, decide_eq_true_eq] at separates
      rcases separates with (rfl | rfl) | rfl <;> exact absurd letter (by decide)

/-- The loop leaves out the rest of a run whose hyphen it has written. -/
theorem normalizePythonCharacters_eq {text : List Char}
    (valid : ∀ character ∈ text, isNameCharacter character = true) :
    normalizePythonCharacters text false = normalForm text ∧
      (if text.head?.any isSeparator then ['-'] else []) ++ normalizePythonCharacters text true =
        normalForm text := by
  induction text with
  | nil => exact ⟨rfl, rfl⟩
  | cons character rest ih =>
      obtain ⟨fresh, inRun⟩ := ih fun other member => valid other (List.mem_cons_of_mem _ member)
      cases letter : character.isAlphanum with
      | true =>
          simp [normalizePythonCharacters, normalForm, letter, not_isSeparator letter, fresh]
      | false =>
          have separates : isSeparator character = true := by
            simpa [isNameCharacter, letter] using valid character (List.mem_cons_self ..)
          have loop : normalizePythonCharacters (character :: rest) false =
              '-' :: normalizePythonCharacters rest true := by
            simp only [normalizePythonCharacters, letter]
            rw [if_neg (by simp), if_pos (by simpa [isSeparator] using separates)]
          have later : normalizePythonCharacters (character :: rest) true =
              normalizePythonCharacters rest true := by
            simp [normalizePythonCharacters, letter]
          have same : '-' :: normalizePythonCharacters rest true =
              normalForm (character :: rest) := by
            rw [normalForm, if_pos separates, ← inRun]
            split <;> rfl
          refine ⟨loop.trans same, ?_⟩
          rw [later, ← same, List.head?_cons, Option.any_some, separates]
          rfl

private theorem normalizePythonCharacters_concat (text : List Char) {last : Char}
    (letter : last.isAlphanum = true) (separator : Bool) :
    normalizePythonCharacters (text ++ [last]) separator =
      normalizePythonCharacters text separator ++ [last.toLower] := by
  induction text generalizing separator with
  | nil => simp [normalizePythonCharacters, letter]
  | cons character rest ih =>
      simp only [List.cons_append, normalizePythonCharacters, ih]
      split
      · rfl
      · split <;> rfl

private theorem toLower_ne_hyphen {character : Char} (letter : character.isAlphanum = true) :
    character.toLower ≠ '-' := by
  intro same
  delta Char.toLower at same
  split at same
  · rename_i upper
    have code := congrArg (fun other => other.val.toNat) same
    simp only [UInt32.toNat_add, UInt32.le_iff_toNat_le] at code upper
    have bounds : 65 ≤ character.val.toNat ∧ character.val.toNat ≤ 90 := upper
    have shifted : (character.val.toNat + 32) % 2 ^ 32 = 45 := code
    omega
  · rw [same] at letter
    exact absurd letter (by decide)

private theorem trimMatches_eq_self {character : Char} {text : List Char}
    (first : text.head? ≠ some character) (last : text.getLast? ≠ some character) :
    trimMatches character text = text := by
  have keepsFront {other : List Char} (ordinary : other.head? ≠ some character) :
      other.dropWhile (· = character) = other := by
    cases other with
    | nil => rfl
    | cons head tail =>
        rw [List.dropWhile_cons, if_neg (by simpa using ordinary)]
  rw [trimMatches, keepsFront first, keepsFront (by simpa using last), List.reverse_reverse]

theorem IsName.cons {name : List Char} (valid : IsName name) :
    ∃ first rest, name = first :: rest ∧ first.isAlphanum = true := by
  obtain ⟨first, head, letter⟩ := valid.first
  obtain ⟨rest, shape⟩ := List.head?_eq_some_iff.mp head
  exact ⟨first, rest, shape, letter⟩

theorem IsName.concat {name : List Char} (valid : IsName name) :
    ∃ initial last, name = initial ++ [last] ∧ last.isAlphanum = true := by
  obtain ⟨last, ends, letter⟩ := valid.last
  obtain ⟨initial, shape⟩ := List.getLast?_eq_some_iff.mp ends
  exact ⟨initial, last, shape, letter⟩

/-- The hyphens at the ends that the source trims are not there. -/
theorem normalizePythonDistribution_eq {name : List Char} (valid : IsName name) :
    normalizePythonDistribution name = normalForm name := by
  have normal := (normalizePythonCharacters_eq valid.characters).1
  rw [normalizePythonDistribution, ← normal]
  apply trimMatches_eq_self
  · obtain ⟨first, rest, rfl, letter⟩ := valid.cons
    simp [normalizePythonCharacters, letter, toLower_ne_hyphen letter]
  · obtain ⟨initial, last, rfl, letter⟩ := valid.concat
    rw [normalizePythonCharacters_concat initial letter]
    simp [toLower_ne_hyphen letter]

example : normalForm "PyTest_.Cov".toList = "pytest-cov".toList := by decide

/-! Where a name ends -/

private theorem toNat_of_isAlphanum {character : Char} (letter : character.isAlphanum = true) :
    48 ≤ character.toNat ∧ character.toNat ≤ 122 := by
  delta Char.isAlphanum Char.isAlpha Char.isUpper Char.isLower Char.isDigit at letter
  simp only [Bool.or_eq_true, Bool.and_eq_true, decide_eq_true_eq, ge_iff_le,
    UInt32.le_iff_toNat_le] at letter
  have code : character.val.toNat = character.toNat := rfl
  have upper : 'A'.val.toNat = 65 ∧ 'Z'.val.toNat = 90 := ⟨rfl, rfl⟩
  have lower : 'a'.val.toNat = 97 ∧ 'z'.val.toNat = 122 := ⟨rfl, rfl⟩
  have digit : '0'.val.toNat = 48 ∧ '9'.val.toNat = 57 := ⟨rfl, rfl⟩
  omega

private theorem isNameCharacter_visible {character : Char}
    (named : isNameCharacter character = true) :
    isWhitespace character = false := by
  rcases Bool.or_eq_true_iff.mp named with letter | separates
  · obtain ⟨low, high⟩ := toNat_of_isAlphanum letter
    simp only [isWhitespace, Bool.or_eq_false_iff, Bool.and_eq_false_iff, beq_eq_false_iff_ne,
      decide_eq_false_iff_not]
    omega
  · simp only [isSeparator, Bool.or_eq_true, decide_eq_true_eq] at separates
    rcases separates with (rfl | rfl) | rfl <;> decide

private theorem isNameCharacter_of_isAlphanum {character : Char}
    (letter : character.isAlphanum = true) :
    isNameCharacter character = true := by
  rw [isNameCharacter, letter]
  rfl

/-- The test of the source. -/
theorem isNameCharacter_eq (character : Char) :
    (character.isAlphanum || decide (character ∈ ['-', '_', '.'])) =
      isNameCharacter character := by
  simp [isNameCharacter, isSeparator, Bool.or_assoc]

/-- A text that does not go on with a name, nor with the mark of a git reference. -/
def Stops (text : List Char) : Prop := ∀ character, text.head? = some character →
  isNameCharacter character = false ∧ character ≠ '+'

theorem Stops.append {left right : List Char} (leftStops : Stops left)
    (rightStops : Stops right) : Stops (left ++ right) := by
  cases left with
  | nil => exact rightStops
  | cons first rest => exact leftStops

private theorem Stops.of_isPrefixOf {left right : List Char} (stops : Stops right)
    (ends : left <+: right) :
    Stops left := by
  intro character head
  obtain ⟨rest, rfl⟩ := ends
  apply stops
  rw [List.head?_append, head]
  rfl

theorem Stops.cons {first : Char} (rest : List Char)
    (ordinary : isNameCharacter first = false ∧ first ≠ '+') : Stops (first :: rest) := by
  intro character head
  cases head
  exact ordinary

/-- What follows a text that is not empty does not matter. -/
theorem Stops.append_of_ne_nil {left : List Char} (leftStops : Stops left) (nonempty : left ≠ [])
    (right : List Char) : Stops (left ++ right) := by
  cases left with
  | nil => exact absurd rfl nonempty
  | cons first rest => exact leftStops

theorem Blank.stops {text : List Char} (blank : Blank text) : Stops text := by
  intro character head
  have white := blank character (List.mem_of_head? head)
  constructor
  · cases named : isNameCharacter character with
    | false => rfl
    | true =>
        rw [isNameCharacter_visible named] at white
        cases white
  · intro same
    rw [same] at white
    exact absurd white (by decide)

theorem Extras.stops {text : List Char} (extras : Extras text) : Stops text := by
  cases extras with
  | absent => nofun
  | empty _ => exact .cons _ (by decide)
  | names _ _ _ => exact .cons _ (by decide)

theorem Clause.stops {text : List Char} (clause : Clause text) : Stops text ∧ text ≠ [] := by
  cases clause with
  | @compare _ operator _ _ _ before known _ nonempty _ _ =>
      have operators : (versionOperators.all fun operator => operator.head?.any fun first =>
          !isNameCharacter first && first != '+') = true := by
        decide
      obtain ⟨first, head, ordinary⟩ :=
        (Option.any_eq_true _ _).mp (List.all_eq_true.mp operators operator known)
      rw [Bool.and_eq_true, Bool.not_eq_true', bne_iff_ne] at ordinary
      obtain ⟨rest, rfl⟩ := List.head?_eq_some_iff.mp head
      constructor
      · simp only [List.append_assoc]
        exact before.stops.append (.cons _ ordinary)
      · simp

theorem Clauses.stops {text : List Char} (clauses : Clauses text) : Stops text := by
  cases clauses with
  | one clause => exact clause.stops.1
  | more clause _ _ =>
      rw [List.append_assoc]
      exact clause.stops.1.append_of_ne_nil clause.stops.2 _

theorem Versions.stops {text : List Char} (versions : Versions text) : Stops text := by
  cases versions with
  | absent => nofun
  | bare clauses => exact clauses.stops
  | parenthesized _ => exact .cons _ (by decide)

theorem Marker.stops {text : List Char} (marker : Marker text) : Stops text := by
  cases marker with
  | absent => nofun
  | condition _ => exact .cons _ (by decide)

theorem Specifiers.stops {text : List Char} (specifiers : Specifiers text) : Stops text := by
  obtain ⟨_, _, _, _, _, _, before, extras, between, versions, after, marker, rfl⟩ :=
    specifiers.parts
  exact ((((before.stops.append extras.stops).append between.stops).append versions.stops).append
    after.stops).append marker.stops

private theorem takeWhile_name {name rest : List Char} (valid : IsName name) (stops : Stops rest) :
    (name ++ rest).takeWhile isNameCharacter = name := by
  rw [List.takeWhile_append_of_pos valid.characters]
  cases rest with
  | nil => exact List.append_nil name
  | cons first others =>
      rw [List.takeWhile_cons, if_neg (by simp [(stops first rfl).1]), List.append_nil]

/-! Lines between blanks -/

/-- The distribution of a trimmed line that is not an option or a path. -/
theorem pythonDistributionName_eq {line rest : List Char} {first : Char}
    (trimmed : trim line = first :: rest) (letter : first.isAlphanum = true) :
    pythonDistributionName line = (pythonNameSource (first :: rest)).bind fun source =>
      if source.takeWhile isNameCharacter = [] then none
      else some (normalizePythonDistribution (source.takeWhile isNameCharacter)) := by
  have ordinary : first ∉ ['-', '.', '/', '\\'] := by
    intro member
    simp only [List.mem_cons, List.not_mem_nil, or_false] at member
    rcases member with rfl | rfl | rfl | rfl <;> exact absurd letter (by decide)
  rw [pythonDistributionName]
  simp only [trimmed, List.head?_cons, if_neg ordinary, isNameCharacter_eq]
  rfl

private theorem pythonDistributionName_none {line rest : List Char} {first : Char}
    (trimmed : trim line = first :: rest) (listed : first ∈ ['-', '.', '/', '\\']) :
    pythonDistributionName line = none := by
  rw [pythonDistributionName]
  simp only [trimmed, List.head?_cons, if_pos listed]

/-- A name is read from the text that begins with it. -/
theorem pythonDistributionName_of_source {line name rest source : List Char} (valid : IsName name)
    (trimmed : trim line = name ++ rest) (found : pythonNameSource (name ++ rest) = some source)
    (begins : source.takeWhile isNameCharacter = name) :
    pythonDistributionName line = some (normalForm name) := by
  obtain ⟨first, others, shape, letter⟩ := valid.cons
  have nonempty : name ≠ [] := by
    rw [shape]
    exact List.cons_ne_nil _ _
  have split : name ++ rest = first :: (others ++ rest) := by
    rw [shape]
    rfl
  rw [split] at trimmed found
  rw [pythonDistributionName_eq trimmed letter, found, Option.bind_some, begins, if_neg nonempty,
    normalizePythonDistribution_eq valid]

/-- Trimming a line that begins with a name leaves the name as it is. -/
theorem trim_name {before name rest after : List Char} (valid : IsName name)
    (blankBefore : Blank before) (blankAfter : Blank after) :
    trim (before ++ (name ++ rest) ++ after) = name ++ trimEnd rest := by
  obtain ⟨first, others, shape, letter⟩ := valid.cons
  obtain ⟨initial, last, ends, lastLetter⟩ := valid.concat
  have visible := isNameCharacter_visible (isNameCharacter_of_isAlphanum letter)
  have lastVisible := isNameCharacter_visible (isNameCharacter_of_isAlphanum lastLetter)
  have whole : first :: trimEnd (others ++ rest) = trimEnd (name ++ rest) := by
    rw [shape, List.cons_append]
    exact (@trimEnd_append_cons [] (others ++ rest) first visible).symm
  rw [shape, List.cons_append, trim_surrounded blankBefore blankAfter visible, whole, shape]
  rw [← shape, ends, List.append_assoc, List.singleton_append, trimEnd_append_cons lastVisible,
    List.append_cons]

private theorem containsText_eq_false {marker text : List Char} (absent : ¬marker <:+: text) :
    containsText marker text = false := by
  rw [Bool.eq_false_iff]
  exact fun found => absent (containsText_iff.mp found)

/-! One kind of line after the other -/

private theorem at_not_mem_name {name : List Char} (valid : IsName name) : '@' ∉ name := by
  intro member
  exact absurd (valid.characters _ member) (by decide)

private theorem at_not_mem_blank {blanks : List Char} (blank : Blank blanks) : '@' ∉ blanks := by
  intro member
  exact absurd (blank _ member) (by decide)

private theorem at_not_mem_names {names : List Char} (listed : Names names) : '@' ∉ names := by
  induction listed with
  | one valid => exact at_not_mem_name valid
  | more valid before after _ ih =>
      simp [at_not_mem_name valid, at_not_mem_blank before, at_not_mem_blank after, ih]

private theorem at_not_mem_extras {text : List Char} (extras : Extras text) : '@' ∉ text := by
  cases extras with
  | absent => exact List.not_mem_nil
  | empty blank => simp [at_not_mem_blank blank]
  | names before listed after =>
      simp [at_not_mem_blank before, at_not_mem_names listed, at_not_mem_blank after]

/-- No mark of a URL begins in a name. -/
theorem isReference_specifiers {name rest : List Char} (valid : IsName name)
    (stops : Stops rest) (noUrl : ¬"://".toList <:+: rest) :
    isReference (name ++ rest) = false := by
  rw [isReference, Bool.or_eq_false_iff]
  constructor
  · apply containsText_eq_false
    intro found
    have noColon : ':' ∉ name := by
      intro member
      exact absurd (valid.characters _ member) (by decide)
    exact noUrl (@infix_of_infix_append ['/', '/'] name rest ':' noColon found)
  · rw [Bool.eq_false_iff, ne_eq, List.isPrefixOf_iff_prefix]
    intro begins
    obtain ⟨others, shape⟩ := begins
    have git : ("git+".toList ++ others).takeWhile isNameCharacter = "git".toList := by
      rfl
    rw [shape, takeWhile_name valid stops] at git
    rw [git] at shape
    have plus : '+' :: others = rest := by simpa using shape
    exact (stops '+' (by rw [← plus]; rfl)).2 rfl

private theorem pythonDistributionName_specifiers {before name rest after : List Char}
    (valid : IsName name) (specifiers : Specifiers rest) (blankBefore : Blank before)
    (blankAfter : Blank after) :
    pythonDistributionName (before ++ (name ++ rest) ++ after) = some (normalForm name) := by
  have ends := trimEnd_isPrefixOf rest
  have stops := specifiers.stops.of_isPrefixOf ends
  apply pythonDistributionName_of_source valid (trim_name valid blankBefore blankAfter) _
    (takeWhile_name valid stops)
  have noAtSign : '@' ∉ name ++ trimEnd rest := by
    rw [List.mem_append, not_or]
    exact ⟨at_not_mem_name valid, fun member => specifiers.noAtSign (ends.subset member)⟩
  have noUrl : ¬"://".toList <:+: trimEnd rest :=
    fun found => specifiers.noUrl (found.trans ends.isInfix)
  rw [pythonNameSource, splitOnce, if_neg noAtSign]
  simp [isReference_specifiers valid stops noUrl]

private theorem pythonDistributionName_directReference {before name rest after : List Char}
    (valid : IsName name) (reference : DirectReference rest) (blankBefore : Blank before)
    (blankAfter : Blank after) :
    pythonDistributionName (before ++ (name ++ rest) ++ after) = some (normalForm name) := by
  obtain ⟨first, extras, between, url, blankFirst, extrasShape, blankBetween, isUrl, rfl⟩ :=
    reference
  let named := first ++ extras ++ between
  have stops : Stops named := (blankFirst.stops.append extrasShape.stops).append blankBetween.stops
  have absent : '@' ∉ name ++ named := by
    simp [named, at_not_mem_name valid, at_not_mem_blank blankFirst, at_not_mem_extras extrasShape,
      at_not_mem_blank blankBetween]
  have trimmed := @trim_name before name (named ++ '@' :: url) after valid blankBefore blankAfter
  rw [trimEnd_append_cons (by decide)] at trimmed
  have isReference : isReference (trim (trimEnd url)) = true := by
    have kept : "://".toList <:+: trimEnd url := @infix_trimEnd [':', '/'] url '/' (by decide) isUrl
    have again : "://".toList <:+: trim (trimEnd url) :=
      @infix_trimEnd [':', '/'] _ '/' (by decide)
        (@infix_trimStart ['/', '/'] _ ':' (by decide) kept)
    rw [TaskAttest.isReference, containsText_iff.mpr again]
    rfl
  have distribution : trim (name ++ named) = name ++ trimEnd named := by
    have whole := @trim_name [] name named [] valid nofun nofun
    rwa [List.nil_append, List.append_nil] at whole
  apply @pythonDistributionName_of_source _ name _ (name ++ trimEnd named) valid trimmed
  · rw [← List.append_assoc, pythonNameSource, splitOnce_append absent]
    simp [isReference, distribution]
  · exact takeWhile_name valid (stops.of_isPrefixOf (trimEnd_isPrefixOf named))

private theorem isAlphanum_of_isAlpha {character : Char} (letter : character.isAlpha = true) :
    character.isAlphanum = true := by
  rw [Char.isAlphanum, letter]
  rfl

/-- A bare reference between blanks keeps its mark and its at signs. -/
theorem trim_reference {before text after : List Char} (reference : BareReference text)
    (blankBefore : Blank before) (blankAfter : Blank after) :
    ∃ first rest, trim (before ++ text ++ after) = first :: rest ∧ first.isAlphanum = true ∧
      isReference (first :: rest) = true ∧ ('@' ∈ first :: rest ↔ '@' ∈ text) := by
  have trimmed {first : Char} {rest : List Char} (letter : first.isAlphanum = true) :
      trim (before ++ first :: rest ++ after) = first :: trimEnd rest ∧
        ('@' ∈ first :: trimEnd rest ↔ '@' ∈ first :: rest) := by
    have visible := isNameCharacter_visible (isNameCharacter_of_isAlphanum letter)
    refine ⟨trim_surrounded blankBefore blankAfter visible rest, ?_⟩
    rw [List.mem_cons, List.mem_cons, mem_trimEnd (by decide)]
  cases reference with
  | @url scheme rest valid =>
      obtain ⟨first, head, letter⟩ := valid.first
      obtain ⟨others, rfl⟩ := List.head?_eq_some_iff.mp head
      have alphanumeric := isAlphanum_of_isAlpha letter
      obtain ⟨trims, keeps⟩ := @trimmed first (others ++ "://".toList ++ rest) alphanumeric
      refine ⟨first, _, trims, alphanumeric, ?_, keeps⟩
      have marked : "://".toList <:+: trimEnd (others ++ "://".toList ++ rest) :=
        @infix_trimEnd [':', '/'] _ '/' (by decide) ⟨others, rest, rfl⟩
      rw [isReference, containsText_iff.mpr (marked.trans (List.suffix_cons ..).isInfix)]
      rfl
  | git rest =>
      obtain ⟨trims, keeps⟩ := @trimmed 'g' ("it+".toList ++ rest) (by decide)
      refine ⟨'g', _, trims, by decide, ?_, keeps⟩
      have kept : trimEnd ("it+".toList ++ rest) = "it+".toList ++ trimEnd rest :=
        @trimEnd_append_cons ['i', 't'] rest '+' (by decide)
      rw [kept, isReference, Bool.or_eq_true]
      exact .inr rfl

/-- The at sign of a reference is taken for that of a requirement, whatever follows it. -/
theorem pythonNameSource_at {first : Char} {rest : List Char} (letter : first.isAlphanum = true)
    (present : '@' ∈ first :: rest) :
    ∃ others, pythonNameSource (first :: rest) = some (first :: others) := by
  have ordinary : first ≠ '@' := by
    intro same
    rw [same] at letter
    exact absurd letter (by decide)
  have visible := isNameCharacter_visible (isNameCharacter_of_isAlphanum letter)
  have begins : (first :: rest).takeWhile (· ≠ '@') = first :: rest.takeWhile (· ≠ '@') := by
    rw [List.takeWhile_cons, if_pos (by simpa using ordinary)]
  have trims (others : List Char) : trim (first :: others) = first :: trimEnd others := by
    simpa using @trim_surrounded [] [] first nofun nofun visible others
  rw [pythonNameSource, splitOnce, if_pos present, begins]
  simp only [trims]
  split
  · exact ⟨_, rfl⟩
  · exact ⟨_, rfl⟩

/-- A bare reference is left out exactly when it has no at sign. -/
theorem pythonDistributionName_reference {before text after : List Char}
    (reference : BareReference text) (blankBefore : Blank before) (blankAfter : Blank after) :
    pythonDistributionName (before ++ text ++ after) = none ↔ '@' ∉ text := by
  obtain ⟨first, rest, trimmed, letter, isReference, keeps⟩ :=
    trim_reference reference blankBefore blankAfter
  rw [pythonDistributionName_eq trimmed letter, ← keeps]
  by_cases present : '@' ∈ first :: rest
  · obtain ⟨others, found⟩ := pythonNameSource_at letter present
    simp [found, isNameCharacter_of_isAlphanum letter, List.mem_cons.mp present]
  · have left : pythonNameSource (first :: rest) = none := by
      rw [pythonNameSource, splitOnce, if_neg present]
      simp [isReference]
    simp [left, List.mem_cons.not.mp present]

/-- A line gives the distribution that it requires, and nothing when it requires none,
unless it is a bare reference with an at sign. -/
theorem pythonDistributionName_exact_iff {kind : Kind} {line : List Char}
    (reads : kind.ReadsLine line) :
    pythonDistributionName line = kind.expected ↔ ¬(kind = .reference ∧ '@' ∈ line) := by
  obtain ⟨before, text, after, blankBefore, blankAfter, reads, rfl⟩ := reads
  cases kind with
  | distribution name =>
      obtain ⟨valid, rest, specifiers | reference, rfl⟩ := reads
      · exact iff_of_true
          (pythonDistributionName_specifiers valid specifiers blankBefore blankAfter) (by simp)
      · exact iff_of_true
          (pythonDistributionName_directReference valid reference blankBefore blankAfter) (by simp)
  | reference =>
      refine (pythonDistributionName_reference reads blankBefore blankAfter).trans ?_
      simp [at_not_mem_blank blankBefore, at_not_mem_blank blankAfter]
  | option =>
      obtain ⟨rest, rfl⟩ := reads
      have trimmed := trim_surrounded blankBefore blankAfter (by decide : isWhitespace '-' = false)
        rest
      exact iff_of_true (pythonDistributionName_none trimmed (by decide)) (by simp)
  | path =>
      obtain ⟨first, rest, listed, rfl⟩ := reads
      have visible : isWhitespace first = false := by
        simp only [List.mem_cons, List.not_mem_nil, or_false] at listed
        rcases listed with rfl | rfl | rfl <;> decide
      have trimmed := trim_surrounded blankBefore blankAfter visible rest
      exact iff_of_true (pythonDistributionName_none trimmed (List.mem_cons_of_mem _ listed))
        (by simp)

/-- The URL of the tests with a user in it is read as a requirement of ruff. -/
theorem urlWithUser_names_distribution :
    Kind.reference.ReadsLine "ruff://user@example.invalid/tool".toList ∧
      pythonDistributionName "ruff://user@example.invalid/tool".toList = some "ruff".toList ∧
      pythonDistributionName "ruff://user@example.invalid/tool".toList ≠
        Kind.reference.expected := by
  refine ⟨⟨[], _, [], nofun, nofun, ?_, (List.append_nil _).symm⟩, by decide, by decide⟩
  exact @BareReference.url "ruff".toList "user@example.invalid/tool".toList
    ⟨⟨'r', rfl, rfl⟩, List.all_eq_true.mp rfl⟩

theorem pythonDistributionName_exact_iff_git :
    pythonDistributionName " git+https://example.invalid/tool".toList = Kind.reference.expected ↔
      ¬(Kind.reference = .reference ∧ '@' ∈ " git+https://example.invalid/tool".toList) :=
  pythonDistributionName_exact_iff ⟨[' '], _, [], List.forall_mem_singleton.mpr rfl, nofun,
    .git "https://example.invalid/tool".toList, rfl⟩

end Requirement

end TaskAttest
