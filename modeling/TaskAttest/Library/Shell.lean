import Mathlib.Data.List.Basic

/-! What a POSIX shell makes of one line: its words with their quoting, and the
argument vector of a line that is one simple command. -/

set_option autoImplicit false

namespace Shell

/-! Words -/

/-- How a character is protected: by nothing, by double quotes, or so that nothing in
it is special. -/
inductive Quoting where
  | unquoted
  | double
  | literal
deriving DecidableEq

structure Mark where
  character : Char
  quoting : Quoting
deriving DecidableEq

/-- The characters of a word, without the quotes themselves. -/
abbrev Word := List Mark

def isBlank (character : Char) : Bool := character = ' ' || character = '\t'

def singleQuote : Char := Char.ofNat 39

/-- The characters that a backslash protects between double quotes. -/
def escapable : List Char := ['$', Char.ofNat 0x60, '"', '\\']

/-- The lexer is between words, in a comment, or in a word of which it has read a part. -/
inductive State where
  | between
  | comment
  | unquoted (word : Word)
  | escaped (word : Word)
  | single (word : Word)
  | double (word : Word)
  | doubleEscaped (word : Word)
deriving DecidableEq

namespace State

/-- The part of a word that has been read. -/
def word : State → Word
  | between | comment => []
  | unquoted word | escaped word | single word | double word | doubleEscaped word => word

/-- What an unquoted character does inside a word. -/
def inWord (word : Word) (character : Char) : State :=
  if character = singleQuote then single word
  else if character = '"' then double word
  else if character = '\\' then escaped word
  else unquoted (word ++ [⟨character, .unquoted⟩])

/-- The state after a character, and the word that ends before it. -/
def feed (character : Char) : State → State × Option Word
  | between =>
      if isBlank character then (between, none)
      else if character = '#' then (comment, none)
      else (inWord [] character, none)
  | comment => (comment, none)
  | unquoted word =>
      if isBlank character then (between, some word) else (inWord word character, none)
  | escaped word => (unquoted (word ++ [⟨character, .literal⟩]), none)
  | single word =>
      if character = singleQuote then (unquoted word, none)
      else (single (word ++ [⟨character, .literal⟩]), none)
  | double word =>
      if character = '"' then (unquoted word, none)
      else if character = '\\' then (doubleEscaped word, none)
      else (double (word ++ [⟨character, .double⟩]), none)
  | doubleEscaped word =>
      if escapable.contains character then (double (word ++ [⟨character, .literal⟩]), none)
      else (double (word ++ [⟨'\\', .literal⟩, ⟨character, .double⟩]), none)

/-- The last word of a line. A quotation must be closed, and a backslash protect something. -/
def finish : State → Option (List Word)
  | between | comment => some []
  | unquoted word => some [word]
  | _ => none

end State

/-- The words of the rest of a line. The newline at its end is not part of a line. -/
def lex : State → List Char → Option (List Word)
  | state, [] => state.finish
  | state, character :: rest =>
      (lex (state.feed character).1 rest).map ((state.feed character).2.toList ++ ·)

/-- The words of a line. -/
def words (line : List Char) : Option (List Word) := lex .between line

namespace Word

/-- Quote removal. -/
def text (word : Word) : String := String.ofList (word.map Mark.character)

/-- Is one of the characters in the word, and unquoted? -/
def has (characters : List Char) (word : Word) : Bool :=
  word.any fun mark => decide (mark.quoting = .unquoted) && characters.contains mark.character

/-- A parameter, a command or an arithmetic expression is substituted, between double
quotes as well. -/
def substitutes (word : Word) : Bool :=
  word.any fun mark => decide (mark.quoting ≠ .literal) &&
    ['$', Char.ofNat 0x60].contains mark.character

def startsTilde (word : Word) : Bool := word.head? == some ⟨'~', .unquoted⟩

end Word

/-! Simple commands -/

def operators : List Char := ['|', '&', ';', '<', '>']

def parentheses : List Char := ['(', ')']

def patterns : List Char := ['*', '?', '[']

def reserved : List String :=
  ["!", "\x7b", "\x7d", "case", "do", "done", "elif", "else", "esac", "fi", "for", "if", "in",
    "then", "until", "while"]

namespace Word

/-- A reserved word where a command is expected. -/
def isReserved (word : Word) : Bool :=
  (word.all fun mark => decide (mark.quoting = .unquoted)) && reserved.contains word.text

/-- A name and an equals sign behind it, both unquoted. -/
def isAssignment (word : Word) : Bool :=
  let name := word.takeWhile fun mark => mark.character ≠ '='
  (name.all fun mark => decide (mark.quoting = .unquoted) &&
    (mark.character.isAlphanum || mark.character = '_')) &&
    name.head?.any (fun mark => !mark.character.isDigit) &&
    (word.drop name.length).head? == some ⟨'=', .unquoted⟩

end Word

/-- What a shell looks up for the expansions that depend on where it runs: the home
directory for a word that starts with a tilde, and the pathnames that a pattern matches. -/
structure Environment where
  tilde : Word → Option Word
  paths : Word → List String

namespace Environment

variable (environment : Environment)

def expandTilde (word : Word) : Word :=
  if word.startsTilde then (environment.tilde word).getD word else word

/-- A pattern that matches nothing stays as it is. -/
def expandPaths (word : Word) : List String :=
  if word.has patterns && !(environment.paths word).isEmpty then environment.paths word
  else [word.text]

def fields (word : Word) : List String := environment.expandPaths (environment.expandTilde word)

end Environment

/-- The line is a simple command without substitutions. -/
def isSimple (words : List Word) : Bool :=
  (words.all fun word => !word.has (operators ++ parentheses) && !word.substitutes) &&
    !words.head?.any fun word => word.isReserved || word.isAssignment

/-- The arguments that the shell executes, when the line is one simple command that
nothing is substituted in. -/
def argv (environment : Environment) (line : List Char) : Option (List String) :=
  match words line with
  | none => none
  | some words => if isSimple words then some (words.flatMap environment.fields) else none

/-! Lexing -/

section Lexing

variable {state : State} {character : Char} {line part : List Char} {lexed : List Word}

private theorem lex_nil (state : State) : lex state [] = state.finish := rfl

private theorem lex_cons (state : State) (character : Char) (rest : List Char) :
    lex state (character :: rest) =
      (lex (state.feed character).1 rest).map ((state.feed character).2.toList ++ ·) := rfl

/-- A character that ends no word only changes the state. -/
theorem lex_cons_of_feed {next : State} {rest : List Char}
    (fed : state.feed character = (next, none)) :
    lex state (character :: rest) = lex next rest := by
  rw [lex_cons, fed]
  cases lex next rest <;> rfl

/-- A character is added to the word that is read, or ends it. -/
theorem feed_marks : ∀ mark ∈ (state.feed character).1.word ++ (state.feed character).2.getD [],
    mark ∈ state.word ∨ mark.character = character ∨ mark.character = '\\' := by
  have added (word : Word) (quoting : Quoting) : ∀ mark ∈ word ++ [⟨character, quoting⟩],
      mark ∈ word ∨ mark.character = character := by
    intro mark member
    rcases List.mem_append.mp member with old | new
    · exact .inl old
    · exact .inr (by rw [List.mem_singleton.mp new])
  have inWord_marks (word : Word) : ∀ mark ∈ (State.inWord word character).word,
      mark ∈ word ∨ mark.character = character := by
    intro mark member
    unfold State.inWord at member
    split_ifs at member
    · exact .inl member
    · exact .inl member
    · exact .inl member
    · exact added word _ mark member
  cases state with
  | between =>
      intro mark member
      simp only [State.feed] at member
      split_ifs at member
      · cases member
      · cases member
      · rw [Option.getD_none, List.append_nil] at member
        rcases inWord_marks [] mark member with old | new
        · cases old
        · exact .inr (.inl new)
  | comment =>
      intro mark member
      cases member
  | unquoted word =>
      intro mark member
      simp only [State.feed] at member
      split_ifs at member
      · exact .inl member
      · rw [Option.getD_none, List.append_nil] at member
        exact (inWord_marks word mark member).imp_right .inl
  | escaped word =>
      intro mark member
      simp only [State.feed, Option.getD_none, List.append_nil] at member
      exact (added word _ mark member).imp_right .inl
  | single word =>
      intro mark member
      simp only [State.feed] at member
      split_ifs at member <;> rw [Option.getD_none, List.append_nil] at member
      · exact .inl member
      · exact (added word _ mark member).imp_right .inl
  | double word =>
      intro mark member
      simp only [State.feed] at member
      split_ifs at member <;> rw [Option.getD_none, List.append_nil] at member
      · exact .inl member
      · exact .inl member
      · exact (added word _ mark member).imp_right .inl
  | doubleEscaped word =>
      intro mark member
      simp only [State.feed] at member
      split_ifs at member
      · rw [Option.getD_none, List.append_nil] at member
        exact (added word _ mark member).imp_right .inl
      · simp only [State.word, Option.getD_none, List.append_nil, List.mem_append,
          List.mem_cons, List.not_mem_nil, or_false] at member
        rcases member with old | rfl | rfl
        · exact .inl old
        · exact .inr (.inr rfl)
        · exact .inr (.inl rfl)

/-- What holds of the characters of a line, and of a backslash, holds of its words. -/
theorem lex_marks {allowed : Char → Prop} (backslash : allowed '\\')
    (characters : ∀ character ∈ line, allowed character)
    (started : ∀ mark ∈ state.word, allowed mark.character) (read : lex state line = some lexed) :
    ∀ word ∈ lexed, ∀ mark ∈ word, allowed mark.character := by
  induction line generalizing state lexed with
  | nil =>
      rw [lex_nil] at read
      cases state with
      | between | comment =>
          cases read
          exact List.forall_mem_nil _
      | unquoted word =>
          cases read
          exact List.forall_mem_singleton.mpr started
      | escaped | single | double | doubleEscaped => cases read
  | cons character rest ih =>
      obtain ⟨first, others⟩ := List.forall_mem_cons.mp characters
      have fed : ∀ mark ∈ (state.feed character).1.word ++ (state.feed character).2.getD [],
          allowed mark.character := by
        intro mark member
        rcases feed_marks mark member with old | same | same
        · exact started mark old
        · exact same ▸ first
        · exact same ▸ backslash
      obtain ⟨continued, ended⟩ := List.forall_mem_append.mp fed
      rw [lex_cons, Option.map_eq_some_iff] at read
      obtain ⟨later, readLater, rfl⟩ := read
      rw [List.forall_mem_append]
      refine ⟨?_, ih others continued readLater⟩
      intro word member
      rw [Option.mem_toList.mp member, Option.getD_some] at ended
      exact ended

theorem words_marks {allowed : Char → Prop} (backslash : allowed '\\')
    (characters : ∀ character ∈ line, allowed character) (read : words line = some lexed) :
    ∀ word ∈ lexed, ∀ mark ∈ word, allowed mark.character :=
  lex_marks backslash characters (List.forall_mem_nil _) read

/-- Blanks before the first word are skipped. -/
theorem lex_blanks (blank : ∀ character ∈ part, isBlank character = true) :
    lex .between (part ++ line) = lex .between line := by
  induction part with
  | nil => rfl
  | cons character rest ih =>
      obtain ⟨first, others⟩ := List.forall_mem_cons.mp blank
      have fed : State.feed character .between = (.between, none) := if_pos first
      rw [List.cons_append, lex_cons_of_feed fed, ih others]

/-- A character that neither separates words nor protects anything nor starts a comment. -/
def isPlain (character : Char) : Bool :=
  !isBlank character && character != singleQuote && character != '"' && character != '\\' &&
    character != '#'

private theorem inWord_plain {word : Word} (plain : isPlain character = true) :
    State.inWord word character = .unquoted (word ++ [⟨character, .unquoted⟩]) := by
  simp only [isPlain, Bool.and_eq_true, bne_iff_ne] at plain
  obtain ⟨⟨⟨⟨_, single⟩, double⟩, backslash⟩, _⟩ := plain
  rw [State.inWord, if_neg single, if_neg double, if_neg backslash]

private theorem feed_unquoted_plain {word : Word} (plain : isPlain character = true) :
    State.feed character (.unquoted word) =
      (.unquoted (word ++ [⟨character, .unquoted⟩]), none) := by
  have solid : ¬isBlank character = true := by
    intro blank
    simp [isPlain, blank] at plain
  rw [State.feed, if_neg solid, inWord_plain plain]

theorem feed_between_plain (plain : isPlain character = true) :
    State.feed character .between = (.unquoted [⟨character, .unquoted⟩], none) := by
  have solid : ¬isBlank character = true := by
    intro blank
    simp [isPlain, blank] at plain
  have code : ¬character = '#' := by
    intro comment
    simp [isPlain, comment] at plain
  rw [State.feed, if_neg solid, if_neg code, inWord_plain plain, List.nil_append]

private theorem lex_plain {word : Word} (plain : ∀ character ∈ part, isPlain character = true) :
    lex (.unquoted word) (part ++ line) =
      lex (.unquoted (word ++ part.map fun character => ⟨character, .unquoted⟩)) line := by
  induction part generalizing word with
  | nil => rw [List.nil_append, List.map_nil, List.append_nil]
  | cons character rest ih =>
      obtain ⟨first, others⟩ := List.forall_mem_cons.mp plain
      rw [List.cons_append, lex_cons_of_feed (feed_unquoted_plain first), ih others,
        List.map_cons, List.append_assoc, List.singleton_append]

/-- A plain word at the beginning of a line, and a space behind it. -/
theorem words_plain (nonempty : part ≠ []) (plain : ∀ character ∈ part, isPlain character = true) :
    words (part ++ ' ' :: line) =
      (words line).map ((part.map fun character => ⟨character, .unquoted⟩) :: ·) := by
  cases part with
  | nil => exact absurd rfl nonempty
  | cons character rest =>
      obtain ⟨first, others⟩ := List.forall_mem_cons.mp plain
      rw [words, List.cons_append, lex_cons_of_feed (feed_between_plain first), lex_plain others]
      rfl

namespace State

/-- A word has been started and is not yet ended. -/
def inside : State → Bool
  | between | comment => false
  | _ => true

end State

private theorem inWord_inside {word : Word} :
    (State.inWord word character).inside = true ∧ word <+: (State.inWord word character).word := by
  unfold State.inWord
  split_ifs
  · exact ⟨rfl, List.prefix_refl _⟩
  · exact ⟨rfl, List.prefix_refl _⟩
  · exact ⟨rfl, List.prefix_refl _⟩
  · exact ⟨rfl, List.prefix_append ..⟩

/-- A word that has been started goes on, or ends as it is. -/
theorem feed_inside (started : state.inside = true) :
    ((state.feed character).1.inside = true ∧ (state.feed character).2 = none ∧
      state.word <+: (state.feed character).1.word) ∨
    (state.feed character).2 = some state.word := by
  cases state with
  | between | comment => cases started
  | unquoted word =>
      simp only [State.feed]
      split_ifs
      · exact .inr rfl
      · exact .inl ⟨inWord_inside.1, rfl, inWord_inside.2⟩
  | escaped word => exact .inl ⟨rfl, rfl, List.prefix_append ..⟩
  | single word =>
      simp only [State.feed]
      split_ifs
      · exact .inl ⟨rfl, rfl, List.prefix_refl _⟩
      · exact .inl ⟨rfl, rfl, List.prefix_append ..⟩
  | double word =>
      simp only [State.feed]
      split_ifs
      · exact .inl ⟨rfl, rfl, List.prefix_refl _⟩
      · exact .inl ⟨rfl, rfl, List.prefix_refl _⟩
      · exact .inl ⟨rfl, rfl, List.prefix_append ..⟩
  | doubleEscaped word =>
      simp only [State.feed]
      split_ifs
      · exact .inl ⟨rfl, rfl, List.prefix_append ..⟩
      · exact .inl ⟨rfl, rfl, List.prefix_append ..⟩

/-- The first word of the rest of a line is the word that has been started. -/
theorem lex_inside (started : state.inside = true) (read : lex state line = some lexed) :
    ∃ word others, lexed = word :: others ∧ state.word <+: word := by
  induction line generalizing state lexed with
  | nil =>
      rw [lex_nil] at read
      cases state with
      | between | comment => cases started
      | unquoted word =>
          cases read
          exact ⟨word, [], rfl, List.prefix_refl _⟩
      | escaped | single | double | doubleEscaped => cases read
  | cons character rest ih =>
      rw [lex_cons, Option.map_eq_some_iff] at read
      obtain ⟨later, readLater, rfl⟩ := read
      rcases feed_inside started with ⟨continued, unended, extended⟩ | ended
      · obtain ⟨word, others, rfl, extendsWord⟩ := ih continued readLater
        rw [unended]
        exact ⟨word, others, rfl, extended.trans extendsWord⟩
      · rw [ended]
        exact ⟨_, later, rfl, List.prefix_refl _⟩

end Lexing

/-! Expansions -/

namespace Word

private theorem has_iff {characters : List Char} {word : Word} : word.has characters = true ↔
    ∃ mark ∈ word, mark.quoting = .unquoted ∧ mark.character ∈ characters := by
  simp only [has, List.any_eq_true, Bool.and_eq_true, decide_eq_true_eq, List.contains_iff_mem]

theorem has_append (left right : List Char) (word : Word) :
    word.has (left ++ right) = (word.has left || word.has right) := by
  rw [Bool.eq_iff_iff, Bool.or_eq_true, has_iff, has_iff, has_iff]
  simp only [List.mem_append, and_or_left, exists_or]

theorem has_eq_false {characters : List Char} {word : Word}
    (absent : ∀ mark ∈ word, mark.character ∉ characters) : word.has characters = false := by
  rw [Bool.eq_false_iff, Ne, has_iff]
  intro present
  obtain ⟨mark, member, _, listed⟩ := present
  exact absent mark member listed

theorem substitutes_eq_false {word : Word}
    (absent : ∀ mark ∈ word, mark.character ∉ ['$', Char.ofNat 0x60]) :
    word.substitutes = false := by
  rw [substitutes, List.any_eq_false]
  intro mark member
  have unlisted : ['$', Char.ofNat 0x60].contains mark.character = false := by
    rw [Bool.eq_false_iff]
    intro listed
    exact absent mark member (List.contains_iff_mem.mp listed)
  rw [unlisted, Bool.and_false]
  exact Bool.false_ne_true

/-- Nothing in the word groups commands, is a pattern or stands for a home directory. -/
def isPlain (word : Word) : Bool := !word.has (parentheses ++ patterns) && !word.startsTilde

theorem isPlain_iff {word : Word} : word.isPlain = true ↔
    word.has parentheses = false ∧ word.has patterns = false ∧ word.startsTilde = false := by
  simp only [isPlain, has_append, Bool.and_eq_true, Bool.not_eq_true', Bool.or_eq_false_iff,
    and_assoc]

end Word

namespace Environment

variable (environment : Environment) {word : Word}

private theorem fields_plain (unpatterned : word.has patterns = false)
    (untilded : word.startsTilde = false) : environment.fields word = [word.text] := by
  have same : environment.expandTilde word = word := by
    rw [expandTilde, untilded]
    rfl
  rw [fields, same, expandPaths, unpatterned]
  rfl

private theorem fields_ne_nil (word : Word) : environment.fields word ≠ [] := by
  rw [fields, expandPaths]
  split
  · rename_i matched
    rw [Bool.and_eq_true, Bool.not_eq_true', List.isEmpty_eq_false_iff] at matched
    exact matched.2
  · exact List.cons_ne_nil _ _

/-- A directory in which every pattern matches two files, and a home directory. -/
def twoFiles : Environment where
  tilde _ := some [⟨'/', .literal⟩]
  paths _ := ["a", "b"]

private theorem isPlain_of_twoFiles (kept : twoFiles.fields word = [word.text])
    (grouped : word.has parentheses = false) : word.isPlain = true := by
  rw [Word.isPlain_iff]
  cases tilde : word.startsTilde with
  | true =>
      have home : twoFiles.fields word = ["/"] := by
        rw [fields, expandTilde, tilde]
        rfl
      rw [home] at kept
      have slash : "/" = word.text := List.head_eq_of_cons_eq kept
      cases word with
      | nil => cases tilde
      | cons mark rest =>
          obtain rfl := Option.some.inj (beq_iff_eq.mp tilde)
          have first : (Word.text (⟨'~', .unquoted⟩ :: rest)).toList.head? = some '~' := by
            rw [Word.text, String.toList_ofList]
            rfl
          rw [← slash] at first
          cases first
  | false =>
      refine ⟨grouped, ?_, rfl⟩
      rw [Bool.eq_false_iff]
      intro patterned
      have same : twoFiles.expandTilde word = word := by
        rw [expandTilde, tilde]
        rfl
      have files : twoFiles.fields word = ["a", "b"] := by
        rw [fields, same, expandPaths, patterned]
        rfl
      have lengths := congrArg List.length kept
      rw [files] at lengths
      cases lengths

end Environment

/-! Argument vectors -/

section Spread

variable {Item Result : Type} {items : List Item} {spread : Item → List Result}
  {single : Item → Result}

private theorem length_le_flatMap (nonempty : ∀ item, spread item ≠ []) :
    items.length ≤ (items.flatMap spread).length := by
  induction items with
  | nil => exact Nat.le_refl 0
  | cons item rest ih =>
      have one := List.length_pos_of_ne_nil (nonempty item)
      rw [List.flatMap_cons, List.length_append, List.length_cons]
      omega

/-- As many results as items: every item has one result. -/
theorem singletons_of_flatMap (nonempty : ∀ item, spread item ≠ [])
    (same : items.flatMap spread = items.map single) :
    ∀ item ∈ items, spread item = [single item] := by
  induction items with
  | nil => exact List.forall_mem_nil _
  | cons item rest ih =>
      rw [List.flatMap_cons, List.map_cons] at same
      cases results : spread item with
      | nil => exact absurd results (nonempty item)
      | cons first others =>
          rw [results, List.cons_append] at same
          obtain ⟨head, tail⟩ := List.cons.inj same
          have enough := @length_le_flatMap _ _ rest _ nonempty
          have lengths := congrArg List.length tail
          rw [List.length_append, List.length_map] at lengths
          have none := List.length_eq_zero_iff.mp (by omega : others.length = 0)
          rw [none, List.nil_append] at tail
          rw [List.forall_mem_cons]
          exact ⟨by rw [results, head, none], ih tail⟩

end Spread

section Arguments

variable {line : List Char} {lexed : List Word}

/-- The words have no operator and no substitution, and the first one names a command. -/
structure Unsubstituted (lexed : List Word) : Prop where
  operators : ∀ word ∈ lexed, word.has operators = false
  substitutions : ∀ word ∈ lexed, word.substitutes = false
  command : (lexed.head?.any fun word => word.isReserved || word.isAssignment) = false

private theorem isSimple_iff (unsubstituted : Unsubstituted lexed) :
    isSimple lexed = true ↔ ∀ word ∈ lexed, word.has parentheses = false := by
  rw [isSimple, unsubstituted.command, Bool.not_false, Bool.and_true, List.all_eq_true]
  apply forall_congr'
  intro word
  apply imp_congr_right
  intro member
  rw [Word.has_append, unsubstituted.operators word member, unsubstituted.substitutions word member]
  simp

/-- The shell executes the words as they are, wherever it runs, when and only when
nothing in them is left to be expanded. -/
theorem argv_literal_iff (read : words line = some lexed) (unsubstituted : Unsubstituted lexed) :
    (∀ environment, argv environment line = some (lexed.map Word.text)) ↔
      ∀ word ∈ lexed, word.isPlain = true := by
  constructor
  · intro literal
    have run := literal .twoFiles
    simp only [argv, read] at run
    split at run
    · rename_i simple
      have grouped := (isSimple_iff unsubstituted).mp simple
      have kept := singletons_of_flatMap (Environment.fields_ne_nil .twoFiles)
        (Option.some.inj run)
      exact fun word member => Environment.isPlain_of_twoFiles (kept word member)
        (grouped word member)
    · cases run
  · intro plain environment
    have simple : isSimple lexed = true := (isSimple_iff unsubstituted).mpr fun word member =>
      (Word.isPlain_iff.mp (plain word member)).1
    have each : ∀ word ∈ lexed, environment.fields word = [word.text] := by
      intro word member
      obtain ⟨_, unpatterned, untilded⟩ := Word.isPlain_iff.mp (plain word member)
      exact environment.fields_plain unpatterned untilded
    simp only [argv, read, simple, if_true, Option.some.injEq]
    rw [List.flatMap_congr each, ← List.map_eq_flatMap]

end Arguments

end Shell
