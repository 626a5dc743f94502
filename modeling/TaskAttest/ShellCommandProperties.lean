import TaskAttest.Library.Shell
import TaskAttest.WorkflowIdProperties

/-! What the lines that become checks mean to a shell: their argument vectors, and
whether their coverage is that of the program they run. -/

set_option autoImplicit false

namespace TaskAttest

open Shell

/-! Accepted lines -/

/-- The programs whose command lines become checks. -/
def commandPrograms : List String :=
  ["cargo", "npm", "pnpm", "yarn", "bun", "python", "python3", "go"]

private theorem workflowCommandKind_program {program : String} {arguments : List String}
    {found : CheckKind × Nat} (known : workflowCommandKind (program :: arguments) = some found) :
    program ∈ commandPrograms := by
  simp only [workflowCommandKind] at known
  split at known
  · rename_i cargo
    rw [cargo]
    decide
  · split at known
    · rename_i manager
      simp only [List.mem_cons, List.not_mem_nil, or_false] at manager
      rcases manager with rfl | rfl | rfl | rfl <;> decide
    · split at known
      · rename_i python
        simp only [List.mem_cons, List.not_mem_nil, or_false] at python
        rcases python with rfl | rfl <;> decide
      · split at known
        · rename_i go
          rw [go]
          decide
        · cases known

private theorem isReserved_eq_false {word : Word} (known : word.text ∈ commandPrograms) :
    word.isReserved = false := by
  have apart : ∀ program ∈ commandPrograms, reserved.contains program = false := by decide
  rw [Word.isReserved, apart _ known, Bool.and_false]

private theorem isAssignment_eq_false {word : Word} (unassigned : '=' ∉ word.text.toList) :
    word.isAssignment = false := by
  rw [Bool.eq_false_iff]
  intro assignment
  rw [Word.isAssignment, Bool.and_eq_true, beq_iff_eq] at assignment
  have dropped := List.mem_of_mem_drop (List.mem_of_mem_head? assignment.2)
  apply unassigned
  rw [Word.text, String.toList_ofList]
  exact List.mem_map.mpr ⟨_, dropped, rfl⟩

section Accepted

variable [Packages] {run workingDirectory : String} {kind : CheckKind} {command : CommandSpec}

/-- `shlex::split` strips comments, removes quotes and separates words as a shell does. -/
def SplitsAsShell : Prop :=
  ∀ line : String, '\n' ∉ line.toList →
    Packages.split line = (words line.toList).map fun lexed => lexed.map Word.text

/-- No character of an accepted line is on the list, and its program is no assignment. -/
theorem safeWorkflowCommand_characters
    (safe : safeWorkflowCommand run workingDirectory = some (kind, command)) :
    (∀ character ∈ run.toList, character ∉ shellCharacters) ∧
      '=' ∉ command.program.toList ∧ command.program ∈ commandPrograms := by
  obtain ⟨program, arguments, index, split_, found, shape⟩ := safeWorkflowCommand_some safe
  rw [safeWorkflowCommand, split_] at safe
  split at safe
  · cases safe
  · rename_i unlisted
    simp only [Bool.or_eq_true, List.any_eq_true, not_or, not_exists, not_and] at unlisted
    simp only at safe
    split at safe
    · cases safe
    · rename_i unassigned
      rw [shape]
      refine ⟨?_, ?_, workflowCommandKind_program found⟩
      · intro character member listed
        exact unlisted.1 character member (List.contains_iff_mem.mpr listed)
      · intro member
        exact unassigned (List.contains_iff_mem.mpr member)

/-- The words of an accepted line: the program and its arguments, without operators
and substitutions. -/
theorem safeWorkflowCommand_words (splits : SplitsAsShell)
    (safe : safeWorkflowCommand run workingDirectory = some (kind, command)) :
    ∃ lexed, words run.toList = some lexed ∧
      lexed.map Word.text = command.program :: command.args ∧ Unsubstituted lexed := by
  obtain ⟨program, arguments, _, split_, _, shape⟩ := safeWorkflowCommand_some safe
  obtain ⟨unlisted, unassigned, known⟩ := safeWorkflowCommand_characters safe
  have oneLine : '\n' ∉ run.toList := fun member => unlisted _ member (by decide)
  rw [splits run oneLine, Option.map_eq_some_iff] at split_
  obtain ⟨lexed, read, texts⟩ := split_
  have marks := @words_marks _ _ (fun character => character ∉ shellCharacters) (by decide)
    unlisted read
  rw [shape] at unassigned known ⊢
  refine ⟨lexed, read, texts, ?_, ?_, ?_⟩
  · intro word member
    apply Word.has_eq_false
    intro mark included operator
    have listed : ∀ character ∈ operators, character ∈ shellCharacters := by
      simp [operators, shellCharacters]
    exact marks word member mark included (listed _ operator)
  · intro word member
    apply Word.substitutes_eq_false
    intro mark included substitution
    have listed : ∀ character ∈ ['$', Char.ofNat 0x60], character ∈ shellCharacters := by
      simp [shellCharacters]
    exact marks word member mark included (listed _ substitution)
  · cases lexed with
    | nil => cases texts
    | cons word others =>
        have text : word.text = program := (List.cons.inj texts).1
        rw [List.head?_cons, Option.any_some, isReserved_eq_false (text ▸ known),
          isAssignment_eq_false (text ▸ unassigned)]
        rfl

/-! The argument vector -/

omit [Packages] in
/-- A shell executes the line as the command, whatever directory it runs in, because
nothing in the line is left to be expanded. -/
structure RunsWithoutShell (run : String) (command : CommandSpec) : Prop where
  executes : ∀ environment,
    argv environment run.toList = some (command.program :: command.args)
  unexpanded : ∀ lexed, words run.toList = some lexed → ∀ word ∈ lexed,
    word.has (operators ++ parentheses ++ patterns) = false ∧ word.substitutes = false ∧
      word.startsTilde = false

omit [Packages] in
/-- No word has an unquoted parenthesis or pattern character, or starts with an
unquoted tilde. -/
def PlainLine (run : String) : Prop :=
  ∀ lexed, words run.toList = some lexed → ∀ word ∈ lexed, word.isPlain = true

/-- The list of shell characters keeps out operators and substitutions. The rest of
what a shell expands is kept out only where the line itself is plain. -/
theorem safeWorkflowCommand_runsWithoutShell_iff (splits : SplitsAsShell)
    (safe : safeWorkflowCommand run workingDirectory = some (kind, command)) :
    RunsWithoutShell run command ↔ PlainLine run := by
  obtain ⟨lexed, read, texts, unsubstituted⟩ := safeWorkflowCommand_words splits safe
  have literal := argv_literal_iff read unsubstituted
  rw [texts] at literal
  constructor
  · intro same others readOthers
    obtain rfl := Option.some.inj (read.symm.trans readOthers)
    exact literal.mp same.executes
  · intro plain
    refine ⟨literal.mpr (plain lexed read), ?_⟩
    intro others readOthers word member
    obtain rfl := Option.some.inj (read.symm.trans readOthers)
    obtain ⟨grouped, unpatterned, untilded⟩ := Word.isPlain_iff.mp (plain lexed read word member)
    refine ⟨?_, unsubstituted.substitutions word member, untilded⟩
    rw [Word.has_append, Word.has_append, unsubstituted.operators word member, grouped, unpatterned]
    rfl

end Accepted

/-! A pattern in an accepted line -/

@[reducible] def shellPackages : Packages where
  config _ := .error "missing field"
  packageScripts _ := .ok none
  toml _ := .ok .other
  yaml _ := .error "missing field"
  split line := (words line.toList).map fun lexed => lexed.map Word.text
  glob _ := .ok ()
  globSet _ := .ok fun _ => false

theorem splitsAsShell_shellPackages : @SplitsAsShell shellPackages := by
  intro line _
  rfl

def patternLine : String := "python -m ruff check *.py"

def patternCommand : CommandSpec where
  program := "python"
  args := ["-m", "ruff", "check", "*.py"]
  workingDirectory := "."

/-- A directory with one Python file. -/
def oneFile : Shell.Environment where
  tilde _ := none
  paths word := if word.text = "*.py" then ["app.py"] else []

/-- The shell checks the file, and the command is run with the pattern itself. -/
theorem pattern_is_not_expanded :
    @SplitsAsShell shellPackages ∧
      @safeWorkflowCommand shellPackages patternLine "." = some (.lint, patternCommand) ∧
      argv oneFile patternLine.toList = some ["python", "-m", "ruff", "check", "app.py"] ∧
      ¬RunsWithoutShell patternLine patternCommand := by
  have executed : argv oneFile patternLine.toList =
      some ["python", "-m", "ruff", "check", "app.py"] := by
    decide +kernel
  refine ⟨splitsAsShell_shellPackages, by decide +kernel, executed, ?_⟩
  intro same
  have literal := same.executes oneFile
  rw [executed] at literal
  exact absurd literal (by decide)

theorem safeWorkflowCommand_runsWithoutShell_iff_pattern :
    RunsWithoutShell patternLine patternCommand ↔ PlainLine patternLine :=
  @safeWorkflowCommand_runsWithoutShell_iff shellPackages patternLine "." .lint patternCommand
    splitsAsShell_shellPackages (by decide +kernel)

end TaskAttest
