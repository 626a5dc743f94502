import Mathlib.Data.List.TakeWhile
import TaskAttest.ShellCommandProperties

/-! Which lines that become checks have the coverage of the program they run. -/

set_option autoImplicit false

namespace TaskAttest

open Shell

/-! The first word of a line -/

private theorem isPlain_of_isWhitespace {character : Char} (space : isWhitespace character = true)
    (solid : isBlank character = false) : isPlain character = true := by
  have unlike : ∀ other, isWhitespace other = false → character ≠ other := by
    intro other printed same
    rw [same, printed] at space
    cases space
  rw [isPlain, solid]
  simp [unlike singleQuote (by decide), unlike '"' (by decide), unlike '\\' (by decide),
    unlike '#' (by decide)]

private theorem commandPrograms_text : ∀ program ∈ commandPrograms, program.toList ≠ [] ∧
    program.toList.all isPlain = true ∧
    program.toList.all (fun character => !isWhitespace character) = true := by
  decide

/-- Behind white space, the name of a program and a space: the name is the first word,
unless white space that a shell does not skip belongs to it. -/
theorem words_first {spaces rest : List Char} {program : String} {word : Word} {others : List Word}
    (blank : ∀ character ∈ spaces, isWhitespace character = true)
    (known : program ∈ commandPrograms) (wordKnown : word.text ∈ commandPrograms)
    (read : words (spaces ++ (program.toList ++ ' ' :: rest)) = some (word :: others)) :
    word.text = program := by
  induction spaces with
  | nil =>
      obtain ⟨nonempty, plain, _⟩ := commandPrograms_text program known
      rw [List.nil_append, words_plain nonempty (List.all_eq_true.mp plain),
        Option.map_eq_some_iff] at read
      obtain ⟨_, _, shape⟩ := read
      have marks := (List.cons.inj shape).1
      rw [← marks, Word.text, List.map_map]
      have same : (Mark.character ∘ fun character => ⟨character, .unquoted⟩) = id := rfl
      rw [same, List.map_id, String.ofList_toList]
  | cons space more ih =>
      obtain ⟨first, later⟩ := List.forall_mem_cons.mp blank
      cases solid : isBlank space with
      | true =>
          have skipped : words ([space] ++ (more ++ (program.toList ++ ' ' :: rest))) =
              words (more ++ (program.toList ++ ' ' :: rest)) :=
            lex_blanks (List.forall_mem_singleton.mpr solid)
          exact ih later (skipped.symm.trans read)
      | false =>
          -- The space belongs to the word, and no program has a space in its name.
          rw [words, List.cons_append,
            lex_cons_of_feed (feed_between_plain (isPlain_of_isWhitespace first solid))] at read
          obtain ⟨started, _, shape, extends_⟩ := lex_inside rfl read
          obtain rfl := (List.cons.inj shape).1
          have member : space ∈ word.text.toList := by
            rw [Word.text, String.toList_ofList]
            exact List.mem_map.mpr ⟨_, extends_.subset (List.mem_singleton_self _), rfl⟩
          obtain ⟨_, _, printed⟩ := commandPrograms_text _ wordKnown
          have contradiction := List.all_eq_true.mp printed space member
          rw [first] at contradiction
          cases contradiction

/-! Coverage -/

/-- The coverage of the language of a program. -/
def programCoverage (program : String) : List String :=
  if program = "cargo" then rustCoverage
  else if program ∈ ["npm", "pnpm", "yarn", "bun"] then javascriptCoverage
  else if program ∈ ["python", "python3"] then pythonCoverage
  else if program = "go" then goCoverage
  else []

/-- Behind its leading white space the line has the name of a program, spelled out,
and a space. -/
def NamesProgram (run : String) : Prop :=
  ∃ program ∈ commandPrograms, (program ++ " ").toList <+: trimStart run.toList

private theorem programCoverage_ne_nil :
    ∀ program ∈ commandPrograms, programCoverage program ≠ [] := by
  decide

private theorem namesProgram_of_languageCoverage {run : String}
    (covered : languageCoverage run ≠ []) :
    NamesProgram run := by
  simp only [languageCoverage] at covered
  split at covered
  · rename_i cargo
    exact ⟨"cargo", by decide, List.isPrefixOf_iff_prefix.mp cargo⟩
  · split at covered
    · rename_i manager
      simp only [List.any_cons, List.any_nil, Bool.or_false, Bool.or_eq_true] at manager
      rcases manager with npm | pnpm | yarn | bun
      · exact ⟨"npm", by decide, List.isPrefixOf_iff_prefix.mp npm⟩
      · exact ⟨"pnpm", by decide, List.isPrefixOf_iff_prefix.mp pnpm⟩
      · exact ⟨"yarn", by decide, List.isPrefixOf_iff_prefix.mp yarn⟩
      · exact ⟨"bun", by decide, List.isPrefixOf_iff_prefix.mp bun⟩
    · split at covered
      · rename_i python
        simp only [List.any_cons, List.any_nil, Bool.or_false, Bool.or_eq_true] at python
        rcases python with python | python3
        · exact ⟨"python", by decide, List.isPrefixOf_iff_prefix.mp python⟩
        · exact ⟨"python3", by decide, List.isPrefixOf_iff_prefix.mp python3⟩
      · split at covered
        · rename_i go
          exact ⟨"go", by decide, List.isPrefixOf_iff_prefix.mp go⟩
        · exact absurd rfl covered

private theorem languageCoverage_of_named {run program : String} (known : program ∈ commandPrograms)
    (named : (program ++ " ").toList <+: trimStart run.toList) :
    languageCoverage run = programCoverage program := by
  obtain ⟨rest, text⟩ := named
  rw [languageCoverage, ← text]
  simp only [commandPrograms, List.mem_cons, List.not_mem_nil, or_false] at known
  rcases known with rfl | rfl | rfl | rfl | rfl | rfl | rfl | rfl <;> rfl

section Accepted

variable [Packages] {run workingDirectory : String} {kind : CheckKind} {command : CommandSpec}

private theorem program_of_named (splits : SplitsAsShell)
    (safe : safeWorkflowCommand run workingDirectory = some (kind, command)) {program : String}
    (known : program ∈ commandPrograms)
    (named : (program ++ " ").toList <+: trimStart run.toList) : command.program = program := by
  obtain ⟨lexed, read, texts, _⟩ := safeWorkflowCommand_words splits safe
  obtain ⟨_, _, programKnown⟩ := safeWorkflowCommand_characters safe
  obtain ⟨rest, text⟩ := named
  have shape : run.toList =
      run.toList.takeWhile isWhitespace ++ (program.toList ++ ' ' :: rest) := by
    have spaced : (program ++ " ").toList ++ rest = program.toList ++ ' ' :: rest := by
      rw [String.toList_append, List.append_assoc]
      rfl
    rw [← spaced, text, trimStart, List.takeWhile_append_dropWhile]
  cases lexed with
  | nil => cases texts
  | cons word others =>
      obtain ⟨own, _⟩ := List.cons.inj texts
      rw [← own] at programKnown ⊢
      rw [shape] at read
      exact words_first (fun character member => List.mem_takeWhile_imp member) known programKnown
        read

/-- An accepted line has the coverage of its program when, and only when, the program
is spelled out at its beginning. -/
theorem languageCoverage_complete_iff (splits : SplitsAsShell)
    (safe : safeWorkflowCommand run workingDirectory = some (kind, command)) :
    (languageCoverage run = programCoverage command.program ∧ languageCoverage run ≠ []) ↔
      NamesProgram run := by
  constructor
  · intro complete
    exact namesProgram_of_languageCoverage complete.2
  · intro named
    obtain ⟨program, known, spelled⟩ := named
    have same := program_of_named splits safe known spelled
    rw [languageCoverage_of_named known spelled, same]
    exact ⟨rfl, programCoverage_ne_nil program known⟩

end Accepted

/-! A tab behind the program -/

def tabLine : String := "cargo\ttest --locked"

def tabCommand : CommandSpec where
  program := "cargo"
  args := ["test", "--locked"]
  workingDirectory := "."

def tabSteps : String := "jobs:\n  ci:\n    steps:\n      - run: cargo\ttest --locked\n"

def tabWorkspace : Workspace :=
  storedWorkspace [("/r/.github/workflows/c.yml", tabSteps)] [textBytes "c.yml"]

def changedSource : SourceIdentity :=
  { cleanSource with dirty := true, changedPaths := ["src/lib.rs", "Cargo.toml"] }

@[reducible] def tabPackages : Packages :=
  { shellPackages with yaml := fun _ => .ok (jobDocument [[("run", tabLine)]]) }

private theorem splitsAsShell_tabPackages :
    @SplitsAsShell tabPackages := splitsAsShell_shellPackages

section Tab

attribute [local instance] standardSha2 tabPackages

/-- The check runs `cargo`, covers nothing, and is omitted though Rust code has changed. -/
theorem tab_loses_coverage :
    SplitsAsShell ∧ safeWorkflowCommand tabLine "." = some (.test, tabCommand) ∧
      languageCoverage tabLine = [] ∧
      ∃ report, discoverChecks tabWorkspace changedSource true [] = .ok report ∧
        (report.checks.map CheckDefinition.command) = [tabCommand] ∧
        (report.selection.map CheckSelection.selected) = [false] := by
  have omitted : ((discoverChecks tabWorkspace changedSource true []).toOption.any fun report =>
      decide (report.checks.map CheckDefinition.command = [tabCommand]) &&
        decide (report.selection.map CheckSelection.selected = [false])) = true := by
    decide +kernel
  refine ⟨splitsAsShell_tabPackages, by decide +kernel, by decide +kernel, ?_⟩
  obtain ⟨report, found, both⟩ := Program.exists_ok_of_any omitted
  exact ⟨report, found, by simpa using both⟩

theorem languageCoverage_complete_iff_tab :
    (languageCoverage tabLine = programCoverage "cargo" ∧ languageCoverage tabLine ≠ []) ↔
      NamesProgram tabLine :=
  @languageCoverage_complete_iff tabPackages tabLine "." .test tabCommand
    splitsAsShell_tabPackages (by decide +kernel)

end Tab

end TaskAttest
