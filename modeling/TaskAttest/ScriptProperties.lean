import TaskAttest.SelectionProperties
import TaskAttest.WorkflowCheckProperties

/-! Are the package scripts that discovery leaves out brought back by workflow steps? -/

set_option autoImplicit false

namespace TaskAttest

open Program

def packageManagers : List String := ["npm", "pnpm", "yarn", "bun"]

/-- The package script that a command runs, after `run` or without it. -/
def runScript? (command : CommandSpec) : Option String :=
  if command.program ∈ packageManagers then
    match command.args with
    | first :: script :: _ => some (if first = "run" then script else first)
    | [script] => some script
    | [] => none
  else none

/-- If the command runs a declared script, that script is a verification script. -/
def ScriptAllowed (scripts : SortedMap String String) (command : CommandSpec) : Prop :=
  ∀ script text, runScript? command = some script → scripts.find? script = some text →
    (javascriptScriptKind script text).isSome = true

private theorem scriptAllowed_of_program {scripts : SortedMap String String} {command : CommandSpec}
    (other : command.program ∉ packageManagers) : ScriptAllowed scripts command := by
  intro script text runs
  rw [runScript?, if_neg other] at runs
  cases runs

section Scripts

variable [Sha2] [Packages] {workspace : Workspace} {checks : List CheckDefinition}
  {scripts : SortedMap String String}

omit [Sha2] in
/-- The scripts that the package manifest declares, if there is one. -/
def declaredScripts (workspace : Workspace) : Except TaskError (SortedMap String String) :=
  if workspace.isFile (workspace.within "package.json") then do
    let text ← workspace.readBoundedProjectFile "package.json"
    let scripts ← orElseFail
      (fun error => TaskError.discovery ("parse package.json: " ++ error))
      (Packages.packageScripts text)
    return scripts.getD .empty
  else return .empty

omit [Packages] in
private theorem javascriptChecks_scripts {manager : String} {sources : List DiscoverySource}
    {entries : List (String × String)} {ids : List String} :
    ∀ check ∈ javascriptChecks manager sources entries ids, ∃ entry ∈ entries,
      check.command = { program := manager, args := ["run", entry.1], workingDirectory := "." } ∧
      (javascriptScriptKind entry.1 entry.2).isSome = true := by
  induction entries generalizing ids with
  | nil => exact List.forall_mem_nil _
  | cons entry rest ih =>
      obtain ⟨script, commandText⟩ := entry
      rw [javascriptChecks]
      cases kind : javascriptScriptKind script commandText with
      | none =>
          intro check member
          obtain ⟨other, listed, known⟩ := ih check member
          exact ⟨other, List.mem_cons_of_mem _ listed, known⟩
      | some found =>
          intro check member
          cases List.mem_cons.mp member with
          | inl same =>
              refine ⟨(script, commandText), List.mem_cons_self .., ?_, by rw [kind]; rfl⟩
              rw [same]
              rfl
          | inr later =>
              obtain ⟨other, listed, known⟩ := ih check later
              exact ⟨other, List.mem_cons_of_mem _ listed, known⟩

omit [Packages] in
/-- The manifest sees the text of a script and leaves out what does not verify. -/
theorem javascriptChecks_allowed {manager : String} {sources : List DiscoverySource}
    {ids : List String} :
    ∀ check ∈ javascriptChecks manager sources scripts.entries ids,
      ScriptAllowed scripts check.command := by
  intro check member script text runs declared
  obtain ⟨⟨name, commandText⟩, listed, command, verifies⟩ := javascriptChecks_scripts check member
  rw [command, runScript?] at runs
  split at runs
  · obtain rfl := Option.some.inj runs
    have own : scripts.find? name = some commandText :=
      List.lookup_of_mem scripts.keys_nodup listed
    obtain rfl := Option.some.inj (own.symm.trans declared)
    exact verifies
  · cases runs

private theorem discoverJavascript_allowed
    (present : workspace.isFile (workspace.within "package.json") = true)
    (declared : declaredScripts workspace = .ok scripts)
    (found : discoverJavascript workspace = .ok checks) :
    ∀ check ∈ checks, ScriptAllowed scripts check.command := by
  rw [declaredScripts, if_pos present] at declared
  simp only [except_bind_ok_iff, except_pure_ok_iff] at declared
  obtain ⟨text, read, manifest, parsed, rfl⟩ := declared
  obtain ⟨_, _, _, _, readAgain, parsedAgain, rfl⟩ := discoverJavascript_cases found
  obtain rfl := Except.ok.inj (read.symm.trans readAgain)
  obtain rfl := Except.ok.inj (parsed.symm.trans parsedAgain)
  exact javascriptChecks_allowed

omit [Sha2] [Packages] in
theorem CheckDefinition.RunsTool.allowed {check : CheckDefinition} (runs : check.RunsTool) :
    ScriptAllowed scripts check.command := by
  have tools : ∀ program ∈ ["python3", "cargo", "go"], program ∉ packageManagers := by decide
  exact scriptAllowed_of_program (tools _ runs.1)

private theorem discoverLanguages_allowed (declared : declaredScripts workspace = .ok scripts)
    (found : discoverLanguages workspace = .ok checks) :
    ∀ check ∈ checks, ScriptAllowed scripts check.command := by
  obtain ⟨javascript, others, rfl, manifest, tools⟩ := discoverLanguages_cases found
  refine List.forall_mem_append.mpr ⟨?_, fun check member => (tools check member).allowed⟩
  rcases manifest with ⟨present, discovered⟩ | rfl
  · exact discoverJavascript_allowed present declared discovered
  · exact List.forall_mem_nil _

end Scripts

/-! Both paths together -/

section Paths

variable [Sha2] [Packages] {workspace : Workspace} {source : SourceIdentity} {changedOnly : Bool}
  {requestedChecks : List String} {report : DiscoveryReport} {scripts : SortedMap String String}

private theorem readConfiguration_of_absent
    (unconfigured : workspace.isFile (workspace.within ".taskattest.toml") = false) :
    readConfiguration workspace = .ok (.default, none) := by
  rw [readConfiguration, unconfigured]
  rfl

/-- Without explicit configuration a report runs only verification scripts of the
manifest when, and only when, every safe workflow step does. -/
theorem discoverChecks_scriptsAllowed_iff {documents : List WorkflowDocument}
    (unconfigured : workspace.isFile (workspace.within ".taskattest.toml") = false)
    (declared : declaredScripts workspace = .ok scripts)
    (read : workflowDocuments workspace = .ok documents)
    (found : discoverChecks workspace source changedOnly requestedChecks = .ok report) :
    (∀ check ∈ report.checks, ScriptAllowed scripts check.command) ↔
      ∀ step ∈ allSteps documents, ∀ kind command, step.command = some (kind, command) →
        ScriptAllowed scripts command := by
  obtain ⟨checks, workflow, reportSource, ready, _, rfl⟩ := discoverChecks_ok_iff.mp found
  simp only [prepareChecks, readConfiguration_of_absent unconfigured, except_bind_ok_iff,
    Except.ok.injEq, except_pure_ok_iff] at ready
  obtain ⟨_, rfl, languageChecks, languages, ⟨discovered, before⟩, inspected, explicit, made, ⟨⟩,
    _, after, _, same⟩ := ready
  obtain ⟨rfl, rfl, rfl⟩ : _ ∧ _ ∧ _ := by simpa using same
  cases made
  obtain ⟨others, readAgain, known⟩ := discoverWorkflows_discovered inspected
  obtain rfl : documents = others := Except.ok.inj (read.symm.trans readAgain)
  have commands : (∀ check ∈ orderedChecks .default discovered [],
      ScriptAllowed scripts check.command) ↔
      ∀ command, command ∈ discovered.map CheckDefinition.command →
        ScriptAllowed scripts command := by
    simp only [List.mem_map]
    constructor
    · intro allowed command listed
      obtain ⟨check, member, rfl⟩ := listed
      exact allowed check (orderedChecks_default_perm.mem_iff.mpr member)
    · intro allowed check member
      exact allowed _ ⟨check, orderedChecks_default_perm.mem_iff.mp member, rfl⟩
  refine commands.trans ?_
  constructor
  · intro allowed step member kind command parsed
    exact allowed command ((mem_commands_iff known).mpr (.inr ⟨step, member, kind, parsed⟩))
  · intro allowed command member
    cases (mem_commands_iff known).mp member with
    | inl language =>
        obtain ⟨check, listed, rfl⟩ := List.mem_map.mp language
        exact discoverLanguages_allowed declared languages check listed
    | inr fromStep =>
        obtain ⟨step, listed, kind, parsed⟩ := fromStep
        exact allowed step listed kind command parsed

end Paths

/-! A watch script that a workflow step runs by its name -/

def watchSteps : String := "jobs:\n  ci:\n    steps:\n      - run: npm test\n"

def watchManifest : String := "\x7b\"scripts\":\x7b\"test\":\"vitest --watch\"\x7d\x7d"

def watchWorkspace : Workspace :=
  storedWorkspace [("/r/package.json", watchManifest),
    ("/r/.github/workflows/c.yml", watchSteps)] [textBytes "c.yml"]

def watchScripts : SortedMap String String := .ofList [("test", "vitest --watch")]

@[reducible] def watchPackages : Packages where
  config _ := .error "missing field"
  packageScripts _ := .ok (some watchScripts)
  toml _ := .ok .other
  yaml _ := .ok (jobDocument [[("run", "npm test")]])
  split _ := some ["npm", "test"]
  glob _ := .ok ()
  globSet _ := .ok fun _ => false

section Watch

attribute [local instance] standardSha2 watchPackages

private theorem declaredScripts_watch : declaredScripts watchWorkspace = .ok watchScripts := by
  rfl

private theorem watchReport_runs_script :
    ((discoverChecks watchWorkspace cleanSource false []).toOption.any fun report =>
      report.checks.any fun check => runScript? check.command == some "test") = true := by
  decide +kernel

/-- The manifest leaves the script out, and the workflow step brings it back. -/
theorem watchScript_selected :
    ∃ report, declaredScripts watchWorkspace = .ok watchScripts ∧
      discoverJavascript watchWorkspace = .ok [] ∧
      discoverChecks watchWorkspace cleanSource false [] = .ok report ∧
      ¬∀ check ∈ report.checks, ScriptAllowed watchScripts check.command := by
  have excluded : javascriptScriptKind "test" "vitest --watch" = none := by decide +kernel
  obtain ⟨report, found, selected⟩ := exists_ok_of_any watchReport_runs_script
  obtain ⟨check, member, runs⟩ := List.any_eq_true.mp selected
  refine ⟨report, declaredScripts_watch, rfl, found, fun allowed => ?_⟩
  have verifies := allowed check member "test" "vitest --watch" (beq_iff_eq.mp runs) rfl
  rw [excluded] at verifies
  cases verifies

theorem discoverChecks_scriptsAllowed_iff_watch :
    ∃ documents report, workflowDocuments watchWorkspace = .ok documents ∧
      discoverChecks watchWorkspace cleanSource false [] = .ok report ∧
      ((∀ check ∈ report.checks, ScriptAllowed watchScripts check.command) ↔
        ∀ step ∈ allSteps documents, ∀ kind command, step.command = some (kind, command) →
          ScriptAllowed watchScripts command) := by
  obtain ⟨report, found, _⟩ := exists_ok_of_any watchReport_runs_script
  obtain ⟨_, _, _, ready, _, _⟩ := discoverChecks_ok_iff.mp found
  simp only [prepareChecks, except_bind_ok_iff] at ready
  obtain ⟨_, _, _, _, _, inspected, _⟩ := ready
  obtain ⟨documents, read, _⟩ := discoverWorkflows_discovered inspected
  exact ⟨documents, report, read, found,
    discoverChecks_scriptsAllowed_iff (by decide) declaredScripts_watch read found⟩

end Watch

end TaskAttest
