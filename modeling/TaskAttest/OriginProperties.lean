import TaskAttest.InspectionProperties
import TaskAttest.RecoveryProperties
import TaskAttest.SelectionProperties

/-! Where the command of a check comes from. What is not configured is a tool of one of
four languages, and asks for no variable of the environment. -/

set_option autoImplicit false

namespace TaskAttest

open Program

/-! Commands that are found -/

/-- A check that asks for no variable and replaces no workflow step. -/
def CheckDefinition.Plain (check : CheckDefinition) : Prop :=
  check.passEnvironment = [] ∧ check.replacesWorkflowSteps = [] ∧ check.confidence = .high

/-- A tool of a language other than JavaScript, started where the repository is. -/
def CheckDefinition.RunsAtRoot (check : CheckDefinition) : Prop :=
  check.command.program ∈ ["python3", "cargo", "go"] ∧ check.command.workingDirectory = "." ∧
    check.Plain

/-- A check that was found: a verification script of the package manifest, a tool of
another language at the root, or the command of a workflow step. -/
inductive Found [Sha2] [Packages] (workspace : Workspace) (check : CheckDefinition) : Prop where
  | script {text script commandText manager : String} {scripts : SortedMap String String} :
      workspace.readBoundedProjectFile "package.json" = .ok text →
      Packages.packageScripts text = .ok (some scripts) →
      (script, commandText) ∈ scripts.entries →
      javascriptScriptKind script commandText = some check.kind →
      manager ∈ ["npm", "pnpm", "yarn", "bun"] →
      check.command = { program := manager, args := ["run", script], workingDirectory := "." } →
      check.Plain → Found workspace check
  | tool : check.RunsAtRoot → Found workspace check
  | workflow {documents : List WorkflowDocument} {step : RunStep} :
      workflowDocuments workspace = .ok documents → step ∈ allSteps documents →
      step.command = some (check.kind, check.command) →
      workspace.validateWorkingDirectory check.command.workingDirectory = .ok () →
      check.Plain → Found workspace check

section Languages

variable [Sha2] [Packages] {workspace : Workspace} {checks : List CheckDefinition}

private theorem javascriptChecks_found {text manager : String} {scripts : SortedMap String String}
    {sources : List DiscoverySource} {entries : List (String × String)} {ids : List String}
    (read : workspace.readBoundedProjectFile "package.json" = .ok text)
    (parsed : Packages.packageScripts text = .ok (some scripts))
    (listed : ∀ entry ∈ entries, entry ∈ scripts.entries)
    (managed : manager ∈ ["npm", "pnpm", "yarn", "bun"]) :
    ∀ check ∈ javascriptChecks manager sources entries ids, Found workspace check := by
  induction entries generalizing ids with
  | nil => exact List.forall_mem_nil _
  | cons entry rest ih =>
      obtain ⟨script, commandText⟩ := entry
      obtain ⟨first, others⟩ := List.forall_mem_cons.mp listed
      rw [javascriptChecks]
      cases kind : javascriptScriptKind script commandText with
      | none => exact ih others
      | some found =>
          exact List.forall_mem_cons.mpr
            ⟨.script read parsed first kind managed rfl ⟨rfl, rfl, rfl⟩, ih others⟩

/-- The manager is that of a lockfile, or npm. -/
theorem discoverJavascript_found (found : discoverJavascript workspace = .ok checks) :
    ∀ check ∈ checks, Found workspace check := by
  have managers (lockfile : Option (String × String))
      (listed : ∀ candidate, lockfile = some candidate → candidate ∈ lockfiles) :
      (lockfile.getD ("npm", "")).1 ∈ ["npm", "pnpm", "yarn", "bun"] := by
    cases lockfile with
    | none => simp
    | some candidate =>
        have known : ∀ candidate ∈ lockfiles, candidate.1 ∈ ["npm", "pnpm", "yarn", "bun"] := by
          simp [lockfiles]
        exact known candidate (listed candidate rfl)
  simp only [discoverJavascript, except_bind_ok_iff, except_pure_ok_iff] at found
  obtain ⟨text, read, scripts, parsed, _, _, _, _, rfl⟩ := found
  cases scripts with
  | none =>
      rw [show (Option.getD none SortedMap.empty : SortedMap String String).entries = [] from rfl,
        javascriptChecks]
      exact List.forall_mem_nil _
  | some scripts =>
      refine javascriptChecks_found read (orElseFail_ok parsed) (fun entry member => member) ?_
      exact managers _ fun candidate first => List.mem_of_find?_eq_some first

private theorem discoverPython_atRoot (found : discoverPython workspace = .ok checks) :
    ∀ check ∈ checks, check.RunsAtRoot := by
  simp only [discoverPython, except_bind_ok_iff, except_pure_ok_iff] at found
  obtain ⟨⟨⟨pytest, tox, ruff, mypy⟩, sources⟩, _, rfl⟩ := found
  cases pytest <;> cases tox <;> cases ruff <;> cases mypy <;>
    simp [pythonChecks, languageCheck, CheckDefinition.RunsAtRoot, CheckDefinition.Plain]

omit [Packages] in
private theorem discoverRust_atRoot (found : discoverRust workspace = .ok checks) :
    ∀ check ∈ checks, check.RunsAtRoot := by
  simp only [discoverRust, except_bind_ok_iff, except_pure_ok_iff] at found
  obtain ⟨_, _, rfl⟩ := found
  simp [languageCheck, CheckDefinition.RunsAtRoot, CheckDefinition.Plain]

omit [Packages] in
private theorem discoverGo_atRoot (found : discoverGo workspace = .ok checks) :
    ∀ check ∈ checks, check.RunsAtRoot := by
  simp only [discoverGo, except_bind_ok_iff, except_pure_ok_iff] at found
  obtain ⟨_, _, rfl⟩ := found
  simp [languageCheck, CheckDefinition.RunsAtRoot, CheckDefinition.Plain]

private theorem discoverLanguages_found (found : discoverLanguages workspace = .ok checks) :
    ∀ check ∈ checks, Found workspace check := by
  have each {files : List String} {discover : Workspace → Except TaskError (List CheckDefinition)}
      {some : List CheckDefinition}
      (language : ∀ {listed}, discover workspace = .ok listed →
        ∀ check ∈ listed, Found workspace check)
      (present : discoverPresent workspace files discover = .ok some) :
      ∀ check ∈ some, Found workspace check := by
    rcases discoverPresent_cases present with ⟨_, discovered⟩ | rfl
    · exact language discovered
    · exact List.forall_mem_nil _
  simp only [discoverLanguages, except_bind_ok_iff, except_pure_ok_iff] at found
  obtain ⟨javascript, foundJavascript, python, foundPython, rust, foundRust, go, foundGo, rfl⟩ :=
    found
  simp only [List.forall_mem_append]
  refine ⟨⟨⟨each discoverJavascript_found foundJavascript, each ?_ foundPython⟩,
    each ?_ foundRust⟩, each ?_ foundGo⟩
  · exact fun discovered check member => .tool (discoverPython_atRoot discovered check member)
  · exact fun discovered check member => .tool (discoverRust_atRoot discovered check member)
  · exact fun discovered check member => .tool (discoverGo_atRoot discovered check member)

end Languages

/-! Commands of workflow steps -/

section Workflows

variable [Sha2] [Packages] {workspace : Workspace} {source : DiscoverySource} {step : RunStep}
  {check existing : CheckDefinition} {checks : List CheckDefinition}

/-- The check runs the command of a step, where the step runs it. -/
structure RunsStep (workspace : Workspace) (step : RunStep) (check : CheckDefinition) : Prop where
  command : step.command = some (check.kind, check.command)
  directory : workspace.validateWorkingDirectory check.command.workingDirectory = .ok ()
  plain : check.Plain

omit [Sha2] in
theorem RunsStep.extends (runs : RunsStep workspace step existing)
    (extends' : Extends existing check) : RunsStep workspace step check := by
  obtain ⟨command, directory, plain⟩ := runs
  rw [extends'.kept]
  exact ⟨command, directory, plain⟩

theorem Found.extends (found : Found workspace existing) (extends' : Extends existing check) :
    Found workspace check := by
  rw [extends'.kept]
  cases found with
  | script read parsed listed kind managed command plain =>
      exact .script read parsed listed kind managed command plain
  | tool runs => exact .tool runs
  | workflow read listed command directory plain =>
      exact .workflow read listed command directory plain

/-- After some steps each check is one that was there, or runs a step. -/
def ComeFrom (workspace : Workspace) (steps : List RunStep) (before after : Inspection) : Prop :=
  ∀ check ∈ after.1, (∃ existing ∈ before.1, Extends existing check) ∨
    ∃ step ∈ steps, RunsStep workspace step check

omit [Sha2] in
theorem ComeFrom.refl (inspected : Inspection) : ComeFrom workspace [] inspected inspected :=
  fun check member => .inl ⟨check, member, .refl check⟩

private theorem inspectStep_comeFrom {before after : Inspection}
    (ran : inspectStep workspace source step before = .ok after) :
    ComeFrom workspace [step] before after := by
  obtain ⟨checks, result⟩ := before
  rcases inspectStep_cases ran with ⟨kind, command, parsed, valid, rfl⟩ | ⟨_, _, rfl⟩ | ⟨_, _, rfl⟩
  · intro check member
    rw [inspectCommand] at member
    cases found : checks.updateFirst (fun check => check.command == command)
        (declaredAlso source step) with
    | none =>
        simp only [found, List.mem_append, List.mem_singleton] at member
        rcases member with old | rfl
        · exact .inl ⟨check, old, .refl check⟩
        · exact .inr ⟨step, List.mem_singleton_self step, parsed, valid, rfl, rfl, rfl⟩
    | some updated =>
        obtain ⟨existing, others⟩ := updated
        obtain ⟨first, last, rfl, _, _, rfl⟩ := List.updateFirst_eq_some_iff.mp found
        simp only [found, List.mem_append, List.mem_cons] at member
        rcases member with early | rfl | late
        · exact .inl ⟨check, by simp [early], .refl check⟩
        · exact .inl ⟨existing, by simp, declaredAlso_extends source step existing⟩
        · exact .inl ⟨check, by simp [late], .refl check⟩
  · exact fun check member => .inl ⟨check, member, .refl check⟩
  · exact fun check member => .inl ⟨check, member, .refl check⟩

omit [Sha2] in
theorem ComeFrom.trans {rest : List RunStep} {first second third : Inspection}
    (turn : ComeFrom workspace [step] first second) (later : ComeFrom workspace rest second third) :
    ComeFrom workspace (step :: rest) first third := by
  intro check member
  rcases later check member with ⟨between, listed, extends'⟩ | ⟨other, listed, runs⟩
  · rcases turn between listed with ⟨existing, old, earlier⟩ | ⟨other, only, runs⟩
    · exact .inl ⟨existing, old, earlier.trans extends'⟩
    · rw [List.mem_singleton.mp only] at runs
      exact .inr ⟨step, List.mem_cons_self .., runs.extends extends'⟩
  · exact .inr ⟨other, List.mem_cons_of_mem _ listed, runs⟩

/-- By induction on the steps of all documents. -/
theorem discoverWorkflows_found {after : Inspection}
    (known : ∀ check ∈ checks, Found workspace check)
    (ran : discoverWorkflows workspace checks = .ok after) :
    ∀ check ∈ after.1, Found workspace check := by
  have origins := @discoverWorkflows_induction _ _ workspace (ComeFrom workspace) .refl
    (fun turned later => (inspectStep_comeFrom turned).trans later) (fun later => later)
  obtain ⟨documents, read, comes⟩ := origins ran
  intro check member
  rcases comes check member with ⟨existing, old, extends'⟩ | ⟨step, listed, runs⟩
  · exact (known existing old).extends extends'
  · exact .workflow read listed runs.command runs.directory runs.plain

end Workflows

/-! All checks of a report -/

section Report

variable [Sha2] [Packages] {workspace : Workspace} {source : SourceIdentity} {changedOnly : Bool}
  {requestedChecks : List String} {report : DiscoveryReport}

/-- Where a check of a report comes from: it was found and is not disabled, or the
configuration has it. -/
inductive Origin (workspace : Workspace) (config : TaskAttestConfig) (check : CheckDefinition) :
    Prop where
  | found : Found workspace check → check.id ∉ config.disableChecks → Origin workspace config check
  | configured {configured : ConfiguredCheck} {configSource : Option DiscoverySource} :
      configured ∈ config.checks → configuredCheck workspace configured configSource = .ok check →
      Origin workspace config check

omit [Sha2] [Packages] in
private theorem configuredChecks_mem {configured : List ConfiguredCheck}
    {checks : List CheckDefinition} {configSource : Option DiscoverySource}
    (made : configuredChecks workspace configSource configured = .ok checks) :
    ∀ check ∈ checks, ∃ entry ∈ configured, configuredCheck workspace entry configSource =
      .ok check := by
  induction configured generalizing checks with
  | nil =>
      cases made
      exact List.forall_mem_nil _
  | cons first rest ih =>
      simp only [configuredChecks, except_bind_ok_iff, except_pure_ok_iff] at made
      obtain ⟨check, madeFirst, others, madeOthers, rfl⟩ := made
      refine List.forall_mem_cons.mpr ⟨⟨first, List.mem_cons_self .., madeFirst⟩, ?_⟩
      intro other member
      obtain ⟨entry, listed, madeEntry⟩ := ih madeOthers other member
      exact ⟨entry, List.mem_cons_of_mem _ listed, madeEntry⟩

theorem discoverChecks_origin
    (reported : discoverChecks workspace source changedOnly requestedChecks = .ok report) :
    ∃ config configSource, readConfiguration workspace = .ok (config, configSource) ∧
      ∀ check ∈ report.checks, Origin workspace config check := by
  rw [discoverChecks_ok_iff] at reported
  obtain ⟨checks, workflow, used, prepared, _, rfl⟩ := reported
  simp only [prepareChecks, except_bind_ok_iff, except_pure_ok_iff] at prepared
  obtain ⟨⟨config, configSource⟩, read, languageChecks, languages, ⟨discovered, before⟩,
    inspected, explicit, made, _, _, _, _, same⟩ := prepared
  obtain ⟨rfl, _⟩ := by simpa using same
  refine ⟨config, configSource, read, ?_⟩
  intro check member
  have found := discoverWorkflows_found (discoverLanguages_found languages) inspected
  rw [selectedReport, orderedChecks, List.mem_insertionSort, List.mem_append] at member
  rcases member with automatic | listed
  · obtain ⟨old, enabled⟩ := List.mem_filter.mp automatic
    exact .found (found check old) (by simpa using enabled)
  · obtain ⟨entry, among, madeEntry⟩ := configuredChecks_mem made check listed
    exact .configured among madeEntry

end Report

end TaskAttest
