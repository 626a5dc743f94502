import TaskAttest.WorkflowProperties

/-! The checks that workflow steps add to those already known, and the check that
the observation of a step names. -/

set_option autoImplicit false

namespace TaskAttest

open Program

/-! Entries -/

/-- The identifier of a check and the command it runs. -/
def CheckDefinition.entry (check : CheckDefinition) : String × CommandSpec :=
  (check.id, check.command)

/-- The identifier that belongs to a command: that of the first entry which has it. -/
def provider (entries : List (String × CommandSpec)) (command : CommandSpec) : Option String :=
  (entries.find? fun entry => entry.2 == command).map Prod.fst

private theorem provider_cons_self {entry : String × CommandSpec}
    {rest : List (String × CommandSpec)} :
    provider (entry :: rest) entry.2 = some entry.1 := by
  simp [provider]

private theorem provider_append {entries more : List (String × CommandSpec)}
    {command : CommandSpec} :
    provider (entries ++ more) command = (provider entries command).or (provider more command) := by
  rw [provider, List.find?_append, Option.map_or]
  rfl

private theorem provider_isSome_iff {entries : List (String × CommandSpec)}
    {command : CommandSpec} :
    (provider entries command).isSome = true ↔ command ∈ entries.map Prod.snd := by
  simp [provider]

theorem mem_of_provider {entries : List (String × CommandSpec)} {command : CommandSpec}
    {id : String} (provided : provider entries command = some id) : (id, command) ∈ entries := by
  obtain ⟨entry, found, rfl⟩ := Option.map_eq_some_iff.mp provided
  have same := List.find?_some found
  rw [← beq_iff_eq.mp same]
  exact List.mem_of_find?_eq_some found

theorem map_entry_snd {checks : List CheckDefinition} :
    (checks.map CheckDefinition.entry).map Prod.snd = checks.map CheckDefinition.command := by
  rw [List.map_map]
  rfl

/-- The words of a safe command line decide all of its command but the directory. -/
theorem safeWorkflowCommand_some [Packages] {run workingDirectory : String} {kind : CheckKind}
    {command : CommandSpec}
    (safe : safeWorkflowCommand run workingDirectory = some (kind, command)) :
    ∃ program arguments index, Packages.split run = some (program :: arguments) ∧
      workflowCommandKind (program :: arguments) = some (kind, index) ∧
      command = { program, args := arguments, workingDirectory } := by
  rw [safeWorkflowCommand] at safe
  split at safe
  · cases safe
  · cases words : Packages.split run with
    | none =>
        rw [words] at safe
        cases safe
    | some tokens =>
        rw [words] at safe
        cases tokens with
        | nil => cases safe
        | cons program arguments =>
            simp only at safe
            split at safe
            · cases safe
            · cases found : workflowCommandKind (program :: arguments) with
              | none =>
                  rw [found] at safe
                  cases safe
              | some kindIndex =>
                  obtain ⟨foundKind, index⟩ := kindIndex
                  rw [found] at safe
                  simp only at safe
                  split at safe
                  · cases safe
                  · cases safe
                    exact ⟨program, arguments, index, rfl, found, rfl⟩

/-! Steps -/

section Steps

variable [Sha2] [Packages]

omit [Packages] in
/-- The identifier of the check that a step of a kind becomes. -/
def workflowCheckId (kind : CheckKind) (run : String) : String :=
  "ci-" ++ checkKindId kind ++ "-" ++ sliceTo (sha256Bytes (textBytes run)) 8

/-- The identifier and the command of the check that a safe step becomes. -/
def RunStep.entry? (step : RunStep) : Option (String × CommandSpec) :=
  step.command.map fun found => (workflowCheckId found.1 step.run, found.2)

theorem RunStep.entry?_of_command {step : RunStep} {kind : CheckKind} {command : CommandSpec}
    (parsed : step.command = some (kind, command)) :
    step.entry? = some (workflowCheckId kind step.run, command) := by
  rw [RunStep.entry?, parsed, Option.map_some]

private theorem RunStep.entry?_of_none {step : RunStep} (parsed : step.command = none) :
    step.entry? = none := by
  rw [RunStep.entry?, parsed, Option.map_none]

omit [Sha2] in
/-- The steps whose command is neither known nor that of a step before. -/
def newSteps : List CommandSpec → List RunStep → List RunStep
  | _, [] => []
  | known, step :: rest =>
      match step.command with
      | none => newSteps known rest
      | some (_, command) =>
          if known.contains command then newSteps known rest
          else step :: newSteps (known ++ [command]) rest

omit [Sha2] in
/-- A step that an observation is made of. -/
def RunStep.isSeen (step : RunStep) : Bool := step.command.isSome || step.unmodeled

/-- What is observed of a step when the checks have the given entries. -/
structure StepRecorded (entries : List (String × CommandSpec)) (step : RunStep)
    (observation : WorkflowObservation) : Prop where
  id : observation.id = step.observationId
  run : observation.runSha256 = sha256Bytes (textBytes step.run)
  named : ∀ kind command, step.command = some (kind, command) →
    ∃ id, provider entries command = some id ∧ observation.checkId = some id ∧
      (observation.classification = .matchedCheck ∨ observation.classification = .discoveredCheck)
  unmodeled : step.command = none →
    observation.checkId = none ∧ observation.classification = .unmodeledVerification

theorem StepRecorded.append {entries : List (String × CommandSpec)} {step : RunStep}
    {observation : WorkflowObservation} (recorded : StepRecorded entries step observation)
    (more : List (String × CommandSpec)) : StepRecorded (entries ++ more) step observation where
  id := recorded.id
  run := recorded.run
  named kind command parsed := by
    obtain ⟨id, provided, named⟩ := recorded.named kind command parsed
    refine ⟨id, ?_, named⟩
    rw [provider_append, provided, Option.some_or]
  unmodeled := recorded.unmodeled

/-- What inspecting steps makes of the checks and of the observations. -/
structure Discovered (steps : List RunStep) (before after : Inspection) : Prop where
  entries : after.1.map CheckDefinition.entry = before.1.map CheckDefinition.entry ++
    (newSteps (before.1.map CheckDefinition.command) steps).filterMap RunStep.entry?
  observations : ∃ recorded, after.2.observations = before.2.observations ++ recorded ∧
    List.Forall₂ (StepRecorded (after.1.map CheckDefinition.entry)) (steps.filter RunStep.isSeen)
      recorded

theorem Discovered.refl (inspected : Inspection) : Discovered [] inspected inspected where
  entries := (List.append_nil _).symm
  observations := ⟨[], (List.append_nil _).symm, .nil⟩

variable {workspace : Workspace} {source : DiscoverySource} {step : RunStep}

/-- A safe command is matched with the check that provides it. -/
theorem inspectCommand_known {kind : CheckKind} {command : CommandSpec}
    {checks : List CheckDefinition} {result : WorkflowDiscovery}
    (parsed : step.command = some (kind, command))
    (known : command ∈ checks.map CheckDefinition.command) :
    (inspectCommand source step kind command (checks, result)).1.map CheckDefinition.entry =
        checks.map CheckDefinition.entry ∧
      ∃ observed, (inspectCommand source step kind command (checks, result)).2.observations =
          result.observations ++ [observed] ∧
        StepRecorded (checks.map CheckDefinition.entry) step observed := by
  rw [inspectCommand]
  cases found : checks.updateFirst (fun check => check.command == command)
      (declaredAlso source step) with
  | none =>
      obtain ⟨check, member, same⟩ := List.mem_map.mp known
      have different := List.updateFirst_eq_none_iff.mp found check member
      exact absurd same (beq_eq_false_iff_ne.mp different)
  | some updated =>
      obtain ⟨existing, others⟩ := updated
      obtain ⟨first, last, rfl, untested, passes, rfl⟩ := List.updateFirst_eq_some_iff.mp found
      have unprovided : provider (first.map CheckDefinition.entry) command = none := by
        rw [← Option.not_isSome_iff_eq_none, provider_isSome_iff, map_entry_snd]
        intro member
        obtain ⟨check, listed, same⟩ := List.mem_map.mp member
        exact beq_eq_false_iff_ne.mp (untested check listed) same
      have provided : provider ((first ++ existing :: last).map CheckDefinition.entry) command =
          some existing.id := by
        rw [List.map_append, provider_append, unprovided, Option.none_or, List.map_cons,
          ← beq_iff_eq.mp passes]
        exact provider_cons_self
      refine ⟨by simp [CheckDefinition.entry, declaredAlso], _, rfl, rfl, rfl, ?_, ?_⟩
      · intro otherKind other again
        obtain ⟨rfl, rfl⟩ := Prod.mk.inj (Option.some.inj (parsed.symm.trans again))
        exact ⟨existing.id, provided, rfl, .inl rfl⟩
      · intro unsafe_
        rw [parsed] at unsafe_
        cases unsafe_

/-- A safe command that no check runs becomes a check. -/
theorem inspectCommand_new {kind : CheckKind} {command : CommandSpec}
    {checks : List CheckDefinition} {result : WorkflowDiscovery}
    (parsed : step.command = some (kind, command))
    (unknown : command ∉ checks.map CheckDefinition.command) :
    (inspectCommand source step kind command (checks, result)).1.map CheckDefinition.entry =
        checks.map CheckDefinition.entry ++ [(workflowCheckId kind step.run, command)] ∧
      ∃ observed, (inspectCommand source step kind command (checks, result)).2.observations =
          result.observations ++ [observed] ∧
        StepRecorded
          (checks.map CheckDefinition.entry ++ [(workflowCheckId kind step.run, command)])
          step observed := by
  have untested : checks.updateFirst (fun check => check.command == command)
      (declaredAlso source step) = none := by
    apply List.updateFirst_eq_none_iff.mpr
    intro check member
    exact beq_eq_false_iff_ne.mpr fun same => unknown (List.mem_map.mpr ⟨check, member, same⟩)
  have unprovided : provider (checks.map CheckDefinition.entry) command = none := by
    rw [← Option.not_isSome_iff_eq_none, provider_isSome_iff, map_entry_snd]
    exact unknown
  rw [inspectCommand, untested]
  refine ⟨by rw [List.map_append]; rfl, _, rfl, rfl, rfl, ?_, ?_⟩
  · intro otherKind other again
    obtain ⟨rfl, rfl⟩ := Prod.mk.inj (Option.some.inj (parsed.symm.trans again))
    refine ⟨_, ?_, rfl, .inr rfl⟩
    rw [provider_append, unprovided, Option.none_or]
    exact provider_cons_self
  · intro unsafe_
    rw [parsed] at unsafe_
    cases unsafe_

omit [Sha2] in
theorem newSteps_of_none {known : List CommandSpec} {rest : List RunStep}
    (parsed : step.command = none) : newSteps known (step :: rest) = newSteps known rest := by
  rw [newSteps, parsed]

omit [Sha2] in
theorem newSteps_of_known {known : List CommandSpec} {rest : List RunStep} {kind : CheckKind}
    {command : CommandSpec} (parsed : step.command = some (kind, command))
    (member : command ∈ known) : newSteps known (step :: rest) = newSteps known rest := by
  rw [newSteps, parsed]
  exact if_pos (List.contains_iff_mem.mpr member)

omit [Sha2] in
theorem newSteps_of_new {known : List CommandSpec} {rest : List RunStep} {kind : CheckKind}
    {command : CommandSpec} (parsed : step.command = some (kind, command))
    (unknown : command ∉ known) :
    newSteps known (step :: rest) = step :: newSteps (known ++ [command]) rest := by
  rw [newSteps, parsed]
  exact if_neg fun member => unknown (List.contains_iff_mem.mp member)

/-- A step that leaves the checks and the observations as they are. -/
theorem Discovered.skip {rest : List RunStep} {inspected third : Inspection}
    (parsed : step.command = none) (unseen : step.unmodeled = false)
    (later : Discovered rest inspected third) : Discovered (step :: rest) inspected third where
  entries := by rw [newSteps_of_none parsed, later.entries]
  observations := by
    have hidden : step.isSeen = false := by simp [RunStep.isSeen, parsed, unseen]
    rw [List.filter_cons_of_neg (Bool.eq_false_iff.mp hidden)]
    exact later.observations

/-- A step that is observed, and the entries it adds. -/
theorem Discovered.cons {rest : List RunStep} {first second third : Inspection}
    {observed : WorkflowObservation} (later : Discovered rest second third)
    (seen : step.isSeen = true)
    (recorded : StepRecorded (second.1.map CheckDefinition.entry) step observed)
    (observing : second.2.observations = first.2.observations ++ [observed])
    (adding : second.1.map CheckDefinition.entry ++
        (newSteps (second.1.map CheckDefinition.command) rest).filterMap RunStep.entry? =
      first.1.map CheckDefinition.entry ++
        (newSteps (first.1.map CheckDefinition.command) (step :: rest)).filterMap RunStep.entry?) :
    Discovered (step :: rest) first third where
  entries := by rw [later.entries, adding]
  observations := by
    obtain ⟨others, all, related⟩ := later.observations
    refine ⟨observed :: others, ?_, ?_⟩
    · rw [all, observing, List.append_assoc, List.singleton_append]
    · rw [List.filter_cons_of_pos seen]
      refine .cons ?_ related
      rw [later.entries]
      exact recorded.append _

theorem Discovered.extend {rest : List RunStep} {first second third : Inspection}
    (ran : inspectStep workspace source step first = .ok second)
    (later : Discovered rest second third) : Discovered (step :: rest) first third := by
  obtain ⟨checks, result⟩ := first
  rcases inspectStep_cases ran with ⟨kind, command, parsed, _, rfl⟩ | ⟨parsed, verifies, rfl⟩ |
    ⟨parsed, verifies, rfl⟩
  · have seen : step.isSeen = true := by simp [RunStep.isSeen, parsed]
    by_cases known : command ∈ checks.map CheckDefinition.command
    · obtain ⟨entries, observed, observing, recorded⟩ :=
        @inspectCommand_known _ _ source step kind command checks result parsed known
      refine later.cons seen (entries ▸ recorded) observing ?_
      rw [newSteps_of_known parsed known, ← map_entry_snd, entries, map_entry_snd]
    · obtain ⟨entries, observed, observing, recorded⟩ :=
        @inspectCommand_new _ _ source step kind command checks result parsed known
      refine later.cons seen (entries ▸ recorded) observing ?_
      rw [newSteps_of_new parsed known, ← map_entry_snd, entries, List.map_append, map_entry_snd,
        List.map_singleton, List.filterMap_cons_some (RunStep.entry?_of_command parsed),
        List.append_assoc, List.singleton_append]
  · have seen : step.isSeen = true := by simp [RunStep.isSeen, verifies]
    refine later.cons seen ⟨rfl, rfl, ?_, fun _ => ⟨rfl, rfl⟩⟩ rfl ?_
    · intro kind command again
      rw [parsed] at again
      cases again
    · rw [newSteps_of_none parsed]
  · exact later.skip parsed verifies

/-- The checks and the observations after all workflows, from the steps alone. -/
theorem discoverWorkflows_discovered {checks : List CheckDefinition} {after : Inspection}
    (ran : discoverWorkflows workspace checks = .ok after) :
    ∃ documents, workflowDocuments workspace = .ok documents ∧
      Discovered (allSteps documents) (checks, .empty) after := by
  refine discoverWorkflows_induction .refl ?_ ?_ ran
  · exact fun inspected later => later.extend inspected
  · exact fun known => ⟨known.entries, known.observations⟩

/-- The provider of a command among all entries is the first safe step that has it,
unless it was known before. -/
theorem provider_newSteps {entries : List (String × CommandSpec)} {steps : List RunStep}
    {command : CommandSpec} :
    provider (entries ++ (newSteps (entries.map Prod.snd) steps).filterMap RunStep.entry?) command =
      provider (entries ++ steps.filterMap RunStep.entry?) command := by
  induction steps generalizing entries with
  | nil => rfl
  | cons step rest ih =>
      cases parsed : step.command with
      | none =>
          rw [newSteps_of_none parsed, List.filterMap_cons_none (RunStep.entry?_of_none parsed), ih]
      | some found =>
          obtain ⟨kind, other⟩ := found
          have added := RunStep.entry?_of_command parsed
          rw [List.filterMap_cons_some added]
          by_cases known : other ∈ entries.map Prod.snd
          · rw [newSteps_of_known parsed known, ih, provider_append, provider_append]
            cases provided : provider entries command with
            | some id => rw [Option.some_or, Option.some_or]
            | none =>
                have different : other ≠ command := by
                  intro same
                  have some_ := provider_isSome_iff.mpr (same ▸ known)
                  rw [provided] at some_
                  cases some_
                rw [Option.none_or, Option.none_or, provider, provider,
                  List.find?_cons_of_neg (by simpa using different)]
          · have assoc := @ih (entries ++ [(workflowCheckId kind step.run, other)])
            rw [List.map_append, List.map_singleton] at assoc
            rw [newSteps_of_new parsed known, List.filterMap_cons_some added,
              List.append_cons, assoc, ← List.append_cons]

/-- The commands of all checks are the known ones and those of the safe steps. -/
theorem mem_commands_iff {steps : List RunStep} {before after : Inspection}
    {command : CommandSpec} (known : Discovered steps before after) :
    command ∈ after.1.map CheckDefinition.command ↔
      command ∈ before.1.map CheckDefinition.command ∨
        ∃ step ∈ steps, ∃ kind, step.command = some (kind, command) := by
  rw [← map_entry_snd, ← provider_isSome_iff, known.entries, ← map_entry_snd, provider_newSteps,
    provider_isSome_iff, List.map_append, List.mem_append, map_entry_snd]
  refine or_congr_right ?_
  simp only [List.mem_map, List.mem_filterMap, RunStep.entry?, Option.map_eq_some_iff]
  constructor
  · intro mapped
    obtain ⟨_, ⟨step, member, ⟨kind, _⟩, parsed, rfl⟩, rfl⟩ := mapped
    exact ⟨step, member, kind, parsed⟩
  · intro listed
    obtain ⟨step, member, kind, parsed⟩ := listed
    exact ⟨_, ⟨step, member, _, parsed, rfl⟩, rfl⟩

end Steps

/-! A workspace given by its files, and a document with one job -/

def storedWorkspace (files : List (String × String)) (workflowNames : List (List UInt8)) :
    Workspace where
  root := "/r"
  isFile path := (files.lookup path).isSome
  isDir _ := true
  length path := .ok (textBytes ((files.lookup path).getD "")).length
  readToString path := .ok ((files.lookup path).getD "")
  read path := .ok (textBytes ((files.lookup path).getD ""))
  readDir _ := .ok (workflowNames.map .ok)
  canonicalize path := .ok (if path = "/r/." then "/r" else path)

theorem discoverySource_stored [Sha2] {files : List (String × String)}
    {workflowNames : List (List UInt8)} (relative evidence : String) : ∃ source,
      (storedWorkspace files workflowNames).discoverySource relative evidence = .ok source :=
  ⟨_, rfl⟩

def fieldsDocument (fields : List (String × String)) : Yaml :=
  .mapping (fields.map fun field => (.string field.1, .string field.2))

/-- The document of a workflow whose only job has the given steps. -/
def jobDocument (steps : List (List (String × String))) : Yaml :=
  .mapping [(.string "jobs", .mapping [(.string "ci",
    .mapping [(.string "steps", .sequence (steps.map fieldsDocument))])])]

end TaskAttest
