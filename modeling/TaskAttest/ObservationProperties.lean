import TaskAttest.Library.Pointwise
import TaskAttest.SelectionProperties
import TaskAttest.WorkflowCheckProperties

/-! Do the observations of workflow steps refer to checks of the report? -/

set_option autoImplicit false

namespace TaskAttest

open Program

/-! What replacement makes of an observation -/

/-- An observation stays as it is, unless a check claims it while it is unmodeled. -/
def Updated (claimList : List (String × String)) (old new : WorkflowObservation) : Prop :=
  new = old ∨ (old.classification = .unmodeledVerification ∧
    ∃ checkId, (checkId, old.id) ∈ claimList ∧ new = replaced checkId old)

private theorem claimStep_updated {checkId id : String} {before after : Replacing}
    (ran : claimStep checkId id before = .ok after) :
    List.Forall₂ (Updated [(checkId, id)]) before.2 after.2 := by
  obtain ⟨first, observation, last, shape, _, rfl, unmodeled, rfl⟩ := claimStep_cases ran
  have same : ∀ list : List WorkflowObservation,
      List.Forall₂ (Updated [(checkId, observation.id)]) list list :=
    fun _ => List.forall₂_same.mpr fun _ _ => .inl rfl
  rw [shape]
  refine List.rel_append (same first) (.cons (.inr ⟨unmodeled, checkId, ?_, rfl⟩) (same last))
  exact List.mem_singleton_self _

private theorem claimSteps_updated {claimList : List (String × String)} {before after : Replacing}
    (ran : claimSteps claimList before = .ok after) :
    List.Forall₂ (Updated claimList) before.2 after.2 := by
  induction claimList generalizing before with
  | nil =>
      rw [claimSteps, except_pure_ok_iff] at ran
      rw [ran]
      exact List.forall₂_same.mpr fun _ _ => .inl rfl
  | cons claim rest ih =>
      obtain ⟨checkId, id⟩ := claim
      simp only [claimSteps, except_bind_ok_iff] at ran
      obtain ⟨between, claiming, others⟩ := ran
      refine ((claimStep_updated claiming).comp (ih others)).imp ?_
      intro old new steps
      obtain ⟨middle, first, later⟩ := steps
      cases first with
      | inl same =>
          subst same
          cases later with
          | inl same => exact .inl same
          | inr claimed =>
              obtain ⟨unmodeled, by_, member, same⟩ := claimed
              exact .inr ⟨unmodeled, by_, List.mem_cons_of_mem _ member, same⟩
      | inr claimed =>
          obtain ⟨unmodeled, by_, member, rfl⟩ := claimed
          cases later with
          | inl same =>
              refine .inr ⟨unmodeled, by_, ?_, same⟩
              exact List.mem_cons.mpr (.inl (List.mem_singleton.mp member))
          | inr again =>
              exact absurd again.1 WorkflowClassification.noConfusion

private theorem applyWorkflowReplacements_updated {checks : List CheckDefinition}
    {before after : WorkflowDiscovery}
    (applied : applyWorkflowReplacements checks before = .ok after) :
    List.Forall₂ (Updated (claims checks)) before.observations after.observations := by
  simp only [applyWorkflowReplacements, except_bind_ok_iff, except_pure_ok_iff] at applied
  obtain ⟨⟨claimed, observations⟩, claiming, rfl⟩ := applied
  exact claimSteps_updated claiming

private theorem mem_claims_iff {checks : List CheckDefinition} {checkId id : String} :
    (checkId, id) ∈ claims checks ↔
      ∃ check ∈ checks, check.id = checkId ∧ id ∈ check.replacesWorkflowSteps := by
  simp only [claims, List.mem_flatMap, List.mem_map, Prod.mk.injEq]
  constructor
  · intro claimed
    obtain ⟨check, listed, step, claimed, rfl, rfl⟩ := claimed
    exact ⟨check, listed, rfl, claimed⟩
  · intro claiming
    obtain ⟨check, listed, rfl, claimed⟩ := claiming
    exact ⟨check, listed, id, claimed, rfl, rfl⟩

/-! The commands of explicit checks -/

/-- An explicit check has the identifier and the command. -/
def Configures (config : TaskAttestConfig) (id : String) (command : CommandSpec) : Prop :=
  ∃ configured ∈ config.checks, configured.id = id ∧
    configured.command = command.program :: command.args ∧
    configured.workingDirectory = command.workingDirectory

private theorem configures_iff {workspace : Workspace} {config : TaskAttestConfig}
    {source : Option DiscoverySource} {checks : List CheckDefinition}
    (made : configuredChecks workspace source config.checks = .ok checks) {id : String}
    {command : CommandSpec} :
    Configures config id command ↔ (id, command) ∈ checks.map CheckDefinition.entry := by
  rw [Configures]
  generalize config.checks = configured at made ⊢
  induction configured generalizing checks with
  | nil =>
      cases made
      simp
  | cons first rest ih =>
      simp only [configuredChecks, except_bind_ok_iff, except_pure_ok_iff] at made
      obtain ⟨check, madeFirst, others, madeOthers, rfl⟩ := made
      obtain ⟨id_, command_, directory, _⟩ := configuredCheck_ok madeFirst
      rw [List.exists_mem_cons_iff, ih madeOthers, List.map_cons, List.mem_cons]
      refine or_congr_left ?_
      rw [id_, command_, directory, CheckDefinition.entry]
      constructor
      · intro shared
        obtain ⟨rfl, same, sameDirectory⟩ := shared
        obtain ⟨program, args, workingDirectory⟩ := command
        obtain ⟨rfl, rfl⟩ := List.cons.inj same
        subst sameDirectory
        rfl
      · intro same
        obtain ⟨rfl, rfl⟩ := Prod.mk.inj same
        exact ⟨rfl, rfl, rfl⟩

/-! Observations of steps -/

section Observations

variable [Sha2] [Packages] {workspace : Workspace} {source : SourceIdentity} {changedOnly : Bool}
  {requestedChecks : List String} {report : DiscoveryReport}

/-- The observation is that of the step, and the check it names is among the checks:
it runs the command of the step, or it lists the step as the one it replaces. -/
def RefersTo (checks : List CheckDefinition) (step : RunStep)
    (observation : WorkflowObservation) : Prop :=
  observation.id = step.observationId ∧
  observation.runSha256 = sha256Bytes (textBytes step.run) ∧
  ∀ id, observation.checkId = some id → ∃ check ∈ checks, check.id = id ∧
    (observation.classification = .matchedCheck ∨ observation.classification = .discoveredCheck →
      ∃ kind, step.command = some (kind, check.command)) ∧
    (observation.classification = .replacedByExplicitCheck →
      observation.id ∈ check.replacesWorkflowSteps)

/-- The observations of a report are those of the steps in order, and each refers to
a check of the report. -/
def ObservationsRefer (report : DiscoveryReport) (steps : List RunStep) : Prop :=
  List.Forall₂ (RefersTo report.checks) (steps.filter RunStep.isSeen) report.workflowObservations

theorem ObservationsRefer.named {report : DiscoveryReport} {steps : List RunStep}
    (refer : ObservationsRefer report steps) :
    ∀ observation ∈ report.workflowObservations, ∀ id, observation.checkId = some id →
      id ∈ report.checks.map CheckDefinition.id := by
  intro observation member id named
  obtain ⟨step, _, _, _, refers⟩ := refer.exists_left member
  obtain ⟨check, listed, same, _⟩ := refers id named
  exact List.mem_map.mpr ⟨check, listed, same⟩

/-- The check of a safe step is not disabled, or an explicit check with its
identifier runs the same command. -/
def KeepsCheck (config : TaskAttestConfig) (entries : List (String × CommandSpec))
    (step : RunStep) : Prop :=
  ∀ kind command id, step.command = some (kind, command) → provider entries command = some id →
    id ∉ config.disableChecks ∨ Configures config id command

omit [Sha2] [Packages] in
/-- The entries of the report's checks. -/
theorem mem_entries_orderedChecks {config : TaskAttestConfig}
    {discovered explicit : List CheckDefinition} {id : String} {command : CommandSpec} :
    (id, command) ∈ (orderedChecks config discovered explicit).map CheckDefinition.entry ↔
      (id ∉ config.disableChecks ∧ (id, command) ∈ discovered.map CheckDefinition.entry) ∨
        (id, command) ∈ explicit.map CheckDefinition.entry := by
  have sorted : ∀ checks : List CheckDefinition,
      (checks.insertionSort fun left right => left.id ≤ right.id).Perm checks :=
    fun checks => List.perm_insertionSort _ checks
  rw [orderedChecks, ((sorted _).map _).mem_iff, List.map_append, List.mem_append]
  refine or_congr_left ?_
  simp only [List.mem_map, List.mem_filter, CheckDefinition.entry, Prod.mk.injEq]
  constructor
  · intro listing
    obtain ⟨check, ⟨listed, enabled⟩, rfl, rfl⟩ := listing
    exact ⟨by simpa using enabled, check, listed, rfl, rfl⟩
  · intro listing
    obtain ⟨enabled, check, listed, rfl, rfl⟩ := listing
    exact ⟨check, ⟨listed, by simpa using enabled⟩, rfl, rfl⟩

omit [Sha2] [Packages] in
/-- Only an unmodeled observation is replaced. -/
theorem Updated.eq_of_classified {claimList : List (String × String)}
    {old new : WorkflowObservation} (updated : Updated claimList old new)
    (classified : old.classification = .matchedCheck ∨ old.classification = .discoveredCheck) :
    new = old := by
  cases updated with
  | inl same => exact same
  | inr claimed =>
      rcases classified with matched | discovered
      · exact absurd (matched.symm.trans claimed.1) WorkflowClassification.noConfusion
      · exact absurd (discovered.symm.trans claimed.1) WorkflowClassification.noConfusion

/-- A step without a command refers to the check that replaces it, if one does. -/
theorem refersTo_of_unparsed {entries : List (String × CommandSpec)}
    {checks : List CheckDefinition} {step : RunStep} {old new : WorkflowObservation}
    (recorded : StepRecorded entries step old) (updated : Updated (claims checks) old new)
    (unparsed : step.command = none) : RefersTo checks step new := by
  obtain ⟨unnamed, _⟩ := recorded.unmodeled unparsed
  cases updated with
  | inl same =>
      subst same
      refine ⟨recorded.id, recorded.run, fun id named => ?_⟩
      rw [unnamed] at named
      cases named
  | inr claimed =>
      obtain ⟨_, checkId, member, rfl⟩ := claimed
      obtain ⟨check, listed, rfl, replaces⟩ := mem_claims_iff.mp member
      refine ⟨recorded.id, recorded.run, fun id named => ?_⟩
      obtain rfl := Option.some.inj named
      refine ⟨check, listed, rfl, ?_, fun _ => replaces⟩
      intro either
      rcases either with other | other
      · cases other
      · cases other

/-- A safe step refers to a check when, and only when, the check that it names is there
with the command of the step. -/
theorem refersTo_iff_entry {entries : List (String × CommandSpec)}
    {checks : List CheckDefinition} {step : RunStep} {observation : WorkflowObservation}
    {kind : CheckKind} {command : CommandSpec} {id : String}
    (recorded : StepRecorded entries step observation)
    (parsed : step.command = some (kind, command)) (named : observation.checkId = some id)
    (classified : observation.classification = .matchedCheck ∨
      observation.classification = .discoveredCheck) :
    RefersTo checks step observation ↔ (id, command) ∈ checks.map CheckDefinition.entry := by
  constructor
  · intro known
    obtain ⟨_, _, refers⟩ := known
    obtain ⟨check, listed, sameId, runs, _⟩ := refers id named
    obtain ⟨_, sameCommand⟩ := runs classified
    rw [parsed] at sameCommand
    obtain ⟨_, rfl⟩ := Prod.mk.inj (Option.some.inj sameCommand)
    exact List.mem_map.mpr ⟨check, listed, by rw [CheckDefinition.entry, sameId]⟩
  · intro entry
    refine ⟨recorded.id, recorded.run, fun other namedOther => ?_⟩
    obtain rfl : id = other := Option.some.inj (named.symm.trans namedOther)
    obtain ⟨check, listed, same⟩ := List.mem_map.mp entry
    obtain ⟨rfl, rfl⟩ := Prod.mk.inj same
    refine ⟨check, listed, rfl, fun _ => ⟨kind, parsed⟩, fun replaced => ?_⟩
    rcases classified with matched | discovered
    · exact absurd (matched.symm.trans replaced) WorkflowClassification.noConfusion
    · exact absurd (discovered.symm.trans replaced) WorkflowClassification.noConfusion

/-- One observation, before and after replacement. -/
theorem refersTo_iff {config : TaskAttestConfig} {discovered explicit : List CheckDefinition}
    {entries : List (String × CommandSpec)} {step : RunStep} {old new : WorkflowObservation}
    (explicitEntries : ∀ id command, Configures config id command ↔
      (id, command) ∈ explicit.map CheckDefinition.entry)
    (provided : ∀ command,
      provider (discovered.map CheckDefinition.entry) command = provider entries command)
    (recorded : StepRecorded (discovered.map CheckDefinition.entry) step old)
    (updated : Updated (claims (orderedChecks config discovered explicit)) old new) :
    RefersTo (orderedChecks config discovered explicit) step new ↔
      KeepsCheck config entries step := by
  cases parsed : step.command with
  | none =>
      have kept : KeepsCheck config entries step := by
        intro kind command id again
        rw [parsed] at again
        cases again
      exact iff_of_true (refersTo_of_unparsed recorded updated parsed) kept
  | some found =>
      obtain ⟨kind, command⟩ := found
      obtain ⟨id, byId, named, classified⟩ := recorded.named kind command parsed
      obtain rfl := updated.eq_of_classified classified
      rw [refersTo_iff_entry recorded parsed named classified, mem_entries_orderedChecks,
        ← explicitEntries]
      constructor
      · intro listed otherKind other otherId again byOther
        obtain ⟨rfl, rfl⟩ := Prod.mk.inj (Option.some.inj (parsed.symm.trans again))
        obtain rfl : id = otherId :=
          Option.some.inj ((byId.symm.trans (provided command)).trans byOther)
        exact listed.imp_left And.left
      · intro kept
        refine (kept kind command id parsed ((provided command).symm.trans byId)).imp_left ?_
        exact fun enabled => ⟨enabled, mem_of_provider byId⟩

/-- The observations of a report refer to its checks when, and only when, no step's
check is disabled, other than in favour of an explicit check that takes over both
its identifier and its command. -/
theorem discoverChecks_observationsRefer_iff {config : TaskAttestConfig}
    {configSource : Option DiscoverySource} {languageChecks : List CheckDefinition}
    {documents : List WorkflowDocument}
    (configured : readConfiguration workspace = .ok (config, configSource))
    (languages : discoverLanguages workspace = .ok languageChecks)
    (read : workflowDocuments workspace = .ok documents)
    (found : discoverChecks workspace source changedOnly requestedChecks = .ok report) :
    ObservationsRefer report (allSteps documents) ↔
      ∀ step ∈ allSteps documents, KeepsCheck config
        (languageChecks.map CheckDefinition.entry ++
          (allSteps documents).filterMap RunStep.entry?) step := by
  obtain ⟨checks, workflow, reportSource, ready, _, rfl⟩ := discoverChecks_ok_iff.mp found
  simp only [prepareChecks, configured, languages, except_bind_ok_iff, Except.ok.injEq,
    except_pure_ok_iff] at ready
  obtain ⟨_, rfl, _, rfl, ⟨discovered, before⟩, inspected, explicit, made, ⟨⟩, _, after, applied,
    same⟩ := ready
  obtain ⟨rfl, rfl, rfl⟩ : _ ∧ _ ∧ _ := by simpa using same
  obtain ⟨others, readAgain, known⟩ := discoverWorkflows_discovered inspected
  obtain rfl : documents = others := Except.ok.inj (read.symm.trans readAgain)
  obtain ⟨recorded, all, related⟩ := known.observations
  have observations : before.observations = recorded := by
    simpa [WorkflowDiscovery.empty] using all
  have provided : ∀ command, provider (discovered.map CheckDefinition.entry) command =
      provider (languageChecks.map CheckDefinition.entry ++
        (allSteps documents).filterMap RunStep.entry?) command := by
    intro command
    rw [known.entries, ← map_entry_snd, provider_newSteps]
  have updated := applyWorkflowReplacements_updated applied
  rw [observations] at updated
  have decided : ∀ {step new},
      (∃ old, StepRecorded (discovered.map CheckDefinition.entry) step old ∧
        Updated (claims (orderedChecks config discovered explicit)) old new) →
      (RefersTo (orderedChecks config discovered explicit) step new ↔
        KeepsCheck config (languageChecks.map CheckDefinition.entry ++
          (allSteps documents).filterMap RunStep.entry?) step) := by
    intro step new record
    obtain ⟨old, recorded, changed⟩ := record
    exact refersTo_iff (fun _ _ => configures_iff made) provided recorded changed
  refine (List.forall₂_iff_forall_mem (related.comp updated) decided).trans
    ⟨fun kept step member => ?_, fun kept step member => ?_⟩
  · cases parsed : step.command with
    | none =>
        intro kind command id again
        rw [parsed] at again
        cases again
    | some found =>
        exact kept step (List.mem_filter.mpr ⟨member, by simp [RunStep.isSeen, parsed]⟩)
  · exact kept step (List.mem_of_mem_filter member)

end Observations

/-! A workflow step runs a check that the configuration disables. -/

def disablingConfig : String := "version = 1\ndisable_checks = [\"go-test\"]\n"

def goSteps : String := "jobs:\n  ci:\n    steps:\n      - run: go test ./...\n"

def disablingWorkspace : Workspace :=
  storedWorkspace [("/r/.taskattest.toml", disablingConfig), ("/r/go.mod", "module m\n"),
    ("/r/.github/workflows/c.yml", goSteps)] [textBytes "c.yml"]

@[reducible] def disablingPackages : Packages where
  config _ := .ok { version := 1, disableChecks := some ["go-test"], checks := none }
  packageScripts _ := .ok none
  toml _ := .ok .other
  yaml _ := .ok (jobDocument [[("run", "go test ./...")]])
  split _ := some ["go", "test", "./..."]
  glob _ := .ok ()
  globSet _ := .ok fun _ => false

section Disabling

attribute [local instance] standardSha2 disablingPackages

private theorem disablingReport_dangles :
    ((discoverChecks disablingWorkspace cleanSource false []).toOption.any fun report =>
      report.workflowObservations.any fun observation =>
        observation.checkId.any fun id =>
          !(report.checks.map CheckDefinition.id).contains id) = true := by
  decide +kernel

/-- The check that the observation names is not in the report. -/
theorem disabledCheck_still_named :
    ∃ documents report, workflowDocuments disablingWorkspace = .ok documents ∧
      discoverChecks disablingWorkspace cleanSource false [] = .ok report ∧
      ¬ObservationsRefer report (allSteps documents) := by
  obtain ⟨report, found, dangling⟩ := exists_ok_of_any disablingReport_dangles
  obtain ⟨_, _, _, ready, _, _⟩ := discoverChecks_ok_iff.mp found
  simp only [prepareChecks, except_bind_ok_iff] at ready
  obtain ⟨_, _, _, _, _, inspected, _⟩ := ready
  obtain ⟨documents, read, _⟩ := discoverWorkflows_discovered inspected
  refine ⟨documents, report, read, found, fun refer => ?_⟩
  obtain ⟨observation, member, missing⟩ := List.any_eq_true.mp dangling
  cases named : observation.checkId with
  | none =>
      rw [named] at missing
      cases missing
  | some id =>
      have listed := List.contains_iff_mem.mpr (refer.named observation member id named)
      rw [named, Option.any_some, listed] at missing
      cases missing

theorem discoverChecks_observationsRefer_iff_disabling :
    ∃ config configSource languageChecks documents report,
      readConfiguration disablingWorkspace = .ok (config, configSource) ∧
      discoverLanguages disablingWorkspace = .ok languageChecks ∧
      workflowDocuments disablingWorkspace = .ok documents ∧
      discoverChecks disablingWorkspace cleanSource false [] = .ok report ∧
      (ObservationsRefer report (allSteps documents) ↔
        ∀ step ∈ allSteps documents, KeepsCheck config
          (languageChecks.map CheckDefinition.entry ++
            (allSteps documents).filterMap RunStep.entry?) step) := by
  obtain ⟨report, found, _⟩ := exists_ok_of_any disablingReport_dangles
  obtain ⟨_, _, _, ready, _, _⟩ := discoverChecks_ok_iff.mp found
  simp only [prepareChecks, except_bind_ok_iff] at ready
  obtain ⟨⟨config, configSource⟩, configured, languageChecks, languages, _, inspected, _⟩ :=
    ready
  obtain ⟨documents, read, _⟩ := discoverWorkflows_discovered inspected
  exact ⟨config, configSource, languageChecks, documents, report, configured, languages, read,
    found, discoverChecks_observationsRefer_iff configured languages read found⟩

end Disabling

end TaskAttest
