import TaskAttest.Library.Program
import TaskAttest.Workflow

/-! Inspecting workflows is one loop over the steps that run a command line, and
what it observes of them is decided step by step. -/

set_option autoImplicit false

namespace TaskAttest

open Program

/-! The steps of a document -/

def runSteps (relative job : String) : Nat → List Yaml → List RunStep
  | _, [] => []
  | index, value :: rest =>
      (runStep? relative job index value).toList ++ runSteps relative job (index + 1) rest

def jobsSteps (relative : String) (jobs : List (Yaml × Yaml)) : List RunStep :=
  jobs.flatMap fun job =>
    runSteps relative (job.1.scalar.getD "unnamed-job") 0
      (((job.2.field "steps").bind Yaml.asSequence).getD [])

/-- The steps that run a command line, in the order of the document. -/
def documentSteps (relative : String) (document : Yaml) : List RunStep :=
  jobsSteps relative (((document.field "jobs").bind Yaml.asMapping).getD [])

section Traversal

variable [Sha2] [Packages] {workspace : Workspace} {source : DiscoverySource}
  {relative job : String}

/-- One step after the other. -/
def inspectAll (workspace : Workspace) (source : DiscoverySource) (steps : List RunStep)
    (inspected : Inspection) : Except TaskError Inspection :=
  steps.foldlM (fun inspected step => inspectStep workspace source step inspected) inspected

private theorem inspectSteps_eq_inspectAll {index : Nat} {values : List Yaml}
    {inspected : Inspection} :
    inspectSteps workspace source relative job index values inspected =
      inspectAll workspace source (runSteps relative job index values) inspected := by
  induction values generalizing index inspected with
  | nil => rfl
  | cons value rest ih =>
      rw [inspectSteps, runSteps]
      cases runStep? relative job index value with
      | none => exact ih
      | some step =>
          rw [Option.toList_some, List.singleton_append, inspectAll, List.foldlM_cons]
          exact congrArg _ (funext fun _ => ih)

private theorem inspectJobs_eq_inspectAll {jobs : List (Yaml × Yaml)} {inspected : Inspection} :
    inspectJobs workspace source relative jobs inspected =
      inspectAll workspace source (jobsSteps relative jobs) inspected := by
  induction jobs generalizing inspected with
  | nil => rfl
  | cons entry rest ih =>
      obtain ⟨jobKey, jobValue⟩ := entry
      rw [inspectJobs, jobsSteps, List.flatMap_cons]
      cases (jobValue.field "steps").bind Yaml.asSequence with
      | none => exact ih
      | some steps =>
          rw [Option.getD_some, inspectAll, List.foldlM_append]
          simp only [inspectSteps_eq_inspectAll, ih]
          rfl

theorem inspectWorkflowDocument_eq_inspectAll {document : Yaml} {inspected : Inspection} :
    inspectWorkflowDocument workspace relative source document inspected =
      inspectAll workspace source (documentSteps relative document) inspected := by
  rw [inspectWorkflowDocument, documentSteps]
  cases (document.field "jobs").bind Yaml.asMapping with
  | none => rfl
  | some jobs => exact inspectJobs_eq_inspectAll

end Traversal

/-! What is observed of a step -/

/-- What the rule about gaps sees of a step: its identifier, and whether it is a
verification step that cannot be run. -/
structure SeenStep where
  id : String
  unmodeled : Bool
deriving DecidableEq

/-- A step with a safe command is observed, and so is one that looks like a verification. -/
def RunStep.seen? [Packages] (step : RunStep) : Option SeenStep :=
  if step.command.isSome then some ⟨step.observationId, false⟩
  else if step.unmodeled then some ⟨step.observationId, true⟩
  else none

def WorkflowObservation.seen (observation : WorkflowObservation) : SeenStep :=
  ⟨observation.id, decide (observation.classification = .unmodeledVerification)⟩

/-- The gaps of the unmodeled steps. -/
def unmodeledGaps (steps : List SeenStep) : List String :=
  (steps.filter SeenStep.unmodeled).map fun step => unmodeledGap step.id

section Observation

variable [Sha2] [Packages] {workspace : Workspace} {source : DiscoverySource}

/-- What inspecting steps adds to the observations, and to the gaps. No check it
finds claims a step. -/
structure Inspected (steps : List RunStep) (before after : Inspection) : Prop where
  observations : after.2.observations.map WorkflowObservation.seen =
    before.2.observations.map WorkflowObservation.seen ++ steps.filterMap RunStep.seen?
  gaps : after.2.coverageGaps =
    before.2.coverageGaps ++ unmodeledGaps (steps.filterMap RunStep.seen?)
  claims : (∀ check ∈ before.1, check.replacesWorkflowSteps = []) →
    ∀ check ∈ after.1, check.replacesWorkflowSteps = []

omit [Sha2] in
theorem Inspected.refl (inspected : Inspection) : Inspected [] inspected inspected where
  observations := by simp
  gaps := by simp [unmodeledGaps]
  claims unclaimed := unclaimed

omit [Sha2] in
theorem Inspected.trans {first second : List RunStep} {before between after : Inspection}
    (earlier : Inspected first before between) (later : Inspected second between after) :
    Inspected (first ++ second) before after where
  observations := by
    rw [later.observations, earlier.observations, List.filterMap_append, List.append_assoc]
  gaps := by
    simp only [later.gaps, earlier.gaps, unmodeledGaps, List.filterMap_append, List.filter_append,
      List.map_append, List.append_assoc]
  claims unclaimed := later.claims (earlier.claims unclaimed)

omit [Packages] in
private theorem inspectCommand_observations {step : RunStep} {kind : CheckKind}
    {command : CommandSpec} {checks : List CheckDefinition} {result : WorkflowDiscovery} :
    (inspectCommand source step kind command (checks, result)).2.observations.map
        WorkflowObservation.seen =
      result.observations.map WorkflowObservation.seen ++ [⟨step.observationId, false⟩] ∧
    (inspectCommand source step kind command (checks, result)).2.coverageGaps =
      result.coverageGaps := by
  rw [inspectCommand]
  cases checks.updateFirst (fun check => check.command == command) (declaredAlso source step) with
  | none => simp [WorkflowDiscovery.observe, observation, WorkflowObservation.seen]
  | some updated => simp [WorkflowDiscovery.observe, observation, WorkflowObservation.seen]

omit [Packages] in
private theorem inspectCommand_claims {step : RunStep} {kind : CheckKind} {command : CommandSpec}
    {checks : List CheckDefinition} {result : WorkflowDiscovery}
    (unclaimed : ∀ check ∈ checks, check.replacesWorkflowSteps = []) :
    ∀ check ∈ (inspectCommand source step kind command (checks, result)).1,
      check.replacesWorkflowSteps = [] := by
  rw [inspectCommand]
  cases found : checks.updateFirst (fun check => check.command == command)
      (declaredAlso source step) with
  | none =>
      intro check member
      rcases List.mem_append.mp member with old | new
      · exact unclaimed check old
      · rw [List.mem_singleton.mp new]
        rfl
  | some updated =>
      obtain ⟨existing, others⟩ := updated
      obtain ⟨first, last, rfl, _, _, rfl⟩ := List.updateFirst_eq_some_iff.mp found
      simp only [List.forall_mem_append, List.forall_mem_cons] at unclaimed ⊢
      exact unclaimed

/-- The three things that can become of a step. -/
theorem inspectStep_cases {step : RunStep} {before after : Inspection}
    (ran : inspectStep workspace source step before = .ok after) :
    (∃ kind command, step.command = some (kind, command) ∧
      workspace.validateWorkingDirectory command.workingDirectory = .ok () ∧
      after = inspectCommand source step kind command before) ∨
    (step.command = none ∧ step.unmodeled = true ∧
      after = (before.1, (before.2.addGap (unmodeledGap step.observationId)).observe
        (observation source step .unmodeledVerification none
          "step requires shell syntax, an unsupported verifier, or dynamic workflow context"))) ∨
    (step.command = none ∧ step.unmodeled = false ∧ after = before) := by
  rw [inspectStep] at ran
  cases parsed : step.command with
  | some found =>
      obtain ⟨kind, command⟩ := found
      rw [parsed] at ran
      obtain ⟨_, valid, rest⟩ := except_bind_ok_iff.mp ran
      exact .inl ⟨kind, command, rfl, valid, (except_pure_ok_iff.mp rest).symm⟩
  | none =>
      rw [parsed] at ran
      cases verifies : step.unmodeled with
      | true =>
          simp only [verifies, if_true] at ran
          exact .inr (.inl ⟨rfl, rfl, (except_pure_ok_iff.mp ran).symm⟩)
      | false =>
          simp only [verifies, Bool.false_eq_true, if_false] at ran
          exact .inr (.inr ⟨rfl, rfl, (except_pure_ok_iff.mp ran).symm⟩)

private theorem inspectStep_ok {step : RunStep} {before after : Inspection}
    (ran : inspectStep workspace source step before = .ok after) :
    Inspected [step] before after := by
  obtain ⟨checks, result⟩ := before
  rcases inspectStep_cases ran with ⟨kind, command, parsed, _, rfl⟩ | ⟨parsed, verifies, rfl⟩ |
    ⟨parsed, verifies, rfl⟩
  · have seen : step.seen? = some ⟨step.observationId, false⟩ := by simp [RunStep.seen?, parsed]
    obtain ⟨observed, kept⟩ := @inspectCommand_observations _ source step kind command checks result
    refine ⟨?_, ?_, inspectCommand_claims⟩
    · simpa [seen] using observed
    · simpa [seen, unmodeledGaps] using kept
  · have seen : step.seen? = some ⟨step.observationId, true⟩ := by
      simp [RunStep.seen?, parsed, verifies]
    refine ⟨?_, ?_, fun unclaimed => unclaimed⟩
    · simp [seen, WorkflowDiscovery.observe, WorkflowDiscovery.addGap, observation,
        WorkflowObservation.seen]
    · simp [seen, WorkflowDiscovery.observe, WorkflowDiscovery.addGap, unmodeledGaps]
  · have unseen : step.seen? = none := by simp [RunStep.seen?, parsed, verifies]
    refine ⟨?_, ?_, fun unclaimed => unclaimed⟩
    · simp [unseen]
    · simp [unseen, unmodeledGaps]

/-! All files -/

/-- The workflow files as they are read, without the inspections between them. -/
def workflowDocuments (workspace : Workspace) : Except TaskError (List WorkflowDocument) :=
  if workspace.isDir (workflowsDirectory workspace) then do
    let entries ← orElseFail
      (TaskError.io "read GitHub Actions workflow directory" (workflowsDirectory workspace))
      (workspace.readDir (workflowsDirectory workspace))
    (workflowNames entries).mapM (readWorkflow workspace)
  else return []

omit [Sha2] [Packages] in
/-- The steps of all documents in order. -/
def allSteps (documents : List WorkflowDocument) : List RunStep :=
  documents.flatMap fun document => documentSteps document.relative document.content

section Induction

variable {Relates : List RunStep → Inspection → Inspection → Prop}
  (start : ∀ inspected, Relates [] inspected inspected)
  (extend : ∀ {source step rest first second third},
    inspectStep workspace source step first = .ok second → Relates rest second third →
    Relates (step :: rest) first third)
  (sourced : ∀ {steps checks result sources after},
    Relates steps (checks, { result with sources }) after → Relates steps (checks, result) after)

include start extend sourced

private theorem inspectWorkflows_induction {names : List (List UInt8)} {before after : Inspection}
    (ran : inspectWorkflows workspace names before = .ok after) :
    ∃ documents, names.mapM (readWorkflow workspace) = .ok documents ∧
      Relates (allSteps documents) before after := by
  induction names generalizing before with
  | nil =>
      rw [inspectWorkflows, except_pure_ok_iff] at ran
      rw [ran]
      exact ⟨[], rfl, start after⟩
  | cons name rest ih =>
      obtain ⟨checks, result⟩ := before
      simp only [inspectWorkflows, except_bind_ok_iff] at ran
      obtain ⟨document, read, between, inspected, others⟩ := ran
      obtain ⟨documents, readOthers, later⟩ := ih others
      rw [inspectWorkflowDocument_eq_inspectAll] at inspected
      refine ⟨document :: documents, ?_, ?_⟩
      · rw [List.mapM_cons, read]
        simp only [readOthers, bind, Except.bind, pure, Except.pure]
      · rw [allSteps, List.flatMap_cons]
        exact sourced (foldlM_extend Relates extend inspected later)

/-- What every inspected step extends, whatever the sources listed so far, holds of
the steps of all documents. -/
theorem discoverWorkflows_induction {checks : List CheckDefinition} {after : Inspection}
    (ran : discoverWorkflows workspace checks = .ok after) :
    ∃ documents, workflowDocuments workspace = .ok documents ∧
      Relates (allSteps documents) (checks, .empty) after := by
  rw [discoverWorkflows] at ran
  rw [workflowDocuments]
  cases present : workspace.isDir (workflowsDirectory workspace) with
  | false =>
      simp only [present, Bool.not_false, if_true, except_pure_ok_iff] at ran
      rw [← ran]
      exact ⟨[], rfl, start _⟩
  | true =>
      simp only [present, Bool.not_true, Bool.false_eq_true, if_false, if_true,
        except_bind_ok_iff] at ran ⊢
      obtain ⟨entries, listed, inspected⟩ := ran
      obtain ⟨documents, read, known⟩ := inspectWorkflows_induction start extend sourced inspected
      exact ⟨documents, ⟨entries, listed, read⟩, known⟩

end Induction

theorem discoverWorkflows_ok {checks : List CheckDefinition} {after : Inspection}
    (ran : discoverWorkflows workspace checks = .ok after) :
    ∃ documents, workflowDocuments workspace = .ok documents ∧
      Inspected (allSteps documents) (checks, .empty) after := by
  refine discoverWorkflows_induction .refl ?_ ?_ ran
  · exact fun turned others => (inspectStep_ok turned).trans others
  · exact fun known => ⟨known.observations, known.gaps, known.claims⟩

end Observation

end TaskAttest
