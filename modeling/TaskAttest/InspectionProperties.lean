import TaskAttest.Library.Pointwise
import TaskAttest.WorkflowIdProperties

/-! Inspecting workflow documents only adds evidence to the checks already known, and
observes every step once, in its place. -/

set_option autoImplicit false

namespace TaskAttest

open Program

/-! What inspection keeps of the checks -/

/-- A check with more evidence: sources are added behind its sources, text behind its
reason, and nothing else changes. -/
structure Extends (old new : CheckDefinition) : Prop where
  kept : new = { old with sources := new.sources, reason := new.reason }
  sources : old.sources <+: new.sources
  reason : old.reason.toList <+: new.reason.toList

theorem Extends.refl (check : CheckDefinition) : Extends check check where
  kept := rfl
  sources := List.prefix_refl _
  reason := List.prefix_refl _

theorem Extends.trans {first second third : CheckDefinition} (earlier : Extends first second)
    (later : Extends second third) : Extends first third where
  kept := by
    rw [later.kept, earlier.kept]
  sources := earlier.sources.trans later.sources
  reason := earlier.reason.trans later.reason

/-- Every check keeps its position, and new ones come behind. -/
def Grows (before after : List CheckDefinition) : Prop :=
  ∃ kept added, after = kept ++ added ∧ List.Forall₂ Extends before kept

theorem Grows.refl (checks : List CheckDefinition) : Grows checks checks :=
  ⟨checks, [], (List.append_nil _).symm, List.forall₂_same.mpr fun check _ => .refl check⟩

theorem Grows.trans {first second third : List CheckDefinition} (earlier : Grows first second)
    (later : Grows second third) : Grows first third := by
  obtain ⟨kept, added, rfl, extended⟩ := earlier
  obtain ⟨others, more, rfl, extendedAgain⟩ := later
  obtain ⟨old, new, rfl, oldExtended, _⟩ := extendedAgain.split_left
  refine ⟨old, new ++ more, by rw [List.append_assoc], ?_⟩
  apply (extended.comp oldExtended).imp
  intro check last related
  obtain ⟨_, extends_, extendsAgain⟩ := related
  exact extends_.trans extendsAgain

/-- No two checks run one command, and no check names a file twice as its source. -/
structure ChecksDistinct (checks : List CheckDefinition) : Prop where
  commands : (checks.map CheckDefinition.command).Nodup
  sources : ∀ check ∈ checks, (check.sources.map DiscoverySource.path).Nodup

/-! One step -/

section Step

variable [Sha2] {source : DiscoverySource} {step : RunStep} {kind : CheckKind}
  {command : CommandSpec} {checks : List CheckDefinition} {result : WorkflowDiscovery}

omit [Sha2] in
theorem declaredAlso_extends (source : DiscoverySource) (step : RunStep)
    (existing : CheckDefinition) : Extends existing (declaredAlso source step existing) where
  kept := rfl
  sources := by
    rw [declaredAlso]
    split
    · exact List.prefix_refl _
    · exact List.prefix_append ..
  reason := by
    simp only [declaredAlso, String.toList_append, List.append_assoc]
    exact List.prefix_append ..

omit [Sha2] in
/-- The source is added only where its path is new. -/
theorem declaredAlso_sources {existing : CheckDefinition}
    (distinct : (existing.sources.map DiscoverySource.path).Nodup) :
    ((declaredAlso source step existing).sources.map DiscoverySource.path).Nodup := by
  rw [declaredAlso]
  split
  · exact distinct
  · rename_i absent
    rw [List.map_append, List.map_singleton, ← List.concat_eq_append]
    apply distinct.concat
    intro repeated
    obtain ⟨item, member, same⟩ := List.mem_map.mp repeated
    exact absent (List.any_eq_true.mpr ⟨item, member, beq_iff_eq.mpr same⟩)

private theorem inspectCommand_grows :
    Grows checks (inspectCommand source step kind command (checks, result)).1 := by
  rw [inspectCommand]
  cases found : checks.updateFirst (fun check => check.command == command)
      (declaredAlso source step) with
  | none =>
      exact ⟨checks, _, rfl, List.forall₂_same.mpr fun check _ => .refl check⟩
  | some updated =>
      obtain ⟨existing, others⟩ := updated
      obtain ⟨first, last, rfl, _, _, rfl⟩ := List.updateFirst_eq_some_iff.mp found
      refine ⟨_, [], (List.append_nil _).symm, ?_⟩
      apply List.rel_append
      · exact List.forall₂_same.mpr fun check _ => .refl check
      · apply List.Forall₂.cons (declaredAlso_extends source step existing)
        exact List.forall₂_same.mpr fun check _ => .refl check

private theorem inspectCommand_distinct (distinct : ChecksDistinct checks) :
    ChecksDistinct (inspectCommand source step kind command (checks, result)).1 := by
  rw [inspectCommand]
  cases found : checks.updateFirst (fun check => check.command == command)
      (declaredAlso source step) with
  | none =>
      have different := List.updateFirst_eq_none_iff.mp found
      constructor
      · rw [List.map_append, List.map_singleton, ← List.concat_eq_append]
        apply distinct.commands.concat
        intro repeated
        obtain ⟨check, member, same⟩ := List.mem_map.mp repeated
        exact beq_eq_false_iff_ne.mp (different check member) same
      · intro check member
        rcases List.mem_append.mp member with old | new
        · exact distinct.sources check old
        · rw [List.mem_singleton.mp new]
          exact List.nodup_singleton _
  | some updated =>
      obtain ⟨existing, others⟩ := updated
      obtain ⟨first, last, rfl, _, _, rfl⟩ := List.updateFirst_eq_some_iff.mp found
      obtain ⟨commands, sources⟩ := distinct
      constructor
      · rw [List.map_append, List.map_cons] at commands ⊢
        exact commands
      · rw [List.forall_mem_append, List.forall_mem_cons] at sources ⊢
        obtain ⟨firstSources, existingSources, lastSources⟩ := sources
        exact ⟨firstSources, declaredAlso_sources existingSources, lastSources⟩

end Step

/-! Where the steps of documents stand -/

/-- A step of a workflow, by its document, its job and its number there. -/
structure StepPlace where
  document : Nat
  job : Nat
  index : Nat
deriving DecidableEq

/-- The order of the documents, the jobs and the steps. -/
def StepPlace.Before (earlier later : StepPlace) : Prop :=
  earlier.document < later.document ∨ earlier.document = later.document ∧
    (earlier.job < later.job ∨ earlier.job = later.job ∧ earlier.index < later.index)

/-- A step that runs a command line stands in its place in the documents. -/
inductive RunsAt (documents : List WorkflowDocument) : StepPlace → RunStep → Prop where
  | runs {place : StepPlace} {document : WorkflowDocument} {jobs : List (Yaml × Yaml)}
      {key job value : Yaml} {steps : List Yaml} {run : String} :
      documents[place.document]? = some document →
      (document.content.field "jobs").bind Yaml.asMapping = some jobs →
      jobs[place.job]? = some (key, job) →
      (job.field "steps").bind Yaml.asSequence = some steps →
      steps[place.index]? = some value →
      (value.field "run").bind Yaml.asStr = some run →
      RunsAt documents place {
        relative := document.relative
        job := key.scalar.getD "unnamed-job"
        step := ((value.field "name").bind Yaml.asStr).getD
          ("step-" ++ toString (place.index + 1))
        run
        workingDirectory := ((value.field "working-directory").bind Yaml.asStr).getD "." }

/-- The jobs of a document, none where it has no mapping of them. -/
private def workflowJobs (document : WorkflowDocument) : List (Yaml × Yaml) :=
  ((document.content.field "jobs").bind Yaml.asMapping).getD []

private def jobSteps (job : Yaml) : List Yaml := ((job.field "steps").bind Yaml.asSequence).getD []

/-- The steps of one job that run a command line, each with its place. -/
private def placedInJob (document : WorkflowDocument × Nat) (job : (Yaml × Yaml) × Nat) :
    List (StepPlace × RunStep) :=
  (jobSteps job.1.2).zipIdx.flatMap fun value =>
    ((runStep? document.1.relative (job.1.1.scalar.getD "unnamed-job") value.2 value.1).map
      fun step => (⟨document.2, job.2, value.2⟩, step)).toList

/-- The steps of all documents that run a command line, each with its place. -/
def placedSteps (documents : List WorkflowDocument) : List (StepPlace × RunStep) :=
  documents.zipIdx.flatMap fun document =>
    (workflowJobs document.1).zipIdx.flatMap fun job => placedInJob document job

section Places

variable {documents : List WorkflowDocument}

private theorem runSteps_eq_zipIdx (relative job : String) (index : Nat) (values : List Yaml) :
    runSteps relative job index values =
      (values.zipIdx index).flatMap fun value =>
        (runStep? relative job value.2 value.1).toList := by
  induction values generalizing index with
  | nil => rfl
  | cons value rest ih => rw [runSteps, List.zipIdx_cons, List.flatMap_cons, ih]

private theorem map_snd_placedInJob (document : WorkflowDocument × Nat)
    (job : (Yaml × Yaml) × Nat) :
    (placedInJob document job).map Prod.snd =
      runSteps document.1.relative (job.1.1.scalar.getD "unnamed-job") 0 (jobSteps job.1.2) := by
  rw [placedInJob, List.map_flatMap, runSteps_eq_zipIdx]
  refine List.flatMap_congr fun value _ => ?_
  cases runStep? document.1.relative (job.1.1.scalar.getD "unnamed-job") value.2 value.1 <;> rfl

/-- The inspection goes through the steps in the order of their places. -/
theorem map_snd_placedSteps : (placedSteps documents).map Prod.snd = allSteps documents := by
  simp only [placedSteps, List.map_flatMap, map_snd_placedInJob]
  rw [allSteps, ← List.flatMap_zipIdx documents 0]
  refine List.flatMap_congr fun document _ => ?_
  exact List.flatMap_zipIdx (workflowJobs document.1) 0 fun job =>
    runSteps document.1.relative (job.1.scalar.getD "unnamed-job") 0 (jobSteps job.2)

private theorem runStep?_eq_some_iff {relative job : String} {index : Nat} {value : Yaml}
    {step : RunStep} :
    runStep? relative job index value = some step ↔
      ∃ run, (value.field "run").bind Yaml.asStr = some run ∧
        step = {
          relative, job
          step := ((value.field "name").bind Yaml.asStr).getD ("step-" ++ toString (index + 1))
          run
          workingDirectory := ((value.field "working-directory").bind Yaml.asStr).getD "." } := by
  unfold runStep?
  cases (value.field "run").bind Yaml.asStr with
  | none => simp
  | some run => simp [eq_comm]

private theorem getElem?_getD_nil {Item : Type} {found : Option (List Item)} {index : Nat}
    {item : Item} :
    (found.getD [])[index]? = some item ↔ ∃ items, found = some items ∧ items[index]? = some item := by
  cases found <;> simp

private theorem mem_placedSteps {placed : StepPlace × RunStep} :
    placed ∈ placedSteps documents ↔ RunsAt documents placed.1 placed.2 := by
  simp only [placedSteps, placedInJob, List.mem_flatMap, List.mem_zipIdx_iff_getElem?,
    Option.mem_toList, Option.map_eq_some_iff, runStep?_eq_some_iff, workflowJobs, jobSteps,
    getElem?_getD_nil]
  constructor
  · rintro ⟨document, stands, job, ⟨jobs, mapped, listed⟩, value, ⟨steps, sequenced, inside⟩, _,
      ⟨run, found, rfl⟩, rfl⟩
    exact .runs stands mapped listed sequenced inside found
  · obtain ⟨place, step⟩ := placed
    intro runs
    change RunsAt documents place step at runs
    cases runs with
    | runs stands mapped listed sequenced inside found =>
        exact ⟨⟨_, place.document⟩, stands, ⟨⟨_, _⟩, place.job⟩, ⟨_, mapped, listed⟩,
          ⟨_, place.index⟩, ⟨_, sequenced, inside⟩, _, ⟨_, found, rfl⟩, rfl⟩

private theorem place_of_mem {document : WorkflowDocument × Nat} {job : (Yaml × Yaml) × Nat}
    {placed : StepPlace × RunStep} (member : placed ∈ placedInJob document job) :
    placed.1.document = document.2 ∧ placed.1.job = job.2 := by
  obtain ⟨value, _, made⟩ := List.mem_flatMap.mp member
  obtain ⟨step, _, rfl⟩ := Option.map_eq_some_iff.mp (Option.mem_toList.mp made)
  exact ⟨rfl, rfl⟩

private theorem pairwise_placedInJob (document : WorkflowDocument × Nat)
    (job : (Yaml × Yaml) × Nat) :
    (placedInJob document job).Pairwise fun earlier later => earlier.1.Before later.1 := by
  refine List.pairwise_flatMap.mpr ⟨fun value _ => ?_, ?_⟩
  · cases runStep? document.1.relative (job.1.1.scalar.getD "unnamed-job") value.2 value.1 with
    | none => exact .nil
    | some step => exact List.pairwise_singleton ..
  · refine (List.pairwise_zipIdx _ 0).imp fun before first made second other => ?_
    obtain ⟨_, _, rfl⟩ := Option.map_eq_some_iff.mp (Option.mem_toList.mp made)
    obtain ⟨_, _, rfl⟩ := Option.map_eq_some_iff.mp (Option.mem_toList.mp other)
    exact .inr ⟨rfl, .inr ⟨rfl, before⟩⟩

private theorem pairwise_placedSteps :
    (placedSteps documents).Pairwise fun earlier later => earlier.1.Before later.1 := by
  refine List.pairwise_flatMap.mpr ⟨fun document _ => List.pairwise_flatMap.mpr
    ⟨fun job _ => pairwise_placedInJob document job, ?_⟩, ?_⟩
  · refine (List.pairwise_zipIdx _ 0).imp fun before first made second other => ?_
    obtain ⟨document, job⟩ := place_of_mem made
    obtain ⟨sameDocument, laterJob⟩ := place_of_mem other
    exact .inr ⟨document.trans sameDocument.symm, .inl (job ▸ laterJob ▸ before)⟩
  · refine (List.pairwise_zipIdx _ 0).imp fun before first made second other => ?_
    obtain ⟨_, _, made⟩ := List.mem_flatMap.mp made
    obtain ⟨_, _, other⟩ := List.mem_flatMap.mp other
    rw [StepPlace.Before, (place_of_mem made).1, (place_of_mem other).1]
    exact .inl before

end Places

/-! Sequences of steps and of documents -/

section Documents

variable [Sha2] [Packages] {workspace : Workspace} {source : DiscoverySource} {step : RunStep}
  {documents : List WorkflowDocument} {before after : Inspection}

/-- What one step, or a sequence of them, makes of the checks. -/
structure OnlyAdds (before after : List CheckDefinition) : Prop where
  grows : Grows before after
  distinct : ChecksDistinct before → ChecksDistinct after

omit [Sha2] [Packages] in
theorem OnlyAdds.refl (checks : List CheckDefinition) : OnlyAdds checks checks :=
  ⟨.refl checks, fun distinct => distinct⟩

omit [Sha2] [Packages] in
theorem OnlyAdds.trans {first second third : List CheckDefinition}
    (earlier : OnlyAdds first second) (later : OnlyAdds second third) : OnlyAdds first third where
  grows := earlier.grows.trans later.grows
  distinct distinct := later.distinct (earlier.distinct distinct)

private theorem inspectStep_onlyAdds (ran : inspectStep workspace source step before = .ok after) :
    OnlyAdds before.1 after.1 := by
  obtain ⟨checks, result⟩ := before
  rcases inspectStep_cases ran with ⟨kind, command, _, _, rfl⟩ | ⟨_, _, rfl⟩ | ⟨_, _, rfl⟩
  · exact ⟨inspectCommand_grows, inspectCommand_distinct⟩
  · exact .refl checks
  · exact .refl checks

/-- The documents are inspected one after the other. -/
def inspectDocuments (workspace : Workspace) :
    List WorkflowDocument → Inspection → Except TaskError Inspection
  | [], inspected => return inspected
  | document :: rest, inspected => do
      let inspected ← inspectWorkflowDocument workspace document.relative document.source
        document.content inspected
      inspectDocuments workspace rest inspected

private theorem inspectDocuments_induction (Relates : List RunStep → Inspection → Inspection → Prop)
    (start : ∀ inspected, Relates [] inspected inspected)
    (extend : ∀ {source step rest first second third},
      inspectStep workspace source step first = .ok second → Relates rest second third →
      Relates (step :: rest) first third)
    (ran : inspectDocuments workspace documents before = .ok after) :
    Relates (allSteps documents) before after := by
  induction documents generalizing before with
  | nil =>
      rw [inspectDocuments, except_pure_ok_iff] at ran
      rw [ran]
      exact start after
  | cons document rest ih =>
      rw [inspectDocuments, except_bind_ok_iff] at ran
      obtain ⟨between, inspected, others⟩ := ran
      rw [inspectWorkflowDocument_eq_inspectAll] at inspected
      rw [allSteps, List.flatMap_cons]
      exact foldlM_extend Relates extend inspected (ih others)

private theorem inspectDocuments_onlyAdds
    (ran : inspectDocuments workspace documents before = .ok after) :
    OnlyAdds before.1 after.1 :=
  inspectDocuments_induction (fun _ first last => OnlyAdds first.1 last.1) (fun _ => .refl _)
    (fun inspected later => (inspectStep_onlyAdds inspected).trans later) ran

private theorem inspectDocuments_discovered
    (ran : inspectDocuments workspace documents before = .ok after) :
    Discovered (allSteps documents) before after :=
  inspectDocuments_induction Discovered .refl (fun inspected later => later.extend inspected) ran

/-- The observation of a step names the one check that runs its command, and no check
when the step has no safe command. -/
structure StepNamed (checks : List CheckDefinition) (step : RunStep)
    (observation : WorkflowObservation) : Prop where
  id : observation.id = step.observationId
  run : observation.runSha256 = sha256Bytes (textBytes step.run)
  named : ∀ kind command, step.command = some (kind, command) →
    ∃ check ∈ checks, check.command = command ∧ observation.checkId = some check.id ∧
      ∀ other ∈ checks, other.command = command → other = check
  unnamed : step.command = none → observation.checkId = none

omit [Sha2] [Packages] in
private theorem eq_of_command {checks : List CheckDefinition} (distinct : ChecksDistinct checks)
    {check other : CheckDefinition} (member : check ∈ checks) (otherMember : other ∈ checks)
    (same : other.command = check.command) : other = check :=
  List.inj_on_of_nodup_map distinct.commands otherMember member same

private theorem StepRecorded.stepNamed {checks : List CheckDefinition}
    {observed : WorkflowObservation}
    (recorded : StepRecorded (checks.map CheckDefinition.entry) step observed)
    (distinct : ChecksDistinct checks) : StepNamed checks step observed where
  id := recorded.id
  run := recorded.run
  named := by
    intro kind command parsed
    obtain ⟨id, provided, names, _⟩ := recorded.named kind command parsed
    obtain ⟨check, member, entry⟩ := List.mem_map.mp (mem_of_provider provided)
    obtain ⟨rfl, rfl⟩ := Prod.mk.inj entry
    exact ⟨check, member, rfl, names, fun other otherMember same =>
      eq_of_command distinct member otherMember same⟩
  unnamed parsed := (recorded.unmodeled parsed).1

omit [Sha2] in
private theorem isSeen_iff : step.isSeen = true ↔ step.command ≠ none ∨ step.unmodeled = true := by
  rw [RunStep.isSeen, Bool.or_eq_true, Option.isSome_iff_ne_none]

/-- Whatever documents are inspected: commands and sources stay distinct, the checks keep
their positions and all but added evidence, and every step that runs a safe command, or
verifies something without one, has one observation, in the order of the documents, which
names the check of the step's command. -/
theorem inspectDocuments_addsEvidence (distinct : ChecksDistinct before.1)
    (ran : inspectDocuments workspace documents before = .ok after) :
    ChecksDistinct after.1 ∧ Grows before.1 after.1 ∧
      ∃ places recorded, after.2.observations = before.2.observations ++ recorded ∧
        places.Pairwise StepPlace.Before ∧
        (∀ place, place ∈ places ↔
          ∃ step, RunsAt documents place step ∧ (step.command ≠ none ∨ step.unmodeled = true)) ∧
        List.Forall₂ (fun place observed =>
          ∃ step, RunsAt documents place step ∧ StepNamed after.1 step observed) places recorded := by
  obtain ⟨grows, kept⟩ := inspectDocuments_onlyAdds ran
  obtain ⟨recorded, observing, related⟩ := (inspectDocuments_discovered ran).observations
  let seen := (placedSteps documents).filter fun placed => placed.2.isSeen
  have known : ∀ placed ∈ seen, RunsAt documents placed.1 placed.2 := fun placed member =>
    mem_placedSteps.mp (List.mem_of_mem_filter member)
  refine ⟨kept distinct, grows, seen.map Prod.fst, recorded, observing, ?_, fun place => ?_, ?_⟩
  · exact List.pairwise_map.mpr (pairwise_placedSteps.filter _)
  · constructor
    · intro member
      obtain ⟨placed, listed, rfl⟩ := List.mem_map.mp member
      exact ⟨placed.2, known placed listed, isSeen_iff.mp (List.mem_filter.mp listed).2⟩
    · intro observed
      obtain ⟨step, stands, observed⟩ := observed
      exact List.mem_map.mpr ⟨(place, step), List.mem_filter.mpr
        ⟨mem_placedSteps.mpr stands, isSeen_iff.mpr observed⟩, rfl⟩
  · rw [List.forall₂_map_left_iff]
    rw [← map_snd_placedSteps, List.filter_map, List.forall₂_map_left_iff] at related
    exact related.imp_of_mem fun placed member observed recorded =>
      ⟨placed.2, known placed member, recorded.stepNamed (kept distinct)⟩

end Documents

/-! Two steps of two files run one command -/

def repeatedDocuments : List WorkflowDocument :=
  [{ relative := ".github/workflows/a.yml"
     source := ⟨".github/workflows/a.yml", "", "GitHub Actions workflow"⟩
     content := jobDocument [[("run", "go test"), ("name", "Test")], [("run", "make test | tee log")]] },
   { relative := ".github/workflows/b.yml"
     source := ⟨".github/workflows/b.yml", "", "GitHub Actions workflow"⟩
     content := jobDocument [[("run", "go test")]] }]

section Repeated

attribute [local instance] standardSha2 clashingPackages

theorem inspectDocuments_addsEvidence_repeated :
    ∃ after, inspectDocuments clashingWorkspace repeatedDocuments ([], .empty) = .ok after ∧
      after.2.observations.map (fun observed => (observed.id, observed.checkId.isSome)) =
        [(".github/workflows/a.yml#ci#Test", true), (".github/workflows/a.yml#ci#step-2", false),
          (".github/workflows/b.yml#ci#step-1", true)] ∧
      ChecksDistinct after.1 ∧ Grows [] after.1 ∧
        ∃ places recorded, after.2.observations = [] ++ recorded ∧
          places.Pairwise StepPlace.Before ∧
          (∀ place, place ∈ places ↔ ∃ step, RunsAt repeatedDocuments place step ∧
            (step.command ≠ none ∨ step.unmodeled = true)) ∧
          List.Forall₂ (fun place observed =>
            ∃ step, RunsAt repeatedDocuments place step ∧ StepNamed after.1 step observed)
            places recorded := by
  have succeeds : ((inspectDocuments clashingWorkspace repeatedDocuments
      ([], .empty)).toOption.any fun inspected =>
        inspected.2.observations.map (fun observed => (observed.id, observed.checkId.isSome)) ==
          [(".github/workflows/a.yml#ci#Test", true), (".github/workflows/a.yml#ci#step-2", false),
            (".github/workflows/b.yml#ci#step-1", true)]) = true := by
    decide +kernel
  obtain ⟨after, inspected, observed⟩ := exists_ok_of_any succeeds
  have distinct : ChecksDistinct (([], .empty) : Inspection).1 :=
    ⟨List.nodup_nil, List.forall_mem_nil _⟩
  exact ⟨after, inspected, beq_iff_eq.mp observed,
    inspectDocuments_addsEvidence distinct inspected⟩

end Repeated

end TaskAttest
