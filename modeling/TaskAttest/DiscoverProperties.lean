import TaskAttest.Discover
import TaskAttest.WorkflowProperties

/-! Which workflow steps a report counts as unmodeled, and which gaps it keeps. -/

set_option autoImplicit false

namespace TaskAttest

open Program

/-! Gap texts -/

private theorem unmodeledGap_toList (id : String) :
    (unmodeledGap id).toList =
      "verification workflow step is not safely modeled: ".toList ++ id.toList :=
  String.toList_append

private theorem unmodeledGap_injective {left right : String}
    (same : unmodeledGap left = unmodeledGap right) : left = right :=
  String.append_right_inj _ |>.mp same

private theorem mem_unmodeledGaps_iff {steps : List SeenStep} {id : String} :
    unmodeledGap id ∈ unmodeledGaps steps ↔
      ∃ step ∈ steps, step.unmodeled = true ∧ step.id = id := by
  simp only [unmodeledGaps, List.mem_map, List.mem_filter]
  constructor
  · intro mapped
    obtain ⟨step, ⟨member, unmodeled⟩, same⟩ := mapped
    exact ⟨step, member, unmodeled, unmodeledGap_injective same⟩
  · intro listed
    obtain ⟨step, member, unmodeled, rfl⟩ := listed
    exact ⟨step, ⟨member, unmodeled⟩, rfl⟩

private theorem keepsGap_eq_true_iff {claimed : List String} {gap : String} :
    keepsGap claimed gap = true ↔ ∀ id ∈ claimed, ¬id.toList <:+ gap.toList := by
  simp [keepsGap]

/-- The gap of a claimed step is not kept. -/
theorem not_keepsGap_of_mem {claimed : List String} {id : String} (claim : id ∈ claimed) :
    keepsGap claimed (unmodeledGap id) = false := by
  have ends : id.toList <:+ (unmodeledGap id).toList := by
    rw [unmodeledGap_toList]
    exact List.suffix_append _ _
  rw [← Bool.not_eq_true, keepsGap_eq_true_iff]
  exact fun kept => kept id claim ends

theorem unmodeledGap_head (id : String) : (unmodeledGap id).toList.head? = some 'v' := by
  have first : "verification workflow step is not safely modeled: ".toList.head? = some 'v' := by
    decide +kernel
  rw [unmodeledGap_toList, List.head?_append, first]
  rfl

/-- The other gaps of a report begin with another letter. -/
theorem coverageGaps_head {changedPaths : List String} {checks : List CheckDefinition}
    {matchers : List (String → Bool)} {selection : List CheckSelection} {gap : String}
    (member : gap ∈ coverageGaps changedPaths checks matchers selection) :
    gap.toList.head? = some 'n' := by
  rw [coverageGaps, mem_sortedSet, List.mem_append] at member
  rcases member with uncovered | unselected
  · obtain ⟨path, _, rfl⟩ := List.mem_map.mp uncovered
    simp
  · split at unselected
    · rw [List.mem_singleton.mp unselected]
      simp
    · split at unselected
      · rw [List.mem_singleton.mp unselected]
        simp
      · cases unselected

private theorem unmodeledGap_not_mem_coverageGaps {id : String} {changedPaths : List String}
    {checks : List CheckDefinition} {matchers : List (String → Bool)}
    {selection : List CheckSelection} :
    unmodeledGap id ∉ coverageGaps changedPaths checks matchers selection := by
  intro member
  have head := coverageGaps_head member
  rw [unmodeledGap_head] at head
  exact absurd head (by decide)

/-! Replacement -/

/-- The first step of each claimed identifier is no longer unmodeled. -/
def retire (claimed : List String) : List SeenStep → List SeenStep
  | [] => []
  | step :: rest =>
      ⟨step.id, step.unmodeled && !claimed.contains step.id⟩ ::
        retire (claimed.filter fun id => id != step.id) rest

private theorem retire_nil (steps : List SeenStep) : retire [] steps = steps := by
  induction steps with
  | nil => rfl
  | cons step rest ih => simp [retire, ih]

/-- Claiming one more identifier retires the first step that has it. -/
theorem retire_cons {id : String} {claimed : List String} {before after : List SeenStep}
    (fresh : ∀ step ∈ before, step.id ≠ id) :
    retire (id :: claimed) (before ++ ⟨id, true⟩ :: after) =
      retire claimed (before ++ ⟨id, false⟩ :: after) := by
  induction before generalizing claimed with
  | nil => simp [retire]
  | cons step rest ih =>
      obtain ⟨different, others⟩ := List.forall_mem_cons.mp fresh
      simp only [List.cons_append, retire, List.contains_cons, List.filter_cons]
      rw [if_pos (bne_iff_ne.mpr (Ne.symm different)), ih others, beq_false_of_ne different,
        Bool.false_or]

/-- A check replaces a step that has a claimed identifier which no step before it has. -/
def Replaces (claimed : List String) (before : List SeenStep) (step : SeenStep) : Prop :=
  step.id ∈ claimed ∧ ∀ earlier ∈ before, earlier.id ≠ step.id

private theorem mem_retire_iff {claimed : List String} {steps : List SeenStep} {id : String}
    {unmodeled : Bool} :
    ⟨id, unmodeled⟩ ∈ retire claimed steps ↔
      ∃ before step after, steps = before ++ step :: after ∧ step.id = id ∧
        (unmodeled = true ↔ step.unmodeled = true ∧ ¬Replaces claimed before step) := by
  induction steps generalizing claimed with
  | nil => simp [retire]
  | cons first rest ih =>
      rw [retire, List.mem_cons, ih]
      constructor
      · intro cause
        rcases cause with same | ⟨before, step, after, rfl, rfl, known⟩
        · obtain ⟨rfl, rfl⟩ := SeenStep.mk.inj same
          exact ⟨[], first, rest, rfl, rfl, by simp [Replaces]⟩
        · refine ⟨first :: before, step, after, rfl, rfl, known.trans ?_⟩
          refine and_congr_right fun _ => not_congr ?_
          simp only [Replaces, List.mem_filter, bne_iff_ne, List.forall_mem_cons]
          rw [and_assoc, ne_comm]
      · intro cause
        obtain ⟨before, step, after, split, rfl, known⟩ := cause
        cases before with
        | nil =>
            obtain ⟨rfl, rfl⟩ := List.cons.inj split
            left
            rw [SeenStep.mk.injEq]
            refine ⟨rfl, Bool.eq_iff_iff.mpr (known.trans ?_)⟩
            simp [Replaces]
        | cons head others =>
            obtain ⟨rfl, rfl⟩ := List.cons.inj split
            refine .inr ⟨others, step, after, rfl, rfl, known.trans ?_⟩
            refine and_congr_right fun _ => not_congr ?_
            simp only [Replaces, List.mem_filter, bne_iff_ne, List.forall_mem_cons]
            rw [and_assoc, ne_comm]

/-- A claim is granted on the first observation of the step, while it is unmodeled. -/
theorem claimStep_cases {checkId id : String} {before after : Replacing}
    (ran : claimStep checkId id before = .ok after) :
    ∃ first observation last, before.2 = first ++ observation :: last ∧
      (∀ earlier ∈ first, earlier.id ≠ id) ∧ observation.id = id ∧
      observation.classification = .unmodeledVerification ∧
      after = ((id, checkId) :: before.1, first ++ replaced checkId observation :: last) := by
  obtain ⟨claimed, observations⟩ := before
  simp only [claimStep] at ran
  split at ran
  · cases ran
  · split at ran
    · cases ran
    · rename_i observation others found
      split at ran
      · rename_i unmodeled
        cases ran
        obtain ⟨first, last, shape, untested, passes, rfl⟩ := List.updateFirst_eq_some_iff.mp found
        refine ⟨first, observation, last, shape, ?_, beq_iff_eq.mp passes, unmodeled, rfl⟩
        exact fun earlier member => beq_eq_false_iff_ne.mp (untested earlier member)
      · cases ran

private theorem claimStep_ok {checkId id : String} {before after : Replacing}
    (ran : claimStep checkId id before = .ok after) :
    after.1.map Prod.fst = id :: before.1.map Prod.fst ∧
      ∃ first found last,
        before.2.map WorkflowObservation.seen = first ++ ⟨id, true⟩ :: last ∧
        found = first ++ ⟨id, false⟩ :: last ∧ (∀ step ∈ first, step.id ≠ id) ∧
        after.2.map WorkflowObservation.seen = found := by
  obtain ⟨first, observation, last, shape, fresh, rfl, unmodeled, rfl⟩ := claimStep_cases ran
  refine ⟨rfl, first.map WorkflowObservation.seen, _, last.map WorkflowObservation.seen, ?_, rfl,
    ?_, ?_⟩
  · simp [shape, WorkflowObservation.seen, unmodeled]
  · intro step member
    obtain ⟨earlier, included, rfl⟩ := List.mem_map.mp member
    exact fresh earlier included
  · simp [WorkflowObservation.seen, replaced]

private theorem claimSteps_ok {claimList : List (String × String)} {before after : Replacing}
    (ran : claimSteps claimList before = .ok after) :
    after.1.map Prod.fst = (claimList.map Prod.snd).reverse ++ before.1.map Prod.fst ∧
      after.2.map WorkflowObservation.seen =
        retire (claimList.map Prod.snd) (before.2.map WorkflowObservation.seen) := by
  induction claimList generalizing before with
  | nil =>
      rw [claimSteps, except_pure_ok_iff] at ran
      rw [ran]
      exact ⟨rfl, (retire_nil _).symm⟩
  | cons claim rest ih =>
      obtain ⟨checkId, id⟩ := claim
      simp only [claimSteps, except_bind_ok_iff] at ran
      obtain ⟨between, claiming, others⟩ := ran
      obtain ⟨claimed, first, _, last, split, rfl, fresh, updated⟩ := claimStep_ok claiming
      obtain ⟨allClaimed, retired⟩ := ih others
      constructor
      · rw [allClaimed, claimed]
        simp
      · rw [retired, updated, split, List.map_cons, retire_cons fresh]

/-! Who claims steps -/

section Claims

variable [Sha2] [Packages] {workspace : Workspace} {checks : List CheckDefinition}

omit [Packages] in
private theorem javascriptChecks_claims {manager : String} {sources : List DiscoverySource}
    {scripts : List (String × String)} {ids : List String} :
    ∀ check ∈ javascriptChecks manager sources scripts ids, check.replacesWorkflowSteps = [] := by
  induction scripts generalizing ids with
  | nil => exact List.forall_mem_nil _
  | cons entry rest ih =>
      obtain ⟨script, commandText⟩ := entry
      rw [javascriptChecks]
      cases javascriptScriptKind script commandText with
      | none => exact ih
      | some kind => exact List.forall_mem_cons.mpr ⟨rfl, ih⟩

/-- The checks of a manifest are those of its scripts. -/
theorem discoverJavascript_cases (found : discoverJavascript workspace = .ok checks) :
    ∃ text scripts manager sources,
      workspace.readBoundedProjectFile "package.json" = .ok text ∧
      orElseFail (fun error => TaskError.discovery ("parse package.json: " ++ error))
        (Packages.packageScripts text) = .ok scripts ∧
      checks = javascriptChecks manager sources (scripts.getD .empty).entries [] := by
  simp only [discoverJavascript, except_bind_ok_iff, except_pure_ok_iff] at found
  obtain ⟨text, read, scripts, parsed, _, _, _, _, rfl⟩ := found
  exact ⟨text, scripts, _, _, read, parsed, rfl⟩

/-- A manifest that is read and parsed has its checks, when the files can be hashed. -/
theorem exists_discoverJavascript {text : String} {scripts : Option (SortedMap String String)}
    (read : workspace.readBoundedProjectFile "package.json" = .ok text)
    (parsed : Packages.packageScripts text = .ok scripts)
    (hashed : ∀ relative evidence, ∃ source,
      workspace.discoverySource relative evidence = .ok source) :
    ∃ checks, discoverJavascript workspace = .ok checks := by
  have locked (lockfile : String) :
      ∃ sources, lockfileSources workspace lockfile = .ok sources := by
    rw [lockfileSources]
    split
    · exact ⟨_, rfl⟩
    · obtain ⟨source, found⟩ := hashed lockfile
        "JavaScript locked dependency graph and package-manager selection"
      rw [found]
      exact ⟨_, rfl⟩
  obtain ⟨source, found⟩ := hashed "package.json" "JavaScript package scripts"
  obtain ⟨sources, others⟩ := locked
    ((lockfiles.find? fun candidate => workspace.isFile (workspace.within candidate.2)).getD
      ("npm", "")).2
  refine ⟨_, except_bind_ok_iff.mpr ⟨text, read, except_bind_ok_iff.mpr ⟨scripts, ?_,
    except_bind_ok_iff.mpr ⟨source, found, except_bind_ok_iff.mpr ⟨sources, others, rfl⟩⟩⟩⟩⟩
  rw [parsed]
  rfl

private theorem discoverJavascript_claims (found : discoverJavascript workspace = .ok checks) :
    ∀ check ∈ checks, check.replacesWorkflowSteps = [] := by
  obtain ⟨_, _, _, _, _, _, rfl⟩ := discoverJavascript_cases found
  exact javascriptChecks_claims

/-- A check that runs a tool of a language other than JavaScript. -/
def CheckDefinition.RunsTool (check : CheckDefinition) : Prop :=
  check.command.program ∈ ["python3", "cargo", "go"] ∧ check.replacesWorkflowSteps = []

private theorem discoverPython_tools (found : discoverPython workspace = .ok checks) :
    ∀ check ∈ checks, check.RunsTool := by
  simp only [discoverPython, except_bind_ok_iff, except_pure_ok_iff] at found
  obtain ⟨⟨⟨pytest, tox, ruff, mypy⟩, sources⟩, _, rfl⟩ := found
  cases pytest <;> cases tox <;> cases ruff <;> cases mypy <;>
    simp [pythonChecks, languageCheck, CheckDefinition.RunsTool]

omit [Packages] in
private theorem discoverRust_tools (found : discoverRust workspace = .ok checks) :
    ∀ check ∈ checks, check.RunsTool := by
  simp only [discoverRust, except_bind_ok_iff, except_pure_ok_iff] at found
  obtain ⟨_, _, rfl⟩ := found
  simp [languageCheck, CheckDefinition.RunsTool]

omit [Packages] in
private theorem discoverGo_tools (found : discoverGo workspace = .ok checks) :
    ∀ check ∈ checks, check.RunsTool := by
  simp only [discoverGo, except_bind_ok_iff, except_pure_ok_iff] at found
  obtain ⟨_, _, rfl⟩ := found
  simp [languageCheck, CheckDefinition.RunsTool]

omit [Sha2] [Packages] in
/-- A language whose files are absent has no check. -/
theorem discoverPresent_cases {files : List String}
    {discover : Workspace → Except TaskError (List CheckDefinition)}
    (found : discoverPresent workspace files discover = .ok checks) :
    (files.any fun file => workspace.isFile (workspace.within file)) = true ∧
        discover workspace = .ok checks ∨
      checks = [] := by
  rw [discoverPresent] at found
  split at found
  · rename_i present
    exact .inl ⟨present, found⟩
  · cases found
    exact .inr rfl

omit [Sha2] [Packages] in
private theorem discoverPresent_tools {files : List String}
    {discover : Workspace → Except TaskError (List CheckDefinition)}
    (language : ∀ {found}, discover workspace = .ok found → ∀ check ∈ found, check.RunsTool)
    (found : discoverPresent workspace files discover = .ok checks) :
    ∀ check ∈ checks, check.RunsTool := by
  rcases discoverPresent_cases found with ⟨_, discovered⟩ | rfl
  · exact language discovered
  · exact List.forall_mem_nil _

/-- A check of a language is one of the package manifest, or it runs another tool. -/
theorem discoverLanguages_cases (found : discoverLanguages workspace = .ok checks) :
    ∃ javascript others, checks = javascript ++ others ∧
      (workspace.isFile (workspace.within "package.json") = true ∧
          discoverJavascript workspace = .ok javascript ∨
        javascript = []) ∧
      ∀ check ∈ others, check.RunsTool := by
  simp only [discoverLanguages, except_bind_ok_iff, except_pure_ok_iff] at found
  obtain ⟨javascript, foundJavascript, python, foundPython, rust, foundRust, go, foundGo, rfl⟩ :=
    found
  refine ⟨javascript, python ++ rust ++ go, by simp only [List.append_assoc], ?_, ?_⟩
  · rcases discoverPresent_cases foundJavascript with ⟨present, discovered⟩ | absent
    · exact .inl ⟨by simpa using present, discovered⟩
    · exact .inr absent
  · simp only [List.forall_mem_append]
    exact ⟨⟨discoverPresent_tools discoverPython_tools foundPython,
      discoverPresent_tools discoverRust_tools foundRust⟩,
      discoverPresent_tools discoverGo_tools foundGo⟩

private theorem discoverLanguages_claims (found : discoverLanguages workspace = .ok checks) :
    ∀ check ∈ checks, check.replacesWorkflowSteps = [] := by
  obtain ⟨javascript, others, rfl, declared, tools⟩ := discoverLanguages_cases found
  refine List.forall_mem_append.mpr ⟨?_, fun check member => (tools check member).2⟩
  rcases declared with ⟨_, discovered⟩ | rfl
  · exact discoverJavascript_claims discovered
  · exact List.forall_mem_nil _

omit [Sha2] [Packages] in
/-- A configured check keeps its identifier, its command and the steps it replaces. -/
theorem configuredCheck_ok {configured : ConfiguredCheck} {source : Option DiscoverySource}
    {check : CheckDefinition} (made : configuredCheck workspace configured source = .ok check) :
    configured.id = check.id ∧
      configured.command = check.command.program :: check.command.args ∧
      configured.workingDirectory = check.command.workingDirectory ∧
      configured.replacesWorkflowSteps = check.replacesWorkflowSteps := by
  rw [configuredCheck] at made
  split at made
  · cases made
  · rename_i command
    split at made
    · cases made
    · simp only [except_bind_ok_iff, except_pure_ok_iff] at made
      obtain ⟨_, _, _, _, rfl⟩ := made
      exact ⟨rfl, command, rfl, rfl⟩

omit [Sha2] [Packages] in
private theorem configuredChecks_claims {configured : List ConfiguredCheck}
    {source : Option DiscoverySource}
    (made : configuredChecks workspace source configured = .ok checks) :
    checks.flatMap CheckDefinition.replacesWorkflowSteps =
      configured.flatMap ConfiguredCheck.replacesWorkflowSteps := by
  induction configured generalizing checks with
  | nil =>
      cases made
      rfl
  | cons first rest ih =>
      simp only [configuredChecks, except_bind_ok_iff, except_pure_ok_iff] at made
      obtain ⟨check, madeFirst, others, madeOthers, rfl⟩ := made
      obtain ⟨_, _, _, replaces⟩ := configuredCheck_ok madeFirst
      rw [List.flatMap_cons, List.flatMap_cons, replaces, ih madeOthers]

omit [Sha2] [Packages] in
/-- Only the explicit checks claim steps. -/
theorem mem_claims_orderedChecks {config : TaskAttestConfig}
    {discovered explicit : List CheckDefinition}
    (unclaimed : ∀ check ∈ discovered, check.replacesWorkflowSteps = []) {id : String} :
    id ∈ (claims (orderedChecks config discovered explicit)).map Prod.snd ↔
      id ∈ explicit.flatMap CheckDefinition.replacesWorkflowSteps := by
  simp only [claims, List.mem_map, List.mem_flatMap, orderedChecks]
  constructor
  · intro listed
    obtain ⟨_, ⟨check, member, step, claim, rfl⟩, rfl⟩ := listed
    rcases List.mem_append.mp (List.mem_insertionSort _ |>.mp member) with found | found
    · rw [unclaimed check (List.mem_of_mem_filter found)] at claim
      cases claim
    · exact ⟨check, found, claim⟩
  · intro listed
    obtain ⟨check, member, claim⟩ := listed
    exact ⟨(check.id, id), ⟨check, List.mem_insertionSort _ |>.mpr (List.mem_append_right _ member),
      id, claim, rfl⟩, rfl⟩

end Claims

/-! Do the gaps of a report name its unmodeled steps? -/

/-- Exactly the unmodeled observations have their gap in the report. -/
def GapsAgree (report : DiscoveryReport) : Prop :=
  ∀ observation ∈ report.workflowObservations,
    observation.classification = .unmodeledVerification ↔
      unmodeledGap observation.id ∈ report.coverageGaps

instance (report : DiscoveryReport) : Decidable (GapsAgree report) :=
  inferInstanceAs (Decidable (∀ observation ∈ report.workflowObservations, _ ↔ _))

/-- The gap text of an unmodeled step that no check replaces ends with no claimed
identifier, and only unmodeled steps share its identifier. -/
def StepsSeparate (steps : List SeenStep) (claimed : List String) : Prop :=
  ∀ before step after, steps = before ++ step :: after → step.unmodeled = true →
    ¬Replaces claimed before step →
    keepsGap claimed (unmodeledGap step.id) = true ∧
      ∀ other ∈ steps, other.id = step.id → other.unmodeled = true

/-- The rule about gaps, on the steps as they were seen before replacement. -/
theorem retire_agrees_iff {claimed : List String} {steps : List SeenStep} :
    (∀ step ∈ retire claimed steps, step.unmodeled = true ↔
      unmodeledGap step.id ∈ (unmodeledGaps steps).filter (keepsGap claimed)) ↔
    StepsSeparate steps claimed := by
  simp only [List.mem_filter, mem_unmodeledGaps_iff]
  constructor
  · intro agrees before step after split unmodeled unreplaced
    have open_ : ⟨step.id, true⟩ ∈ retire claimed steps :=
      mem_retire_iff.mpr ⟨before, step, after, split, rfl, by simp [unmodeled, unreplaced]⟩
    obtain ⟨exists_, kept⟩ := (agrees _ open_).mp rfl
    refine ⟨kept, fun other member same => ?_⟩
    obtain ⟨earlier, later, splitOther⟩ := List.append_of_mem member
    by_contra modeled
    have closed : ⟨step.id, false⟩ ∈ retire claimed steps :=
      mem_retire_iff.mpr ⟨earlier, other, later, splitOther, same, by simp [modeled]⟩
    exact absurd ((agrees _ closed).mpr ⟨exists_, kept⟩) (by simp)
  · intro separate unmodeledId member
    obtain ⟨id, unmodeled⟩ := unmodeledId
    obtain ⟨before, step, after, split, rfl, known⟩ := mem_retire_iff.mp member
    have listed : step ∈ steps := by simp [split]
    constructor
    · intro still
      obtain ⟨isUnmodeled, unreplaced⟩ := known.mp still
      exact ⟨⟨step, listed, isUnmodeled, rfl⟩, (separate _ _ _ split isUnmodeled unreplaced).1⟩
    · intro retained
      obtain ⟨⟨other, otherListed, otherUnmodeled, same⟩, kept⟩ := retained
      have unclaimed : step.id ∉ claimed := by
        intro claim
        rw [not_keepsGap_of_mem claim] at kept
        cases kept
      obtain ⟨earlier, later, splitOther⟩ := List.append_of_mem otherListed
      have unreplaced : ¬Replaces claimed earlier other := fun replaces =>
        unclaimed (same ▸ replaces.1)
      exact known.mpr
        ⟨(separate _ _ _ splitOther otherUnmodeled unreplaced).2 step listed same.symm,
          fun replaces => unclaimed replaces.1⟩

private theorem keepsGap_congr {left right : List String} (same : ∀ id, id ∈ left ↔ id ∈ right)
    (gap : String) : keepsGap left gap = keepsGap right gap := by
  rw [Bool.eq_iff_iff, keepsGap_eq_true_iff, keepsGap_eq_true_iff]
  simp only [same]

private theorem stepsSeparate_congr {steps : List SeenStep} {left right : List String}
    (same : ∀ id, id ∈ left ↔ id ∈ right) :
    StepsSeparate steps left ↔ StepsSeparate steps right := by
  simp only [StepsSeparate, Replaces, same, keepsGap_congr same]

section Gaps

variable [Sha2] [Packages] {workspace : Workspace} {source : SourceIdentity} {changedOnly : Bool}
  {requestedChecks : List String} {report : DiscoveryReport}

omit [Sha2] in
private theorem assembleReport_ok {checks : List CheckDefinition} {workflow : WorkflowDiscovery}
    {configSource : Option DiscoverySource}
    (assembled : assembleReport source changedOnly requestedChecks checks workflow configSource =
      .ok report) :
    report.workflowObservations = workflow.observations ∧
      ∀ id, unmodeledGap id ∈ report.coverageGaps ↔ unmodeledGap id ∈ workflow.coverageGaps := by
  simp only [assembleReport, except_bind_ok_iff, except_pure_ok_iff] at assembled
  obtain ⟨_, _, _, _, rfl⟩ := assembled
  refine ⟨rfl, fun id => ?_⟩
  simp [unmodeledGap_not_mem_coverageGaps]

omit [Sha2] [Packages] in
theorem applyWorkflowReplacements_ok {checks : List CheckDefinition}
    {before after : WorkflowDiscovery}
    (applied : applyWorkflowReplacements checks before = .ok after) :
    after.observations.map WorkflowObservation.seen =
        retire ((claims checks).map Prod.snd) (before.observations.map WorkflowObservation.seen) ∧
      after.coverageGaps =
        before.coverageGaps.filter (keepsGap ((claims checks).map Prod.snd)) := by
  simp only [applyWorkflowReplacements, except_bind_ok_iff, except_pure_ok_iff] at applied
  obtain ⟨⟨claimed, observations⟩, claiming, rfl⟩ := applied
  obtain ⟨allClaimed, retired⟩ := claimSteps_ok claiming
  refine ⟨retired, List.filter_congr fun gap _ => keepsGap_congr (fun id => ?_) gap⟩
  rw [allClaimed]
  simp

/-- The unmodeled observations of a report are exactly those whose gap it contains
when, and only when, the gaps of the steps that remain unmodeled are told apart
from the claimed ones by their texts. -/
theorem discoverChecks_gapsAgree_iff {documents : List WorkflowDocument}
    {config : TaskAttestConfig} {configSource : Option DiscoverySource}
    (configured : readConfiguration workspace = .ok (config, configSource))
    (read : workflowDocuments workspace = .ok documents)
    (found : discoverChecks workspace source changedOnly requestedChecks = .ok report) :
    GapsAgree report ↔
      StepsSeparate ((allSteps documents).filterMap RunStep.seen?)
        (config.checks.flatMap ConfiguredCheck.replacesWorkflowSteps) := by
  simp only [discoverChecks, except_bind_ok_iff, configured, Except.ok.injEq] at found
  obtain ⟨_, rfl, languageChecks, languages, ⟨discovered, workflow⟩, inspected, explicit, made, _,
    _, replacedWorkflow, applied, assembled⟩ := found
  obtain ⟨others, readAgain, known⟩ := discoverWorkflows_ok inspected
  obtain rfl : documents = others := Except.ok.inj (read.symm.trans readAgain)
  have seen : workflow.observations.map WorkflowObservation.seen =
      (allSteps documents).filterMap RunStep.seen? := by
    simpa [WorkflowDiscovery.empty] using known.observations
  have gaps : workflow.coverageGaps =
      unmodeledGaps ((allSteps documents).filterMap RunStep.seen?) := by
    simpa [WorkflowDiscovery.empty] using known.gaps
  obtain ⟨retired, filtered⟩ := applyWorkflowReplacements_ok applied
  obtain ⟨observations, listed⟩ := assembleReport_ok assembled
  have claimed : ∀ id,
      id ∈ (claims (orderedChecks config discovered explicit)).map Prod.snd ↔
        id ∈ config.checks.flatMap ConfiguredCheck.replacesWorkflowSteps := by
    intro id
    rw [mem_claims_orderedChecks (known.claims (discoverLanguages_claims languages)),
      configuredChecks_claims made]
  rw [← stepsSeparate_congr claimed, ← retire_agrees_iff, ← gaps, ← filtered, ← seen, ← retired]
  simp only [GapsAgree, observations, listed, List.forall_mem_map, WorkflowObservation.seen,
    decide_eq_true_eq]

end Gaps

/-! Two steps of one name, and an explicit check that replaces the first of them. -/

def twinSteps : String :=
  "jobs:\n  ci:\n    steps:\n      - run: a | check\n        name: x\n      - run: b | check\n        name: x\n"

def twinStep (run : String) : Yaml :=
  .mapping [(.string "run", .string run), (.string "name", .string "x")]

def twinDocument : Yaml :=
  .mapping [(.string "jobs", .mapping [(.string "ci", .mapping [(.string "steps",
    .sequence [twinStep "a | check", twinStep "b | check"])])])]

def twinConfig : String :=
  "version = 1\n[[checks]]\nid = \"a\"\nlabel = \"a\"\nkind = \"test\"\ncommand = [\"a\"]\n" ++
    "reason = \"a\"\nreplaces_workflow_steps = [\".github/workflows/c.yml#ci#x\"]\n"

def twinConfigDocument : ConfigDocument where
  version := 1
  disableChecks := none
  checks := some [{
    id := "a"
    label := "a"
    kind := .test
    command := ["a"]
    workingDirectory := none
    reason := "a"
    coveragePaths := none
    passEnvironment := none
    nonHermeticInputs := none
    replacesWorkflowSteps := some [".github/workflows/c.yml#ci#x"] }]

@[reducible] def twinPackages : Packages where
  config _ := .ok twinConfigDocument
  packageScripts _ := .ok none
  toml _ := .ok .other
  yaml _ := .ok twinDocument
  split _ := none
  glob _ := .ok ()
  globSet _ := .ok fun _ => false

def twinFile (path : String) : String :=
  if path = "/r/.taskattest.toml" then twinConfig else twinSteps

def twinWorkspace : Workspace where
  root := "/r"
  isFile path := path == "/r/.taskattest.toml"
  isDir _ := true
  length _ := .ok 200
  readToString path := .ok (twinFile path)
  read path := .ok (textBytes (twinFile path))
  readDir _ := .ok [.ok [99, 46, 121, 109, 108]]
  canonicalize _ := .ok "/r"

def cleanSource : SourceIdentity where
  gitCommit := none
  gitRef := none
  dirty := false
  statusSha256 := ""
  workspaceSha256 := ""
  workspaceFileCount := 0
  changedPaths := []

section Twins

attribute [local instance] standardSha2 twinPackages

private theorem twinReport_disagrees :
    ((discoverChecks twinWorkspace cleanSource false []).toOption.any fun report =>
      !decide (GapsAgree report)) = true := by
  decide +kernel

/-- The gap of the second step disappears with that of the first. -/
theorem twinSteps_lose_gap :
    ∃ report, discoverChecks twinWorkspace cleanSource false [] = .ok report ∧
      ¬GapsAgree report := by
  obtain ⟨report, found, lost⟩ := exists_ok_of_any twinReport_disagrees
  exact ⟨report, found, by simpa using lost⟩

theorem discoverChecks_gapsAgree_iff_twins :
    ∃ documents config configSource report,
      readConfiguration twinWorkspace = .ok (config, configSource) ∧
      workflowDocuments twinWorkspace = .ok documents ∧
      discoverChecks twinWorkspace cleanSource false [] = .ok report ∧
      (GapsAgree report ↔ StepsSeparate ((allSteps documents).filterMap RunStep.seen?)
        (config.checks.flatMap ConfiguredCheck.replacesWorkflowSteps)) := by
  obtain ⟨report, found, _⟩ := exists_ok_of_any twinReport_disagrees
  have parts := found
  simp only [discoverChecks, except_bind_ok_iff] at parts
  obtain ⟨⟨config, configSource⟩, configured, _, _, _, inspected, _⟩ := parts
  obtain ⟨documents, read, _⟩ := discoverWorkflows_ok inspected
  exact ⟨documents, config, configSource, report, configured, read, found,
    discoverChecks_gapsAgree_iff configured read found⟩

end Twins

end TaskAttest
