import TaskAttest.DiscoverProperties

/-! Selection: the same checks are found whichever of them are asked for, and the
gaps of paths are those that no selected check covers. -/

set_option autoImplicit false

namespace TaskAttest

open Program

/-! Coverage of a check -/

section Coverage

variable [Packages] {checks : List CheckDefinition} {ids : List String}

/-- The compiled coverage of a check matches the path. -/
def CheckDefinition.covers (check : CheckDefinition) (path : String) : Bool :=
  (compileCoverage check.coveragePaths).toOption.any fun isMatch => isMatch path

private theorem covers_of_compileCoverage {check : CheckDefinition} {isMatch : String → Bool}
    (compiled : compileCoverage check.coveragePaths = .ok isMatch) : check.covers = isMatch := by
  funext path
  simp [CheckDefinition.covers, compiled, Except.toOption]

/-- What validation of the checks establishes. -/
structure ValidChecks (checks : List CheckDefinition) (ids : List String) : Prop where
  valid : ∀ check ∈ checks, validCheckId check.id = true
  fresh : ∀ check ∈ checks, check.id ∉ ids
  distinct : (checks.map CheckDefinition.id).Nodup
  compiles : ∀ check ∈ checks, compileCoverage check.coveragePaths = .ok check.covers

private theorem validateChecks_ok (validated : validateChecks checks ids = .ok ()) :
    ValidChecks checks ids := by
  induction checks generalizing ids with
  | nil =>
      exact ⟨List.forall_mem_nil _, List.forall_mem_nil _, List.nodup_nil, List.forall_mem_nil _⟩
  | cons check rest ih =>
      rw [validateChecks] at validated
      cases valid : validCheckId check.id with
      | false =>
          rw [valid] at validated
          cases validated
      | true =>
          cases known : ids.contains check.id with
          | true =>
              rw [valid, known] at validated
              cases validated
          | false =>
              rw [valid, known] at validated
              obtain ⟨isMatch, compiled, others⟩ := except_bind_ok_iff.mp validated
              obtain ⟨restValid, restFresh, restDistinct, restCompiles⟩ := ih others
              have unknown : check.id ∉ ids := by simpa using known
              have unrepeated : check.id ∉ rest.map CheckDefinition.id := by
                intro member
                obtain ⟨other, included, same⟩ := List.mem_map.mp member
                exact restFresh other included (same ▸ List.mem_cons_self ..)
              refine ⟨List.forall_mem_cons.mpr ⟨valid, restValid⟩,
                List.forall_mem_cons.mpr ⟨unknown, fun other member => ?_⟩,
                List.nodup_cons.mpr ⟨unrepeated, restDistinct⟩,
                List.forall_mem_cons.mpr ⟨?_, restCompiles⟩⟩
              · exact fun included => restFresh other member (List.mem_cons_of_mem _ included)
              · rw [covers_of_compileCoverage compiled, compiled]

private theorem compileAll_eq
    (compiles : ∀ check ∈ checks, compileCoverage check.coveragePaths = .ok check.covers) :
    compileAll checks = .ok (checks.map CheckDefinition.covers) := by
  induction checks with
  | nil => rfl
  | cons check rest ih =>
      obtain ⟨compiled, others⟩ := List.forall_mem_cons.mp compiles
      rw [compileAll, compiled, ih others]
      rfl

end Coverage

/-! Which checks are selected -/

section Selection

variable {check : CheckDefinition} {isMatch : String → Bool} {changedPaths requested : List String}
  {changedOnly : Bool}

private theorem selectCheck_checkId :
    (selectCheck check isMatch changedPaths changedOnly requested).checkId = check.id := by
  unfold selectCheck
  split
  · rfl
  · split
    · rfl
    · split <;> rfl

private theorem selectCheck_of_requested (asked : requested ≠ []) :
    (selectCheck check isMatch changedPaths changedOnly requested).selected =
      requested.contains check.id := by
  have some_ : (!requested.isEmpty) = true := by simpa using asked
  rw [selectCheck, if_pos some_]

private theorem selectCheck_full :
    (selectCheck check isMatch changedPaths false []).selected = true := rfl

private theorem selectCheck_changed :
    (selectCheck check isMatch changedPaths true []).selected = true ↔
      changedPaths = [] ∨ ∃ path ∈ changedPaths, isMatch path = true := by
  cases changedPaths with
  | nil => simp [selectCheck]
  | cons first rest =>
      have taken : ((first :: rest).filter isMatch).take 3 = [] ↔
          ¬∃ path ∈ first :: rest, isMatch path = true := by
        rw [List.take_eq_nil_iff, List.filter_eq_nil_iff]
        simp
      simp only [selectCheck, List.isEmpty_nil, Bool.not_true, Bool.false_eq_true, if_false,
        List.isEmpty_cons, Bool.not_eq_true', List.isEmpty_eq_false_iff]
      rw [Ne, taken, not_not]
      simp

end Selection

section Gaps

variable [Packages] {source : SourceIdentity} {changedOnly : Bool} {requested : List String}
  {checks : List CheckDefinition}

/-- The selection of checks that are all matched by their own coverage. -/
def selectionOf (source : SourceIdentity) (changedOnly : Bool) (requested : List String)
    (checks : List CheckDefinition) : List CheckSelection :=
  checks.map fun check =>
    selectCheck check check.covers source.changedPaths changedOnly requested

/-- The gap of a path that no selected check covers. -/
def pathGap (path : String) : String := "no discovered check declares coverage for " ++ path

def undiscoveredGap : String := "no checks discovered; add a supported manifest or .taskattest.toml"

def unselectedGap : String := "no checks were selected"

private theorem zip_covers :
    ((checks.zip (checks.map CheckDefinition.covers)).map fun pair =>
      selectCheck pair.1 pair.2 source.changedPaths changedOnly requested) =
    selectionOf source changedOnly requested checks := by
  rw [List.zip_map_right, List.map_map, selectionOf]
  induction checks with
  | nil => rfl
  | cons check rest ih => rw [List.zip_cons_cons, List.map_cons, List.map_cons, ih]; rfl

private theorem covered_selectionOf {path : String} :
    covered (checks.map CheckDefinition.covers)
        (selectionOf source changedOnly requested checks) path = true ↔
      ∃ check ∈ checks,
        (selectCheck check check.covers source.changedPaths changedOnly requested).selected = true ∧
        check.covers path = true := by
  rw [covered, selectionOf, List.zip_map', List.any_map, List.any_eq_true]
  simp

private theorem mem_coverageGaps_iff {gap : String} :
    gap ∈ coverageGaps source.changedPaths checks (checks.map CheckDefinition.covers)
        (selectionOf source changedOnly requested checks) ↔
      (∃ path ∈ source.changedPaths, gap = pathGap path ∧ ∀ check ∈ checks,
        (selectCheck check check.covers source.changedPaths changedOnly requested).selected = true →
        check.covers path = false) ∨
      (checks = [] ∧ gap = undiscoveredGap) ∨
      (checks ≠ [] ∧ gap = unselectedGap ∧ ∀ check ∈ checks,
        (selectCheck check check.covers source.changedPaths changedOnly requested).selected =
          false) := by
  have uncovered : ∀ path, covered (checks.map CheckDefinition.covers)
        (selectionOf source changedOnly requested checks) path = false ↔
      ∀ check ∈ checks,
        (selectCheck check check.covers source.changedPaths changedOnly requested).selected = true →
        check.covers path = false := by
    intro path
    rw [← Bool.not_eq_true, covered_selectionOf]
    simp
  have unselected : ((selectionOf source changedOnly requested checks).any
        CheckSelection.selected) = false ↔
      ∀ check ∈ checks,
        (selectCheck check check.covers source.changedPaths changedOnly requested).selected =
          false := by
    simp [selectionOf, List.any_eq_false]
  rw [coverageGaps, mem_sortedSet, List.mem_append, List.mem_map]
  simp only [List.mem_filter, Bool.not_eq_true', uncovered]
  refine or_congr ?_ ?_
  · constructor
    · intro mapped
      obtain ⟨path, ⟨changed, missed⟩, rfl⟩ := mapped
      exact ⟨path, changed, rfl, missed⟩
    · intro listed
      obtain ⟨path, changed, rfl, missed⟩ := listed
      exact ⟨path, ⟨changed, missed⟩, rfl⟩
  · cases checks with
    | nil => simp [undiscoveredGap]
    | cons first rest =>
        rw [← unselected]
        cases (selectionOf source changedOnly requested (first :: rest)).any
          CheckSelection.selected <;> simp [unselectedGap]

end Gaps

/-! The gap texts are told apart by one of their letters. -/

private theorem pathGap_toList (path : String) :
    (pathGap path).toList = "no discovered check declares coverage for ".toList ++ path.toList :=
  String.toList_append

private theorem pathGap_ne_unselectedGap {path : String} : pathGap path ≠ unselectedGap := by
  intro same
  have letter := congrArg (fun text => text.toList[3]?) same
  simp only [pathGap_toList] at letter
  simp [unselectedGap] at letter

private theorem unselectedGap_ne_undiscoveredGap : unselectedGap ≠ undiscoveredGap := by
  decide +kernel

private theorem unmodeledGap_ne_unselectedGap {id : String} : unmodeledGap id ≠ unselectedGap := by
  intro same
  have letter := unmodeledGap_head id
  rw [same] at letter
  exact absurd letter (by decide +kernel)

private theorem unmodeledGap_ne_pathGap {id path : String} : unmodeledGap id ≠ pathGap path := by
  intro same
  have letter := unmodeledGap_head id
  have first : "no discovered check declares coverage for ".toList.head? = some 'n' := by
    decide +kernel
  rw [same, pathGap_toList, List.head?_append, first, Option.some_or] at letter
  exact absurd letter (by decide)

/-! What is the same in every report on a workspace -/

section Preparation

variable [Sha2] [Packages] {workspace : Workspace} {source : SourceIdentity} {changedOnly : Bool}
  {requestedChecks : List String} {report : DiscoveryReport} {checks : List CheckDefinition}
  {workflow : WorkflowDiscovery} {configSource : Option DiscoverySource}

/-- Discovery before anything is selected. -/
def prepareChecks (workspace : Workspace) :
    Except TaskError (List CheckDefinition × WorkflowDiscovery × Option DiscoverySource) := do
  let (config, configSource) ← readConfiguration workspace
  let languageChecks ← discoverLanguages workspace
  let (discovered, workflow) ← discoverWorkflows workspace languageChecks
  let explicit ← configuredChecks workspace configSource config.checks
  let checks := orderedChecks config discovered explicit
  validateChecks checks []
  let workflow ← applyWorkflowReplacements checks workflow
  return (checks, workflow, configSource)

private theorem discoverChecks_eq :
    discoverChecks workspace source changedOnly requestedChecks =
      prepareChecks workspace >>= fun prepared =>
        assembleReport source changedOnly requestedChecks prepared.1 prepared.2.1 prepared.2.2 := by
  simp only [discoverChecks, prepareChecks, bind_assoc, pure_bind]

omit [Sha2] [Packages] in
private theorem validateRequested_ok_iff {requested : List String} :
    validateRequested checks requested = .ok () ↔
      ∀ id ∈ requested, id ∈ checks.map CheckDefinition.id := by
  induction requested with
  | nil => simp [validateRequested]
  | cons id rest ih =>
      rw [validateRequested, List.forall_mem_cons, ← ih]
      cases found : checks.any fun check => check.id == id with
      | true =>
          have member : id ∈ checks.map CheckDefinition.id := by
            obtain ⟨check, listed, same⟩ := List.any_eq_true.mp found
            exact List.mem_map.mpr ⟨check, listed, beq_iff_eq.mp same⟩
          simp [member]
      | false =>
          have missing : id ∉ checks.map CheckDefinition.id := by
            intro member
            obtain ⟨check, listed, same⟩ := List.mem_map.mp member
            have different := List.any_eq_false.mp found check listed
            exact different (beq_iff_eq.mpr same)
          simp [missing, bind, Except.bind, throw, throwThe, MonadExceptOf.throw]

/-- The report that a selection makes of prepared checks. -/
def selectedReport (source : SourceIdentity) (changedOnly : Bool) (requested : List String)
    (checks : List CheckDefinition) (workflow : WorkflowDiscovery)
    (configSource : Option DiscoverySource) : DiscoveryReport where
  schemaVersion := discoverySchemaVersion
  source
  checks
  selection := selectionOf source changedOnly requested checks
  coverageGaps := sortedSet (coverageGaps source.changedPaths checks
    (checks.map CheckDefinition.covers) (selectionOf source changedOnly requested checks) ++
      workflow.coverageGaps)
  configurationFiles := configSource.toList ++ workflow.sources
  workflowObservations := workflow.observations

omit [Sha2] in
private theorem assembleReport_ok_iff
    (compiles : ∀ check ∈ checks, compileCoverage check.coveragePaths = .ok check.covers) :
    assembleReport source changedOnly requestedChecks checks workflow configSource = .ok report ↔
      (∀ id ∈ requestedChecks, id ∈ checks.map CheckDefinition.id) ∧
      report = selectedReport source changedOnly (sortedSet requestedChecks) checks workflow
        configSource := by
  simp only [assembleReport, except_bind_ok_iff, compileAll_eq compiles]
  constructor
  · intro prepared
    obtain ⟨_, validated, _, ⟨⟩, assembled⟩ := prepared
    rw [validateRequested_ok_iff] at validated
    refine ⟨fun id member => validated id (mem_sortedSet.mpr member), ?_⟩
    rw [← except_pure_ok_iff.mp assembled, selectedReport, zip_covers]
  · intro prepared
    obtain ⟨known, rfl⟩ := prepared
    refine ⟨(), validateRequested_ok_iff.mpr fun id member => known id (mem_sortedSet.mp member),
      _, rfl, ?_⟩
    rw [except_pure_ok_iff, selectedReport, zip_covers]

omit [Sha2] in
private theorem selectedChecks_selectedReport {requested : List String}
    (distinct : (checks.map CheckDefinition.id).Nodup) :
    selectedChecks (selectedReport source changedOnly requested checks workflow configSource) =
      checks.filter fun check =>
        (selectCheck check check.covers source.changedPaths changedOnly requested).selected := by
  rw [selectedChecks]
  apply List.filter_congr
  intro check member
  have entries : (selectionOf source changedOnly requested checks).map
      (fun selection => (selection.checkId, selection.selected)) =
      checks.map fun check => (check.id,
        (selectCheck check check.covers source.changedPaths changedOnly requested).selected) := by
    rw [selectionOf, List.map_map]
    apply List.map_congr_left
    intro check _
    rw [Function.comp_apply, selectCheck_checkId]
  have entry : (check.id,
      (selectCheck check check.covers source.changedPaths changedOnly requested).selected) ∈
      checks.map fun check => (check.id,
        (selectCheck check check.covers source.changedPaths changedOnly requested).selected) :=
    List.mem_map.mpr ⟨check, member, rfl⟩
  simp only [selectedReport, entries]
  rw [SortedMap.find?_ofList (by simpa [Function.comp_def] using distinct) entry, Option.getD_some]

/-- What holds of prepared checks. -/
structure Prepared (checks : List CheckDefinition) (workflow : WorkflowDiscovery) : Prop where
  ordered : (checks.map CheckDefinition.id).Pairwise (· < ·)
  compiles : ∀ check ∈ checks, compileCoverage check.coveragePaths = .ok check.covers
  gaps : ∀ gap ∈ workflow.coverageGaps, ∃ id, gap = unmodeledGap id

omit [Sha2] [Packages] in
private theorem orderedChecks_ordered {config : TaskAttestConfig}
    {discovered explicit : List CheckDefinition}
    (distinct : ((orderedChecks config discovered explicit).map CheckDefinition.id).Nodup) :
    ((orderedChecks config discovered explicit).map CheckDefinition.id).Pairwise (· < ·) := by
  have sorted : ((orderedChecks config discovered explicit).map CheckDefinition.id).Pairwise
      (· ≤ ·) := by
    rw [List.pairwise_map, orderedChecks]
    have : IsTrans CheckDefinition fun left right => left.id ≤ right.id :=
      ⟨fun _ _ _ => le_trans⟩
    have : Std.Total fun left right : CheckDefinition => left.id ≤ right.id :=
      ⟨fun left right => le_total left.id right.id⟩
    exact List.pairwise_insertionSort _ _
  exact (sorted.and distinct).imp fun both => lt_of_le_of_ne both.1 both.2

omit [Sha2] [Packages] in
theorem orderedChecks_default_perm : (orderedChecks .default checks []).Perm checks := by
  rw [orderedChecks, List.append_nil]
  refine (List.perm_insertionSort _ _).trans ?_
  exact List.Perm.of_eq (List.filter_eq_self.mpr fun check _ => rfl)

private theorem prepareChecks_ok
    (prepared : prepareChecks workspace = .ok (checks, workflow, configSource)) :
    Prepared checks workflow := by
  simp only [prepareChecks, except_bind_ok_iff, except_pure_ok_iff] at prepared
  obtain ⟨⟨config, source⟩, _, languageChecks, _, ⟨discovered, before⟩, inspected, explicit, _,
    ⟨⟩, validated, replacedWorkflow, applied, same⟩ := prepared
  obtain ⟨rfl, rfl, rfl⟩ := by simpa using same
  have valid := validateChecks_ok validated
  obtain ⟨documents, _, known⟩ := discoverWorkflows_ok inspected
  refine ⟨orderedChecks_ordered valid.distinct, valid.compiles, fun gap member => ?_⟩
  rw [(applyWorkflowReplacements_ok applied).2, known.gaps] at member
  have listed := List.mem_of_mem_filter member
  simp only [WorkflowDiscovery.empty, List.nil_append, unmodeledGaps, List.mem_map] at listed
  obtain ⟨step, _, rfl⟩ := listed
  exact ⟨step.id, rfl⟩

/-- A report is a selection of prepared checks, and every selection of them that
asks for nothing unknown is a report. -/
theorem discoverChecks_ok_iff :
    discoverChecks workspace source changedOnly requestedChecks = .ok report ↔
      ∃ checks workflow configSource,
        prepareChecks workspace = .ok (checks, workflow, configSource) ∧
        (∀ id ∈ requestedChecks, id ∈ checks.map CheckDefinition.id) ∧
        report = selectedReport source changedOnly (sortedSet requestedChecks) checks workflow
          configSource := by
  rw [discoverChecks_eq, except_bind_ok_iff]
  constructor
  · intro returned
    obtain ⟨⟨checks, workflow, configSource⟩, prepared, assembled⟩ := returned
    have compiles := (prepareChecks_ok prepared).compiles
    exact ⟨checks, workflow, configSource, prepared, (assembleReport_ok_iff compiles).mp assembled⟩
  · intro returned
    obtain ⟨checks, workflow, configSource, prepared, selected⟩ := returned
    have compiles := (prepareChecks_ok prepared).compiles
    exact ⟨_, prepared, (assembleReport_ok_iff compiles).mpr selected⟩

/-! The gaps of a report -/

omit [Sha2] in
private theorem mem_selectedReport_gaps {requested : List String} {gap : String} :
    gap ∈ (selectedReport source changedOnly requested checks workflow configSource).coverageGaps ↔
      gap ∈ coverageGaps source.changedPaths checks (checks.map CheckDefinition.covers)
          (selectionOf source changedOnly requested checks) ∨
        gap ∈ workflow.coverageGaps := by
  rw [selectedReport, mem_sortedSet, List.mem_append]

/-- No check covers a path that was changed. -/
def Missed (source : SourceIdentity) (checks : List CheckDefinition) : Prop :=
  checks ≠ [] ∧ source.changedPaths ≠ [] ∧
    ∀ check ∈ checks, ∀ path ∈ source.changedPaths, check.covers path = false

omit [Sha2] in
private theorem mem_fullReport_gaps {gap : String} :
    gap ∈ (selectedReport source false [] checks workflow configSource).coverageGaps ↔
      ((∃ path ∈ source.changedPaths, gap = pathGap path ∧
          ∀ check ∈ checks, check.covers path = false) ∨
        (checks = [] ∧ gap = undiscoveredGap)) ∨ gap ∈ workflow.coverageGaps := by
  rw [mem_selectedReport_gaps, mem_coverageGaps_iff]
  simp only [selectCheck_full, true_implies, Bool.true_eq_false]
  refine or_congr_left (or_congr_right ?_)
  constructor
  · intro cause
    rcases cause with undiscovered | ⟨some_, _, none_⟩
    · exact undiscovered
    · cases checks with
      | nil => exact absurd rfl some_
      | cons first _ => exact absurd (none_ first (List.mem_cons_self ..)) not_false
  · exact .inl

omit [Sha2] in
/-- A changed path that a check covers selects that check. -/
theorem mem_changedReport_gaps {gap : String} :
    gap ∈ (selectedReport source true [] checks workflow configSource).coverageGaps ↔
      gap ∈ (selectedReport source false [] checks workflow configSource).coverageGaps ∨
        (Missed source checks ∧ gap = unselectedGap) := by
  have uncovered : ∀ path ∈ source.changedPaths,
      (∀ check ∈ checks, (selectCheck check check.covers source.changedPaths true []).selected =
        true → check.covers path = false) ↔ ∀ check ∈ checks, check.covers path = false := by
    intro path changed
    constructor
    · intro missed check member
      by_contra matched
      have covering : check.covers path = true := by simpa using matched
      exact matched (missed check member (selectCheck_changed.mpr (.inr ⟨path, changed, covering⟩)))
    · exact fun missed check member _ => missed check member
  have unselected : (checks ≠ [] ∧ gap = unselectedGap ∧ ∀ check ∈ checks,
      (selectCheck check check.covers source.changedPaths true []).selected = false) ↔
      Missed source checks ∧ gap = unselectedGap := by
    simp only [← Bool.not_eq_true, selectCheck_changed, not_or, not_exists, not_and, Missed]
    constructor
    · intro cause
      obtain ⟨some_, text, none_⟩ := cause
      obtain ⟨first, member⟩ := List.exists_mem_of_ne_nil _ some_
      exact ⟨⟨some_, (none_ first member).1, fun check listed => (none_ check listed).2⟩, text⟩
    · intro cause
      obtain ⟨⟨some_, changed, missed⟩, text⟩ := cause
      exact ⟨some_, text, fun check listed => ⟨changed, missed check listed⟩⟩
  rw [mem_selectedReport_gaps, mem_coverageGaps_iff, mem_fullReport_gaps, unselected]
  have paths : (∃ path ∈ source.changedPaths, gap = pathGap path ∧ ∀ check ∈ checks,
      (selectCheck check check.covers source.changedPaths true []).selected = true →
        check.covers path = false) ↔
      ∃ path ∈ source.changedPaths, gap = pathGap path ∧
        ∀ check ∈ checks, check.covers path = false :=
    exists_congr fun path => and_congr_right fun changed => and_congr_right fun _ =>
      uncovered path changed
  rw [paths, ← or_assoc, or_right_comm]

omit [Sha2] in
private theorem unselectedGap_not_mem_fullReport (prepared : Prepared checks workflow) :
    unselectedGap ∉
      (selectedReport source false [] checks workflow configSource).coverageGaps := by
  rw [mem_fullReport_gaps]
  intro member
  rcases member with (⟨path, _, same, _⟩ | ⟨_, same⟩) | listed
  · exact pathGap_ne_unselectedGap same.symm
  · exact unselectedGap_ne_undiscoveredGap same
  · obtain ⟨id, same⟩ := prepared.gaps _ listed
    exact unmodeledGap_ne_unselectedGap same.symm

omit [Sha2] in
private theorem fullReport_gaps_eq (prepared : Prepared checks workflow) :
    (selectedReport source false [] checks workflow configSource).coverageGaps =
      (selectedReport source true [] checks workflow configSource).coverageGaps.filter
        (· ≠ unselectedGap) := by
  refine eq_of_mem_iff sortedSet_ordered (sortedSet_ordered.filter _) fun gap => ?_
  rw [List.mem_filter, decide_eq_true_eq, mem_changedReport_gaps]
  constructor
  · intro listed
    refine ⟨.inl listed, ?_⟩
    intro same
    subst same
    exact unselectedGap_not_mem_fullReport prepared listed
  · intro member
    obtain ⟨listed | ⟨_, same⟩, different⟩ := member
    · exact listed
    · exact absurd same different

omit [Sha2] in
/-- A path that no check of a larger request covers is covered by none of a smaller one. -/
theorem pathGap_of_subset {smaller larger : List String} {smallerChanged largerChanged : Bool}
    {path : String} (prepared : Prepared checks workflow) (some_ : smaller ≠ [])
    (subset : smaller ⊆ larger) (known : larger ⊆ checks.map CheckDefinition.id)
    (listed : pathGap path ∈
      (selectedReport source largerChanged larger checks workflow configSource).coverageGaps) :
    pathGap path ∈
      (selectedReport source smallerChanged smaller checks workflow configSource).coverageGaps := by
  have more : larger ≠ [] := fun none_ => some_ (List.subset_nil.mp (none_ ▸ subset))
  rw [mem_selectedReport_gaps, mem_coverageGaps_iff] at listed ⊢
  simp only [selectCheck_of_requested more, selectCheck_of_requested some_,
    List.contains_iff_mem] at listed ⊢
  cases listed with
  | inl selection =>
      rcases selection with ⟨other, changed, same, missed⟩ | ⟨none_, _⟩ | ⟨_, same, _⟩
      · exact .inl (.inl ⟨other, changed, same, fun check member asked =>
          missed check member (subset asked)⟩)
      · rw [none_] at known
        exact absurd (List.subset_nil.mp known) more
      · exact absurd same pathGap_ne_unselectedGap
  | inr workflowGap =>
      obtain ⟨id, same⟩ := prepared.gaps _ workflowGap
      exact absurd same.symm unmodeledGap_ne_pathGap

/-! Two reports on one workspace -/

/-- Restricting selection to changed paths loses nothing. Both reports list the same
checks, those that cover no changed path are the ones left out, and the gaps differ
only in whether nothing was selected. Of explicit requests, the larger one leaves
no path uncovered that the smaller one covers, and each selects what it names. -/
theorem changedSelection_lossless
    (found : discoverChecks workspace source changedOnly [] = .ok report) :
    ∃ full changed, discoverChecks workspace source false [] = .ok full ∧
      discoverChecks workspace source true [] = .ok changed ∧
      changed.checks = full.checks ∧
      List.Forall₂ (fun check selection => selection.checkId = check.id ∧
          (selection.selected = true ↔
            source.changedPaths = [] ∨ ∃ path ∈ source.changedPaths, check.covers path = true))
        changed.checks changed.selection ∧
      full.coverageGaps = changed.coverageGaps.filter (· ≠ unselectedGap) ∧
      (unselectedGap ∈ changed.coverageGaps ↔ full.checks ≠ [] ∧ source.changedPaths ≠ [] ∧
        ∀ check ∈ full.checks, ∀ path ∈ source.changedPaths, check.covers path = false) ∧
      ∀ (smaller larger : List String) (smallerChanged largerChanged : Bool),
        smaller ≠ [] → smaller ⊆ larger → larger ⊆ full.checks.map CheckDefinition.id →
        ∃ smallerReport largerReport,
          discoverChecks workspace source smallerChanged smaller = .ok smallerReport ∧
          discoverChecks workspace source largerChanged larger = .ok largerReport ∧
          (∀ path, pathGap path ∈ largerReport.coverageGaps →
            pathGap path ∈ smallerReport.coverageGaps) ∧
          selectedChecks smallerReport =
            full.checks.filter (fun check => smaller.contains check.id) ∧
          ((selectedChecks smallerReport).map CheckDefinition.id).Pairwise (· < ·) := by
  obtain ⟨checks, workflow, configSource, ready, _, rfl⟩ := discoverChecks_ok_iff.mp found
  have prepared := prepareChecks_ok ready
  have reported : ∀ (changedOnly : Bool) (requested : List String),
      requested ⊆ checks.map CheckDefinition.id →
      discoverChecks workspace source changedOnly requested =
        .ok (selectedReport source changedOnly (sortedSet requested) checks workflow
          configSource) :=
    fun _ _ known => discoverChecks_ok_iff.mpr ⟨_, _, _, ready, known, rfl⟩
  refine ⟨_, _, reported false [] (List.nil_subset _), reported true [] (List.nil_subset _), rfl,
    ?_, fullReport_gaps_eq prepared, ?_, ?_⟩
  · rw [selectedReport, selectionOf, List.forall₂_map_right_iff, List.forall₂_same]
    exact fun check _ => ⟨selectCheck_checkId, selectCheck_changed⟩
  · refine mem_changedReport_gaps.trans ⟨?_, fun missed => .inr ⟨missed, rfl⟩⟩
    intro cause
    rcases cause with listed | ⟨missed, _⟩
    · exact absurd listed (unselectedGap_not_mem_fullReport prepared)
    · exact missed
  · intro smaller larger smallerChanged largerChanged some_ subset known
    have someSet : sortedSet smaller ≠ [] := by
      obtain ⟨id, member⟩ := List.exists_mem_of_ne_nil _ some_
      exact List.ne_nil_of_mem (mem_sortedSet.mpr member)
    have selected : selectedChecks (selectedReport source smallerChanged (sortedSet smaller) checks
        workflow configSource) = checks.filter fun check => smaller.contains check.id := by
      rw [selectedChecks_selectedReport (prepared.ordered.imp LT.lt.ne)]
      apply List.filter_congr
      intro check _
      rw [selectCheck_of_requested someSet, Bool.eq_iff_iff]
      simp
    refine ⟨_, _, reported _ _ (List.Subset.trans subset known), reported _ _ known, ?_,
      selected, ?_⟩
    · intro path
      refine pathGap_of_subset prepared someSet ?_ ?_
      · exact fun id member => mem_sortedSet.mpr (subset (mem_sortedSet.mp member))
      · exact fun id member => known (mem_sortedSet.mp member)
    · rw [selected]
      exact prepared.ordered.sublist (List.filter_sublist.map _)

end Preparation

/-! Two configured checks, each of which covers one file -/

def pairCheck (id covered : String) : CheckDocument where
  id
  label := id
  kind := .test
  command := [id]
  workingDirectory := none
  reason := id
  coveragePaths := some [covered]
  passEnvironment := none
  nonHermeticInputs := none
  replacesWorkflowSteps := none

/-- Patterns without special characters match themselves. -/
@[reducible] def pairPackages : Packages where
  config _ := .ok ⟨1, none, some [pairCheck "a" "a.rs", pairCheck "b" "b.rs"]⟩
  packageScripts _ := .ok none
  toml _ := .ok .other
  yaml _ := .ok (.mapping [])
  split _ := none
  glob _ := .ok ()
  globSet patterns := .ok patterns.contains

def pairWorkspace : Workspace := { twinWorkspace with readDir := fun _ => .ok [] }

def pairSource : SourceIdentity :=
  { cleanSource with dirty := true, changedPaths := ["a.rs", "c.rs"] }

section Pair

attribute [local instance] standardSha2 pairPackages

/-- The check that covers no changed path is left out, and a request for both checks leaves
fewer paths uncovered than one for this check. -/
theorem changedSelection_lossless_pair :
    ∃ full changed smaller larger,
      discoverChecks pairWorkspace pairSource false [] = .ok full ∧
      discoverChecks pairWorkspace pairSource true [] = .ok changed ∧
      discoverChecks pairWorkspace pairSource false ["b"] = .ok smaller ∧
      discoverChecks pairWorkspace pairSource false ["b", "a"] = .ok larger ∧
      changed.selection.map CheckSelection.selected = [true, false] ∧
      full.coverageGaps = changed.coverageGaps.filter (· ≠ unselectedGap) ∧
      smaller.coverageGaps = [pathGap "a.rs", pathGap "c.rs"] ∧
      larger.coverageGaps = [pathGap "c.rs"] ∧
      (∀ path, pathGap path ∈ larger.coverageGaps → pathGap path ∈ smaller.coverageGaps) ∧
      selectedChecks smaller = full.checks.filter (fun check => ["b"].contains check.id) := by
  have succeeds : ((discoverChecks pairWorkspace pairSource true []).toOption.any fun report =>
      report.checks.map CheckDefinition.id == ["a", "b"] &&
        report.selection.map CheckSelection.selected == [true, false]) = true := by
    decide +kernel
  have uncovered : ((discoverChecks pairWorkspace pairSource false ["b"]).toOption.any fun report =>
      report.coverageGaps == [pathGap "a.rs", pathGap "c.rs"]) = true := by
    decide +kernel
  have covered : ((discoverChecks pairWorkspace pairSource false
      ["b", "a"]).toOption.any fun report => report.coverageGaps == [pathGap "c.rs"]) = true := by
    decide +kernel
  obtain ⟨report, found, facts⟩ := exists_ok_of_any succeeds
  obtain ⟨ids, selections⟩ := Bool.and_eq_true_iff.mp facts
  obtain ⟨one, foundOne, oneGaps⟩ := exists_ok_of_any uncovered
  obtain ⟨both, foundBoth, bothGaps⟩ := exists_ok_of_any covered
  obtain ⟨full, changed, foundFull, foundChanged, same, _, gaps, _, requests⟩ :=
    changedSelection_lossless found
  obtain rfl : report = changed := Except.ok.inj (found.symm.trans foundChanged)
  have known : ["b", "a"] ⊆ full.checks.map CheckDefinition.id := by
    rw [← same, beq_iff_eq.mp ids]
    decide
  obtain ⟨smaller, larger, foundSmaller, foundLarger, fewer, selected, _⟩ :=
    requests ["b"] ["b", "a"] false false (List.cons_ne_nil _ _) (by decide) known
  obtain rfl : one = smaller := Except.ok.inj (foundOne.symm.trans foundSmaller)
  obtain rfl : both = larger := Except.ok.inj (foundBoth.symm.trans foundLarger)
  exact ⟨full, report, one, both, foundFull, found, foundOne, foundBoth, beq_iff_eq.mp selections,
    gaps, beq_iff_eq.mp oneGaps, beq_iff_eq.mp bothGaps, fewer, selected⟩

end Pair

end TaskAttest
