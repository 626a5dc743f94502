import TaskAttest.SelectionProperties
import TaskAttest.WorkflowCheckProperties

/-! Are the identifiers of the checks that discovery finds distinct and valid? -/

set_option autoImplicit false

namespace TaskAttest

open Program

/-! Identifiers of workflow checks -/

theorem textBytes_append (left right : String) :
    textBytes (left ++ right) = textBytes left ++ textBytes right := by
  rw [textBytes, String.toList_append, utf8_append]
  rfl

private theorem checkKindId_bytes (kind : CheckKind) :
    (textBytes (checkKindId kind)).length ≤ 9 ∧
      (textBytes (checkKindId kind)).all isCheckIdByte = true := by
  cases kind <;> decide

theorem isCheckIdByte_of_isLowerHexByte {byte : UInt8} (lower : isLowerHexByte byte = true) :
    isCheckIdByte byte = true := by
  simp only [isLowerHexByte, isCheckIdByte, Bool.or_eq_true, Bool.and_eq_true,
    decide_eq_true_eq] at lower ⊢
  omega

private theorem checkKindId_noHyphen (kind : CheckKind) :
    ∀ character ∈ (checkKindId kind).toList, (character ≠ '-') := by
  cases kind <;> simp [checkKindId]

section Identifiers

variable [Sha2]

private theorem validCheckId_workflowCheckId (kind : CheckKind) (run : String) :
    validCheckId (workflowCheckId kind run) = true := by
  have lower := isLowerHex_slice_sha256Bytes (textBytes run) (by decide : 8 ≤ 64)
  simp only [isLowerHex, Bool.and_eq_true, beq_iff_eq, List.all_eq_true] at lower
  obtain ⟨kindLength, kindBytes⟩ := checkKindId_bytes kind
  have start : textBytes "ci-" = [99, 105, 45] := by decide
  have separator : textBytes "-" = [45] := by decide
  simp only [validCheckId, workflowCheckId, textBytes_append, start, separator,
    Bool.and_eq_true, decide_eq_true_eq, List.length_append, List.all_append]
  refine ⟨⟨⟨?_, ?_⟩, ⟨⟨?_, ?_⟩, ?_⟩, ?_⟩, ?_⟩
  · rw [lower.1]
    omega
  · simp only [lower.1, List.length_cons, List.length_nil]
    omega
  · decide
  · rw [List.all_eq_true] at kindBytes ⊢
    intro byte member
    simp [kindBytes byte member]
  · decide
  · rw [List.all_eq_true]
    intro byte member
    simp [isCheckIdByte_of_isLowerHexByte (lower.2 byte member)]
  · rfl

/-- The first eight digits of the digest of a command line. -/
def runPrefix (run : String) : String := sliceTo (sha256Bytes (textBytes run)) 8

/-- The kind's text has no hyphen, so the prefix can be read off an identifier. -/
theorem runPrefix_of_workflowCheckId {left right : CheckKind} {leftRun rightRun : String}
    (same : workflowCheckId left leftRun = workflowCheckId right rightRun) :
    runPrefix leftRun = runPrefix rightRun := by
  have split : ∀ kind run, (workflowCheckId kind run).toList.drop 3 =
      (checkKindId kind).toList ++ '-' :: (runPrefix run).toList := by
    intro kind run
    simp [workflowCheckId, runPrefix, String.toList_append]
  have texts := congrArg (fun text => text.toList.drop 3) same
  simp only [split] at texts
  have hyphens := congrArg (List.dropWhile (· ≠ '-')) texts
  have passes : ∀ kind, ∀ character ∈ (checkKindId kind).toList,
      decide (character ≠ '-') = true :=
    fun kind character member => decide_eq_true (checkKindId_noHyphen kind character member)
  rw [List.dropWhile_append_of_pos (passes left), List.dropWhile_append_of_pos (passes right)]
    at hyphens
  exact String.toList_injective (by simpa using hyphens)

end Identifiers

/-! New steps -/

section NewSteps

variable [Sha2] [Packages] {known : List CommandSpec} {steps : List RunStep} {step : RunStep}

omit [Sha2] in
private theorem mem_newSteps (member : step ∈ newSteps known steps) :
    step ∈ steps ∧ step.command.isSome = true := by
  induction steps generalizing known with
  | nil => cases member
  | cons first rest ih =>
      cases parsed : first.command with
      | none =>
          rw [newSteps_of_none parsed] at member
          obtain ⟨listed, safe⟩ := ih member
          exact ⟨List.mem_cons_of_mem _ listed, safe⟩
      | some found =>
          obtain ⟨kind, command⟩ := found
          by_cases repeated : command ∈ known
          · rw [newSteps_of_known parsed repeated] at member
            obtain ⟨listed, safe⟩ := ih member
            exact ⟨List.mem_cons_of_mem _ listed, safe⟩
          · rw [newSteps_of_new parsed repeated] at member
            cases List.mem_cons.mp member with
            | inl same =>
                subst same
                exact ⟨List.mem_cons_self .., by rw [parsed, Option.isSome_some]⟩
            | inr later =>
                obtain ⟨listed, safe⟩ := ih later
                exact ⟨List.mem_cons_of_mem _ listed, safe⟩

/-- The identifier of the check that a new step becomes. -/
def RunStep.newId (step : RunStep) : String :=
  workflowCheckId ((step.command.map Prod.fst).getD .custom) step.run

private theorem newSteps_ids :
    ((newSteps known steps).filterMap RunStep.entry?).map Prod.fst =
      (newSteps known steps).map RunStep.newId := by
  rw [List.map_filterMap]
  rw [← List.filterMap_eq_map]
  apply List.filterMap_congr
  intro step member
  obtain ⟨found, parsed⟩ := Option.isSome_iff_exists.mp (mem_newSteps member).2
  rw [RunStep.entry?_of_command parsed]
  simp [RunStep.newId, parsed]

omit [Sha2] in
/-- Steps that run the same command line are of the same kind. -/
theorem command_kind_eq {other : RunStep} (same : step.run = other.run)
    (safe : step.command.isSome = true) (otherSafe : other.command.isSome = true) :
    step.command.map Prod.fst = other.command.map Prod.fst := by
  obtain ⟨⟨kind, command⟩, parsed⟩ := Option.isSome_iff_exists.mp safe
  obtain ⟨⟨otherKind, otherCommand⟩, otherParsed⟩ := Option.isSome_iff_exists.mp otherSafe
  obtain ⟨_, _, _, words, foundKind, _⟩ := safeWorkflowCommand_some parsed
  obtain ⟨_, _, _, otherWords, otherFoundKind, _⟩ := safeWorkflowCommand_some otherParsed
  rw [← same, words, Option.some.injEq] at otherWords
  rw [otherWords, otherFoundKind, Option.some.injEq] at foundKind
  rw [parsed, otherParsed, Option.map_some, Option.map_some, (Prod.mk.inj foundKind).1]

/-- Different command lines of the steps have different prefixes. -/
def PrefixesSeparate (steps : List RunStep) : Prop :=
  ∀ step ∈ steps, ∀ other ∈ steps, runPrefix step.run = runPrefix other.run →
    step.run = other.run

private theorem newSteps_ids_nodup_iff (separate : PrefixesSeparate steps) :
    ((newSteps known steps).map RunStep.newId).Nodup ↔
      ((newSteps known steps).map RunStep.run).Nodup := by
  have same : ∀ step ∈ newSteps known steps, ∀ other ∈ newSteps known steps,
      (step.newId = other.newId ↔ step.run = other.run) := by
    intro step member other otherMember
    obtain ⟨listed, safe⟩ := mem_newSteps member
    obtain ⟨otherListed, otherSafe⟩ := mem_newSteps otherMember
    constructor
    · intro ids
      exact separate step listed other otherListed (runPrefix_of_workflowCheckId ids)
    · intro runs
      rw [RunStep.newId, RunStep.newId, runs, command_kind_eq runs safe otherSafe]
  simp only [List.Nodup, List.pairwise_map]
  exact List.Pairwise.iff_of_mem fun member otherMember =>
    not_congr (same _ member _ otherMember)

end NewSteps

/-! All checks -/

section Checks

variable [Sha2] [Packages] {workspace : Workspace} {checks : List CheckDefinition}
  {after : Inspection}

/-- The identifiers are valid and no two are the same. -/
structure IdsAccepted (checks : List CheckDefinition) : Prop where
  distinct : (checks.map CheckDefinition.id).Nodup
  valid : ∀ check ∈ checks, validCheckId check.id = true

omit [Sha2] in
/-- Then only coverage patterns are left to be rejected. -/
theorem validateChecks_error {ids : List String} {error : TaskError}
    (accepted : IdsAccepted checks) (fresh : ∀ check ∈ checks, check.id ∉ ids)
    (rejected : validateChecks checks ids = .error error) :
    ∃ check ∈ checks, compileCoverage check.coveragePaths = .error error := by
  induction checks generalizing ids with
  | nil => cases rejected
  | cons check rest ih =>
      obtain ⟨distinct, valid⟩ := accepted
      obtain ⟨unrepeated, restDistinct⟩ := List.nodup_cons.mp distinct
      obtain ⟨checkValid, restValid⟩ := List.forall_mem_cons.mp valid
      obtain ⟨unknown, restFresh⟩ := List.forall_mem_cons.mp fresh
      have absent : ids.contains check.id = false := by simpa using unknown
      rw [validateChecks, checkValid, absent] at rejected
      cases compiled : compileCoverage check.coveragePaths with
      | error fault =>
          rw [compiled] at rejected
          cases rejected
          exact ⟨check, List.mem_cons_self .., compiled⟩
      | ok isMatch =>
          rw [compiled] at rejected
          have stillFresh : ∀ other ∈ rest, other.id ∉ check.id :: ids := by
            intro other member included
            cases List.mem_cons.mp included with
            | inl same => exact unrepeated (List.mem_map.mpr ⟨other, member, same⟩)
            | inr old => exact restFresh other member old
          obtain ⟨other, member, failed⟩ := ih ⟨restDistinct, restValid⟩ stillFresh rejected
          exact ⟨other, List.mem_cons_of_mem _ member, failed⟩

omit [Sha2] [Packages] in
private theorem IdsAccepted.perm {others : List CheckDefinition} (accepted : IdsAccepted checks)
    (permuted : others.Perm checks) : IdsAccepted others where
  distinct := (permuted.map _).nodup_iff.mpr accepted.distinct
  valid check member := accepted.valid check (permuted.mem_iff.mp member)

/-- The identifiers after the steps have been inspected, in order. -/
theorem ids_of_discovered {steps : List RunStep} {before : Inspection}
    (known : Discovered steps before after) :
    after.1.map CheckDefinition.id = before.1.map CheckDefinition.id ++
      (newSteps (before.1.map CheckDefinition.command) steps).map RunStep.newId := by
  have ids : ∀ checks : List CheckDefinition,
      checks.map CheckDefinition.id = (checks.map CheckDefinition.entry).map Prod.fst := by
    intro checks
    rw [List.map_map]
    rfl
  rw [ids, known.entries, List.map_append, newSteps_ids, ← ids]

/-- Workflows bring no clashing identifiers when, and only when, no two steps that
bring a command of their own run the same command line. -/
theorem discoverWorkflows_idsAccepted_iff {documents : List WorkflowDocument}
    (accepted : IdsAccepted checks)
    (unreserved : ∀ check ∈ checks, ¬"ci-".toList <+: check.id.toList)
    (read : workflowDocuments workspace = .ok documents)
    (separate : PrefixesSeparate (allSteps documents))
    (found : discoverWorkflows workspace checks = .ok after) :
    (IdsAccepted after.1 ↔
      ((newSteps (checks.map CheckDefinition.command) (allSteps documents)).map
        RunStep.run).Nodup) ∧
    (IdsAccepted after.1 → ∀ error,
      validateChecks (orderedChecks .default after.1 []) [] = .error error →
      ∃ check ∈ after.1, compileCoverage check.coveragePaths = .error error) := by
  obtain ⟨others, readAgain, known⟩ := discoverWorkflows_discovered found
  obtain rfl : documents = others := Except.ok.inj (read.symm.trans readAgain)
  have ids := ids_of_discovered known
  constructor
  · rw [← newSteps_ids_nodup_iff separate]
    constructor
    · intro afterAccepted
      have distinct := afterAccepted.distinct
      rw [ids] at distinct
      exact distinct.of_append_right
    · intro newDistinct
      constructor
      · rw [ids]
        refine List.Nodup.append accepted.distinct newDistinct ?_
        intro id old new
        obtain ⟨check, member, rfl⟩ := List.mem_map.mp old
        obtain ⟨step, _, same⟩ := List.mem_map.mp new
        refine unreserved check member ?_
        rw [← same, RunStep.newId, workflowCheckId, String.toList_append, String.toList_append,
          String.toList_append, List.append_assoc, List.append_assoc]
        exact List.prefix_append _ _
      · intro check member
        have listed : check.id ∈ after.1.map CheckDefinition.id := List.mem_map_of_mem member
        rw [ids, List.mem_append] at listed
        cases listed with
        | inl old =>
            obtain ⟨before, included, same⟩ := List.mem_map.mp old
            exact same ▸ accepted.valid before included
        | inr new =>
            obtain ⟨step, _, same⟩ := List.mem_map.mp new
            exact same ▸ validCheckId_workflowCheckId _ _
  · intro afterAccepted error rejected
    obtain ⟨check, member, failed⟩ := validateChecks_error
      (afterAccepted.perm orderedChecks_default_perm) (fun _ _ => List.not_mem_nil) rejected
    exact ⟨check, orderedChecks_default_perm.mem_iff.mp member, failed⟩

end Checks

/-! Two steps run one command line in two directories. -/

def clashingSteps : String :=
  "jobs:\n  ci:\n    steps:\n      - run: go test\n        working-directory: a\n" ++
    "      - run: go test\n        working-directory: b\n"

def clashingWorkspace : Workspace :=
  storedWorkspace [("/r/.github/workflows/c.yml", clashingSteps)] [textBytes "c.yml"]

@[reducible] def clashingPackages : Packages where
  config _ := .error "missing field"
  packageScripts _ := .ok none
  toml _ := .ok .other
  yaml _ := .ok (jobDocument [[("run", "go test"), ("working-directory", "a")],
    [("run", "go test"), ("working-directory", "b")]])
  split _ := some ["go", "test"]
  glob _ := .ok ()
  globSet _ := .ok fun _ => false

def failureMessage? {Value : Type} : Except TaskError Value → Option String
  | .error error => some error.message
  | .ok _ => none

section Clashing

attribute [local instance] standardSha2 clashingPackages

instance (steps : List RunStep) : Decidable (PrefixesSeparate steps) :=
  inferInstanceAs (Decidable (∀ step ∈ steps, ∀ other ∈ steps, _ → _))

private theorem clashingSteps_clash :
    ((discoverWorkflows clashingWorkspace []).toOption.any fun after =>
      !decide (after.1.map CheckDefinition.id).Nodup) = true := by
  decide +kernel

private theorem clashingSteps_separate :
    ((workflowDocuments clashingWorkspace).toOption.any fun documents =>
      decide (PrefixesSeparate (allSteps documents))) = true := by
  decide +kernel

/-- Both steps become a check, and discovery fails because the two have one identifier. -/
theorem clashingSteps_share_id :
    ∃ documents after error, workflowDocuments clashingWorkspace = .ok documents ∧
      PrefixesSeparate (allSteps documents) ∧
      discoverWorkflows clashingWorkspace [] = .ok after ∧ ¬IdsAccepted after.1 ∧
      discoverChecks clashingWorkspace cleanSource false [] = .error error ∧
      "duplicate check id: ".toList <+: error.message.toList := by
  have fails : ((failureMessage? (discoverChecks clashingWorkspace cleanSource false [])).any
      fun message => "duplicate check id: ".toList.isPrefixOf message.toList) = true := by
    decide +kernel
  cases rejected : discoverChecks clashingWorkspace cleanSource false [] with
  | ok report =>
      rw [rejected] at fails
      cases fails
  | error error =>
      rw [rejected] at fails
      obtain ⟨after, found, clash⟩ := exists_ok_of_any clashingSteps_clash
      obtain ⟨documents, read, separate⟩ := exists_ok_of_any clashingSteps_separate
      refine ⟨documents, after, error, read, of_decide_eq_true separate, found, ?_, rfl,
        List.isPrefixOf_iff_prefix.mp fails⟩
      intro accepted
      simp [accepted.distinct] at clash

theorem discoverWorkflows_idsAccepted_iff_clashing :
    ∃ documents after, workflowDocuments clashingWorkspace = .ok documents ∧
      discoverWorkflows clashingWorkspace [] = .ok after ∧
      (IdsAccepted after.1 ↔ ((newSteps [] (allSteps documents)).map RunStep.run).Nodup) := by
  obtain ⟨after, found, _⟩ := exists_ok_of_any clashingSteps_clash
  obtain ⟨documents, read, separate⟩ := exists_ok_of_any clashingSteps_separate
  exact ⟨documents, after, read, found, (discoverWorkflows_idsAccepted_iff
    (⟨List.nodup_nil, List.forall_mem_nil _⟩ : IdsAccepted []) (List.forall_mem_nil _) read
    (of_decide_eq_true separate) found).1⟩

end Clashing

end TaskAttest
