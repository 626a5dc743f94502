import TaskAttest.Library.Program
import TaskAttest.ReceiptBindingProperties

/-! When verification comes to a verdict, and what the verdict reports of the log
references of a receipt. -/

set_option autoImplicit false

namespace TaskAttest

open Json Program

/-- Every file of the store that a log reference can name can be read. -/
def StateStore.Readable (store : StateStore) (disk : Disk) : Prop :=
  ∀ digest content failure, disk.lookup (store.blobTarget digest) = some (.file content failure) →
    failure = none

/-- A reference in the form in which the store hands it out. -/
def LogReference.WellFormed (reference : LogReference) : Prop :=
  reference.algorithm = "sha256" ∧ reference.handle = "sha256:" ++ reference.digest ∧
    isLowerHex 64 reference.digest = true

private theorem invalidReference_iff {reference : LogReference} :
    invalidReference reference = true ↔ ¬reference.WellFormed := by
  rw [← Bool.not_eq_false, not_iff_not]
  simp only [invalidReference, validateSha256_isOk, Bool.or_eq_false_iff, bne_eq_false_iff_eq,
    Bool.not_eq_false', and_assoc, LogReference.WellFormed]

section Blobs

variable [Sha2] {store : StateStore} {disk : Disk} {reference : LogReference}

/-- A missing and a differing blob are named by the handle that refers to them. -/
structure BlobReported (store : StateStore) (disk : Disk) (reference : LogReference)
    (problems : List String) : Prop where
  missing : disk.isFile (store.blobTarget reference.digest) = false →
    "referenced log blob is missing: " ++ reference.handle ∈ problems
  differing : disk.isFile (store.blobTarget reference.digest) = true →
    ¬disk.HasBlob (store.blobTarget reference.digest) reference.digest reference.bytes →
    "referenced log blob does not match: " ++ reference.handle ∈ problems

theorem BlobReported.mono {problems others : List String}
    (reported : BlobReported store disk reference problems) (included : problems ⊆ others) :
    BlobReported store disk reference others where
  missing absent := included (reported.missing absent)
  differing present differs := included (reported.differing present differs)

private theorem verifyBlob_reports (readable : store.Readable disk)
    (wellFormed : isLowerHex 64 reference.digest = true) :
    ∃ verification, verifyBlob reference store disk = .ok verification ∧
      BlobReported store disk reference (blobProblems reference verification) := by
  have validated := validateSha256_eq_ok_iff.mpr wellFormed
  simp only [verifyBlob, StateStore.blobPath, validated, bind, Except.bind, pure, Except.pure]
  cases present : disk.isFile (store.blobTarget reference.digest) with
  | false =>
      refine ⟨_, rfl, ?_, ?_⟩
      · intro _
        exact List.mem_singleton_self _
      · intro found
        rw [present] at found
        cases found
  | true =>
      cases found : disk.lookup (store.blobTarget reference.digest) with
      | none => simp [Disk.isFile, found] at present
      | some entry =>
          cases entry with
          | directory => simp [Disk.isFile, found, Entry.isFile] at present
          | file content failure =>
              obtain rfl := readable _ _ _ found
              have hashed : sha256Path disk (store.blobTarget reference.digest) =
                  .ok (sha256Bytes content) := sha256Path_eq_ok_iff.mpr ⟨content, found, rfl⟩
              simp only [Bool.not_true, Bool.false_eq_true, if_false, Disk.metadata, found,
                Entry.length]
              by_cases sized : content.length = reference.bytes.toNat
              · simp only [sized, if_true, hashed, Except.map]
                refine ⟨_, rfl, ?_, ?_⟩
                · intro absent
                  rw [present] at absent
                  cases absent
                · intro _ differs
                  have unlike : (sha256Bytes content == reference.digest) = false := by
                    rw [beq_eq_false_iff_ne]
                    intro same
                    exact differs ⟨content, found, same, sized⟩
                  simp [blobProblems, unlike]
              · simp only [sized, if_false]
                refine ⟨_, rfl, ?_, ?_⟩
                · intro absent
                  rw [present] at absent
                  cases absent
                · intro _ _
                  exact List.mem_singleton_self _

/-- A reference that is resolved has a digest that names a blob. -/
theorem isLowerHex_of_verifyBlob {verification : BlobVerification}
    (verified : verifyBlob reference store disk = .ok verification) :
    isLowerHex 64 reference.digest = true := by
  simp only [verifyBlob, StateStore.blobPath, except_bind_ok_iff] at verified
  obtain ⟨_, ⟨_, validated, _⟩, _⟩ := verified
  exact validateSha256_eq_ok_iff.mp validated

private theorem verifyBlobs_reports (readable : store.Readable disk)
    {references : List LogReference}
    (wellFormed : ∀ reference ∈ references, isLowerHex 64 reference.digest = true) :
    ∃ verifications problems, verifyBlobs store disk references = .ok (verifications, problems) ∧
      ∀ reference ∈ references, BlobReported store disk reference problems := by
  induction references with
  | nil => exact ⟨[], [], rfl, List.forall_mem_nil _⟩
  | cons first rest ih =>
      obtain ⟨firstFormed, restFormed⟩ := List.forall_mem_cons.mp wellFormed
      obtain ⟨verification, verified, firstReported⟩ := verifyBlob_reports readable firstFormed
      obtain ⟨others, problems, verifiedOthers, restReported⟩ := ih restFormed
      refine ⟨verification :: others, blobProblems first verification ++ problems, ?_, ?_⟩
      · rw [verifyBlobs, verified, verifiedOthers]
        rfl
      · rw [List.forall_mem_cons]
        constructor
        · exact firstReported.mono (List.subset_append_left ..)
        · intro reference member
          exact (restReported reference member).mono (List.subset_append_right ..)

private theorem isLowerHex_of_verifyBlobs {references : List LogReference}
    {result : List BlobVerification × List String}
    (verified : verifyBlobs store disk references = .ok result) :
    ∀ reference ∈ references, isLowerHex 64 reference.digest = true := by
  induction references generalizing result with
  | nil => exact List.forall_mem_nil _
  | cons first rest ih =>
      simp only [verifyBlobs, except_bind_ok_iff] at verified
      obtain ⟨_, verifiedFirst, _, verifiedRest, _⟩ := verified
      exact List.forall_mem_cons.mpr ⟨isLowerHex_of_verifyBlob verifiedFirst, ih verifiedRest⟩

end Blobs

section Verdict

variable [Sha2] {receipt : Receipt} {store : StateStore} {disk : Disk}

/-- The report is valid when no problem was found, and every reference that is
malformed, or whose blob is missing or differs, is a problem. -/
structure ReferencesReported (receipt : Receipt) (store : StateStore) (disk : Disk)
    (report : VerificationReport) : Prop where
  valid : report.valid = true ↔ report.problems = []
  malformed : ∀ execution ∈ receipt.payload.checks, ∀ reference ∈ execution.references,
    ¬reference.WellFormed → report.valid = false ∧
      "check " ++ execution.check.id ++ " has an invalid log reference" ∈ report.problems
  missing : ∀ reference ∈ receipt.payload.references,
    disk.isFile (store.blobTarget reference.digest) = false → report.valid = false ∧
      "referenced log blob is missing: " ++ reference.handle ∈ report.problems
  differing : ∀ reference ∈ receipt.payload.references,
    disk.isFile (store.blobTarget reference.digest) = true →
    ¬disk.HasBlob (store.blobTarget reference.digest) reference.digest reference.bytes →
    report.valid = false ∧
      "referenced log blob does not match: " ++ reference.handle ∈ report.problems

/-- Blobs that are all resolved lead to a report, with the problems of the receipt and
of its blobs. -/
theorem verifyReceipt_of_verifyBlobs {verifications : List BlobVerification}
    {missing : List String}
    (verified : verifyBlobs store disk (logReferences receipt) = .ok (verifications, missing)) :
    ∃ report, verifyReceipt receipt store disk = .ok report ∧
      (report.valid = true ↔ report.problems = []) ∧
      verifySemantics receipt ⊆ report.problems ∧ missing ⊆ report.problems := by
  simp only [verifyReceipt, verified, bind, Except.bind, pure, Except.pure]
  refine ⟨_, rfl, ?_, ?_, ?_⟩
  · simp only [Bool.and_eq_true, List.isEmpty_iff, List.append_eq_nil_iff, problem_eq_nil_iff,
      Bool.not_eq_false']
    constructor
    · exact And.right
    · intro nothing
      exact ⟨nothing.1.1.1, nothing⟩
  · exact fun problem member => List.mem_append_left _ (List.mem_append_right _ member)
  · exact fun problem member => List.mem_append_right _ member

omit [Sha2] in
private theorem executionProblems_malformed {execution : CheckExecution} {reference : LogReference}
    (member : reference ∈ execution.references) (malformed : ¬reference.WellFormed) :
    "check " ++ execution.check.id ++ " has an invalid log reference" ∈
      executionProblems execution := by
  apply List.mem_append_right
  apply List.mem_flatMap.mpr
  refine ⟨reference, member, ?_⟩
  rw [invalidReference_iff.mpr malformed]
  exact List.mem_singleton_self _

/-- Verification comes to a verdict, and reports every bad reference, when and only
when every digest that the receipt refers to could be one. -/
theorem verifyReceipt_reports_iff (readable : store.Readable disk) :
    (∃ report, verifyReceipt receipt store disk = .ok report ∧
      ReferencesReported receipt store disk report) ↔
      ∀ reference ∈ receipt.payload.references, isLowerHex 64 reference.digest = true := by
  constructor
  · intro comes
    obtain ⟨report, verified, _⟩ := comes
    simp only [verifyReceipt, except_bind_ok_iff] at verified
    obtain ⟨_, resolved, _⟩ := verified
    exact isLowerHex_of_verifyBlobs resolved
  · intro wellFormed
    obtain ⟨verifications, missing, resolved, reported⟩ := verifyBlobs_reports readable wellFormed
    obtain ⟨report, verified, valid, semantics, blobs⟩ := verifyReceipt_of_verifyBlobs resolved
    have invalid : ∀ {problem}, problem ∈ report.problems → report.valid = false := by
      intro problem member
      rw [← Bool.not_eq_true, valid]
      exact List.ne_nil_of_mem member
    refine ⟨report, verified, valid, ?_, ?_, ?_⟩
    · intro execution included reference member malformed
      have found : "check " ++ execution.check.id ++ " has an invalid log reference" ∈
          verifySemantics receipt := by
        apply List.mem_append_left
        apply List.mem_append_right
        exact List.mem_flatMap.mpr
          ⟨execution, included, executionProblems_malformed member malformed⟩
      exact ⟨invalid (semantics found), semantics found⟩
    · intro reference member absent
      have found := blobs ((reported reference member).missing absent)
      exact ⟨invalid found, found⟩
    · intro reference member present differs
      have found := blobs ((reported reference member).differing present differs)
      exact ⟨invalid found, found⟩

end Verdict

/-! A receipt whose log reference has no digest -/

def malformedReference : LogReference where
  algorithm := "sha256"
  digest := "abc"
  bytes := 0
  handle := "sha256:abc"
  contentEncoding := "raw"
  sensitivity := "potentially_sensitive"

def malformedPayload : ReceiptPayload :=
  { samplePayload with checks := [{ sampleExecution with stdout := some malformedReference }] }

private theorem readable_empty (store : StateStore) : store.Readable Disk.empty := by
  intro digest content failure found
  cases found

private theorem length_malformedPayload_fields :
    (utf8 (Value.renderMembers .compact 1 malformedPayload.fields)).length ≤ 400000 := by
  have room : 4 * Value.roomMembers .compact 1 malformedPayload.fields ≤ 400000 := by
    decide +kernel
  exact (Value.length_utf8_renderMembers_le 1 _).trans room

private theorem verifyReceipt_malformed [Sha2] (store : StateStore) (disk : Disk) :
    ∃ error, verifyReceipt (buildReceipt malformedPayload) store disk = .error error := by
  cases verified : verifyReceipt (buildReceipt malformedPayload) store disk with
  | error error => exact ⟨error, rfl⟩
  | ok report =>
      simp only [verifyReceipt, except_bind_ok_iff] at verified
      obtain ⟨_, resolved, _⟩ := verified
      have formed := isLowerHex_of_verifyBlobs resolved malformedReference (by
        simp [logReferences, buildReceipt, malformedPayload, CheckExecution.references])
      exact absurd formed (by decide)

/-- The receipt is accepted as a document and its problem is found, but the command
fails before it reports the problem. -/
theorem malformedReference_without_verdict :
    ∃ bytes receipt error, @parseReceiptDocument endOfInputDiagnostics bytes = .ok receipt ∧
      StateStore.Readable ⟨"/state"⟩ Disk.empty ∧
      "check unit has an invalid log reference" ∈ verifySemantics receipt ∧
      @verifyReceipt standardSha2 receipt ⟨"/state"⟩ Disk.empty = .error error := by
  let _ : Sha2 := standardSha2
  let _ : JsonDiagnostics := endOfInputDiagnostics
  obtain ⟨error, failed⟩ := verifyReceipt_malformed ⟨"/state"⟩ Disk.empty
  have accepted := parseReceiptDocument_toVec (buildReceipt malformedPayload)
    (Nat.le_of_succ_le (buildReceipt_fits .compact malformedPayload (by decide)
      (length_malformedPayload_fields.trans (by decide))))
  have malformed : ¬malformedReference.WellFormed := fun formed => absurd formed.2.2 (by decide)
  refine ⟨_, _, error, accepted, readable_empty _, ?_, failed⟩
  apply List.mem_append_left
  apply List.mem_append_right
  exact List.mem_flatMap.mpr ⟨_, List.mem_singleton_self _,
    executionProblems_malformed (List.mem_singleton_self _) malformed⟩

/-! A check with one log in the store and one that is lost, and a check whose log was altered -/

section Sample

attribute [local instance] standardSha2

def threeLogsPayload : ReceiptPayload :=
  { samplePayload with
    checks := [
      { sampleExecution with stdout := some (sampleLog [120]), stderr := some (sampleLog [121]) },
      { sampleExecution with stdout := some (sampleLog [122]) }] }

def alteredDisk : Disk :=
  (logDisk [120]).create (StateStore.blobTarget ⟨"/state"⟩ (sampleLog [122]).digest) (.file [] none)

private theorem alteredDisk_readable : StateStore.Readable ⟨"/state"⟩ alteredDisk := by
  intro digest content failure found
  by_cases altered : StateStore.blobTarget ⟨"/state"⟩ digest =
      StateStore.blobTarget ⟨"/state"⟩ (sampleLog [122]).digest
  · rw [alteredDisk, altered, FileSystem.lookup_create_self] at found
    cases found
    rfl
  · rw [alteredDisk, FileSystem.lookup_create_other _ _ altered, logDisk] at found
    by_cases logged : StateStore.blobTarget ⟨"/state"⟩ digest =
        StateStore.blobTarget ⟨"/state"⟩ (sampleLog [120]).digest
    · rw [logged, FileSystem.lookup_create_self] at found
      cases found
      rfl
    · rw [FileSystem.lookup_create_other _ _ logged] at found
      cases found

theorem verifyReceipt_reports_iff_threeLogs :
    ∃ report, verifyReceipt (buildReceipt threeLogsPayload) ⟨"/state"⟩ alteredDisk = .ok report ∧
      report.valid = false ∧
      "referenced log blob is missing: " ++ (sampleLog [121]).handle ∈ report.problems ∧
      "referenced log blob does not match: " ++ (sampleLog [122]).handle ∈ report.problems := by
  have references : (buildReceipt threeLogsPayload).payload.references =
      [sampleLog [120], sampleLog [121], sampleLog [122]] := rfl
  have wellFormed : ∀ reference ∈ (buildReceipt threeLogsPayload).payload.references,
      isLowerHex 64 reference.digest = true := by
    intro reference member
    simp only [references, List.mem_cons, List.not_mem_nil, or_false] at member
    rcases member with rfl | rfl | rfl <;> exact isLowerHex_sha256Bytes _
  have lost : alteredDisk.isFile
      (StateStore.blobTarget ⟨"/state"⟩ (sampleLog [121]).digest) = false := by
    decide +kernel
  have altered : alteredDisk.lookup (StateStore.blobTarget ⟨"/state"⟩ (sampleLog [122]).digest) =
      some (.file [] none) := FileSystem.lookup_create_self _ _
  obtain ⟨report, verified, reported⟩ :=
    (verifyReceipt_reports_iff alteredDisk_readable).mpr wellFormed
  obtain ⟨invalid, missing⟩ := reported.missing (sampleLog [121]) (.tail _ (.head _)) lost
  refine ⟨report, verified, invalid, missing, ?_⟩
  refine (reported.differing (sampleLog [122]) (.tail _ (.tail _ (.head _))) ?_ ?_).2
  · rw [Disk.isFile, altered]
    rfl
  · intro stored
    obtain ⟨content, found, _, sized⟩ := stored
    rw [altered] at found
    cases found
    cases sized

end Sample

end TaskAttest
