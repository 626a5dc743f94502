import TaskAttest.Verify
import TaskAttest.StoreProperties

/-! What a verdict of validity says: the receipt is sound with respect to the
blobs of the store. -/

set_option autoImplicit false

namespace TaskAttest

open Json

/-- The references of all executions of a payload. -/
def ReceiptPayload.references (payload : ReceiptPayload) : List LogReference :=
  payload.checks.flatMap CheckExecution.references

/-- The conditions that verification puts on a payload, each in its own terms. -/
structure SoundPayload [Sha2] (store : StateStore) (disk : Disk) (payload : ReceiptPayload) :
    Prop where
  schema : payload.schemaVersion = receiptSchemaVersion
  source : payload.source = payload.discovery.source
  sourceUnchanged : payload.sourceUnchanged = decide (payload.source = payload.sourceAfter)
  clock : payload.startedUnixMs ≤ payload.completedUnixMs
  executed : ∀ id, (∃ selection ∈ payload.discovery.selection,
      selection.selected = true ∧ selection.checkId = id) ↔
    ∃ execution ∈ payload.checks, execution.check.id = id
  distinct : (payload.checks.map fun execution => execution.check.id).Nodup
  executionClock : ∀ execution ∈ payload.checks,
    execution.startedUnixMs ≤ execution.completedUnixMs
  references : ∀ reference ∈ payload.references, reference.algorithm = "sha256" ∧
    reference.handle = "sha256:" ++ reference.digest ∧ isLowerHex 64 reference.digest = true
  outcome : payload.outcome = expectedOutcome payload
  blobs : ∀ reference ∈ payload.references,
    disk.HasBlob (store.blobTarget reference.digest) reference.digest reference.bytes

/-- A sound payload under the identity that its digest gives. -/
structure Sound [Sha2] (store : StateStore) (disk : Disk) (receipt : Receipt) : Prop where
  digest : sha256Bytes (toVec receipt.payload) = receipt.canonicalDigest
  identity : receipt.receiptId = "rcpt_" ++ sliceTo receipt.canonicalDigest 32
  payload : SoundPayload store disk receipt.payload

theorem problem_eq_nil_iff {condition : Bool} {text : String} :
    problem condition text = [] ↔ condition = false := by
  cases condition <;> simp [problem]

private theorem toValue_eq_iff {α : Type} [Codec α] {left right : α} :
    toValue left = toValue right ↔ left = right := by
  constructor
  · intro same
    exact eq_of_sameTree ((Value.normalize_eq_iff_sameTree (Codec.uniqueKeys left)
      (Codec.uniqueKeys right)).mp same)
  · intro same
    subst same
    rfl

theorem validateSha256_isOk (value : String) :
    (validateSha256 value).isOk = isLowerHex 64 value := by
  unfold validateSha256
  split <;> simp_all [Except.isOk, Except.toBool]

theorem mem_references {payload : ReceiptPayload} {reference : LogReference} :
    reference ∈ payload.references ↔
      ∃ execution ∈ payload.checks, reference ∈ execution.references := by
  simp [ReceiptPayload.references]

private theorem executionProblems_eq_nil_iff {execution : CheckExecution} :
    executionProblems execution = [] ↔
      execution.startedUnixMs ≤ execution.completedUnixMs ∧
        ∀ reference ∈ execution.references, reference.algorithm = "sha256" ∧
          reference.handle = "sha256:" ++ reference.digest ∧
          isLowerHex 64 reference.digest = true := by
  simp only [executionProblems, List.append_eq_nil_iff, problem_eq_nil_iff, decide_eq_false_iff_not,
    UInt64.not_lt, List.flatMap_eq_nil_iff, invalidReference, validateSha256_isOk,
    Bool.or_eq_false_iff, bne_eq_false_iff_eq, Bool.not_eq_false', and_assoc]

private theorem selectedIds_eq_iff {payload : ReceiptPayload} :
    selectedIds payload.discovery = executedIds payload ↔
      ∀ id, (∃ selection ∈ payload.discovery.selection,
          selection.selected = true ∧ selection.checkId = id) ↔
        ∃ execution ∈ payload.checks, execution.check.id = id := by
  rw [selectedIds, executedIds, sortedSet_eq_iff]
  simp only [List.mem_map, List.mem_filter, and_assoc]

private theorem length_executedIds_iff {payload : ReceiptPayload} :
    (executedIds payload).length = payload.checks.length ↔
      (payload.checks.map fun execution => execution.check.id).Nodup := by
  rw [← length_sortedSet_eq_iff, List.length_map]
  rfl

section Blobs

variable [Sha2] {store : StateStore} {disk : Disk}

/-- A reference passes exactly when its digest is well formed and its blob is there. -/
theorem verifyBlob_passes_iff {reference : LogReference} :
    (∃ verification, verifyBlob reference store disk = .ok verification ∧
        blobProblems reference verification = []) ↔
      isLowerHex 64 reference.digest = true ∧
        disk.HasBlob (store.blobTarget reference.digest) reference.digest reference.bytes := by
  unfold verifyBlob StateStore.blobPath
  by_cases wellFormed : isLowerHex 64 reference.digest = true
  · have validated := validateSha256_eq_ok_iff.mpr wellFormed
    simp only [validated, bind, Except.bind, pure, Except.pure, wellFormed, true_and]
    cases found : disk.lookup (store.blobTarget reference.digest) with
    | none => simp [Disk.isFile, found, blobProblems, Disk.HasBlob]
    | some entry =>
        cases entry with
        | directory =>
            simp [Disk.isFile, found, Entry.isFile, blobProblems, Disk.HasBlob]
        | file content failure =>
            simp only [Disk.isFile, found, Option.any_some, Entry.isFile, Bool.not_true,
              Bool.false_eq_true, if_false, Disk.metadata, Entry.length]
            by_cases sized : content.length = reference.bytes.toNat
            · cases hashed : sha256Path disk (store.blobTarget reference.digest) with
              | error error =>
                  simp only [sized, if_true, Except.map, reduceCtorEq, false_and, exists_false,
                    false_iff]
                  intro holds
                  obtain ⟨stored, read, same, _⟩ := holds
                  rw [sha256Path_eq_ok_iff.mpr ⟨stored, read, same⟩] at hashed
                  cases hashed
              | ok digest =>
                  obtain ⟨stored, read, rfl⟩ := sha256Path_eq_ok_iff.mp hashed
                  rw [found] at read
                  cases read
                  simp [sized, Except.map, blobProblems, Disk.HasBlob, found]
            · simp only [sized, if_false, Except.ok.injEq, exists_eq_left', blobProblems,
                Bool.not_true, Bool.false_eq_true, Bool.not_false, if_true, reduceCtorEq,
                false_iff]
              intro holds
              obtain ⟨stored, read, _, length⟩ := holds
              rw [found] at read
              cases read
              exact sized length
  · have rejected : validateSha256 reference.digest =
        .error (TaskError.receipt
          "SHA-256 digest must contain 64 lowercase hexadecimal characters") :=
      if_neg wellFormed
    simp [rejected, bind, Except.bind, wellFormed]

private theorem verifyBlobs_passes_iff {references : List LogReference} :
    (∃ verifications, verifyBlobs store disk references = .ok (verifications, [])) ↔
      ∀ reference ∈ references, isLowerHex 64 reference.digest = true ∧
        disk.HasBlob (store.blobTarget reference.digest) reference.digest reference.bytes := by
  induction references with
  | nil => simp [verifyBlobs]
  | cons reference rest ih =>
      rw [List.forall_mem_cons, ← ih, ← verifyBlob_passes_iff]
      simp only [verifyBlobs]
      cases first : verifyBlob reference store disk with
      | error error => simp [bind, Except.bind]
      | ok verification =>
          cases others : verifyBlobs store disk rest with
          | error error => simp [bind, Except.bind]
          | ok result =>
              simp [bind, Except.bind, pure, Except.pure, Prod.ext_iff]

end Blobs

section Verdict

variable {receipt : Receipt}

private theorem verifySemantics_eq_nil_iff :
    verifySemantics receipt = [] ↔
      receipt.payload.source = receipt.payload.discovery.source ∧
      receipt.payload.sourceUnchanged =
        decide (receipt.payload.source = receipt.payload.sourceAfter) ∧
      receipt.payload.startedUnixMs ≤ receipt.payload.completedUnixMs ∧
      (∀ id, (∃ selection ∈ receipt.payload.discovery.selection,
          selection.selected = true ∧ selection.checkId = id) ↔
        ∃ execution ∈ receipt.payload.checks, execution.check.id = id) ∧
      (receipt.payload.checks.map fun execution => execution.check.id).Nodup ∧
      (∀ execution ∈ receipt.payload.checks,
        execution.startedUnixMs ≤ execution.completedUnixMs ∧
        ∀ reference ∈ execution.references, reference.algorithm = "sha256" ∧
          reference.handle = "sha256:" ++ reference.digest ∧
          isLowerHex 64 reference.digest = true) ∧
      receipt.payload.outcome = expectedOutcome receipt.payload := by
  simp only [verifySemantics, List.append_eq_nil_iff, problem_eq_nil_iff, bne_eq_false_iff_eq,
    toValue_eq_iff, decide_eq_false_iff_not, UInt64.not_lt, selectedIds_eq_iff,
    length_executedIds_iff, List.flatMap_eq_nil_iff, executionProblems_eq_nil_iff, and_assoc]

variable [Sha2] {store : StateStore} {disk : Disk}

/-- Verification reports validity. -/
def Verifies (store : StateStore) (disk : Disk) (receipt : Receipt) : Prop :=
  ∃ report, verifyReceipt receipt store disk = .ok report ∧ report.valid = true

/-- Without problems, the three identity flags and the blobs decide the verdict. -/
private theorem verifies_iff_parts :
    Verifies store disk receipt ↔
      receipt.payload.schemaVersion = receiptSchemaVersion ∧
      sha256Bytes (toVec receipt.payload) = receipt.canonicalDigest ∧
      ((validateReceiptId receipt.receiptId).isOk = true ∧
        receipt.receiptId = "rcpt_" ++ sliceTo (sha256Bytes (toVec receipt.payload)) 32) ∧
      isLowerHex 64 receipt.canonicalDigest = true ∧
      verifySemantics receipt = [] ∧
      ∃ verifications, verifyBlobs store disk (logReferences receipt) =
        .ok (verifications, []) := by
  unfold Verifies verifyReceipt
  cases blobs : verifyBlobs store disk (logReferences receipt) with
  | error error => simp [bind, Except.bind]
  | ok result =>
      obtain ⟨verifications, missing⟩ := result
      simp only [bind, Except.bind, pure, Except.pure, Except.ok.injEq, exists_eq_left',
        Bool.and_eq_true, beq_iff_eq, List.isEmpty_iff, List.append_eq_nil_iff,
        problem_eq_nil_iff, Bool.not_eq_false', Prod.mk.injEq, validateSha256_isOk]
      constructor
      · intro verified
        obtain ⟨_, ⟨⟨⟨⟨schema, digest⟩, identity⟩, wellFormed⟩, semantics⟩, found⟩ := verified
        exact ⟨schema, digest, identity, wellFormed, semantics, found⟩
      · intro verified
        obtain ⟨schema, digest, identity, wellFormed, semantics, found⟩ := verified
        exact ⟨⟨⟨schema, digest⟩, identity⟩,
          ⟨⟨⟨⟨schema, digest⟩, identity⟩, wellFormed⟩, semantics⟩, found⟩

/-- Verification reports validity exactly of sound receipts. -/
theorem verifies_iff_sound : Verifies store disk receipt ↔ Sound store disk receipt := by
  rw [verifies_iff_parts, verifySemantics_eq_nil_iff, verifyBlobs_passes_iff]
  constructor
  · intro verified
    obtain ⟨schema, digest, ⟨_, identity⟩, _, ⟨source, unchanged, clock, executed, distinct,
        executions, outcome⟩, blobs⟩ := verified
    rw [digest] at identity
    refine ⟨digest, identity, schema, source, unchanged, clock, executed, distinct,
      fun execution member => (executions execution member).1, ?_, outcome,
      fun reference member => (blobs reference member).2⟩
    intro reference member
    obtain ⟨execution, included, listed⟩ := mem_references.mp member
    exact (executions execution included).2 reference listed
  · intro conditions
    obtain ⟨digest, identity, sound⟩ := conditions
    refine ⟨sound.schema, digest, ⟨?_, ?_⟩, ?_, ⟨sound.source, sound.sourceUnchanged,
      sound.clock, sound.executed, sound.distinct, ?_, sound.outcome⟩, ?_⟩
    · rw [identity, ← digest, validateReceiptId_of_digest]
      rfl
    · rw [digest]
      exact identity
    · rw [← digest]
      exact isLowerHex_sha256Bytes _
    · intro execution member
      exact ⟨sound.executionClock execution member, fun reference listed =>
        sound.references reference (mem_references.mpr ⟨execution, member, listed⟩)⟩
    · intro reference member
      exact ⟨(sound.references reference member).2.2, sound.blobs reference member⟩

theorem length_receiptId_buildReceipt (payload : ReceiptPayload) :
    (buildReceipt payload).receiptId.toList.length = 37 := by
  simp [buildReceipt, sliceTo, sha256Bytes_length]

omit [Sha2] in
/-- A receipt fits its store when its payload's members leave room for the rest. -/
theorem receipt_fits (layout : Layout) {receipt : Receipt}
    (identified : receipt.receiptId.toList.length = 37)
    (digested : receipt.canonicalDigest.toList.length = 64)
    (narrow : (layout.line 1).length ≤ 3 ∧ layout.colon.length ≤ 1 ∧ (layout.line 0).length ≤ 1)
    (small : (utf8 (Value.renderMembers layout 1 receipt.payload.fields)).length ≤ 4000000) :
    (utf8 ((serialize receipt).render layout 0)).length + 1 ≤ maxReceiptBytes := by
  have bound := length_render_receipt_le layout receipt
  simp only [maxReceiptBytes]
  omega

theorem buildReceipt_fits (layout : Layout) (payload : ReceiptPayload)
    (narrow : (layout.line 1).length ≤ 3 ∧ layout.colon.length ≤ 1 ∧ (layout.line 0).length ≤ 1)
    (small : (utf8 (Value.renderMembers layout 1 payload.fields)).length ≤ 4000000) :
    (utf8 ((serialize (buildReceipt payload)).render layout 0)).length + 1 ≤
      maxReceiptBytes :=
  receipt_fits layout (length_receiptId_buildReceipt payload) (sha256Bytes_length _) narrow small

theorem sound_buildReceipt_iff {payload : ReceiptPayload} :
    Sound store disk (buildReceipt payload) ↔ SoundPayload store disk payload :=
  ⟨fun sound => sound.payload, fun sound => ⟨rfl, rfl, sound⟩⟩

/-- Every blob of the first disk is on the second, unchanged. -/
def StateStore.KeepsBlobs (store : StateStore) (before after : Disk) : Prop :=
  ∀ digest entry, before.lookup (store.blobTarget digest) = some entry →
    after.lookup (store.blobTarget digest) = some entry

/-- A sound receipt stays sound while no blob is lost or changed. -/
theorem Sound.keepsBlobs {after : Disk} (sound : Sound store disk receipt)
    (kept : store.KeepsBlobs disk after) : Sound store after receipt where
  digest := sound.digest
  identity := sound.identity
  payload := { sound.payload with
    blobs := by
      intro reference member
      obtain ⟨content, found, same, sized⟩ := sound.payload.blobs reference member
      exact ⟨content, kept _ _ found, same, sized⟩ }

end Verdict

end TaskAttest
