import TaskAttest.Library.Json.Size
import TaskAttest.RunProperties
import TaskAttest.Commands

/-! What a valid receipt is bound to: the discovery report it embeds, its payload and its
logs. -/

set_option autoImplicit false

namespace TaskAttest

open Json

/-! A small receipt whose one check passed without logs. -/

def sampleSource : SourceIdentity where
  gitCommit := none
  gitRef := none
  dirty := false
  statusSha256 := "e3b0c44298fc1c149afbf4c8996fb92427ae41e4649b934ca495991b7852b855"
  workspaceSha256 := "e3b0c44298fc1c149afbf4c8996fb92427ae41e4649b934ca495991b7852b855"
  workspaceFileCount := 0
  changedPaths := []

def sampleCheck : CheckDefinition where
  id := "unit"
  label := "Unit tests"
  kind := .test
  command := { program := "cargo", args := ["test"], workingDirectory := "." }
  reason := "declared"
  sources := []
  confidence := .explicit
  coveragePaths := []
  passEnvironment := []
  nonHermeticInputs := []
  replacesWorkflowSteps := []

def sampleExecution : CheckExecution where
  check := sampleCheck
  startedUnixMs := 1
  completedUnixMs := 2
  durationMs := 1
  outcome := .passed
  exitCode := some 0
  stdout := none
  stderr := none
  stdoutSummary := ""
  stderrSummary := ""
  diagnosticSummariesTruncated := false

def sampleDiscovery : DiscoveryReport where
  schemaVersion := discoverySchemaVersion
  source := sampleSource
  checks := [sampleCheck]
  selection := [{ checkId := "unit", selected := true, reason := "explicitly requested" }]
  coverageGaps := []
  configurationFiles := []
  workflowObservations := []

def samplePayload : ReceiptPayload where
  schemaVersion := receiptSchemaVersion
  taskattestVersion := version
  source := sampleSource
  sourceAfter := sampleSource
  sourceUnchanged := true
  invocation := {
    changedOnly := false
    requestedChecks := []
    failFast := false
    limits := { maxRuntimeMsPerCheck := 1, maxLogBytesPerCheck := 1 } }
  discovery := sampleDiscovery
  startedUnixMs := 1
  completedUnixMs := 2
  durationMs := 1
  outcome := .passed
  checks := [sampleExecution]
  coverageGaps := []
  toolchains := []
  environment := { mode := "allowlist", forwardedNames := [], valuesRecorded := false }
  redaction := {
    name := "environment-minimized-summary-redaction-v1"
    fullLogsRedacted := false
    diagnosticSummariesRedacted := true }
  nonHermeticInputs := []
  artifacts := []
  annotations := SortedMap.empty

section Rebinding

variable [Sha2] {store : StateStore} {disk : Disk}

/-- The receipt of a payload whose discovery report was given other checks and gaps. -/
def rebind (payload : ReceiptPayload) (checks : List CheckDefinition) (gaps : List String) :
    Receipt :=
  buildReceipt { payload with
    discovery := { payload.discovery with checks := checks, coverageGaps := gaps } }

/-- No condition of verification reads the discovered checks or the discovered gaps. -/
theorem sound_rebind_iff (payload : ReceiptPayload) (checks : List CheckDefinition)
    (gaps : List String) :
    Sound store disk (rebind payload checks gaps) ↔ Sound store disk (buildReceipt payload) := by
  rw [rebind, sound_buildReceipt_iff, sound_buildReceipt_iff]
  exact ⟨fun sound => { sound with }, fun sound => { sound with }⟩

theorem soundPayload_samplePayload : SoundPayload store disk samplePayload where
  schema := rfl
  source := rfl
  sourceUnchanged := by rw [samplePayload, eq_comm, decide_eq_true_iff]
  clock := by rw [samplePayload, UInt64.le_iff_toNat_le]; decide
  executed := by simp [samplePayload, sampleDiscovery, sampleExecution, sampleCheck]
  distinct := List.nodup_singleton _
  executionClock := by simp [samplePayload, sampleExecution]
  references := by
    simp [ReceiptPayload.references, samplePayload, sampleExecution, CheckExecution.references]
  outcome := rfl
  blobs := by
    simp [ReceiptPayload.references, samplePayload, sampleExecution, CheckExecution.references]

private theorem sound_samplePayload : Sound store disk (buildReceipt samplePayload) :=
  sound_buildReceipt_iff.mpr soundPayload_samplePayload

/-- The payload repeats what its discovery report says. -/
structure BoundToDiscovery (payload : ReceiptPayload) : Prop where
  coverageGaps : payload.coverageGaps = payload.discovery.coverageGaps
  definitions : ∀ execution ∈ payload.checks,
    payload.discovery.checks.find? (fun definition => definition.id == execution.check.id) =
      some execution.check

omit [Sha2] in
private theorem find?_id_of_mem {checks : List CheckDefinition} {check : CheckDefinition}
    (distinct : (checks.map fun check => check.id).Nodup) (member : check ∈ checks) :
    checks.find? (fun definition => definition.id == check.id) = some check := by
  induction checks with
  | nil => exact absurd member List.not_mem_nil
  | cons first rest ih =>
      obtain ⟨unused, distinct⟩ := List.nodup_cons.mp distinct
      rcases List.mem_cons.mp member with rfl | later
      · exact List.find?_cons_of_pos (beq_self_eq_true check.id)
      · have different : first.id ≠ check.id := fun same =>
          unused (List.mem_map.mpr ⟨check, later, same.symm⟩)
        rw [List.find?_cons_of_neg (by simpa using different)]
        exact ih distinct later

variable [JsonDiagnostics]

/-- A run copies the gaps and the definitions of its checks from the discovery report. -/
theorem runChecks_boundToDiscovery {world : World} {discovery : DiscoveryReport}
    {invocation : Invocation} {start final : RunState} {receipt : Receipt}
    (distinct : (discovery.checks.map fun check => check.id).Nodup)
    (ran : runChecks world store discovery invocation start = .ok receipt final) :
    BoundToDiscovery receipt.payload := by
  obtain ⟨_, _, ⟨_, _, _, _, assembled⟩, looped⟩ := runChecks_ok ran
  have embedded : receipt.payload.discovery = discovery := by
    rw [assembled]
    rfl
  have gaps : receipt.payload.coverageGaps = discovery.coverageGaps := by
    rw [assembled]
    rfl
  rw [← embedded] at distinct gaps
  refine ⟨gaps, fun execution member => find?_id_of_mem distinct ?_⟩
  have selected : execution.check ∈ selectedChecks discovery :=
    looped.definitions ▸ List.mem_map_of_mem member
  rw [embedded]
  exact List.mem_of_mem_filter selected

/-- The receipts of runs repeat their discovery report, whose ids are distinct. Verification
does not ask for it: it reads neither the discovered checks nor the discovered gaps, and
whatever they are replaced by stays bound only where it accepts no version of the payload. -/
theorem verified_bound_to_discovery_iff (store : StateStore) (disk : Disk)
    (payload : ReceiptPayload) :
    (∀ (world : World) (discovery : DiscoveryReport) (invocation : Invocation)
      (start final : RunState) (receipt : Receipt),
      (discovery.checks.map fun check => check.id).Nodup →
      runChecks world store discovery invocation start = .ok receipt final →
      BoundToDiscovery receipt.payload) ∧
    ((∀ checks gaps, Verifies store disk (rebind payload checks gaps) →
        BoundToDiscovery (rebind payload checks gaps).payload) ↔
      ¬SoundPayload store disk payload) := by
  refine ⟨fun _ _ _ _ _ _ => runChecks_boundToDiscovery, ?_, ?_⟩
  · intro bound sound
    have verified : Verifies store disk
        (rebind payload payload.discovery.checks ("unreported" :: payload.coverageGaps)) :=
      verifies_iff_sound.mpr ((sound_rebind_iff _ _ _).mpr (sound_buildReceipt_iff.mpr sound))
    have repeated := (bound _ _ verified).coverageGaps
    exact List.cons_ne_self _ _ repeated.symm
  · intro unsound checks gaps verified
    have sound := (sound_rebind_iff _ _ _).mp (verifies_iff_sound.mp verified)
    exact absurd (sound_buildReceipt_iff.mp sound) unsound

end Rebinding

/-- The discovered command and gap differ from what was run and reported. -/
def reboundReceipt : Receipt :=
  @rebind standardSha2 samplePayload
    [{ sampleCheck with command := { sampleCheck.command with args := ["test", "--all"] } }]
    ["no discovered check declares coverage for README.md"]

theorem reboundReceipt_verifies_unbound :
    @Verifies standardSha2 ⟨"/state"⟩ Disk.empty reboundReceipt ∧
      reboundReceipt.payload.outcome = .passed ∧
      reboundReceipt.payload.coverageGaps = [] ∧
      reboundReceipt.payload.discovery.coverageGaps ≠ [] ∧
      (reboundReceipt.payload.checks.map fun execution => execution.check.command) ≠
        reboundReceipt.payload.discovery.checks.map (fun definition => definition.command) ∧
      ¬BoundToDiscovery reboundReceipt.payload := by
  let _ : Sha2 := standardSha2
  refine ⟨?_, rfl, rfl, by decide, by decide, ?_⟩
  · exact verifies_iff_sound.mpr ((sound_rebind_iff _ _ _).mpr sound_samplePayload)
  · intro bound
    exact absurd bound.coverageGaps (by decide)

/-! The receipt of a run that selected nothing. -/

/-- The payload of a run that selected nothing. -/
def idlePayload : ReceiptPayload :=
  { samplePayload with
    discovery := { sampleDiscovery with checks := [], selection := [] }
    outcome := .incomplete
    checks := [] }

def idleReceipt : Receipt := @buildReceipt standardSha2 idlePayload

theorem soundPayload_idlePayload [Sha2] {store : StateStore} {disk : Disk} :
    SoundPayload store disk idlePayload where
  schema := rfl
  source := rfl
  sourceUnchanged := by rw [idlePayload, samplePayload, eq_comm, decide_eq_true_iff]
  clock := by rw [idlePayload, samplePayload, UInt64.le_iff_toNat_le]; decide
  executed := by simp [idlePayload]
  distinct := List.nodup_nil
  executionClock := by simp [idlePayload]
  references := by simp [ReceiptPayload.references, idlePayload]
  outcome := rfl
  blobs := by simp [ReceiptPayload.references, idlePayload]

section Tampering

variable [Sha2]

/-- Everything that verifying a receipt hashes lies in a set of inputs. -/
structure HashedWithin (inputs : Set (List UInt8)) (store : StateStore) (disk : Disk)
    (receipt : Receipt) : Prop where
  payload : toVec receipt.payload ∈ inputs
  blobs : ∀ reference ∈ receipt.payload.references, ∀ content,
    disk.lookup (store.blobTarget reference.digest) = some (.file content none) →
    content ∈ inputs

variable {inputs : Set (List UInt8)} {store otherStore : StateStore} {disk otherDisk : Disk}
  {receipt other : Receipt}

/-- The canonical digest determines every field of a sound receipt. -/
theorem Sound.eq_of_digest (collisionFree : inputs.InjOn Sha2.digest)
    (hashed : toVec receipt.payload ∈ inputs) (otherHashed : toVec other.payload ∈ inputs)
    (sound : Sound store disk receipt) (otherSound : Sound otherStore otherDisk other)
    (sameDigest : receipt.canonicalDigest = other.canonicalDigest) : receipt = other := by
  have samePayload : receipt.payload = other.payload :=
    utf8_compact_injective (eq_of_sha256Bytes_eq collisionFree hashed otherHashed
      (sound.digest.trans (sameDigest.trans otherSound.digest.symm)))
  have sameId : receipt.receiptId = other.receiptId := by
    rw [sound.identity, otherSound.identity, sameDigest]
  cases receipt
  cases other
  simp_all

/-- Two blobs of one reference have the same bytes. -/
theorem HasBlob.content_eq {reference : LogReference} (collisionFree : inputs.InjOn Sha2.digest)
    (hashed : HashedWithin inputs store disk receipt)
    (otherHashed : HashedWithin inputs otherStore otherDisk receipt)
    (member : reference ∈ receipt.payload.references)
    (stored : disk.HasBlob (store.blobTarget reference.digest) reference.digest reference.bytes)
    (otherStored : otherDisk.HasBlob (otherStore.blobTarget reference.digest) reference.digest
      reference.bytes) :
    ∃ content, disk.lookup (store.blobTarget reference.digest) = some (.file content none) ∧
      otherDisk.lookup (otherStore.blobTarget reference.digest) = some (.file content none) ∧
      content.length = reference.bytes.toNat := by
  obtain ⟨content, found, same, sized⟩ := stored
  obtain ⟨otherContent, otherFound, otherSame, _⟩ := otherStored
  have equal : content = otherContent :=
    eq_of_sha256Bytes_eq collisionFree (hashed.blobs reference member content found)
      (otherHashed.blobs reference member otherContent otherFound) (same.trans otherSame.symm)
  exact ⟨content, found, equal ▸ otherFound, sized⟩

/-- As long as the hash has no collision among what is hashed, the canonical
digest fixes the whole receipt and every byte of its logs. -/
theorem verified_receipt_tamper_evident (collisionFree : inputs.InjOn Sha2.digest)
    (hashed : HashedWithin inputs store disk receipt) (valid : Verifies store disk receipt)
    (otherHashed : HashedWithin inputs otherStore otherDisk other) :
    (Verifies otherStore otherDisk other → receipt.canonicalDigest = other.canonicalDigest →
      receipt = other ∧ ∀ reference ∈ receipt.payload.references, ∃ content,
        disk.lookup (store.blobTarget reference.digest) = some (.file content none) ∧
        otherDisk.lookup (otherStore.blobTarget reference.digest) = some (.file content none) ∧
        content.length = reference.bytes.toNat) ∧
    (other ≠ receipt → other.canonicalDigest = receipt.canonicalDigest →
      ¬Verifies otherStore otherDisk other) ∧
    (other = receipt → (∃ reference ∈ receipt.payload.references,
        otherDisk.lookup (otherStore.blobTarget reference.digest) ≠
          disk.lookup (store.blobTarget reference.digest)) →
      ¬Verifies otherStore otherDisk other) := by
  have sound := verifies_iff_sound.mp valid
  refine ⟨?_, ?_, ?_⟩
  · intro otherValid sameDigest
    have otherSound := verifies_iff_sound.mp otherValid
    have same := sound.eq_of_digest collisionFree hashed.payload otherHashed.payload otherSound
      sameDigest
    subst same
    exact ⟨rfl, fun reference member => HasBlob.content_eq collisionFree hashed otherHashed
      member (sound.payload.blobs reference member) (otherSound.payload.blobs reference member)⟩
  · intro different sameDigest otherValid
    exact different (sound.eq_of_digest collisionFree hashed.payload otherHashed.payload
      (verifies_iff_sound.mp otherValid) sameDigest.symm).symm
  · intro same changing otherValid
    subst same
    obtain ⟨reference, member, changed⟩ := changing
    obtain ⟨content, found, otherFound, _⟩ := HasBlob.content_eq collisionFree hashed otherHashed
      member (sound.payload.blobs reference member)
      ((verifies_iff_sound.mp otherValid).payload.blobs reference member)
    exact changed (otherFound.trans found.symm)

end Tampering

/-! A receipt with a log, and a store in which another content is in the place of its blob -/

section Logged

attribute [local instance] standardSha2

def sampleLog (content : List UInt8) : LogReference where
  algorithm := "sha256"
  digest := sha256Bytes content
  bytes := .ofNat content.length
  handle := "sha256:" ++ sha256Bytes content
  contentEncoding := "raw"
  sensitivity := "potentially_sensitive"

/-- Digests of one letter, which verification does not look at. -/
def loggedSource : SourceIdentity :=
  { sampleSource with statusSha256 := "e", workspaceSha256 := "e" }

def loggedPayload : ReceiptPayload :=
  { samplePayload with
    source := loggedSource
    sourceAfter := loggedSource
    discovery := { sampleDiscovery with source := loggedSource }
    checks := [{ sampleExecution with stdout := some (sampleLog [120]) }] }

/-- A disk with this content under the name of the log's blob. -/
def logDisk (content : List UInt8) : Disk :=
  Disk.empty.create (StateStore.blobTarget ⟨"/state"⟩ (sampleLog [120]).digest) (.file content none)

private theorem references_loggedPayload : loggedPayload.references = [sampleLog [120]] := rfl

private theorem lookup_logDisk (content : List UInt8) :
    (logDisk content).lookup (StateStore.blobTarget ⟨"/state"⟩ (sampleLog [120]).digest) =
      some (.file content none) := FileSystem.lookup_create_self _ _

private theorem soundPayload_loggedPayload :
    SoundPayload ⟨"/state"⟩ (logDisk [120]) loggedPayload where
  schema := rfl
  source := rfl
  sourceUnchanged := (@soundPayload_samplePayload _ ⟨"/state"⟩ Disk.empty).sourceUnchanged
  clock := (@soundPayload_samplePayload _ ⟨"/state"⟩ Disk.empty).clock
  executed := by simp [loggedPayload, samplePayload, sampleDiscovery, sampleExecution, sampleCheck]
  distinct := List.nodup_singleton _
  executionClock := by simp [loggedPayload, sampleExecution]
  references := by
    rw [references_loggedPayload]
    exact List.forall_mem_singleton.mpr ⟨rfl, rfl, isLowerHex_sha256Bytes _⟩
  outcome := rfl
  blobs := by
    rw [references_loggedPayload]
    exact List.forall_mem_singleton.mpr ⟨[120], lookup_logDisk _, rfl, rfl⟩

/-- What is hashed: the payload, the log, and what is in its place. -/
def loggedInputs : Set (List UInt8) := {toVec loggedPayload, [120], [121]}

private theorem loggedInputs_injOn : loggedInputs.InjOn Sha2.digest := by
  have payload : (Sha2.digest (toVec loggedPayload)).head? = some 0xff := by decide +kernel
  have log : (Sha2.digest [120]).head? = some 0x2d := by decide +kernel
  have other : (Sha2.digest [121]).head? = some 0xa1 := by decide +kernel
  intro left leftIn right rightIn same
  have heads := congrArg List.head? same
  rcases leftIn with rfl | rfl | rfl <;> rcases rightIn with rfl | rfl | rfl <;>
    first
    | rfl
    | simp [payload, log, other] at heads

private theorem hashedWithin_logged {content : List UInt8} (known : content ∈ loggedInputs)
    {receipt : Receipt} (samePayload : receipt.payload = loggedPayload) :
    HashedWithin loggedInputs ⟨"/state"⟩ (logDisk content) receipt := by
  refine ⟨samePayload ▸ Set.mem_insert _ _, ?_⟩
  rw [samePayload, references_loggedPayload]
  refine List.forall_mem_singleton.mpr ?_
  intro found there
  rw [lookup_logDisk] at there
  cases there
  exact known

/-- No other receipt has its digest, and the receipt does not verify where its log was altered. -/
theorem verified_receipt_tamper_evident_logged :
    Verifies ⟨"/state"⟩ (logDisk [120]) (buildReceipt loggedPayload) ∧
      (∀ other : Receipt, other.payload = loggedPayload → other ≠ buildReceipt loggedPayload →
        other.canonicalDigest = (buildReceipt loggedPayload).canonicalDigest →
        ¬Verifies ⟨"/state"⟩ (logDisk [120]) other) ∧
      ¬Verifies ⟨"/state"⟩ (logDisk [121]) (buildReceipt loggedPayload) := by
  have valid : Verifies ⟨"/state"⟩ (logDisk [120]) (buildReceipt loggedPayload) :=
    verifies_iff_sound.mpr (sound_buildReceipt_iff.mpr soundPayload_loggedPayload)
  have logKnown : [120] ∈ loggedInputs := by simp [loggedInputs]
  have hashed := hashedWithin_logged logKnown (rfl : (buildReceipt loggedPayload).payload = _)
  refine ⟨valid, ?_, ?_⟩
  · intro other samePayload
    exact (verified_receipt_tamper_evident loggedInputs_injOn hashed valid
      (hashedWithin_logged logKnown samePayload)).2.1
  · refine (verified_receipt_tamper_evident loggedInputs_injOn hashed valid
      (hashedWithin_logged (by simp [loggedInputs]) rfl)).2.2 rfl ?_
    refine ⟨sampleLog [120], List.mem_singleton_self _, ?_⟩
    rw [lookup_logDisk, lookup_logDisk]
    decide

end Logged

end TaskAttest
