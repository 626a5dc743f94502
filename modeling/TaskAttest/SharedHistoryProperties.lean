import TaskAttest.Library.Parallel
import TaskAttest.SharedStoreProperties

/-! Histories of a shared store: any number of runs of the command, one system call at a
time and in any order, each of which may stop for ever between two calls. -/

set_option autoImplicit false

namespace TaskAttest

open FileSystem Interleaving Program

/-! Verification of what is stored -/

/-- What verification says of a log that is as recorded. -/
def LogReference.verified (reference : LogReference) : BlobVerification where
  handle := reference.handle
  found := true
  digestMatches := true
  expectedBytes := reference.bytes
  actualBytes := some reference.bytes

section Verification

variable [Sha2] {store : StateStore} {disk : Disk} {reference : LogReference}
  {payload : ReceiptPayload} {receiptId path : String}

private theorem verifyBlob_stored (stored : Stored store disk reference) :
    verifyBlob reference store disk = .ok reference.verified := by
  obtain ⟨content, found, hashed, sized⟩ := stored.blob
  have named : store.blobPath reference.digest = .ok (store.blobTarget reference.digest) :=
    blobPath_eq_ok_iff.mpr ⟨stored.digest, rfl⟩
  have read := sha256Path_eq_ok_iff.mpr ⟨content, found, hashed⟩
  simp [verifyBlob, named, bind, Except.bind, pure, Except.pure, Disk.isFile, Disk.metadata, found,
    Entry.isFile, Entry.length, sized, read, Except.map, LogReference.verified]

private theorem verifyBlobs_stored {references : List LogReference}
    (stored : ∀ reference ∈ references, Stored store disk reference) :
    verifyBlobs store disk references = .ok (references.map LogReference.verified, []) := by
  induction references with
  | nil => rfl
  | cons reference rest ih =>
      obtain ⟨first, others⟩ := List.forall_mem_cons.mp stored
      rw [verifyBlobs, verifyBlob_stored first, ih others]
      rfl

/-- The report on a receipt with all its logs: what is left to say is in the payload. -/
def settledReport (payload : ReceiptPayload) : VerificationReport where
  schemaVersion := verificationSchemaVersion
  receiptId := (buildReceipt payload).receiptId
  valid := (verifySemantics (buildReceipt payload)).isEmpty
  schemaSupported := true
  canonicalDigestMatches := true
  receiptIdMatches := true
  blobs := payload.references.map LogReference.verified
  problems := verifySemantics (buildReceipt payload)

private theorem verifyReceipt_complete (complete : CompleteReceipt store disk receiptId payload) :
    verifyReceipt (buildReceipt payload) store disk = .ok (settledReport payload) := by
  have blobs : verifyBlobs store disk (logReferences (buildReceipt payload)) =
      .ok (payload.references.map LogReference.verified, []) :=
    verifyBlobs_stored complete.logs
  have identified : validateReceiptId ("rcpt_" ++ sliceTo (sha256Bytes (toVec payload)) 32) =
      .ok () := validateReceiptId_of_digest _
  have digested : validateSha256 (sha256Bytes (toVec payload)) = .ok () :=
    validateSha256_eq_ok_iff.mpr (isLowerHex_sha256Bytes _)
  rw [verifyReceipt, blobs]
  simp [buildReceipt, settledReport, complete.schema, identified, digested, problem, bind,
    Except.bind, pure, Except.pure, Except.isOk, Except.toBool]

/-- What the verify command answers to the identifier of a stored receipt. -/
theorem verifyCommand_complete [JsonDiagnostics] (named : store.receiptPath receiptId = .ok path)
    (found : disk.lookup path = some (.file (receiptFile (buildReceipt payload)) none))
    (complete : CompleteReceipt store disk receiptId payload) :
    verifyCommand store disk receiptId =
      .ok (settledReport payload, if (settledReport payload).valid then 0 else 1) := by
  obtain ⟨valid, _⟩ := receiptPath_eq_ok_iff.mp named
  have identified := complete.identified
  rw [← identified] at named
  have loaded : loadReceipt store disk receiptId = .ok (buildReceipt payload) := by
    rw [loadReceipt, looksLikePath_of_receiptId valid, ← identified,
      readReceipt_of_receiptPath named, readReceiptFile_receiptFile complete.fits found]
    rfl
  rw [verifyCommand, loaded]
  show (verifyReceipt (buildReceipt payload) store disk >>= _) = _
  rw [verifyReceipt_complete complete]
  rfl

end Verification

/-! The system -/

section System

variable [Sha2] [JsonDiagnostics] [Packages] {Index : Type}
  {processes : Index → CommandWorld × RunArguments} {store : StateStore} {disk : Disk}

abbrev CommandSystem (Index : Type) := System Index TaskError RunState UInt8 Disk

/-- Processes that share a disk, each with its own surroundings and arguments, before
their first call. -/
def sharedSystem (processes : Index → CommandWorld × RunArguments) (disk : Disk) :
    CommandSystem Index where
  shared := disk
  parties index :=
    { program := Shared.run (processes index).1 (processes index).2
      state := .start disk 0 0 false }

/-- What other programs may do meanwhile: they leave alone the receipts, the blobs and
the temporary files of the processes. -/
def StateStore.Bystanders (store : StateStore) (processes : Index → CommandWorld × RunArguments) :
    Disk → Disk → Prop :=
  Acts store.commons fun path => ¬store.Common path ∧
    ∀ index, ¬store.Owns (processes index).1.run.process path

/-- Any number of calls of the processes, and of changes by others. -/
abbrev StateStore.History [DecidableEq Index] (store : StateStore)
    (processes : Index → CommandWorld × RunArguments) :
    CommandSystem Index → CommandSystem Index → Prop :=
  System.Run RunState.sharing (store.Bystanders processes)

/-- The processes use one store, and have identifiers of their own. -/
structure StateStore.SharedBy (store : StateStore)
    (processes : Index → CommandWorld × RunArguments) : Prop where
  joins : ∀ index, (processes index).1.Joins (processes index).2 store
  distinct : ∀ {index other}, (processes index).1.run.process = (processes other).1.run.process →
    index = other

/-- A process keeps its promises among the others. -/
theorem StateStore.SharedBy.compatible (shared : store.SharedBy processes) :
    Compatible RunState.sharing (store.Bystanders processes)
      (fun index => Acts store.commons (store.Owns (processes index).1.run.process))
      (fun index => store.Others (processes index).1.run.process) (fun _ _ => True)
      (fun index code state => ∃ receipt,
        (processes index).1.Left (processes index).2 store receipt state.disk ∧
          code = if receipt.payload.outcome = .passed then 0 else 1)
      (fun _ _ _ => True) (sharedSystem processes disk) where
  guarantees index := run_keeps (shared.joins index)
  ready _ := trivial
  apart := by
    intro index other before after different acts
    refine acts.mono fun path owned => ⟨fun also => ?_, owned.not_common⟩
    exact different (shared.distinct (owned.process_unique also))
  beside acts := acts.mono fun path foreign => ⟨foreign.2 _, foreign.1⟩

/-- How a store may change: what is in it stays, a blob that comes has the digest that
names it, and a receipt that comes is whole. -/
structure StateStore.Grows (store : StateStore) (before after : Disk) : Prop where
  retains : store.Retains before after
  blobs : ∀ {digest path : String} {entry : Entry}, store.blobPath digest = .ok path →
    before.lookup path = none → after.lookup path = some entry →
    ∃ content, entry = .file content none ∧ sha256Bytes content = digest
  receipts : ∀ {receiptId path : String} {entry : Entry},
    store.receiptPath receiptId = .ok path → before.lookup path = none →
    after.lookup path = some entry →
    ∃ payload, entry = .file (receiptFile (buildReceipt payload)) none ∧
      CompleteReceipt store after receiptId payload

omit [JsonDiagnostics] [Packages] in
private theorem StateStore.grows_of_run {before after : Disk}
    (run : Transition.Run (ActsSome store.commons) before after) : store.Grows before after := by
  have ruled {path : String} {entry : Entry} (common : store.Common path)
      (missing : before.lookup path = none) (found : after.lookup path = some entry) :
      store.Rule after path entry :=
    run_ruled run common (Option.map_eq_none_iff.mp missing) found
  refine ⟨fun path entry common found => FileSystem.run_keeps run common found, ?_, ?_⟩
  · intro digest path entry named missing found
    exact (ruled (.blob named) missing found).blob named
  · intro receiptId path entry named missing found
    exact (ruled (.receipt named) missing found).receipt named

variable {earlier later : CommandSystem Index}

/-- The steps of the processes and of the others are steps on one store. -/
theorem StateStore.SharedBy.run_shared [DecidableEq Index] (shared : store.SharedBy processes)
    (before : store.History processes (sharedSystem processes disk) earlier)
    (after : store.History processes earlier later) :
    Transition.Run (ActsSome store.commons) earlier.shared later.shared := by
  refine Relation.ReflTransGen.mono ?_ _ _ (shared.compatible.run_shared before after)
  intro disk changed step
  rcases step with acts | ⟨index, acts⟩
  · exact ⟨_, fun path foreign => foreign.1, acts⟩
  · exact ⟨_, fun path owned => owned.not_common, acts⟩

/-- From every state that is reached the store only grows, whatever the order of the calls
and wherever processes have stopped. -/
theorem shared_store_grows [DecidableEq Index] (shared : store.SharedBy processes)
    (before : store.History processes (sharedSystem processes disk) earlier)
    (after : store.History processes earlier later) :
    store.Grows earlier.shared later.shared :=
  store.grows_of_run (shared.run_shared before after)

/-- A receipt that has come to the store, whole or not at all, is the one of its
identifier for ever, and verification of it settled. -/
theorem new_receipt_settled [DecidableEq Index] (shared : store.SharedBy processes)
    (before : store.History processes (sharedSystem processes disk) earlier)
    {receiptId path : String} {entry : Entry} (named : store.receiptPath receiptId = .ok path)
    (missing : disk.lookup path = none) (found : earlier.shared.lookup path = some entry) :
    ∃ payload, (buildReceipt payload).receiptId = receiptId ∧
      ∀ later, store.History processes earlier later →
        later.shared.lookup path = some (.file (receiptFile (buildReceipt payload)) none) ∧
        verifyCommand store later.shared receiptId =
          .ok (settledReport payload, if (settledReport payload).valid then 0 else 1) := by
  obtain ⟨payload, rfl, complete⟩ :=
    (store.grows_of_run (shared.run_shared .refl before)).receipts named missing found
  refine ⟨payload, complete.identified, ?_⟩
  intro later after
  have grows := store.grows_of_run (shared.run_shared before after)
  have still := grows.retains _ _ (.receipt named) found
  exact ⟨still, verifyCommand_complete named still (complete.retained grows.retains)⟩

end System

/-! Two runs on one disk -/

section Sample

attribute [local instance] standardSha2 endOfInputDiagnostics passingPackages

/-- Two processes that run the same check. -/
def passingProcesses (first : Bool) : CommandWorld × RunArguments :=
  ({ passingCommand with
      run := { passing.world fun _ => 1 with process := if first then 1 else 2 } }, unpublished)

private theorem passingProcesses_shared : quietStore.SharedBy passingProcesses where
  joins first := {
    resolves := by
      intro found hasStore
      obtain ⟨git, discovery, _, resolved⟩ := hasStore
      cases found
      cases resolved
      rfl
    directories := fun _ _ listed _ => @store_directories_plain quietStore _ _ listed
    output := fun requested => by cases requested }
  distinct := by
    intro first second same
    cases first <;> cases second <;> first | rfl | cases same

/-- The first process has run to its end, and then the second. -/
theorem passingProcesses_end : ∃ earlier later result,
    quietStore.History passingProcesses (sharedSystem passingProcesses parentDisk) earlier ∧
    (earlier.parties true).program = .done (.ok 0) ∧
    quietStore.History passingProcesses earlier later ∧
    (later.parties false).program = .done result := by
  obtain ⟨earlier, before, finished, _⟩ := (sharedSystem passingProcesses parentDisk).runs_to_end
    RunState.sharing (quietStore.Bystanders passingProcesses) true
  obtain ⟨later, after, ended, _⟩ := earlier.runs_to_end RunState.sharing
    (quietStore.Bystanders passingProcesses) false
  obtain ⟨stored, ran⟩ := @run_alone_unpublished unpublished rfl rfl
  rw [← Shared.alone_run] at ran
  refine ⟨earlier, later, _, before, ?_, after, ended⟩
  rw [finished, outcome, show (((sharedSystem passingProcesses parentDisk).parties true).program.alone
    ((sharedSystem passingProcesses parentDisk).view RunState.sharing true)) = _ from ran]

theorem shared_store_grows_passing : ∃ earlier later : CommandSystem Bool,
    (earlier.parties true).program = .done (.ok 0) ∧
    quietStore.History passingProcesses earlier later ∧
    quietStore.Grows earlier.shared later.shared := by
  obtain ⟨earlier, later, _, before, ended, after, _⟩ := passingProcesses_end
  exact ⟨earlier, later, ended, after, shared_store_grows passingProcesses_shared before after⟩

/-- The receipt of the first process has come to the store. -/
theorem new_receipt_settled_passing : ∃ (earlier : CommandSystem Bool)
    (receiptId path : String) (payload : ReceiptPayload),
    quietStore.History passingProcesses (sharedSystem passingProcesses parentDisk) earlier ∧
    earlier.shared.lookup path = some (.file (receiptFile (buildReceipt payload)) none) ∧
    verifyCommand quietStore earlier.shared receiptId =
      .ok (settledReport payload, if (settledReport payload).valid then 0 else 1) := by
  obtain ⟨earlier, _, _, before, ended, _⟩ := passingProcesses_end
  obtain ⟨receipt, left, _⟩ := passingProcesses_shared.compatible.returned before ended
  obtain ⟨path, existing, named, read, _⟩ := left.stored.found
  obtain ⟨content, found, _⟩ := readReceiptFile_eq_ok_iff.mp read
  have long := (StateStore.Common.receipt named).long
  have missing : parentDisk.lookup path = none := by
    have apart {other : String} (short : other.toList.length < 42) : path ≠ other := by
      intro same
      rw [same] at long
      omega
    rw [parentDisk, lookup_create_other _ _ (apart (by decide)),
      lookup_create_other _ _ (apart (by decide))]
    rfl
  obtain ⟨payload, _, settled⟩ :=
    new_receipt_settled passingProcesses_shared before named missing found
  obtain ⟨stays, verified⟩ := settled earlier .refl
  exact ⟨earlier, _, path, payload, before, stays, verified⟩

end Sample

end TaskAttest
