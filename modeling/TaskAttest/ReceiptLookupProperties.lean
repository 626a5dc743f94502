import TaskAttest.ReceiptWriteProperties
import TaskAttest.RunReceiptProperties

/-! Which receipt is verified under an identifier: the file name decides, and only the
writer ties it to the receipt inside. -/

set_option autoImplicit false

namespace TaskAttest

open Transition

section Lookup

variable [Sha2] [JsonDiagnostics] {store : StateStore} {disk : Disk}

/-- The verify command succeeds exactly when it loads a sound receipt. -/
theorem verifyCommand_zero_iff {argument : String} {report : VerificationReport} :
    verifyCommand store disk argument = .ok (report, 0) ↔
      ∃ receipt, loadReceipt store disk argument = .ok receipt ∧
        verifyReceipt receipt store disk = .ok report ∧ report.valid = true := by
  unfold verifyCommand
  cases loaded : loadReceipt store disk argument with
  | error error => simp [bind, Except.bind]
  | ok receipt =>
      cases verified : verifyReceipt receipt store disk with
      | error error => simp [bind, Except.bind, verified]
      | ok found =>
          cases verdict : found.valid <;>
            simp [bind, Except.bind, pure, Except.pure, verified, verdict]
          · intro same
            subst same
            exact verdict
          · intro same
            subst same
            exact verdict

omit [JsonDiagnostics] in
private theorem verifyReceipt_receiptId {receipt : Receipt} {report : VerificationReport}
    (verified : verifyReceipt receipt store disk = .ok report) :
    report.receiptId = receipt.receiptId := by
  unfold verifyReceipt at verified
  cases blobs : verifyBlobs store disk (logReferences receipt) with
  | error error => simp [blobs, bind, Except.bind] at verified
  | ok result =>
      simp only [blobs, bind, Except.bind, pure, Except.pure, Except.ok.injEq] at verified
      rw [← verified]

omit [Sha2] in
/-- An identifier is looked up by file name. -/
theorem loadReceipt_identifier_iff {identifier : String} {receipt : Receipt}
    (wellFormed : validateReceiptId identifier = .ok ()) :
    loadReceipt store disk identifier = .ok receipt ↔
      ∃ content, disk.lookup (joinPath store.receiptsDirectory (identifier ++ ".json")) =
          some (.file content none) ∧ Encodes content receipt := by
  simp only [← parseReceiptDocument_iff, ← readReceiptFile_eq_ok_iff]
  simp only [loadReceipt, looksLikePath_of_receiptId wellFormed, Bool.false_eq_true, if_false,
    StateStore.readReceipt, StateStore.receiptPath, wellFormed, bind, Except.bind, pure,
    Except.pure]
  cases readReceiptFile disk (joinPath store.receiptsDirectory (identifier ++ ".json")) <;> simp

/-! Stores that only the writer fills -/

/-- What happens to the receipts of a store when nobody but `write_receipt` puts them there:
others may remove them, and do what they like elsewhere. -/
inductive WrittenStep (store : StateStore) : Disk → Disk → Prop where
  | write {disk : Disk} (process : Nat) (faults : PublishFaults) (receipt : Receipt)
      (sequence : Nat) :
      WrittenStep store disk (store.writeReceipt process faults receipt sequence disk).2.2
  | others {before after : Disk} :
      (∀ {receiptId path : String}, store.receiptPath receiptId = .ok path →
        after.lookup path = before.lookup path ∨ after.lookup path = none) →
      WrittenStep store before after

/-- The name of every receipt file is that of the receipt inside. -/
def NamesItself (store : StateStore) (disk : Disk) : Prop :=
  ∀ {receiptId path : String} {receipt : Receipt}, store.receiptPath receiptId = .ok path →
    readReceiptFile disk path = .ok receipt → receipt.receiptId = receiptId

omit [Sha2] in
private theorem readReceiptFile_lookup {before after : Disk} {path : String} {receipt : Receipt}
    (same : after.lookup path = before.lookup path) (read : readReceiptFile after path = .ok receipt) :
    readReceiptFile before path = .ok receipt := by
  rw [readReceiptFile_eq_ok_iff] at read ⊢
  rwa [← same]

omit [Sha2] in
private theorem writtenStep_namesItself (resolved : store.Resolved) {before after : Disk}
    (step : WrittenStep store before after) (named : NamesItself store before) :
    NamesItself store after := by
  intro receiptId path found at' read
  cases step with
  | write process faults receipt sequence =>
      rcases writeReceipt_receipts resolved at' with same | ⟨own, stored⟩
      · exact named at' (readReceiptFile_lookup same read)
      · rw [stored] at read
        cases read
        exact own.symm
  | others kept =>
      rcases kept at' with same | gone
      · exact named at' (readReceiptFile_lookup same read)
      · obtain ⟨_, present, _⟩ := readReceiptFile_eq_ok_iff.mp read
        exact nomatch gone.symm.trans present

/-- Where only the writer puts receipts, verifying by identifier verifies that receipt. In
any other store nothing ties the file name to the receipt inside: it does exactly when the
file of that name holds no sound receipt of another payload digest. -/
theorem verifyCommand_binds_identifier_iff (store : StateStore) (disk : Disk) {identifier : String}
    (wellFormed : validateReceiptId identifier = .ok ()) :
    (∀ empty : Disk, store.Resolved →
      (∀ {receiptId path : String}, store.receiptPath receiptId = .ok path →
        empty.lookup path = none) →
      Run (WrittenStep store) empty disk →
      ∀ report, verifyCommand store disk identifier = .ok (report, 0) →
        report.receiptId = identifier) ∧
    ((∀ report, verifyCommand store disk identifier = .ok (report, 0) →
        report.receiptId = identifier) ↔
      ∀ content receipt,
        disk.lookup (joinPath store.receiptsDirectory (identifier ++ ".json")) =
          some (.file content none) →
        Encodes content receipt → Sound store disk receipt →
        identifier = "rcpt_" ++ sliceTo (sha256Bytes (toVec receipt.payload)) 32) := by
  refine ⟨?_, ?_, ?_⟩
  · intro empty resolved none written report succeeded
    have initially : NamesItself store empty := fun at' read => by
      obtain ⟨_, present, _⟩ := readReceiptFile_eq_ok_iff.mp read
      exact nomatch (none at').symm.trans present
    have named : NamesItself store disk :=
      @run_invariant _ _ (NamesItself store) (writtenStep_namesItself resolved) _ _ written initially
    obtain ⟨receipt, loaded, verified, _⟩ := verifyCommand_zero_iff.mp succeeded
    obtain ⟨content, stored, encodes⟩ := (loadReceipt_identifier_iff wellFormed).mp loaded
    rw [verifyReceipt_receiptId verified]
    exact named (receiptPath_eq_ok_iff.mpr ⟨wellFormed, rfl⟩)
      (readReceiptFile_eq_ok_iff.mpr ⟨content, stored, parseReceiptDocument_iff.mpr encodes⟩)
  · intro binds content receipt stored encodes sound
    obtain ⟨report, verified, valid⟩ := verifies_iff_sound.mpr sound
    have loaded := (loadReceipt_identifier_iff wellFormed).mpr ⟨content, stored, encodes⟩
    have same := binds report (verifyCommand_zero_iff.mpr ⟨receipt, loaded, verified, valid⟩)
    rw [sound.digest, ← sound.identity, ← verifyReceipt_receiptId verified]
    exact same.symm
  · intro named report succeeded
    obtain ⟨receipt, loaded, verified, valid⟩ := verifyCommand_zero_iff.mp succeeded
    obtain ⟨content, stored, encodes⟩ := (loadReceipt_identifier_iff wellFormed).mp loaded
    have sound := verifies_iff_sound.mp ⟨report, verified, valid⟩
    rw [verifyReceipt_receiptId verified, sound.identity, ← sound.digest]
    exact (named content receipt stored encodes sound).symm

end Lookup

section Sample

attribute [local instance] standardSha2 endOfInputDiagnostics

/-- The receipt of a run in a new store is verified under its own identifier. -/
theorem verifyCommand_binds_identifier_idle :
    ∃ report,
      verifyCommand quietStore (quietStore.writeReceipt 1 .none idleReceipt 0 quietDisk).2.2
        idleReceipt.receiptId = .ok (report, 0) ∧
      report.receiptId = idleReceipt.receiptId := by
  have valid : validateReceiptId idleReceipt.receiptId = .ok () := validateReceiptId_of_digest _
  have free {name : String} (nonempty : name ≠ "") :
      quietDisk.links (joinPath quietStore.receiptsDirectory name) = none := by
    simp [quietDisk, FileSystem.create, receipts_ne nonempty, Disk.empty, FileSystem.empty]
  have none {receiptId path : String} (named : quietStore.receiptPath receiptId = .ok path) :
      quietDisk.lookup path = none := by
    obtain ⟨wellFormed, rfl⟩ := receiptPath_eq_ok_iff.mp named
    exact quietDisk.lookup_eq_none_iff.mpr (free (plainName_receipt wellFormed).ne_empty)
  have ready : StoreReady quietStore 1 0 quietDisk idleReceipt :=
    storeReady_empty idlePayload (FileSystem.lookup_create_self _ _) free
  obtain ⟨path, next, written, stored, writing, named, read, _⟩ :=
    writeReceipt_succeeds valid ready idleReceipt_fits
  have step := @WrittenStep.write _ quietStore quietDisk 1 .none idleReceipt 0
  have result := @writeReceipt_receipts _ quietStore 1 0 .none quietDisk idleReceipt resolved_state
    _ _ named
  rw [writing] at step result ⊢
  -- There was no such file, so that what is read is what was written.
  have own : readReceiptFile written path = .ok idleReceipt := by
    rcases result with unchanged | ⟨_, found⟩
    · obtain ⟨_, present, _⟩ := readReceiptFile_eq_ok_iff.mp read
      exact absurd ((present.symm.trans unchanged).trans (none named)) (Option.some_ne_none _)
    · exact found
  obtain ⟨content, present, parsed⟩ := readReceiptFile_eq_ok_iff.mp own
  rw [(receiptPath_eq_ok_iff.mp named).2] at present
  have loaded := (loadReceipt_identifier_iff valid).mpr
    ⟨content, present, parseReceiptDocument_iff.mp parsed⟩
  obtain ⟨report, verified, accepted⟩ := verifies_iff_sound.mpr
    (sound_buildReceipt_iff.mpr (@soundPayload_idlePayload _ quietStore written))
  have succeeded := verifyCommand_zero_iff.mpr ⟨idleReceipt, loaded, verified, accepted⟩
  refine ⟨report, succeeded, ?_⟩
  exact (verifyCommand_binds_identifier_iff quietStore written valid).1 quietDisk resolved_state none
    (.single step) report succeeded

end Sample

/-! A receipt stored under a name that is not its own. -/

/-- A well-formed identifier whose first digit is not that of the receipt. -/
def misnamedId : String :=
  if idleReceipt.canonicalDigest.toList.head? = some '0' then "rcpt_11111111111111111111111111111111"
  else "rcpt_00000000000000000000000000000000"

def misnamedDisk : Disk :=
  Disk.empty.create (joinPath (joinPath "/state" "receipts") (misnamedId ++ ".json"))
    (.file (receiptFile idleReceipt) none)

/-- The first digit of an identifier is the first digit of the digest. -/
private theorem receiptId_digit [Sha2] (payload : ReceiptPayload) :
    (buildReceipt payload).receiptId.toList[5]? =
      (buildReceipt payload).canonicalDigest.toList.head? := by
  simp [buildReceipt, sliceTo, List.head?_eq_getElem?]

/-- The verify command reports another receipt valid under the identifier it was given. -/
theorem misnamedId_verifies_other_receipt :
    validateReceiptId misnamedId = .ok () ∧
      ∃ report, @verifyCommand standardSha2 endOfInputDiagnostics ⟨"/state"⟩ misnamedDisk
        misnamedId = .ok (report, 0) ∧ report.receiptId ≠ misnamedId := by
  let _ : Sha2 := standardSha2
  let _ : JsonDiagnostics := endOfInputDiagnostics
  have wellFormed : validateReceiptId misnamedId = .ok () := by
    refine validateReceiptId_eq_ok_iff.mpr ?_
    unfold misnamedId
    split
    · exact ⟨"11111111111111111111111111111111", rfl, by decide⟩
    · exact ⟨"00000000000000000000000000000000", rfl, by decide⟩
  have stored : misnamedDisk.lookup
      (joinPath (StateStore.receiptsDirectory ⟨"/state"⟩) (misnamedId ++ ".json")) =
      some (.file (receiptFile idleReceipt) none) := FileSystem.lookup_create_self _ _
  obtain ⟨content, present, parsed⟩ := readReceiptFile_eq_ok_iff.mp
    (readReceiptFile_receiptFile idleReceipt_fits stored)
  obtain ⟨report, verified, valid⟩ := verifies_iff_sound.mpr
    (sound_buildReceipt_iff.mpr (@soundPayload_idlePayload _ ⟨"/state"⟩ misnamedDisk))
  refine ⟨wellFormed, report, verifyCommand_zero_iff.mpr ⟨idleReceipt,
    (loadReceipt_identifier_iff wellFormed).mpr
      ⟨content, present, parseReceiptDocument_iff.mp parsed⟩, verified, valid⟩, ?_⟩
  rw [verifyReceipt_receiptId verified]
  -- The two identifiers differ in the digit after the prefix.
  intro same
  have digit : idleReceipt.receiptId.toList[5]? = misnamedId.toList[5]? := by rw [← same]; rfl
  rw [show idleReceipt.receiptId.toList[5]? = idleReceipt.canonicalDigest.toList.head? from
    receiptId_digit idlePayload] at digit
  unfold misnamedId at digit
  split at digit
  · rename_i zero
    rw [zero] at digit
    exact absurd digit (by decide)
  · rename_i notZero
    exact notZero digit

end TaskAttest
