import TaskAttest.JsonPublicationProperties
import TaskAttest.ReceiptBindingProperties

/-! When a successful `write_receipt` is a durable write of its receipt, and what a
failing one leaves behind. -/

set_option autoImplicit false

namespace TaskAttest

/-! What publishing a document does to other names -/

section Documents

variable {disk created : Disk} {faults : PublishFaults} {path parent name other temporary : String}
  {process sequence file : Nat} {document : List UInt8}

/-- Directories that are created have names no longer than the one asked for. -/
theorem preflight_lookup (parts : jsonOutputParent path = .ok (parent, name))
    (longer : parent.toList.length < other.toList.length) :
    (preflightJsonOutput faults path disk).2.lookup other = disk.lookup other :=
  (preflight_same parts fun above => absurd above.length_le (Nat.not_le.mpr longer)).lookup

private theorem Held.lookup_modify {own : Option (String × Nat)} {content : List UInt8}
    (held : Held own disk temporary file [temporary] content) (change : Entry → Entry)
    (different : other ≠ temporary) :
    (disk.modify temporary change).lookup other = disk.lookup other := by
  refine disk.lookup_modify_other change fun same => different ?_
  rw [held.linked] at same
  exact List.mem_singleton.mp (held.named same)

/-- The environment fails a call between the creation of its temporary file and the
link, or the link finds the target taken. -/
def Interrupts (faults : PublishFaults) (path : String) (disk : Disk) : Prop :=
  faults.serialize ≠ none ∨ faults.newline ≠ none ∨ faults.sync ≠ none ∨ faults.link ≠ none ∨
    disk.pathExists path = true

/-- What a call does to the names besides its own, once its temporary file is there. -/
theorem fillAndLink_cases {own : Option (String × Nat)}
    (held : Held own disk temporary file [temporary] []) (different : temporary ≠ path) :
    (¬Interrupts faults path disk ∧ ∃ published,
      fillAndLink faults document temporary path disk = (.ok (), published) ∧
      ∀ other, other ≠ path → other ≠ temporary → published.lookup other = disk.lookup other) ∨
    (Interrupts faults path disk ∧ ∃ error filled content,
      fillAndLink faults document temporary path disk = (.error error, filled) ∧
      filled.lookup temporary = some (.file content none) ∧
      ∀ other, other ≠ temporary → filled.lookup other = disk.lookup other) := by
  unfold fillAndLink Interrupts
  cases serialized : faults.serialize with
  | some torn =>
      exact .inr ⟨.inl (by simp), _, _, _, rfl, (held.append _).lookup,
        fun other elsewhere => held.lookup_modify _ elsewhere⟩
  | none =>
      have written := held.append document
      have kept : ∀ other, other ≠ temporary →
          (disk.modify temporary (Entry.append document)).lookup other = disk.lookup other :=
        fun other elsewhere => held.lookup_modify _ elsewhere
      simp only
      cases newline : faults.newline with
      | some error => exact .inr ⟨.inr (.inl (by simp)), _, _, _, rfl, written.lookup, kept⟩
      | none =>
          let finished : Disk :=
            (disk.modify temporary (Entry.append document)).modify temporary (Entry.append [10])
          have complete : Held own finished temporary file [temporary] _ := written.append [10]
          have keptAll : ∀ other, other ≠ temporary → finished.lookup other = disk.lookup other :=
            fun other elsewhere => (written.lookup_modify _ elsewhere).trans (kept other elsewhere)
          have present : finished.pathExists temporary = true := by
            rw [Disk.pathExists, complete.lookup]
            rfl
          have sameTarget : finished.pathExists path = disk.pathExists path :=
            congrArg Option.isSome (keptAll path (Ne.symm different))
          simp only
          cases synced : faults.sync with
          | some error =>
              exact .inr ⟨.inr (.inr (.inl (by simp))), _, _, _, rfl, complete.lookup, keptAll⟩
          | none =>
              simp only
              cases linkFault : faults.link with
              | some error =>
                  exact .inr ⟨.inr (.inr (.inr (.inl (by simp)))), _, _, _, rfl, complete.lookup,
                    keptAll⟩
              | none =>
                  cases taken : disk.pathExists path with
                  | true =>
                      have occupied : finished.hardLink temporary path = .error occupiedPath := by
                        simp [Disk.hardLink, sameTarget, taken]
                      refine .inr ⟨.inr (.inr (.inr (.inr rfl))),
                        TaskError.io "publish JSON file without overwriting" path occupiedPath,
                        finished, _, ?_, complete.lookup, keptAll⟩
                      rw [show attempt none (finished.hardLink temporary path) =
                        .error occupiedPath from occupied]
                  | false =>
                      have linked : finished.hardLink temporary path =
                          .ok (finished.link temporary path) := by
                        simp [Disk.hardLink, sameTarget, taken, present]
                      refine .inl ⟨by simp, Disk.discard (finished.link temporary path)
                        faults.remove temporary, ?_, ?_⟩
                      · rw [show attempt none (finished.hardLink temporary path) =
                          .ok (finished.link temporary path) from linked]
                      · intro other notPath notTemporary
                        rw [lookup_discard notTemporary, FileSystem.lookup_link_other _ notPath]
                        exact keptAll other notTemporary

/-- The call gets as far as creating this temporary file, with this outcome. -/
def Allocates (process : Nat) (faults : PublishFaults) (path : String) (sequence : Nat)
    (disk : Disk) (temporary : String) (created : Disk) : Prop :=
  ∃ checked parent name next, preflightJsonOutput faults path disk = (.ok (), checked) ∧
    jsonOutputParent path = .ok (parent, name) ∧
    (jsonAllocation process parent name).run faults.allocate allocationAttempts sequence checked =
      (.ok temporary, next, created)

/-- Removing a file that is there fails only when the environment fails it. -/
theorem lookup_discard_self_iff {entry : Entry} {fault : Option IoError}
    (present : disk.lookup temporary = some entry) :
    (disk.discard fault temporary).lookup temporary = none ↔ fault = none := by
  cases fault with
  | some error => simp [Disk.discard, attempt, present]
  | none =>
      have exists' : disk.pathExists temporary = true := by simp [Disk.pathExists, present]
      simp [Disk.discard, attempt, Disk.removeFile, exists']

/-- The ways a call ends, by what it does to the names of files beside its target. -/
inductive Publication (process : Nat) (faults : PublishFaults) (path : String) (sequence : Nat)
    (disk : Disk) (reaches : String → Prop) : Except TaskError Unit → Disk → Prop where
  | unallocated {error : TaskError} {after : Disk} :
      (¬∃ temporary created, Allocates process faults path sequence disk temporary created) →
      (∀ other, reaches other → after.lookup other = disk.lookup other) →
      Publication process faults path sequence disk reaches (.error error) after
  | published {temporary : String} {created after : Disk} :
      Allocates process faults path sequence disk temporary created →
      ¬Interrupts faults path disk →
      (∀ other, reaches other → other ≠ path → other ≠ temporary →
        after.lookup other = disk.lookup other) →
      Publication process faults path sequence disk reaches (.ok ()) after
  | interrupted {error : TaskError} {temporary : String} {created after : Disk} :
      Allocates process faults path sequence disk temporary created →
      Interrupts faults path disk →
      (∀ other, reaches other → other ≠ temporary → after.lookup other = disk.lookup other) →
      (after.lookup temporary = disk.lookup temporary ↔ faults.remove = none) →
      Publication process faults path sequence disk reaches (.error error) after

private theorem length_lt_joinPath (base : String) {relative : String} (nonempty : relative ≠ "") :
    base.toList.length < (joinPath base relative).toList.length := by
  obtain ⟨separator, joined⟩ := joinPath_toList base
  have positive : 0 < relative.toList.length := by
    rw [List.length_pos_iff]
    exact fun empty => nonempty (String.toList_injective empty)
  rw [joined, List.length_append, List.length_append]
  omega

private theorem jsonAllocation_longer (process number : Nat) (parent name : String) :
    parent.toList.length < ((jsonAllocation process parent name).name number).toList.length :=
  length_lt_joinPath parent fun empty => by
    have text := congrArg String.toList empty
    simp [String.toList_append] at text

private theorem writeJsonAtomic_publication (parts : jsonOutputParent path = .ok (parent, name))
    (nested : parent.toList.length < path.toList.length) :
    Publication process faults path sequence disk
      (fun other => parent.toList.length < other.toList.length)
      (writeJsonAtomic process faults path document sequence disk).1
      (writeJsonAtomic process faults path document sequence disk).2.2 := by
  have same := fun other longer => @preflight_lookup disk faults path parent name other parts longer
  unfold writeJsonAtomic
  cases checking : preflightJsonOutput faults path disk with
  | mk verdict checked =>
      rw [checking] at same
      cases verdict with
      | error error =>
          refine .unallocated ?_ same
          intro published
          obtain ⟨temporary, created, _, _, _, _, passed, _⟩ := published
          rw [checking] at passed
          cases passed
      | ok =>
          simp only [parts]
          rcases allocation_cases (jsonAllocation process parent name) faults.allocate
            allocationAttempts sequence checked with
            ⟨number, next, missing, allocated⟩ | ⟨error, next, failed⟩
          · rw [allocated]
            let temporary := (jsonAllocation process parent name).name number
            let created : Disk := checked.create temporary (.file [] none)
            have allocates : Allocates process faults path sequence disk temporary created :=
              ⟨checked, parent, name, next, checking, parts, allocated⟩
            have different : temporary ≠ path := jsonAllocation_name_ne process number parts
            have longer := jsonAllocation_longer process number parent name
            have before : ∀ other, parent.toList.length < other.toList.length →
                other ≠ temporary → created.lookup other = disk.lookup other :=
              fun other reached elsewhere =>
                (checked.lookup_create_other _ elsewhere).trans (same other reached)
            have sameTarget : created.pathExists path = disk.pathExists path :=
              congrArg Option.isSome (before path nested (Ne.symm different))
            have sameFault : Interrupts faults path created ↔ Interrupts faults path disk := by
              rw [Interrupts, Interrupts, sameTarget]
            simp only
            rcases @fillAndLink_cases created faults path temporary checked.next document _
              (Held.created checked temporary) different with
              ⟨calm, published, filled, kept⟩ |
              ⟨fault, error, filled, content, failed, stored, kept⟩
            · rw [show fillAndLink faults document
                ((jsonAllocation process parent name).name number)
                path (checked.create _ (.file [] none)) = _ from filled]
              exact .published allocates (fun fault => calm (sameFault.mpr fault))
                fun other reached notPath elsewhere =>
                  (kept other notPath elsewhere).trans (before other reached elsewhere)
            · rw [show fillAndLink faults document
                ((jsonAllocation process parent name).name number)
                path (checked.create _ (.file [] none)) = _ from failed]
              refine .interrupted allocates (sameFault.mp fault) ?_ ?_
              · intro other reached elsewhere
                rw [lookup_discard elsewhere, kept other elsewhere]
                exact before other reached elsewhere
              · rw [← same _ longer, checked.lookup_eq_none_iff.mpr missing]
                exact lookup_discard_self_iff stored
          · rw [failed]
            refine .unallocated ?_ same
            intro published
            obtain ⟨temporary, created, other, directory, file, last, passed, split,
                allocated⟩ := published
            rw [checking] at passed
            cases passed
            rw [parts] at split
            cases split
            rw [failed] at allocated
            cases allocated

end Documents

/-! Receipts -/

/-- The receipts directory is spelled as canonicalization spells it. -/
def StateStore.Resolved (store : StateStore) : Prop :=
  directoryText (components store.receiptsDirectory) = store.receiptsDirectory

section Receipts

variable [Sha2] [JsonDiagnostics] {store : StateStore} {process sequence : Nat}
  {faults : PublishFaults} {disk : Disk} {receipt : Receipt} {path : String}

/-- A write of a receipt that succeeds has stored that receipt, one that fails has
stored nothing, and neither touches another receipt. -/
structure DurableWrite (store : StateStore) (before : Disk) (receipt : Receipt)
    (result : Except TaskError String) (after : Disk) : Prop where
  readable : ∀ path, result = .ok path →
    store.readReceipt after receipt.receiptId = .ok (receipt, path)
  unchanged : ∀ error, result = .error error → ∀ name, PlainName name →
    after.lookup (joinPath store.receiptsDirectory name) =
      before.lookup (joinPath store.receiptsDirectory name)
  others : ∀ receiptId other, store.receiptPath receiptId = .ok other →
    receiptId ≠ receipt.receiptId → after.lookup other = before.lookup other

/-- The size test of the writer passes. -/
def Fits (receipt : Receipt) : Prop := (toVecPretty receipt).length + 1 ≤ maxReceiptBytes

omit [Sha2] [JsonDiagnostics] in
private theorem fits_of_members (identified : receipt.receiptId.toList.length = 37)
    (digested : receipt.canonicalDigest.toList.length = 64)
    (small : (utf8 (Json.Value.renderMembers .pretty 1 receipt.payload.fields)).length ≤ 4000000) :
    Fits receipt :=
  receipt_fits .pretty identified digested (by decide) small

omit [JsonDiagnostics] in
private theorem fits_buildReceipt (payload : ReceiptPayload)
    (small : (utf8 (Json.Value.renderMembers .pretty 1 payload.fields)).length ≤ 4000000) :
    Fits (buildReceipt payload) :=
  fits_of_members (length_receiptId_buildReceipt payload) (sha256Bytes_length _) small

/-- The receipt's name is taken by another receipt that states the same digest. -/
def AdoptsAnother (store : StateStore) (faults : PublishFaults) (receipt : Receipt)
    (disk : Disk) : Prop :=
  Fits receipt ∧ faults.lookup = false ∧ ∃ path existing,
    store.receiptPath receipt.receiptId = .ok path ∧
    readReceiptFile disk path = .ok existing ∧
    existing.canonicalDigest = receipt.canonicalDigest ∧ existing ≠ receipt

/-- The publication is interrupted, and the environment also fails the removal of
the temporary file. -/
def LeavesTemporary (store : StateStore) (process : Nat) (faults : PublishFaults)
    (receipt : Receipt) (sequence : Nat) (disk : Disk) : Prop :=
  Fits receipt ∧ faults.remove ≠ none ∧ ∃ path temporary created,
    store.receiptPath receipt.receiptId = .ok path ∧
    (faults.lookup = true ∨ disk.pathExists path = false) ∧
    Allocates process faults path sequence disk temporary created ∧ Interrupts faults path disk

omit [Sha2] [JsonDiagnostics] in
theorem receiptPath_eq_ok_iff {receiptId : String} :
    store.receiptPath receiptId = .ok path ↔ validateReceiptId receiptId = .ok () ∧
      path = joinPath store.receiptsDirectory (receiptId ++ ".json") := by
  cases valid : validateReceiptId receiptId with
  | error error => simp [StateStore.receiptPath, valid, bind, Except.bind]
  | ok =>
      simp [StateStore.receiptPath, valid, bind, Except.bind, pure, Except.pure, eq_comm]

omit [Sha2] in
theorem readReceipt_of_receiptPath (named : store.receiptPath receipt.receiptId = .ok path) :
    store.readReceipt disk receipt.receiptId = (readReceiptFile disk path).map fun found =>
      (found, path) := by
  have valid := (receiptPath_eq_ok_iff.mp named).1
  simp only [StateStore.readReceipt, looksLikePath_of_receiptId valid, named, bind, Except.bind,
    Bool.false_eq_true, if_false, pure, Except.pure]
  cases readReceiptFile disk path <;> rfl

omit [Sha2] [JsonDiagnostics] in
/-- A receipt is published in the receipts directory itself. -/
theorem jsonOutputParent_receiptPath (resolved : store.Resolved)
    (named : store.receiptPath receipt.receiptId = .ok path) :
    jsonOutputParent path = .ok (store.receiptsDirectory, receipt.receiptId ++ ".json") := by
  obtain ⟨valid, rfl⟩ := receiptPath_eq_ok_iff.mp named
  have directory := receiptsDirectory_named store
  have text : directoryText (components store.receiptsDirectory) ≠ "" := by
    rw [resolved]
    intro empty
    rw [empty] at directory
    exact directory (by decide)
  rw [jsonOutputParent_joinPath (plainName_receipt valid) directory text, resolved]

omit [Sha2] [JsonDiagnostics] in
theorem PlainName.ne_empty {name : String} (plain : PlainName name) : name ≠ "" := by
  intro same
  subst same
  exact absurd plain.component (by decide)

omit [Sha2] [JsonDiagnostics] in
/-- The receipts and the temporary file of one of them have different names. -/
theorem receiptPath_ne_temporary {receiptId other temporary : String} {created : Disk}
    (resolved : store.Resolved) (named : store.receiptPath receipt.receiptId = .ok path)
    (allocates : Allocates process faults path sequence disk temporary created)
    (elsewhere : store.receiptPath receiptId = .ok other) : other ≠ temporary := by
  have parts := jsonOutputParent_receiptPath resolved named
  obtain ⟨checked, parent, name, next, _, split, allocated⟩ := allocates
  rw [parts] at split
  cases split
  obtain ⟨⟨number, rfl⟩, _⟩ := allocation_ok allocated
  obtain ⟨temporary, shape, _, dot, _⟩ := jsonAllocation_plain process number parts
  obtain ⟨valid, rfl⟩ := receiptPath_eq_ok_iff.mp elsewhere
  obtain ⟨digest, rfl, _⟩ := validateReceiptId_eq_ok_iff.mp valid
  rw [shape]
  intro same
  rw [← joinPath_injective _ same] at dot
  simp [String.toList_append] at dot

omit [Sha2] [JsonDiagnostics] in
/-- The temporary file of a receipt is in the receipts directory. -/
theorem temporary_in_receiptsDirectory {temporary : String} {created : Disk}
    (resolved : store.Resolved) (named : store.receiptPath receipt.receiptId = .ok path)
    (allocates : Allocates process faults path sequence disk temporary created) :
    ∃ name, PlainName name ∧ temporary = joinPath store.receiptsDirectory name := by
  have parts := jsonOutputParent_receiptPath resolved named
  obtain ⟨checked, parent, name, next, _, split, allocated⟩ := allocates
  rw [parts] at split
  cases split
  obtain ⟨⟨number, rfl⟩, _⟩ := allocation_ok allocated
  obtain ⟨temporary, shape, plain, _⟩ := jsonAllocation_plain process number parts
  exact ⟨temporary, plain, shape⟩

omit [Sha2] in
/-- Writing a receipt leaves the files of receipts alone, or creates its own. -/
theorem writeReceipt_receipts (resolved : store.Resolved) {receiptId other : String}
    (elsewhere : store.receiptPath receiptId = .ok other) :
    (store.writeReceipt process faults receipt sequence disk).2.2.lookup other =
        disk.lookup other ∨
      receiptId = receipt.receiptId ∧
        readReceiptFile (store.writeReceipt process faults receipt sequence disk).2.2 other =
          .ok receipt := by
  unfold StateStore.writeReceipt
  cases named : store.receiptPath receipt.receiptId with
  | error error => exact .inl rfl
  | ok path =>
      simp only
      split
      · exact .inl rfl
      rename_i small
      split
      · -- The name is taken, and the file there decides.
        split
        · exact .inl rfl
        · split <;> exact .inl rfl
      obtain ⟨valid, target⟩ := receiptPath_eq_ok_iff.mp named
      have reached {receiptId other : String} (named : store.receiptPath receiptId = .ok other) :
          store.receiptsDirectory.toList.length < other.toList.length := by
        obtain ⟨valid, rfl⟩ := receiptPath_eq_ok_iff.mp named
        exact length_lt_joinPath _ (plainName_receipt valid).ne_empty
      have publication := @writeJsonAtomic_publication disk faults path _ _ process sequence
        (toVecPretty receipt) (jsonOutputParent_receiptPath resolved named) (reached named)
      cases written : writeJsonAtomic process faults path (toVecPretty receipt) sequence disk with
      | mk result rest =>
          rw [written] at publication
          cases publication with
          | unallocated _ kept => exact .inl (kept other (reached elsewhere))
          | interrupted allocates _ kept _ =>
              exact .inl (kept other (reached elsewhere)
                (receiptPath_ne_temporary resolved named allocates elsewhere))
          | published allocates _ kept =>
              by_cases same : other = path
              · subst same
                rw [(receiptPath_eq_ok_iff.mp elsewhere).2] at target
                exact .inr ⟨(String.append_left_inj _).mp (joinPath_injective _ target),
                  readReceiptFile_receiptFile (Nat.not_lt.mp small) (writeJsonAtomic_ok written).2⟩
              · exact .inl (kept other (reached elsewhere) same
                  (receiptPath_ne_temporary resolved named allocates elsewhere))

omit [Sha2] in
private theorem durableWrite_failed {error : TaskError} :
    DurableWrite store disk receipt (.error error) disk where
  readable := fun _ found => by cases found
  unchanged := fun _ _ _ _ => rfl
  others := fun _ _ _ _ => rfl

omit [Sha2] in
private theorem writeReceipt_adopted {existing : Receipt}
    (named : store.receiptPath receipt.receiptId = .ok path) (fits : Fits receipt)
    (found : faults.lookup = false) (read : readReceiptFile disk path = .ok existing)
    (same : existing.canonicalDigest = receipt.canonicalDigest) :
    store.writeReceipt process faults receipt sequence disk = (.ok path, sequence, disk) := by
  have small : ¬(toVecPretty receipt).length + 1 > maxReceiptBytes := Nat.not_lt.mpr fits
  obtain ⟨content, stored, _⟩ := readReceiptFile_eq_ok_iff.mp read
  have taken : disk.pathExists path = true := by simp [Disk.pathExists, stored]
  simp only [StateStore.writeReceipt, named, if_neg small, found, taken, Bool.not_false,
    Bool.and_self, if_true, read, if_pos same]

omit [Sha2] in
/-- A receipt whose name is taken: nothing is written, and the file there decides. -/
theorem writeReceipt_taken_iff (named : store.receiptPath receipt.receiptId = .ok path)
    (fits : Fits receipt) (found : faults.lookup = false) (taken : disk.pathExists path = true) :
    DurableWrite store disk receipt (store.writeReceipt process faults receipt sequence disk).1
        (store.writeReceipt process faults receipt sequence disk).2.2 ↔
      ¬AdoptsAnother store faults receipt disk := by
  have small : ¬(toVecPretty receipt).length + 1 > maxReceiptBytes := Nat.not_lt.mpr fits
  have adopts : AdoptsAnother store faults receipt disk ↔ ∃ existing,
      readReceiptFile disk path = .ok existing ∧
      existing.canonicalDigest = receipt.canonicalDigest ∧ existing ≠ receipt := by
    simp [AdoptsAnother, fits, found, named]
  rw [adopts]
  cases read : readReceiptFile disk path with
  | error error =>
      have failed : store.writeReceipt process faults receipt sequence disk =
          (.error error, sequence, disk) := by
        simp only [StateStore.writeReceipt, named, if_neg small, found, taken, Bool.not_false,
          Bool.and_self, if_true, read]
      rw [failed]
      refine iff_of_true durableWrite_failed ?_
      intro durable
      obtain ⟨_, stored, _⟩ := durable
      cases stored
  | ok existing =>
      simp only [Except.ok.injEq, exists_eq_left']
      by_cases same : existing.canonicalDigest = receipt.canonicalDigest
      · rw [writeReceipt_adopted named fits found read same]
        simp only [same, true_and, not_not]
        constructor
        · intro durable
          have reread := durable.readable path rfl
          rw [readReceipt_of_receiptPath named, read] at reread
          cases reread
          rfl
        · intro same
          subst same
          refine ⟨?_, (fun _ failed => by cases failed), fun _ _ _ _ => rfl⟩
          intro other written
          cases written
          rw [readReceipt_of_receiptPath named, read]
          rfl
      · have failed : store.writeReceipt process faults receipt sequence disk =
            (.error (TaskError.receipt ("receipt id collision at " ++ path)), sequence, disk) := by
          simp only [StateStore.writeReceipt, named, if_neg small, found, taken, Bool.not_false,
            Bool.and_self, if_true, read, if_neg same]
        rw [failed]
        exact iff_of_true durableWrite_failed fun another => same another.1

omit [Sha2] in
/-- A receipt whose name is free, or not seen to be taken: it is published. -/
theorem writeReceipt_fresh_iff (resolved : store.Resolved)
    (named : store.receiptPath receipt.receiptId = .ok path) (fits : Fits receipt)
    (fresh : faults.lookup = true ∨ disk.pathExists path = false) :
    DurableWrite store disk receipt (store.writeReceipt process faults receipt sequence disk).1
        (store.writeReceipt process faults receipt sequence disk).2.2 ↔
      ¬LeavesTemporary store process faults receipt sequence disk := by
  have small : ¬(toVecPretty receipt).length + 1 > maxReceiptBytes := Nat.not_lt.mpr fits
  have unseen : (!faults.lookup && disk.pathExists path) = false := by
    rcases fresh with failed | absent
    · simp [failed]
    · simp [absent]
  have leaves : LeavesTemporary store process faults receipt sequence disk ↔
      faults.remove ≠ none ∧ ∃ temporary created,
        Allocates process faults path sequence disk temporary created ∧
        Interrupts faults path disk := by
    simp [LeavesTemporary, fits, fresh, named]
  have parts := jsonOutputParent_receiptPath resolved named
  have reached : ∀ {name}, PlainName name → store.receiptsDirectory.toList.length <
      (joinPath store.receiptsDirectory name).toList.length :=
    fun plain => length_lt_joinPath _ plain.ne_empty
  have target := (receiptPath_eq_ok_iff.mp named).2
  have publication := @writeJsonAtomic_publication disk faults path _ _ process sequence
    (toVecPretty receipt) parts
    (target ▸ reached (plainName_receipt (receiptPath_eq_ok_iff.mp named).1))
  rw [leaves]
  simp only [StateStore.writeReceipt, named, if_neg small, unseen, Bool.false_eq_true, if_false]
  cases written : writeJsonAtomic process faults path (toVecPretty receipt) sequence disk with
  | mk result rest =>
      obtain ⟨next, after⟩ := rest
      rw [written] at publication
      have otherReached : ∀ {receiptId other}, store.receiptPath receiptId = .ok other →
          store.receiptsDirectory.toList.length < other.toList.length := by
        intro receiptId other elsewhere
        obtain ⟨valid, rfl⟩ := receiptPath_eq_ok_iff.mp elsewhere
        exact reached (plainName_receipt valid)
      cases publication with
      | @unallocated error _ never kept =>
          simp only
          refine iff_of_true ⟨(fun _ found => by cases found), fun _ _ name plain =>
            kept _ (reached plain), fun _ _ elsewhere _ => kept _ (otherReached elsewhere)⟩ ?_
          intro published
          obtain ⟨_, temporary, created, allocates, _⟩ := published
          exact never ⟨temporary, created, allocates⟩
      | @published temporary created _ allocates calm kept =>
          simp only
          refine iff_of_true ⟨?_, (fun _ failed => by cases failed), ?_⟩
            fun leaving => calm leaving.2.choose_spec.choose_spec.2
          · intro other found
            cases found
            rw [readReceipt_of_receiptPath named,
              readReceiptFile_receiptFile fits (writeJsonAtomic_ok written).2]
            rfl
          · intro receiptId other elsewhere different
            refine kept other (otherReached elsewhere) ?_
              (receiptPath_ne_temporary resolved named allocates elsewhere)
            intro same
            subst same
            rw [(receiptPath_eq_ok_iff.mp elsewhere).2] at target
            exact different ((String.append_left_inj _).mp (joinPath_injective _ target))
      | @interrupted error temporary created _ allocates fault kept left =>
          simp only
          constructor
          · intro durable fails
            obtain ⟨removal, _⟩ := fails
            obtain ⟨name, plain, rfl⟩ := temporary_in_receiptsDirectory resolved named allocates
            exact removal (left.mp (durable.unchanged _ rfl name plain))
          · intro cleaned
            have removed : faults.remove = none := by
              by_contra failing
              exact cleaned ⟨failing, temporary, created, allocates, fault⟩
            refine ⟨(fun _ found => by cases found), ?_, fun receiptId other elsewhere _ =>
              kept other (otherReached elsewhere)
                (receiptPath_ne_temporary resolved named allocates elsewhere)⟩
            intro _ _ name plain
            by_cases same : joinPath store.receiptsDirectory name = temporary
            · rw [same]
              exact left.mpr removed
            · exact kept _ (reached plain) same

/-- Writing a receipt is durable except in two situations: another receipt that
states the same digest already has its name, or the environment fails the
publication and then the removal of its temporary file too. -/
theorem writeReceipt_durable_iff (resolved : store.Resolved) (payload : ReceiptPayload) :
    DurableWrite store disk (buildReceipt payload)
        (store.writeReceipt process faults (buildReceipt payload) sequence disk).1
        (store.writeReceipt process faults (buildReceipt payload) sequence disk).2.2 ↔
      ¬AdoptsAnother store faults (buildReceipt payload) disk ∧
        ¬LeavesTemporary store process faults (buildReceipt payload) sequence disk := by
  have named : store.receiptPath (buildReceipt payload).receiptId =
      .ok (joinPath store.receiptsDirectory ((buildReceipt payload).receiptId ++ ".json")) :=
    receiptPath_eq_ok_iff.mpr ⟨validateReceiptId_of_digest _, rfl⟩
  by_cases fits : Fits (buildReceipt payload)
  · by_cases fresh : faults.lookup = true ∨ disk.pathExists
        (joinPath store.receiptsDirectory ((buildReceipt payload).receiptId ++ ".json")) = false
    · rw [writeReceipt_fresh_iff resolved named fits fresh, iff_and_self]
      intro _ adopted
      obtain ⟨_, found, path, existing, same, read, _⟩ := adopted
      rw [named] at same
      cases same
      obtain ⟨content, stored, _⟩ := readReceiptFile_eq_ok_iff.mp read
      simp [found, Disk.pathExists, stored] at fresh
    · have taken := fresh
      rw [not_or, Bool.not_eq_true, Bool.not_eq_false] at taken
      rw [writeReceipt_taken_iff named fits taken.1 taken.2, iff_self_and]
      intro _ published
      obtain ⟨_, _, path, temporary, created, same, absent, _⟩ := published
      rw [named] at same
      cases same
      exact fresh absent
  · have large : (toVecPretty (buildReceipt payload)).length + 1 > maxReceiptBytes :=
      Nat.lt_of_not_le fits
    have failed : store.writeReceipt process faults (buildReceipt payload) sequence disk =
        (.error (TaskError.receipt "receipt exceeds the 4 MiB persistence safety bound"),
          sequence, disk) := by
      simp only [StateStore.writeReceipt, named, if_pos large]
    rw [failed]
    exact iff_of_true durableWrite_failed ⟨fun adopts => fits adopts.1, fun leaves => fits leaves.1⟩

end Receipts

/-! A file that states the digest of one receipt over the payload of another. -/

/-- The payload of a run that selected nothing, with a better outcome. -/
def improvedPayload : ReceiptPayload := { idlePayload with outcome := .passed }

def disguisedReceipt : Receipt := { idleReceipt with payload := improvedPayload }

def disguisedDisk : Disk :=
  Disk.empty.create (joinPath (joinPath "/state" "receipts") (idleReceipt.receiptId ++ ".json"))
    (.file (receiptFile disguisedReceipt) none)

section Sample

private theorem length_idlePayload_pretty_fields :
    (utf8 (Json.Value.renderMembers .pretty 1 idlePayload.fields)).length ≤ 400000 ∧
      (utf8 (Json.Value.renderMembers .pretty 1 improvedPayload.fields)).length ≤ 400000 := by
  have room : 4 * Json.Value.roomMembers .pretty 1 idlePayload.fields ≤ 400000 ∧
      4 * Json.Value.roomMembers .pretty 1 improvedPayload.fields ≤ 400000 := by
    decide +kernel
  exact ⟨(Json.Value.length_utf8_renderMembers_le 1 _).trans room.1,
    (Json.Value.length_utf8_renderMembers_le 1 _).trans room.2⟩

attribute [local instance] standardSha2 endOfInputDiagnostics

theorem idleReceipt_fits : Fits idleReceipt :=
  fits_buildReceipt idlePayload (length_idlePayload_pretty_fields.1.trans (by decide))

private theorem disguisedReceipt_fits : Fits disguisedReceipt :=
  fits_of_members (length_receiptId_buildReceipt idlePayload) (sha256Bytes_length _)
    (length_idlePayload_pretty_fields.2.trans (by decide))

private theorem disguisedReceipt_ne : disguisedReceipt ≠ idleReceipt := fun same =>
  absurd (congrArg (fun receipt => receipt.payload.outcome) same) (by decide)

/-- Writing the receipt succeeds and leaves the other one under its identifier. -/
theorem writeReceipt_adopts_another : ∃ path,
    (StateStore.writeReceipt ⟨"/state"⟩ 1 .none idleReceipt 0 disguisedDisk).1 = .ok path ∧
      StateStore.readReceipt ⟨"/state"⟩
        (StateStore.writeReceipt ⟨"/state"⟩ 1 .none idleReceipt 0 disguisedDisk).2.2
        idleReceipt.receiptId = .ok (disguisedReceipt, path) ∧
      disguisedReceipt.payload.outcome = .passed ∧ idleReceipt.payload.outcome = .incomplete ∧
      ¬DurableWrite ⟨"/state"⟩ disguisedDisk idleReceipt
        (StateStore.writeReceipt ⟨"/state"⟩ 1 .none idleReceipt 0 disguisedDisk).1
        (StateStore.writeReceipt ⟨"/state"⟩ 1 .none idleReceipt 0 disguisedDisk).2.2 := by
  let path := joinPath (joinPath "/state" "receipts") (idleReceipt.receiptId ++ ".json")
  have named : StateStore.receiptPath ⟨"/state"⟩ idleReceipt.receiptId = .ok path :=
    receiptPath_eq_ok_iff.mpr ⟨validateReceiptId_of_digest _, rfl⟩
  have read : readReceiptFile disguisedDisk path = .ok disguisedReceipt :=
    readReceiptFile_receiptFile disguisedReceipt_fits (FileSystem.lookup_create_self _ _)
  have written : StateStore.writeReceipt ⟨"/state"⟩ 1 .none idleReceipt 0 disguisedDisk =
      (.ok path, 0, disguisedDisk) :=
    writeReceipt_adopted named idleReceipt_fits rfl read rfl
  have reread : StateStore.readReceipt ⟨"/state"⟩ disguisedDisk idleReceipt.receiptId =
      .ok (disguisedReceipt, path) := by
    rw [readReceipt_of_receiptPath named]
    exact congrArg (Except.map _) read
  rw [written]
  refine ⟨_, rfl, reread, rfl, rfl, fun durable => ?_⟩
  have own := durable.readable _ rfl
  rw [reread] at own
  exact disguisedReceipt_ne (congrArg Prod.fst (Except.ok.inj own))

theorem resolved_state : StateStore.Resolved ⟨"/state"⟩ := by
  unfold StateStore.Resolved
  decide

/-- A store in which the receipt is already. -/
def heldDisk : Disk :=
  Disk.empty.create (joinPath (joinPath "/state" "receipts") (idleReceipt.receiptId ++ ".json"))
    (.file (receiptFile idleReceipt) none)

/-- The same receipt may be written again. -/
theorem writeReceipt_durable_iff_repeated : ∃ path,
    (StateStore.writeReceipt ⟨"/state"⟩ 1 .none (buildReceipt idlePayload) 0 heldDisk).1 = .ok path ∧
      DurableWrite ⟨"/state"⟩ heldDisk (buildReceipt idlePayload)
        (StateStore.writeReceipt ⟨"/state"⟩ 1 .none (buildReceipt idlePayload) 0 heldDisk).1
        (StateStore.writeReceipt ⟨"/state"⟩ 1 .none (buildReceipt idlePayload) 0 heldDisk).2.2 := by
  let path := joinPath (joinPath "/state" "receipts") (idleReceipt.receiptId ++ ".json")
  have named : StateStore.receiptPath ⟨"/state"⟩ idleReceipt.receiptId = .ok path :=
    receiptPath_eq_ok_iff.mpr ⟨validateReceiptId_of_digest _, rfl⟩
  have read : readReceiptFile heldDisk path = .ok idleReceipt :=
    readReceiptFile_receiptFile idleReceipt_fits (FileSystem.lookup_create_self _ _)
  have written : StateStore.writeReceipt ⟨"/state"⟩ 1 .none idleReceipt 0 heldDisk =
      (.ok path, 0, heldDisk) :=
    writeReceipt_adopted named idleReceipt_fits rfl read rfl
  refine ⟨path, congrArg Prod.fst written, ?_⟩
  refine (writeReceipt_durable_iff resolved_state idlePayload).mpr ⟨?_, fun leaves => leaves.2.1 rfl⟩
  rintro ⟨_, _, other, existing, same, found, _, different⟩
  obtain rfl : path = other := Except.ok.inj (named.symm.trans same)
  exact different (Except.ok.inj (found.symm.trans read))

end Sample

end TaskAttest
