import TaskAttest.Library.Ownership
import TaskAttest.DurabilityProperties
import TaskAttest.SharedRunProperties

/-! A store among the processes that share it: which names belong to all of them, which
belong to one, and what is found under a common name. -/

set_option autoImplicit false

namespace TaskAttest

open FileSystem Interleaving

/-- The names of receipts and of blobs. -/
inductive StateStore.Common (store : StateStore) : String → Prop where
  | blob {digest path : String} : store.blobPath digest = .ok path → store.Common path
  | receipt {receiptId path : String} : store.receiptPath receiptId = .ok path →
      store.Common path

/-- What is found under a common name is found there later. -/
def StateStore.Retains (store : StateStore) (before after : Disk) : Prop :=
  ∀ path entry, store.Common path → before.lookup path = some entry →
    after.lookup path = some entry

/-- The names of the temporary files that one process makes, in the store and elsewhere. -/
inductive StateStore.Owns (store : StateStore) (process : Nat) : String → Prop where
  | capture (number : Nat) (stream : String) :
      store.Owns process (capturePath store process number stream)
  | document (parent name : String) (number : Nat) :
      store.Owns process ((jsonAllocation process parent name).name number)

/-! Names -/

section Names

variable {store : StateStore} {process other number : Nat} {digest path parent name : String}

/-- Texts that begin with fields without a separator begin with the same field. -/
theorem field_unique {separator : Char} {first second : List Char} {rest others : List Char}
    (plain : separator ∉ first) (simple : separator ∉ second)
    (same : first ++ separator :: rest = second ++ separator :: others) :
    first = second ∧ rest = others := by
  have front (field tail : List Char) (absent : separator ∉ field) :
      (field ++ separator :: tail).takeWhile (· ≠ separator) = field := by
    rw [List.takeWhile_append_of_pos, List.takeWhile_cons_of_neg (by simp), List.append_nil]
    intro character member
    have different : character ≠ separator := fun same => absent (same ▸ member)
    simpa using different
  have fields : first = second := by
    rw [← front first rest plain, same, front second others simple]
  subst fields
  exact ⟨rfl, List.tail_eq_of_cons_eq (List.append_cancel_left same)⟩

theorem digits_plain {separator : Char} (notDigit : separator.isDigit = false) (number : Nat) :
    separator ∉ (toString number).toList := by
  rw [Nat.toString_eq_repr, Nat.toList_repr]
  intro member
  rw [Nat.isDigit_of_mem_toDigits (by decide) (by decide) member] at notDigit
  cases notDigit

private theorem digits_injective {first second : Nat}
    (same : (toString first).toList = (toString second).toList) : first = second := by
  rw [Nat.toString_eq_repr, Nat.toList_repr, Nat.toString_eq_repr, Nat.toList_repr] at same
  rw [← @Nat.ofDigitChars_ten_toDigits first, same, Nat.ofDigitChars_ten_toDigits]

/-- The last letters of a capture. -/
theorem capturePath_ends (process number : Nat) (stream : String) :
    ∃ front, (capturePath store process number stream).toList = front ++ ".log".toList := by
  obtain ⟨separator, joined⟩ := joinPath_toList store.temporaryDirectory
  refine ⟨store.temporaryDirectory.toList ++ separator ++ (toString process ++ "-" ++
    toString number ++ "-" ++ stream).toList, ?_⟩
  rw [capturePath, joined]
  simp only [String.toList_append, List.append_assoc]

/-- The last letters of the temporary file of a document. -/
theorem jsonAllocation_ends (process number : Nat) (parent name : String) :
    ∃ front, ((jsonAllocation process parent name).name number).toList = front ++ '.' ::
      ((toString process).toList ++ '.' :: ((toString number).toList ++ ".tmp".toList)) := by
  obtain ⟨separator, joined⟩ := joinPath_toList parent
  refine ⟨parent.toList ++ separator ++ '.' :: name.toList, ?_⟩
  rw [jsonAllocation, joined]
  simp [String.toList_append]

theorem blobPath_eq_ok_iff :
    store.blobPath digest = .ok path ↔ isLowerHex 64 digest = true ∧
      path = store.blobTarget digest := by
  rw [← validateSha256_eq_ok_iff]
  cases valid : validateSha256 digest with
  | error error => simp [StateStore.blobPath, valid, bind, Except.bind]
  | ok => simp [StateStore.blobPath, valid, bind, Except.bind, pure, Except.pure, eq_comm]

theorem StateStore.common_blob (store : StateStore) (valid : isLowerHex 64 digest = true) :
    store.Common (store.blobTarget digest) := .blob (blobPath_eq_ok_iff.mpr ⟨valid, rfl⟩)

/-- A blob ends with a digit of its digest. -/
theorem blobTarget_ends {ending front : List Char} (last : Char) (code : UInt8)
    (encoded : String.utf8EncodeChar last = [code]) (notHex : isLowerHexByte code = false)
    (valid : isLowerHex 64 digest = true) (ends : ending.getLast? = some last) :
    (store.blobTarget digest).toList ≠ front ++ ending := by
  obtain ⟨separator, joined⟩ := joinPath_toList store.blobsDirectory
  rw [StateStore.blobTarget, joined]
  intro same
  have lasts := congrArg List.getLast? same
  rw [List.getLast?_append, List.getLast?_append, List.getLast?_append, ends,
    Option.some_or] at lasts
  have nonempty : digest.toList ≠ [] := by
    intro empty
    have none : digest = "" := String.toList_injective empty
    rw [none] at valid
    exact absurd valid (by decide)
  obtain ⟨found, isLast⟩ := Option.isSome_iff_exists.mp (List.getLast?_isSome.mpr nonempty)
  rw [isLast, Option.some_or] at lasts
  cases lasts
  exact not_mem_of_isLowerHex code encoded notHex valid (List.mem_of_getLast? isLast)

/-- No process owns a common name. -/
theorem StateStore.Owns.not_common (owned : store.Owns process path) : ¬store.Common path := by
  intro common
  cases common with
  | @blob digest _ named =>
      obtain ⟨valid, rfl⟩ := blobPath_eq_ok_iff.mp named
      generalize target : store.blobTarget digest = path at owned
      have text := congrArg String.toList target
      cases owned with
      | capture number stream =>
          obtain ⟨front, ends⟩ := @capturePath_ends store process number stream
          rw [ends] at text
          exact blobTarget_ends 'g' 103 rfl (by decide) valid (by decide) text
      | document parent name number =>
          obtain ⟨front, ends⟩ := jsonAllocation_ends process number parent name
          rw [ends] at text
          refine blobTarget_ends 'p' 112 rfl (by decide) valid ?_ text
          simp [List.getLast?_append, List.getLast?_cons]
  | @receipt receiptId _ named =>
      cases owned with
      | capture number stream =>
          exact (@StateStore.outside_receipt store process _ receiptId named).capture number stream
            rfl
      | document parent name number => exact receiptPath_ne_jsonAllocation named rfl

/-- No two processes own one name. -/
theorem StateStore.Owns.process_unique (first : store.Owns process path)
    (second : store.Owns other path) : process = other := by
  have apart {process other number numbers : Nat} {stream parent name : String} :
      capturePath store process number stream ≠
        (jsonAllocation other parent name).name numbers := by
    intro same
    obtain ⟨front, ends⟩ := @capturePath_ends store process number stream
    obtain ⟨others, tail⟩ := jsonAllocation_ends other numbers parent name
    have lasts := congrArg (fun text : String => text.toList.getLast?) same
    simp [ends, tail, List.getLast?_append, List.getLast?_cons] at lasts
  generalize whole : path = text at second
  cases first with
  | capture number stream =>
      cases second with
      | capture numbers others =>
          have fields := congrArg String.toList (joinPath_injective _ whole)
          simp only [String.toList_append, List.append_assoc] at fields
          have dash := digits_plain (show '-'.isDigit = false by decide)
          exact digits_injective (field_unique (dash process) (dash other) fields).1
      | document parent name numbers => exact absurd whole apart
  | document parent name number =>
      cases second with
      | capture numbers stream => exact absurd whole.symm apart
      | document directory file numbers =>
          obtain ⟨front, ends⟩ := jsonAllocation_ends process number parent name
          obtain ⟨others, tail⟩ := jsonAllocation_ends other numbers directory file
          have fields := congrArg (fun text : String => text.toList.reverse) whole
          simp only [ends, tail, List.reverse_append, List.reverse_cons, List.append_assoc,
            List.append_cancel_left_eq] at fields
          have dot (number : Nat) : '.' ∉ (toString number).toList.reverse := by
            rw [List.mem_reverse]
            exact digits_plain (by decide) number
          have inner := (field_unique (dot number) (dot numbers) fields).2
          have found := (field_unique (dot process) (dot other) inner).1
          exact digits_injective (List.reverse_inj.mp found)

/-! Directories -/

set_option maxRecDepth 2048 in
private theorem length_of_isLowerHex {count : Nat} {text : String}
    (lower : isLowerHex count text = true) :
    text.toList.length = count := by
  have digits : ∀ code < 256, isLowerHexByte (UInt8.ofNat code) = true →
      String.utf8EncodeChar (Char.ofNat code) = [UInt8.ofNat code] := by decide
  simp only [isLowerHex, Bool.and_eq_true, beq_iff_eq, List.all_eq_true] at lower
  obtain ⟨length, hex⟩ := lower
  have decoded : text.toList = (textBytes text).map fun byte => Char.ofNat byte.toNat := by
    apply utf8_injective
    rw [utf8, utf8, List.flatMap_map]
    have each (bytes : List UInt8) (all : ∀ byte ∈ bytes, isLowerHexByte byte = true) :
        bytes.flatMap (fun byte => String.utf8EncodeChar (Char.ofNat byte.toNat)) = bytes := by
      induction bytes with
      | nil => rfl
      | cons byte rest ih =>
          obtain ⟨first, later⟩ := List.forall_mem_cons.mp all
          have one := digits byte.toNat byte.toNat_lt
          rw [UInt8.ofNat_toNat] at one
          rw [List.flatMap_cons, one first, ih later]
          rfl
    exact (each (textBytes text) hex).symm
  rw [decoded, List.length_map, length]

private theorem length_joinPath_le (base relative : String) :
    (joinPath base relative).toList.length ≤ base.toList.length + 1 + relative.toList.length := by
  unfold joinPath
  split
  · rw [String.toList_append, List.length_append]
    omega
  · rw [String.toList_append, String.toList_append, List.length_append, List.length_append,
      show "/".toList.length = 1 by decide]

private theorem length_joinPath_ge (base relative : String) :
    base.toList.length + relative.toList.length ≤ (joinPath base relative).toList.length := by
  unfold joinPath
  split <;> simp only [String.toList_append, List.length_append] <;> omega

private theorem length_receipt {receiptId : String}
    (named : store.receiptPath receiptId = .ok path) :
    (receiptId ++ ".json").toList.length = 42 := by
  obtain ⟨valid, _⟩ := receiptPath_eq_ok_iff.mp named
  obtain ⟨digest, rfl, lower⟩ := validateReceiptId_eq_ok_iff.mp valid
  rw [String.toList_append, String.toList_append, List.length_append, List.length_append,
    length_of_isLowerHex lower]
  decide

private theorem length_receiptsDirectory (store : StateStore) : ∃ separator : List Char,
    (∀ relative, (joinPath store.root relative).toList.length =
      store.root.toList.length + separator.length + relative.toList.length) ∧
    store.receiptsDirectory.toList.length = store.root.toList.length + separator.length + 8 := by
  obtain ⟨separator, joined⟩ := joinPath_toList store.root
  have lengths (relative : String) : (joinPath store.root relative).toList.length =
      store.root.toList.length + separator.length + relative.toList.length := by
    rw [joined, List.length_append, List.length_append]
  exact ⟨separator, lengths, lengths "receipts"⟩

private theorem length_blob_ge (store : StateStore) (lower : isLowerHex 64 digest = true) :
    store.receiptsDirectory.toList.length + 43 ≤ (store.blobTarget digest).toList.length := by
  obtain ⟨separator, lengths, receipts⟩ := length_receiptsDirectory store
  have blobs := lengths "blobs"
  have nested := length_joinPath_ge (joinPath store.root "blobs") "sha256"
  have target := length_joinPath_ge store.blobsDirectory digest
  rw [length_of_isLowerHex lower] at target
  have sizes : "blobs".toList.length = 5 ∧ "sha256".toList.length = 6 := by decide
  change (joinPath (joinPath store.root "blobs") "sha256").toList.length + 64 ≤
    (store.blobTarget digest).toList.length at target
  omega

/-- The names of receipts are as long as each other, and those of blobs are longer. -/
theorem StateStore.Common.length_le {receipt receiptId : String}
    (common : store.Common path) (named : store.receiptPath receiptId = .ok receipt) :
    receipt.toList.length ≤ path.toList.length := by
  have length := length_receipt named
  obtain ⟨_, rfl⟩ := receiptPath_eq_ok_iff.mp named
  cases common with
  | receipt other =>
      have same := length_receipt other
      obtain ⟨_, rfl⟩ := receiptPath_eq_ok_iff.mp other
      obtain ⟨separator, joined⟩ := joinPath_toList store.receiptsDirectory
      rw [joined, joined, List.length_append, List.length_append, List.length_append,
        List.length_append, length, same]
  | blob other =>
      obtain ⟨lower, rfl⟩ := blobPath_eq_ok_iff.mp other
      have upper := length_joinPath_le store.receiptsDirectory (receiptId ++ ".json")
      rw [length] at upper
      exact Nat.le_trans upper (by have longer := length_blob_ge store lower; omega)

theorem StateStore.Common.long (common : store.Common path) :
    store.receiptsDirectory.toList.length + 42 ≤ path.toList.length := by
  cases common with
  | receipt named =>
      have length := length_receipt named
      obtain ⟨_, rfl⟩ := receiptPath_eq_ok_iff.mp named
      rw [← length]
      exact length_joinPath_ge _ _
  | blob named =>
      obtain ⟨lower, rfl⟩ := blobPath_eq_ok_iff.mp named
      exact Nat.le_of_succ_le (length_blob_ge store lower)

/-- None of the directories that lead to an output is a common name. -/
def StateStore.PlainParents (store : StateStore) (path : String) : Prop :=
  ∀ {parent name directory : String}, jsonOutputParent path = .ok (parent, name) →
    Above directory parent → ¬store.Common directory

/-- What is shorter than a receipt is no common name. -/
theorem StateStore.not_common_of_short {short receipt receiptId : String}
    (named : store.receiptPath receiptId = .ok receipt)
    (shorter : short.toList.length < receipt.toList.length) : ¬store.Common short :=
  fun common => Nat.not_le.mpr shorter (common.length_le named)

private theorem length_outputParent_lt (parts : jsonOutputParent path = .ok (parent, name))
    (long : 1 < path.toList.length) : parent.toList.length < path.toList.length := by
  have named := jsonOutputParent_ok parts
  unfold jsonOutputParent at parts
  rw [named] at parts
  simp only at parts
  split at parts
  · cases parts
  · rename_i directory found
    simp only [Except.ok.injEq, Prod.mk.injEq] at parts
    rw [← parts.1]
    split
    · exact long
    · rename_i nonempty
      exact length_parent?_lt named found nonempty

theorem receipt_plainParents {receiptId : String}
    (named : store.receiptPath receiptId = .ok path) : store.PlainParents path := by
  intro parent name directory parts above
  have length := length_receipt named
  obtain ⟨_, shape⟩ := receiptPath_eq_ok_iff.mp named
  have under := length_joinPath_ge store.receiptsDirectory (receiptId ++ ".json")
  rw [← shape] at under
  have shorter := length_outputParent_lt parts (by omega)
  exact store.not_common_of_short named (Nat.lt_of_le_of_lt above.length_le shorter)

/-- The directories of a store are no common names, nor are those that lead there. -/
theorem store_directories_plain {directory other : String}
    (listed : directory ∈ [store.receiptsDirectory, store.blobsDirectory,
      store.temporaryDirectory]) (above : Above other directory) : ¬store.Common other := by
  intro common
  have shorter := above.length_le
  have longer := common.long
  obtain ⟨separator, lengths, receipts⟩ := length_receiptsDirectory store
  have blobs := lengths "blobs"
  have temporary := lengths "tmp"
  have nested := length_joinPath_le (joinPath store.root "blobs") "sha256"
  have sizes : "blobs".toList.length = 5 ∧ "sha256".toList.length = 6 ∧
      "tmp".toList.length = 3 := by decide
  have bound : directory.toList.length ≤ store.receiptsDirectory.toList.length + 4 := by
    simp only [List.mem_cons, List.not_mem_nil, or_false, StateStore.blobsDirectory,
      StateStore.temporaryDirectory] at listed
    rcases listed with rfl | rfl | rfl <;> omega
  omega

end Names

/-! What is found under a common name -/

/-- The part of the state of a run that it shares. -/
def RunState.sharing : Sharing RunState Disk where
  shared := RunState.disk
  place disk state := { state with disk }
  shared_place _ _ := rfl
  place_place _ _ _ := rfl
  place_shared _ := rfl

section Rule

variable [Sha2]

/-- A receipt as it is stored: of this version, under the identifier of its payload, not
too large to be read, and with the logs that it refers to. -/
structure CompleteReceipt (store : StateStore) (disk : Disk) (receiptId : String)
    (payload : ReceiptPayload) : Prop where
  schema : payload.schemaVersion = receiptSchemaVersion
  identified : (buildReceipt payload).receiptId = receiptId
  fits : Fits (buildReceipt payload)
  logs : ∀ reference ∈ payload.references, Stored store disk reference

structure StateStore.Rule (store : StateStore) (disk : Disk) (path : String) (entry : Entry) :
    Prop where
  blob : ∀ {digest : String}, store.blobPath digest = .ok path →
    ∃ content, entry = .file content none ∧ sha256Bytes content = digest
  receipt : ∀ {receiptId : String}, store.receiptPath receiptId = .ok path →
    ∃ payload, entry = .file (receiptFile (buildReceipt payload)) none ∧
      CompleteReceipt store disk receiptId payload

variable {store : StateStore} {before after : Disk} {reference : LogReference}
  {receiptId path : String} {payload : ReceiptPayload}

theorem Stored.retained (stored : Stored store before reference)
    (retains : store.Retains before after) : Stored store after reference := by
  obtain ⟨algorithm, handle, digest, content, found, same, sized⟩ := stored
  exact ⟨algorithm, handle, digest, content, retains _ _ (store.common_blob digest) found, same,
    sized⟩

theorem CompleteReceipt.retained (complete : CompleteReceipt store before receiptId payload)
    (retains : store.Retains before after) : CompleteReceipt store after receiptId payload :=
  { complete with
    logs := fun reference member => (complete.logs reference member).retained retains }

def StateStore.commons (store : StateStore) : Commons String Entry where
  common := store.Common
  rule := store.Rule
  kept := by
    intro before after path entry kept rule
    refine ⟨rule.blob, ?_⟩
    intro receiptId named
    obtain ⟨payload, shape, complete⟩ := rule.receipt named
    exact ⟨payload, shape, complete.retained fun _ _ => kept⟩

/-- A blob is no receipt. -/
theorem StateStore.rule_blob {digest : String} {content : List UInt8}
    (named : store.blobPath digest = .ok path) (hashed : sha256Bytes content = digest) :
    store.Rule before path (.file content none) where
  blob := by
    intro other also
    obtain ⟨_, shape⟩ := blobPath_eq_ok_iff.mp named
    obtain ⟨_, same⟩ := blobPath_eq_ok_iff.mp also
    rw [same] at shape
    exact ⟨content, rfl, hashed.trans (joinPath_injective _ shape).symm⟩
  receipt := by
    intro receiptId also
    obtain ⟨_, shape⟩ := blobPath_eq_ok_iff.mp named
    exact absurd shape ((@StateStore.outside_receipt store 0 path receiptId also).blob digest)

theorem StateStore.rule_receipt (named : store.receiptPath receiptId = .ok path)
    (complete : CompleteReceipt store before receiptId payload) :
    store.Rule before path (.file (receiptFile (buildReceipt payload)) none) where
  blob := by
    intro digest also
    obtain ⟨_, shape⟩ := blobPath_eq_ok_iff.mp also
    exact absurd shape ((@StateStore.outside_receipt store 0 path receiptId named).blob digest)
  receipt := by
    intro other also
    obtain ⟨_, shape⟩ := receiptPath_eq_ok_iff.mp named
    obtain ⟨_, same⟩ := receiptPath_eq_ok_iff.mp also
    rw [shape] at same
    have texts := congrArg String.toList (joinPath_injective _ same)
    rw [String.toList_append, String.toList_append] at texts
    obtain rfl := String.toList_injective (List.append_cancel_right texts)
    exact ⟨payload, rfl, complete⟩

/-! Steps -/

/-- What a process may rely on: the others leave its temporary files alone, and what is
under a common name stays there. -/
def StateStore.Others (store : StateStore) (process : Nat) : Disk → Disk → Prop :=
  Acts store.commons fun path => ¬store.Owns process path ∧ ¬store.Common path

/-- Among others that share the store, a program changes only what is under some names. -/
abbrev StateStore.Keeps (store : StateStore) (process : Nat) (names : String → Prop) {Value : Type}
    (pre : RunState → Prop) (program : RunCalls Value) (returns : Value → RunState → Prop) :
    Prop :=
  Guarantees (RunState.sharing.Changes (store.Others process))
    (RunState.sharing.On (Acts store.commons names)) pre program returns fun _ _ => True

theorem stable_others {process : Nat} {fact : Disk → Prop}
    (kept : ∀ {before after : Disk}, store.Others process before after → fact before →
      fact after) :
    Stable (RunState.sharing.Changes (store.Others process)) fun state => fact state.disk := by
  intro before after changes holds
  obtain ⟨disk, step, rfl⟩ := changes
  exact kept step holds

theorem stable_names {names : String → Prop} {fact : Disk → Prop}
    (kept : ∀ {before after : Disk}, Acts store.commons names before after → fact before →
      fact after) :
    Stable (RunState.sharing.On (Acts store.commons names)) fun state => fact state.disk :=
  fun _ _ step holds => kept step holds

end Rule

end TaskAttest
