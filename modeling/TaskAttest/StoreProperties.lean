import TaskAttest.Store
import TaskAttest.PathProperties
import TaskAttest.ReceiptDocumentProperties
import Mathlib.Data.List.TakeWhile

/-! Laws of the store's paths, identifiers and system calls. -/

set_option autoImplicit false

namespace TaskAttest

theorem attempt_ok {α : Type} {fault : Option IoError} {operation : Except IoError α} {value : α}
    (done : attempt fault operation = .ok value) : operation = .ok value := by
  cases fault with
  | some error => cases done
  | none => exact done

/-! Paths of the store -/

namespace StateStore

theorem blobTarget_injective (store : StateStore) {left right : String}
    (same : store.blobTarget left = store.blobTarget right) : left = right :=
  joinPath_injective _ same

/-- A blob shares no name with a file in another directory of the store. -/
theorem blobTarget_ne_elsewhere (store : StateStore) (digest name : String) {directory : String}
    {first : Char} (head : directory.toList.head? = some first) (different : first ≠ 'b') :
    store.blobTarget digest ≠ joinPath (joinPath store.root directory) name := by
  have nested : ∃ rest, store.blobTarget digest = joinPath (joinPath store.root "blobs") rest := by
    obtain ⟨separator, joined⟩ := joinPath_toList (joinPath (joinPath store.root "blobs") "sha256")
    refine ⟨String.ofList ("sha256".toList ++ separator ++ digest.toList), ?_⟩
    obtain ⟨outer, outerJoined⟩ := joinPath_toList (joinPath store.root "blobs")
    apply String.toList_injective
    rw [blobTarget, blobsDirectory, joined, outerJoined, outerJoined, String.toList_ofList]
    simp
  obtain ⟨rest, shape⟩ := nested
  rw [shape]
  exact joinPath_ne_of_head 'b' first rfl head (Ne.symm different)

theorem blobTarget_ne_temporary (store : StateStore) (digest name : String) :
    store.blobTarget digest ≠ joinPath store.temporaryDirectory name :=
  store.blobTarget_ne_elsewhere digest name rfl (by decide : 't' ≠ 'b')

end StateStore

/-! Digests and identifiers -/

theorem validateSha256_eq_ok_iff {value : String} :
    validateSha256 value = .ok () ↔ isLowerHex 64 value = true := by
  unfold validateSha256
  split <;> simp_all

theorem validateSha256_sha256Bytes [Sha2] (bytes : List UInt8) :
    validateSha256 (sha256Bytes bytes) = .ok () :=
  validateSha256_eq_ok_iff.mpr (isLowerHex_sha256Bytes bytes)

private theorem stripPrefix?_eq_some_iff {pre text rest : String} :
    stripPrefix? pre text = some rest ↔ text = pre ++ rest := by
  unfold stripPrefix?
  constructor
  · intro stripped
    split at stripped
    · rename_i starts
      obtain ⟨tail, shape⟩ := List.isPrefixOf_iff_prefix.mp starts
      rw [← shape, List.drop_left, Option.some.injEq] at stripped
      apply String.toList_injective
      rw [String.toList_append, ← shape, ← stripped, String.toList_ofList]
    · cases stripped
  · intro same
    subst same
    simp [String.toList_append]

private theorem stripPrefix?_append (pre text : String) :
    stripPrefix? pre (pre ++ text) = some text :=
  stripPrefix?_eq_some_iff.mpr rfl

theorem validateReceiptId_of_digest [Sha2] (bytes : List UInt8) :
    validateReceiptId ("rcpt_" ++ sliceTo (sha256Bytes bytes) 32) = .ok () := by
  have lower := isLowerHex_slice_sha256Bytes bytes (by decide : 32 ≤ 64)
  simp [validateReceiptId, stripPrefix?_append, lower]

/-! A well-formed identifier is never taken for a path -/

/-- A text without separators and dots has at most one component and no extension. -/
theorem looksLikePath_of_plain {text : String} (noSeparator : '/' ∉ text.toList)
    (noDot : '.' ∉ text.toList) : looksLikePath text = false := by
  have parts : components text = if text.toList = [] then [] else [.normal text.toList] := by
    have notDots : text.toList ≠ ['.'] ∧ text.toList ≠ ['.', '.'] :=
      ⟨fun same => by simp [same] at noDot, fun same => by simp [same] at noDot⟩
    have pieces : components text =
        (if (splitOnChar '/' text.toList).head? = some ['.'] then [.curDir] else []) ++
          (splitOnChar '/' text.toList).filterMap componentOf := by
      unfold components
      split
      · rename_i rest shape
        rw [shape] at noSeparator
        simp at noSeparator
      · rfl
    rw [pieces, splitOnChar_of_not_mem noSeparator]
    by_cases nothing : text.toList = [] <;> simp [componentOf, nothing, notDots]
  by_cases nothing : text.toList = []
  · simp [looksLikePath, extension?, fileName?, parts, nothing]
  · have tail : (text.toList.reverse.takeWhile fun character => decide (character ≠ '.')) =
        text.toList.reverse := by
      rw [List.takeWhile_eq_self_iff]
      intro character member
      have different : character ≠ '.' := by
        intro same
        subst same
        exact noDot (List.mem_reverse.mp member)
      simp [different]
    simp only [looksLikePath, extension?, fileName?, parts, nothing, if_false,
      List.length_singleton, List.getLast?_singleton, bind, Option.bind, tail,
      List.length_reverse]
    simp

theorem not_mem_of_isLowerHex {count : Nat} {text : String} {character : Char} (code : UInt8)
    (encoded : String.utf8EncodeChar character = [code]) (other : isLowerHexByte code = false)
    (lower : isLowerHex count text = true) : character ∉ text.toList := by
  intro member
  simp only [isLowerHex, Bool.and_eq_true, List.all_eq_true] at lower
  have included : code ∈ textBytes text :=
    List.mem_flatMap.mpr ⟨character, member, by rw [encoded]; exact List.mem_singleton_self _⟩
  rw [lower.2 code included] at other
  cases other

theorem validateReceiptId_eq_ok_iff {value : String} :
    validateReceiptId value = .ok () ↔
      ∃ digest, value = "rcpt_" ++ digest ∧ isLowerHex 32 digest = true := by
  unfold validateReceiptId
  constructor
  · intro valid
    cases stripped : stripPrefix? "rcpt_" value with
    | none => rw [stripped] at valid; cases valid
    | some digest =>
        rw [stripped] at valid
        simp only at valid
        split at valid
        · rename_i lower
          exact ⟨digest, stripPrefix?_eq_some_iff.mp stripped, lower⟩
        · cases valid
  · intro shape
    obtain ⟨digest, rfl, lower⟩ := shape
    simp [stripPrefix?_append, lower]

theorem looksLikePath_of_receiptId {value : String} (valid : validateReceiptId value = .ok ()) :
    looksLikePath value = false := by
  obtain ⟨digest, rfl, lower⟩ := validateReceiptId_eq_ok_iff.mp valid
  have separator : '/' ∉ digest.toList := not_mem_of_isLowerHex 47 rfl (by decide) lower
  have dot : '.' ∉ digest.toList := not_mem_of_isLowerHex 46 rfl (by decide) lower
  apply looksLikePath_of_plain
  · rw [String.toList_append, List.mem_append]
    exact fun member => member.elim (by decide) separator
  · rw [String.toList_append, List.mem_append]
    exact fun member => member.elim (by decide) dot

/-! Reading files -/

private theorem Disk.readFile_eq_ok_iff {disk : Disk} {openAction readAction path : String}
    {content : List UInt8} :
    disk.readFile openAction readAction path = .ok content ↔
      disk.lookup path = some (.file content none) := by
  unfold Disk.readFile
  cases found : disk.lookup path with
  | none => simp
  | some entry =>
      cases entry with
      | directory => simp [Entry.read]
      | file stored failure =>
          cases failure with
          | none => simp [Entry.read]
          | some failure => cases failure <;> simp [Entry.read]

/-- A receipt is read exactly from a readable file whose whole content is its document. -/
theorem readReceiptFile_eq_ok_iff [JsonDiagnostics] {disk : Disk} {path : String}
    {receipt : Receipt} :
    readReceiptFile disk path = .ok receipt ↔
      ∃ content, disk.lookup path = some (.file content none) ∧
        parseReceiptDocument content = .ok receipt := by
  unfold readReceiptFile Disk.metadata
  cases found : disk.lookup path with
  | none => simp
  | some entry =>
      simp only [Option.some.injEq]
      cases read : disk.readFile "open receipt" "read receipt" path with
      | error error =>
          have unreadable : ∀ content, entry ≠ .file content none := by
            intro content same
            subst same
            rw [Disk.readFile_eq_ok_iff.mpr found] at read
            cases read
          simp only [unreadable, false_and, exists_false, iff_false]
          split <;> exact nofun
      | ok content =>
          have stored := Disk.readFile_eq_ok_iff.mp read
          rw [found, Option.some.injEq] at stored
          subst stored
          simp only [Entry.length, Entry.file.injEq, and_true, exists_eq_left']
          by_cases large : content.length > maxReceiptBytes
          · simp only [large, if_true, reduceCtorEq, false_iff]
            intro accepted
            exact absurd (parseReceiptDocument_iff.mp accepted).1 (Nat.not_le.mpr large)
          · have whole : content.take (maxReceiptBytes + 1) = content :=
              List.take_of_length_le (by omega)
            simp [large, whole]

theorem sha256Path_eq_ok_iff [Sha2] {disk : Disk} {path digest : String} :
    sha256Path disk path = .ok digest ↔
      ∃ content, disk.lookup path = some (.file content none) ∧ sha256Bytes content = digest := by
  unfold sha256Path
  cases read : disk.readFile "open file for hashing" "read file for hashing" path with
  | error error =>
      simp only [Except.map, reduceCtorEq, false_iff, not_exists, not_and]
      intro content stored
      rw [Disk.readFile_eq_ok_iff.mpr stored] at read
      cases read
  | ok content =>
      have stored := Disk.readFile_eq_ok_iff.mp read
      simp [Except.map, stored]

/-! Blobs -/

/-- A readable file of the given digest and length at a path. -/
def Disk.HasBlob [Sha2] (disk : Disk) (path digest : String) (bytes : UInt64) : Prop :=
  ∃ content, disk.lookup path = some (.file content none) ∧ sha256Bytes content = digest ∧
    content.length = bytes.toNat

theorem verifyExistingBlob_eq_ok_iff [Sha2] {disk : Disk} {path digest : String} {bytes : UInt64} :
    verifyExistingBlob disk path digest bytes = .ok () ↔ disk.HasBlob path digest bytes := by
  unfold verifyExistingBlob Disk.metadata Disk.HasBlob
  cases found : disk.lookup path with
  | none => simp
  | some entry =>
      simp only [Option.some.injEq]
      by_cases sized : entry.length = bytes.toNat
      · cases hashed : sha256Path disk path with
        | error error =>
            simp only [ne_eq, sized, not_true_eq_false, if_false, bind, Except.bind, reduceCtorEq,
              false_iff, not_exists, not_and]
            intro content same
            subst same
            have read := sha256Path_eq_ok_iff.mpr ⟨content, found, rfl⟩
            rw [hashed] at read
            cases read
        | ok actual =>
            obtain ⟨content, stored, rfl⟩ := sha256Path_eq_ok_iff.mp hashed
            rw [found] at stored
            cases stored
            simp only [Entry.length] at sized
            by_cases same : sha256Bytes content = digest <;>
              simp [bind, Except.bind, pure, Except.pure, throw, throwThe,
                MonadExceptOf.throw, Entry.length, sized, same]
      · simp only [ne_eq, sized, not_false_eq_true, if_true, throw, throwThe,
          MonadExceptOf.throw, bind, Except.bind, reduceCtorEq, false_iff, not_exists, not_and]
        intro content same _
        subst same
        exact sized

end TaskAttest
