import TaskAttest.ReceiptDocument

/-! The strict reader accepts exactly the encodings of receipts. -/

set_option autoImplicit false

namespace TaskAttest

open Json

/-! The visitor finds a repeated key at any depth. -/

mutual
private theorem visit_iff : ∀ value : Value, visit value = true ↔ value.UniqueKeys
  | .null | .bool _ | .number _ | .float _ | .string _ => by simp [visit, Value.UniqueKeys]
  | .array elements => by
      simp only [visit, Value.UniqueKeys]
      exact visitSeq_iff elements
  | .object members => by
      simp only [visit, Value.UniqueKeys, visitMap_iff [] members]
      simp
private theorem visitSeq_iff : ∀ elements : List Value,
    visitSeq elements = true ↔ Value.UniqueKeysElements elements
  | [] => by simp [visitSeq, Value.UniqueKeysElements]
  | element :: rest => by
      simp only [visitSeq, Bool.and_eq_true, Value.UniqueKeysElements, visit_iff element,
        visitSeq_iff rest]
private theorem visitMap_iff : ∀ (keys : List String) (members : Members),
    visitMap keys members = true ↔
      (∀ key ∈ members.map Prod.fst, key ∉ keys) ∧ (members.map Prod.fst).Nodup ∧
        Value.UniqueKeysMembers members
  | keys, [] => by simp [visitMap, Value.UniqueKeysMembers]
  | keys, (key, value) :: rest => by
      simp only [visitMap]
      split
      · rename_i repeated
        simp [repeated]
      · rename_i fresh
        simp only [Bool.and_eq_true, visit_iff value, visitMap_iff (key :: keys) rest,
          List.map_cons, List.mem_cons, forall_eq_or_imp, List.nodup_cons,
          Value.UniqueKeysMembers, not_or]
        constructor
        · intro parts
          obtain ⟨unique, later, distinct, others⟩ := parts
          exact ⟨⟨fresh, fun other member => (later other member).2⟩,
            ⟨fun member => (later key member).1 rfl, distinct⟩, unique, others⟩
        · intro parts
          obtain ⟨⟨_, later⟩, ⟨absent, distinct⟩, unique, others⟩ := parts
          refine ⟨unique, fun other member => ⟨?_, later other member⟩, distinct, others⟩
          intro same
          subst same
          exact absent member
end

/-- The three passes together compare the tree with the encoding of the receipt. -/
theorem accepted_iff {document : Value} {receipt : Receipt} :
    (visit document = true ∧ deserialize document = some receipt ∧
        document.normalize = (serialize receipt).normalize) ↔
      document.UniqueKeys ∧ (serialize receipt).SameTree document := by
  rw [visit_iff]
  constructor
  · intro parts
    obtain ⟨unique, _, normalized⟩ := parts
    exact ⟨unique, (Value.normalize_eq_iff_sameTree (Codec.uniqueKeys receipt) unique).mp
      normalized.symm⟩
  · intro parts
    obtain ⟨unique, same⟩ := parts
    exact ⟨unique, Codec.deserialize_of_sameTree same unique,
      ((Value.normalize_eq_iff_sameTree (Codec.uniqueKeys receipt) unique).mpr same).symm⟩

private theorem receipt_depth_of_sameTree {document : Value} {receipt : Receipt}
    (same : (serialize receipt).SameTree document) : document.depth ≤ recursionLimit := by
  rw [Value.depth_eq_of_sameTree same]
  exact (Codec.depth_le receipt).trans (by decide)

/-- An accepted tree determines its receipt. -/
theorem receipt_eq_of_sameTree {document : Value} {left right : Receipt}
    (leftSame : (serialize left).SameTree document)
    (rightSame : (serialize right).SameTree document) : left = right := by
  have leftNormal := Value.normalize_eq_of_sameTree leftSame (Codec.uniqueKeys left)
  have rightNormal := Value.normalize_eq_of_sameTree rightSame (Codec.uniqueKeys right)
  exact eq_of_sameTree ((Value.normalize_eq_iff_sameTree (Codec.uniqueKeys left)
    (Codec.uniqueKeys right)).mp (leftNormal.trans rightNormal.symm))

/-- An encoding has the declared members and no others. -/
theorem members_of_sameTree {document : Value} {receipt : Receipt}
    (same : (serialize receipt).SameTree document) :
    ∃ members, document = .object members ∧
      (members.map Prod.fst).Perm (Receipt.ownNames ++ ReceiptPayload.fieldNames) := by
  simp only [serialize, Value.SameTree] at same
  obtain ⟨members, rfl, related⟩ := same
  exact ⟨members, rfl, related.keys_perm.symm⟩

/-- The bytes are a document of the receipt: its members in any order, within the bound. -/
def Encodes (bytes : List UInt8) (receipt : Receipt) : Prop :=
  bytes.length ≤ maxReceiptBytes ∧ ∃ document, IsText bytes document ∧ document.UniqueKeys ∧
    (serialize receipt).SameTree document

variable [JsonDiagnostics]

/-- What one successful run of the three passes has established. -/
theorem parseReceiptDocument_eq_ok_iff {bytes : List UInt8} {receipt : Receipt} :
    parseReceiptDocument bytes = .ok receipt ↔
      bytes.length ≤ maxReceiptBytes ∧ ∃ document, parse recursionLimit bytes = some document ∧
        visit document = true ∧ deserialize document = some receipt ∧
        document.normalize = (serialize receipt).normalize := by
  unfold parseReceiptDocument rejectDuplicateObjectKeys fromSlice toValue
  by_cases large : bytes.length > maxReceiptBytes
  · simp only [large, if_true, throw, throwThe, MonadExceptOf.throw, bind, Except.bind,
      reduceCtorEq, false_iff, not_and]
    intro small
    omega
  · have small : bytes.length ≤ maxReceiptBytes := Nat.le_of_not_lt large
    cases read : parse recursionLimit bytes with
    | none => simp [large, bind, Except.bind]
    | some document =>
        cases distinct : visit document with
        | false => simp [large, bind, Except.bind, distinct]
        | true =>
            cases typed : deserialize (α := Receipt) document with
            | none => simp [large, bind, Except.bind, typed, distinct]
            | some found =>
                simp only [large, if_false, bind, Except.bind, pure, Except.pure, distinct,
                  if_true, Option.bind_some, typed, throw, throwThe, MonadExceptOf.throw, small,
                  true_and, Option.some.injEq, exists_eq_left']
                by_cases same : document.normalize = (serialize found).normalize
                · simp only [same, ne_eq, not_true_eq_false, if_false, Except.ok.injEq]
                  constructor
                  · intro same
                    subst same
                    exact ⟨rfl, rfl⟩
                  · exact fun accepted => accepted.1
                · simp only [ne_eq, same, not_false_eq_true, if_true, reduceCtorEq, false_iff,
                    not_and]
                  intro same
                  subst same
                  exact same

theorem parseReceiptDocument_iff {bytes : List UInt8} {receipt : Receipt} :
    parseReceiptDocument bytes = .ok receipt ↔ Encodes bytes receipt := by
  rw [parseReceiptDocument_eq_ok_iff, Encodes]
  refine and_congr_right fun _ => exists_congr fun document => ?_
  rw [accepted_iff]
  constructor
  · intro parsed
    obtain ⟨read, unique, same⟩ := parsed
    exact ⟨⟨_, read⟩, unique, same⟩
  · intro parsed
    obtain ⟨text, unique, same⟩ := parsed
    exact ⟨text.parse (receipt_depth_of_sameTree same), unique, same⟩

/-- Either layout of a receipt that fits, with any whitespace around it, is read back. -/
theorem parseReceiptDocument_render (layout : Layout) (receipt : Receipt)
    {before after : List Char} (beforeBlank : ∀ character ∈ before, isWhitespace character = true)
    (afterBlank : ∀ character ∈ after, isWhitespace character = true)
    (fits : (utf8 (before ++ (serialize receipt).render layout 0 ++ after)).length ≤
      maxReceiptBytes) :
    parseReceiptDocument (utf8 (before ++ (serialize receipt).render layout 0 ++ after)) =
      .ok receipt := by
  refine parseReceiptDocument_iff.mpr ⟨fits, serialize receipt, ⟨recursionLimit, ?_⟩,
    Codec.uniqueKeys receipt, Value.sameTree_refl _⟩
  exact parse_render layout (by decide) beforeBlank afterBlank receipt

omit [JsonDiagnostics] in
/-- The size of a receipt's document, from the sizes of its own two fields and of
the payload's members. -/
theorem length_render_receipt_le (layout : Layout) (receipt : Receipt) :
    (utf8 ((serialize receipt).render layout 0)).length ≤
      24 * (receipt.receiptId.toList.length + receipt.canonicalDigest.toList.length) + 200 +
        4 * (2 * (layout.line 1).length + 2 * layout.colon.length + (layout.line 0).length) +
        (utf8 (Value.renderMembers layout 1 receipt.payload.fields)).length := by
  have shape : (serialize receipt).render layout 0 =
      ['{'] ++ layout.line 1 ++ renderString "receipt_id" ++ [':'] ++ layout.colon ++
        renderString receipt.receiptId ++ [','] ++ layout.line 1 ++
        renderString "canonical_digest" ++ [':'] ++ layout.colon ++
        renderString receipt.canonicalDigest ++
        Value.renderMembers layout 1 receipt.payload.fields ++ layout.line 0 ++ ['}'] := by
    have encoded : serialize receipt = .object (("receipt_id", .string receipt.receiptId) ::
      ("canonical_digest", .string receipt.canonicalDigest) :: receipt.payload.fields) := rfl
    rw [encoded]
    simp [Value.render, Value.renderMembers]
  have idText := (length_utf8_le _).trans
    (Nat.mul_le_mul_left 4 (length_renderString_le receipt.receiptId))
  have digestText := (length_utf8_le _).trans
    (Nat.mul_le_mul_left 4 (length_renderString_le receipt.canonicalDigest))
  have firstLine := length_utf8_le (layout.line 1)
  have lastLine := length_utf8_le (layout.line 0)
  have colonText := length_utf8_le layout.colon
  have idKey : (utf8 (renderString "receipt_id")).length ≤ 48 := by decide
  have digestKey : (utf8 (renderString "canonical_digest")).length ≤ 72 := by decide
  have brace : (utf8 ['{']).length = 1 := by decide
  have close : (utf8 ['}']).length = 1 := by decide
  have colon : (utf8 [':']).length = 1 := by decide
  have comma : (utf8 [',']).length = 1 := by decide
  simp only [shape, utf8_append, List.length_append]
  omega

theorem parseReceiptDocument_toVec (receipt : Receipt)
    (fits : (toVec receipt).length ≤ maxReceiptBytes) :
    parseReceiptDocument (toVec receipt) = .ok receipt := by
  have read := @parseReceiptDocument_render _ .compact receipt [] [] (by simp) (by simp)
  simp only [List.nil_append, List.append_nil] at read
  exact read fits

/-- The document that is stored: the pretty encoding and a newline. -/
theorem parseReceiptDocument_toVecPretty (receipt : Receipt) {ending : List Char}
    (blank : ∀ character ∈ ending, isWhitespace character = true)
    (fits : (toVecPretty receipt ++ utf8 ending).length ≤ maxReceiptBytes) :
    parseReceiptDocument (toVecPretty receipt ++ utf8 ending) = .ok receipt := by
  have read := @parseReceiptDocument_render _ .pretty receipt [] ending (by simp) blank
  rw [List.nil_append, utf8_append] at read
  exact read fits

/-- The reader's language is exactly the set of receipt encodings: members in
any order and nothing else changed. -/
theorem parseReceiptDocument_exact :
    (∀ bytes receipt, parseReceiptDocument bytes = .ok receipt ↔
      bytes.length ≤ 4 * 1024 * 1024 ∧ ∃ document, IsText bytes document ∧
        document.UniqueKeys ∧ (serialize receipt).SameTree document) ∧
    (∀ (document : Value) (left right : Receipt), (serialize left).SameTree document →
      (serialize right).SameTree document → left = right) ∧
    (∀ bytes receipt, parseReceiptDocument bytes = .ok receipt →
      ∃ members, IsText bytes (.object members) ∧
        (members.map Prod.fst).Perm (Receipt.ownNames ++ ReceiptPayload.fieldNames)) ∧
    ∀ receipt,
      ((toVec receipt).length ≤ 4 * 1024 * 1024 →
        parseReceiptDocument (toVec receipt) = .ok receipt) ∧
      ∀ ending : List Char, (∀ character ∈ ending, isWhitespace character = true) →
        (toVecPretty receipt ++ utf8 ending).length ≤ 4 * 1024 * 1024 →
        parseReceiptDocument (toVecPretty receipt ++ utf8 ending) = .ok receipt := by
  refine ⟨fun bytes receipt => parseReceiptDocument_iff,
    fun document left right => receipt_eq_of_sameTree, ?_, fun receipt =>
      ⟨parseReceiptDocument_toVec receipt, fun ending => parseReceiptDocument_toVecPretty receipt⟩⟩
  intro bytes receipt accepted
  obtain ⟨_, document, text, _, same⟩ := parseReceiptDocument_iff.mp accepted
  obtain ⟨members, rfl, named⟩ := members_of_sameTree same
  exact ⟨members, text, named⟩

end TaskAttest
