import TaskAttest.Library.Json.RoundTrip

/-! The nesting limit of the reader matters only below the depth of the tree
that is read. -/

set_option autoImplicit false

namespace Json

/-- What one more unit of fuel needs to know about the nested calls. -/
private structure LimitFree (fuel : Nat) : Prop where
  value : ∀ {depth limit : Nat} {input rest : List Char} {value : Value},
    parseValue fuel depth input = some (value, rest) → value.depth ≤ limit →
      parseValue fuel limit input = some (value, rest)
  elements : ∀ {depth limit : Nat} {input rest : List Char} {elements : List Value},
    parseElements fuel depth input = some (elements, rest) →
      Value.depthElements elements ≤ limit →
      parseElements fuel limit input = some (elements, rest)
  member : ∀ {depth limit : Nat} {input rest : List Char} {key : String} {value : Value},
    parseMember fuel depth input = some (key, value, rest) → value.depth ≤ limit →
      parseMember fuel limit input = some (key, value, rest)
  members : ∀ {depth limit : Nat} {input rest : List Char} {members : Members},
    parseMembers fuel depth input = some (members, rest) →
      Value.depthMembers members ≤ limit →
      parseMembers fuel limit input = some (members, rest)

private theorem LimitFree.parseValue_succ {fuel : Nat} (nested : LimitFree fuel)
    {depth limit : Nat} {input rest : List Char} {value : Value}
    (parsed : parseValue (fuel + 1) depth input = some (value, rest))
    (shallow : value.depth ≤ limit) :
    parseValue (fuel + 1) limit input = some (value, rest) := by
  unfold parseValue at parsed ⊢
  revert parsed
  generalize skipWhitespace input = text
  intro parsed
  -- Only the two opening brackets look at the limit.
  split at parsed
  case h_5 =>
    cases depth with
    | zero => simp at parsed
    | succ depth =>
        simp only at parsed
        split at parsed
        · cases parsed
          obtain ⟨limit, rfl⟩ := Nat.exists_eq_succ_of_ne_zero (Nat.ne_of_gt shallow)
          rfl
        · simp only [Option.bind_eq_bind, Option.bind_eq_some_iff, Option.some.injEq,
            Prod.mk.injEq, Prod.exists] at parsed
          obtain ⟨element, after, first, elements, last, others, rfl, rfl⟩ := parsed
          simp only [Value.depth, Value.depthElements] at shallow
          obtain ⟨limit, rfl⟩ := Nat.exists_eq_succ_of_ne_zero (by omega : limit ≠ 0)
          have elementShallow : element.depth ≤ limit := by omega
          have othersShallow : Value.depthElements elements ≤ limit := by omega
          simp [nested.value first elementShallow, nested.elements others othersShallow]
  case h_6 =>
    cases depth with
    | zero => simp at parsed
    | succ depth =>
        simp only at parsed
        split at parsed
        · cases parsed
          obtain ⟨limit, rfl⟩ := Nat.exists_eq_succ_of_ne_zero (Nat.ne_of_gt shallow)
          rfl
        · simp only [Option.bind_eq_bind, Option.bind_eq_some_iff, Option.some.injEq,
            Prod.mk.injEq, Prod.exists] at parsed
          obtain ⟨key, value, after, first, members, last, others, rfl, rfl⟩ := parsed
          simp only [Value.depth, Value.depthMembers] at shallow
          obtain ⟨limit, rfl⟩ := Nat.exists_eq_succ_of_ne_zero (by omega : limit ≠ 0)
          have valueShallow : value.depth ≤ limit := by omega
          have othersShallow : Value.depthMembers members ≤ limit := by omega
          simp [nested.member first valueShallow, nested.members others othersShallow]
  all_goals exact parsed

private theorem LimitFree.parseElements_succ {fuel : Nat} (nested : LimitFree fuel)
    {depth limit : Nat} {input rest : List Char} {elements : List Value}
    (parsed : parseElements (fuel + 1) depth input = some (elements, rest))
    (shallow : Value.depthElements elements ≤ limit) :
    parseElements (fuel + 1) limit input = some (elements, rest) := by
  unfold parseElements at parsed ⊢
  split at parsed
  · simp only [Option.bind_eq_bind, Option.bind_eq_some_iff, Option.some.injEq, Prod.mk.injEq,
      Prod.exists] at parsed
    obtain ⟨element, after, first, elements, last, others, rfl, rfl⟩ := parsed
    simp only [Value.depthElements, Nat.max_le] at shallow
    simp [nested.value first shallow.1, nested.elements others shallow.2]
  · exact parsed
  · exact parsed

private theorem LimitFree.parseMember_succ {fuel : Nat} (nested : LimitFree fuel)
    {depth limit : Nat} {input rest : List Char} {key : String} {value : Value}
    (parsed : parseMember (fuel + 1) depth input = some (key, value, rest))
    (shallow : value.depth ≤ limit) :
    parseMember (fuel + 1) limit input = some (key, value, rest) := by
  unfold parseMember at parsed ⊢
  split at parsed
  · simp only [Option.bind_eq_bind, Option.bind_eq_some_iff, Prod.exists] at parsed ⊢
    obtain ⟨text, after, keyRead, parsed⟩ := parsed
    refine ⟨text, after, keyRead, ?_⟩
    split at parsed
    · simp only [Option.bind_eq_some_iff, Option.some.injEq, Prod.mk.injEq,
        Prod.exists] at parsed ⊢
      obtain ⟨member, last, valueRead, rfl, rfl, rfl⟩ := parsed
      exact ⟨member, last, nested.value valueRead shallow, rfl, rfl, rfl⟩
    · exact parsed
  · exact parsed

private theorem LimitFree.parseMembers_succ {fuel : Nat} (nested : LimitFree fuel)
    {depth limit : Nat} {input rest : List Char} {members : Members}
    (parsed : parseMembers (fuel + 1) depth input = some (members, rest))
    (shallow : Value.depthMembers members ≤ limit) :
    parseMembers (fuel + 1) limit input = some (members, rest) := by
  unfold parseMembers at parsed ⊢
  split at parsed
  · simp only [Option.bind_eq_bind, Option.bind_eq_some_iff, Option.some.injEq, Prod.mk.injEq,
      Prod.exists] at parsed
    obtain ⟨key, value, after, first, members, last, others, rfl, rfl⟩ := parsed
    simp only [Value.depthMembers, Nat.max_le] at shallow
    simp [nested.member first shallow.1, nested.members others shallow.2]
  · exact parsed
  · exact parsed

private theorem limitFree (fuel : Nat) : LimitFree fuel := by
  induction fuel with
  | zero =>
      constructor <;> intros <;>
        simp_all [parseValue, parseElements, parseMember, parseMembers]
  | succ fuel nested =>
      exact ⟨nested.parseValue_succ, nested.parseElements_succ, nested.parseMember_succ,
        nested.parseMembers_succ⟩

/-- A text read under one limit is read under every limit its tree respects. -/
theorem parse_limit {depth limit : Nat} {bytes : List UInt8} {value : Value}
    (parsed : parse depth bytes = some value) (shallow : value.depth ≤ limit) :
    parse limit bytes = some value := by
  simp only [parse, parseText, Option.bind_eq_bind, Option.bind_eq_some_iff, Prod.exists]
    at parsed ⊢
  obtain ⟨input, decoded, tree, rest, read, ending⟩ := parsed
  split at ending
  · cases ending
    rename_i finished
    exact ⟨input, decoded, _, rest, (limitFree _).value read shallow, if_pos finished⟩
  · cases ending

/-- The bytes are one JSON text, of any nesting, with nothing but whitespace around it. -/
def IsText (bytes : List UInt8) (value : Value) : Prop := ∃ depth, parse depth bytes = some value

theorem IsText.parse {bytes : List UInt8} {value : Value} (text : IsText bytes value)
    {limit : Nat} (shallow : value.depth ≤ limit) : parse limit bytes = some value := by
  obtain ⟨depth, parsed⟩ := text
  exact parse_limit parsed shallow

theorem IsText.unique {bytes : List UInt8} {left right : Value} (leftText : IsText bytes left)
    (rightText : IsText bytes right) : left = right := by
  have leftRead := leftText.parse (Nat.le_max_left left.depth right.depth)
  rw [rightText.parse (Nat.le_max_right left.depth right.depth)] at leftRead
  exact (Option.some.inj leftRead).symm

/-! Reordering members leaves the depth of a tree unchanged. -/

namespace Value

private theorem depthMembers_middle (before after : Members) (key : String) (value : Value) :
    depthMembers (before ++ (key, value) :: after) =
      max value.depth (depthMembers (before ++ after)) := by
  induction before with
  | nil => rfl
  | cons member rest ih =>
      obtain ⟨other, first⟩ := member
      simp only [List.cons_append, depthMembers, ih]
      omega

mutual
theorem depth_eq_of_sameTree : ∀ {left right : Value}, SameTree left right →
    right.depth = left.depth
  | .null, _, same | .bool _, _, same | .number _, _, same | .float _, _, same
  | .string _, _, same => by
      simp only [SameTree] at same
      rw [same]
  | .array elements, _, same => by
      simp only [SameTree] at same
      obtain ⟨others, rfl, related⟩ := same
      simp only [depth, depthElements_eq_of_same related]
  | .object members, _, same => by
      simp only [SameTree] at same
      obtain ⟨others, rfl, related⟩ := same
      simp only [depth, depthMembers_eq_of_same related]
private theorem depthElements_eq_of_same : ∀ {elements others : List Value},
    SameElements elements others → depthElements others = depthElements elements
  | [], _, same => by
      simp only [SameElements] at same
      rw [same]
  | element :: rest, _, same => by
      simp only [SameElements] at same
      obtain ⟨other, tail, rfl, related, remaining⟩ := same
      simp only [depthElements, depth_eq_of_sameTree related, depthElements_eq_of_same remaining]
private theorem depthMembers_eq_of_same : ∀ {members others : Members},
    SameMembers members others → depthMembers others = depthMembers members
  | [], _, same => by
      simp only [SameMembers] at same
      rw [same]
  | (key, value) :: rest, _, same => by
      simp only [SameMembers] at same
      obtain ⟨before, other, after, rfl, related, remaining⟩ := same
      simp only [depthMembers_middle, depthMembers, depth_eq_of_sameTree related,
        depthMembers_eq_of_same remaining]
end

end Value

end Json
