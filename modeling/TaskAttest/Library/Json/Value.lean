import TaskAttest.Library.SortedMap
import Mathlib.Algebra.Group.Int.Defs
import Mathlib.Algebra.Group.Nat.Defs
import Mathlib.Data.String.Basic
import Mathlib.Tactic.Cases

/-! JSON trees as a tokenizer delivers them: object members keep the order and
the repetitions of the text. Floating-point numbers keep their spelling. -/

set_option autoImplicit false

namespace Json

inductive Value where
  | null
  | bool (value : Bool)
  | number (value : Int)
  | float (text : List Char)
  | string (value : String)
  | array (elements : List Value)
  | object (members : List (String × Value))

abbrev Members := List (String × Value)

namespace Value

mutual
/-- Equality of JSON trees up to the order of object members. -/
def SameTree : Value → Value → Prop
  | .null, other => other = .null
  | .bool value, other => other = .bool value
  | .number value, other => other = .number value
  | .float text, other => other = .float text
  | .string value, other => other = .string value
  | .array elements, other => ∃ others, other = .array others ∧ SameElements elements others
  | .object members, other => ∃ others, other = .object others ∧ SameMembers members others
def SameElements : List Value → List Value → Prop
  | [], others => others = []
  | element :: rest, others =>
      ∃ other tail, others = other :: tail ∧ SameTree element other ∧ SameElements rest tail
/-- Each member has a partner of the same key, at any position. -/
def SameMembers : Members → Members → Prop
  | [], others => others = []
  | (key, value) :: rest, others =>
      ∃ before other after, others = before ++ (key, other) :: after ∧
        SameTree value other ∧ SameMembers rest (before ++ after)
end

mutual
/-- No object at any depth repeats a key. -/
def UniqueKeys : Value → Prop
  | .array elements => UniqueKeysElements elements
  | .object members => (members.map Prod.fst).Nodup ∧ UniqueKeysMembers members
  | _ => True
def UniqueKeysElements : List Value → Prop
  | [] => True
  | element :: rest => UniqueKeys element ∧ UniqueKeysElements rest
def UniqueKeysMembers : Members → Prop
  | [] => True
  | (_, value) :: rest => UniqueKeys value ∧ UniqueKeysMembers rest
end

mutual
/-- The tree of ordered maps: members sorted by key, the last of a repeated key kept. -/
def normalize : Value → Value
  | .array elements => .array (normalizeElements elements)
  | .object members => .object (SortedMap.ofList (normalizeMembers members)).entries
  | .null => .null
  | .bool value => .bool value
  | .number value => .number value
  | .float text => .float text
  | .string value => .string value
def normalizeElements : List Value → List Value
  | [] => []
  | element :: rest => normalize element :: normalizeElements rest
def normalizeMembers : Members → Members
  | [] => []
  | (key, value) :: rest => (key, normalize value) :: normalizeMembers rest
end

mutual
/-- Number of nested arrays and objects. -/
def depth : Value → Nat
  | .array elements => depthElements elements + 1
  | .object members => depthMembers members + 1
  | _ => 0
def depthElements : List Value → Nat
  | [] => 0
  | element :: rest => max (depth element) (depthElements rest)
def depthMembers : Members → Nat
  | [] => 0
  | (_, value) :: rest => max (depth value) (depthMembers rest)
end

mutual
/-- Trees without floating-point numbers, whose integers fit in 64 bits. -/
def Integral : Value → Prop
  | .number value => -2 ^ 63 ≤ value ∧ value < 2 ^ 64
  | .float _ => False
  | .array elements => IntegralElements elements
  | .object members => IntegralMembers members
  | _ => True
def IntegralElements : List Value → Prop
  | [] => True
  | element :: rest => Integral element ∧ IntegralElements rest
def IntegralMembers : Members → Prop
  | [] => True
  | (_, value) :: rest => Integral value ∧ IntegralMembers rest
end

/-! Decidable equality of trees. -/

mutual
def beq : Value → Value → Bool
  | .null, .null => true
  | .bool left, .bool right => left == right
  | .number left, .number right => left == right
  | .float left, .float right => left == right
  | .string left, .string right => left == right
  | .array left, .array right => beqElements left right
  | .object left, .object right => beqMembers left right
  | _, _ => false
def beqElements : List Value → List Value → Bool
  | [], [] => true
  | left :: lefts, right :: rights => beq left right && beqElements lefts rights
  | _, _ => false
def beqMembers : Members → Members → Bool
  | [], [] => true
  | (leftKey, left) :: lefts, (rightKey, right) :: rights =>
      leftKey == rightKey && beq left right && beqMembers lefts rights
  | _, _ => false
end

mutual
private theorem eq_of_beq : ∀ {left right : Value}, beq left right = true → left = right
  | .null, right, equal => by cases right <;> simp_all [beq]
  | .bool _, right, equal => by cases right <;> simp_all [beq]
  | .number _, right, equal => by cases right <;> simp_all [beq]
  | .float _, right, equal => by cases right <;> simp_all [beq]
  | .string _, right, equal => by cases right <;> simp_all [beq]
  | .array lefts, right, equal => by
      cases right with
      | array rights =>
          simp only [beq] at equal
          rw [eqElements_of_beq equal]
      | _ => simp [beq] at equal
  | .object lefts, right, equal => by
      cases right with
      | object rights =>
          simp only [beq] at equal
          rw [eqMembers_of_beq equal]
      | _ => simp [beq] at equal
private theorem eqElements_of_beq : ∀ {lefts rights : List Value},
    beqElements lefts rights = true → lefts = rights
  | [], rights, equal => by cases rights <;> simp_all [beqElements]
  | left :: lefts, rights, equal => by
      cases rights with
      | nil => simp [beqElements] at equal
      | cons right rights =>
          simp only [beqElements, Bool.and_eq_true] at equal
          rw [eq_of_beq equal.1, eqElements_of_beq equal.2]
private theorem eqMembers_of_beq : ∀ {lefts rights : Members},
    beqMembers lefts rights = true → lefts = rights
  | [], rights, equal => by cases rights <;> simp_all [beqMembers]
  | (leftKey, left) :: lefts, rights, equal => by
      cases rights with
      | nil => simp [beqMembers] at equal
      | cons member rights =>
          obtain ⟨rightKey, right⟩ := member
          simp only [beqMembers, Bool.and_eq_true, beq_iff_eq] at equal
          rw [equal.1.1, eq_of_beq equal.1.2, eqMembers_of_beq equal.2]
end

mutual
private theorem beq_refl : ∀ value : Value, beq value value = true
  | .null | .bool _ | .number _ | .float _ | .string _ => by simp [beq]
  | .array elements => by simp only [beq]; exact beqElements_refl elements
  | .object members => by simp only [beq]; exact beqMembers_refl members
private theorem beqElements_refl : ∀ elements : List Value, beqElements elements elements = true
  | [] => rfl
  | element :: rest => by simp [beqElements, beq_refl element, beqElements_refl rest]
private theorem beqMembers_refl : ∀ members : Members, beqMembers members members = true
  | [] => rfl
  | (_, value) :: rest => by simp [beqMembers, beq_refl value, beqMembers_refl rest]
end

instance : DecidableEq Value := fun left right =>
  decidable_of_iff (beq left right = true)
    ⟨eq_of_beq, fun same => same ▸ beq_refl left⟩

/-! The tree relation and the normal form agree on trees without repeated keys. -/

mutual
theorem sameTree_refl : ∀ value : Value, SameTree value value
  | .null | .bool _ | .number _ | .float _ | .string _ => by simp [SameTree]
  | .array elements => by
      simp only [SameTree]
      exact ⟨elements, rfl, sameElements_refl elements⟩
  | .object members => by
      simp only [SameTree]
      exact ⟨members, rfl, sameMembers_refl members⟩
private theorem sameElements_refl : ∀ elements : List Value, SameElements elements elements
  | [] => by simp [SameElements]
  | element :: rest => by
      simp only [SameElements]
      exact ⟨element, rest, rfl, sameTree_refl element, sameElements_refl rest⟩
private theorem sameMembers_refl : ∀ members : Members, SameMembers members members
  | [] => by simp [SameMembers]
  | (_, value) :: rest => by
      simp only [SameMembers]
      exact ⟨[], value, rest, rfl, sameTree_refl value, sameMembers_refl rest⟩
end

private theorem normalizeMembers_eq_map (members : Members) :
    normalizeMembers members = members.map fun member => (member.1, normalize member.2) := by
  induction members with
  | nil => rfl
  | cons member rest ih => simp [normalizeMembers, ih]

private theorem keys_normalizeMembers (members : Members) :
    (normalizeMembers members).map Prod.fst = members.map Prod.fst := by
  simp [normalizeMembers_eq_map, Function.comp_def]

theorem uniqueKeysElements_iff {elements : List Value} :
    UniqueKeysElements elements ↔ ∀ element ∈ elements, UniqueKeys element := by
  induction elements with
  | nil => simp [UniqueKeysElements]
  | cons element rest ih => simp [UniqueKeysElements, ih]

theorem uniqueKeysMembers_iff {members : Members} :
    UniqueKeysMembers members ↔ ∀ member ∈ members, UniqueKeys member.2 := by
  induction members with
  | nil => simp [UniqueKeysMembers]
  | cons member rest ih => simp [UniqueKeysMembers, ih]

theorem SameMembers.keys_perm : ∀ {members others : Members},
    SameMembers members others → (members.map Prod.fst).Perm (others.map Prod.fst)
  | [], others, same => by
      simp only [SameMembers] at same
      subst same
      exact .refl _
  | (key, value) :: rest, others, same => by
      simp only [SameMembers] at same
      obtain ⟨before, other, after, rfl, _, remaining⟩ := same
      have tail := (SameMembers.keys_perm remaining).cons key
      simp only [List.map_append, List.map_cons] at tail ⊢
      exact tail.trans List.perm_middle.symm

theorem SameMembers.partner : ∀ {members others : Members}, SameMembers members others →
    ∀ {key : String} {value : Value}, (key, value) ∈ members →
      ∃ other, (key, other) ∈ others ∧ SameTree value other
  | [], _, _, _, _, member => by simp at member
  | (headKey, headValue) :: rest, others, same, key, value, member => by
      simp only [SameMembers] at same
      obtain ⟨before, other, after, rfl, related, remaining⟩ := same
      rcases List.mem_cons.mp member with head | tail
      · cases head
        exact ⟨other, by simp, related⟩
      · obtain ⟨partner, included, partnerRelated⟩ := SameMembers.partner remaining tail
        exact ⟨partner, by
          rcases List.mem_append.mp included with left | right
          · exact List.mem_append_left _ left
          · exact List.mem_append_right _ (List.mem_cons_of_mem _ right), partnerRelated⟩

mutual
theorem normalize_eq_of_sameTree : ∀ {left right : Value}, SameTree left right →
    UniqueKeys left → normalize left = normalize right
  | .null, _, same, _ | .bool _, _, same, _ | .number _, _, same, _
  | .float _, _, same, _ | .string _, _, same, _ => by
      simp only [SameTree] at same
      subst same
      rfl
  | .array elements, _, same, unique => by
      simp only [SameTree] at same
      obtain ⟨others, rfl, related⟩ := same
      simp only [normalize]
      rw [normalizeElements_eq_of_same related (by simpa [UniqueKeys] using unique)]
  | .object members, _, same, unique => by
      simp only [SameTree] at same
      obtain ⟨others, rfl, related⟩ := same
      simp only [UniqueKeys] at unique
      have permuted := normalizeMembers_perm_of_same related unique.2
      have leftUnique : ((normalizeMembers members).map Prod.fst).Nodup := by
        rw [keys_normalizeMembers]
        exact unique.1
      have rightUnique := (permuted.map Prod.fst).nodup_iff.mp leftUnique
      simp only [normalize]
      rw [(SortedMap.ofList_eq_ofList_iff leftUnique rightUnique).mpr permuted]
private theorem normalizeElements_eq_of_same : ∀ {elements others : List Value},
    SameElements elements others → UniqueKeysElements elements →
      normalizeElements elements = normalizeElements others
  | [], _, same, _ => by
      simp only [SameElements] at same
      subst same
      rfl
  | element :: rest, _, same, unique => by
      simp only [SameElements] at same
      obtain ⟨other, tail, rfl, related, remaining⟩ := same
      simp only [UniqueKeysElements] at unique
      simp only [normalizeElements]
      rw [normalize_eq_of_sameTree related unique.1,
        normalizeElements_eq_of_same remaining unique.2]
private theorem normalizeMembers_perm_of_same : ∀ {members others : Members},
    SameMembers members others → UniqueKeysMembers members →
      (normalizeMembers members).Perm (normalizeMembers others)
  | [], _, same, _ => by
      simp only [SameMembers] at same
      subst same
      exact .refl _
  | (key, value) :: rest, _, same, unique => by
      simp only [SameMembers] at same
      obtain ⟨before, other, after, rfl, related, remaining⟩ := same
      simp only [UniqueKeysMembers] at unique
      have tail := normalizeMembers_perm_of_same remaining unique.2
      simp only [normalizeMembers_eq_map, List.map_append, List.map_cons] at tail ⊢
      rw [normalize_eq_of_sameTree related unique.1]
      exact (tail.cons _).trans List.perm_middle.symm
end

mutual
private theorem sameTree_of_normalize_eq :
    ∀ {left right : Value}, normalize left = normalize right →
    UniqueKeys left → UniqueKeys right → SameTree left right
  | .null, right, same, _, _ | .bool _, right, same, _, _ | .number _, right, same, _, _
  | .float _, right, same, _, _ | .string _, right, same, _, _ => by
      cases right <;> simp_all [normalize, SameTree]
  | .array elements, right, same, leftUnique, rightUnique => by
      cases right with
      | array others =>
          simp only [normalize, Value.array.injEq] at same
          simp only [UniqueKeys] at leftUnique rightUnique
          simp only [SameTree]
          exact ⟨others, rfl, sameElements_of_normalize_eq same leftUnique rightUnique⟩
      | _ => simp [normalize] at same
  | .object members, right, same, leftUnique, rightUnique => by
      cases right with
      | object others =>
          simp only [normalize, Value.object.injEq] at same
          simp only [UniqueKeys] at leftUnique rightUnique
          have permuted := (SortedMap.ofList_eq_ofList_iff
            (by rw [keys_normalizeMembers]; exact leftUnique.1)
            (by rw [keys_normalizeMembers]; exact rightUnique.1)).mp (SortedMap.ext same)
          simp only [SameTree]
          exact ⟨others, rfl, sameMembers_of_normalize_perm permuted leftUnique.2 rightUnique.2⟩
      | _ => simp [normalize] at same
private theorem sameElements_of_normalize_eq : ∀ {elements others : List Value},
    normalizeElements elements = normalizeElements others →
      UniqueKeysElements elements → UniqueKeysElements others → SameElements elements others
  | [], others, same, _, _ => by
      cases others <;> simp_all [normalizeElements, SameElements]
  | element :: rest, others, same, leftUnique, rightUnique => by
      cases others with
      | nil => simp [normalizeElements] at same
      | cons other tail =>
          simp only [normalizeElements, List.cons.injEq] at same
          simp only [UniqueKeysElements] at leftUnique rightUnique
          simp only [SameElements]
          exact ⟨other, tail, rfl,
            sameTree_of_normalize_eq same.1 leftUnique.1 rightUnique.1,
            sameElements_of_normalize_eq same.2 leftUnique.2 rightUnique.2⟩
private theorem sameMembers_of_normalize_perm : ∀ {members others : Members},
    (normalizeMembers members).Perm (normalizeMembers others) →
      UniqueKeysMembers members → UniqueKeysMembers others → SameMembers members others
  | [], others, permuted, _, _ => by
      have empty := permuted.symm.eq_nil
      cases others <;> simp_all [normalizeMembers, SameMembers]
  | (key, value) :: rest, others, permuted, leftUnique, rightUnique => by
      simp only [UniqueKeysMembers] at leftUnique
      have included : (key, normalize value) ∈ normalizeMembers others :=
        permuted.subset (by simp [normalizeMembers])
      rw [normalizeMembers_eq_map] at included
      obtain ⟨⟨otherKey, other⟩, otherMember, same⟩ := List.mem_map.mp included
      simp only [Prod.mk.injEq] at same
      obtain ⟨rfl, sameValue⟩ := same
      obtain ⟨before, after, rfl⟩ := List.append_of_mem otherMember
      rw [uniqueKeysMembers_iff] at rightUnique
      have remaining : (normalizeMembers rest).Perm (normalizeMembers (before ++ after)) := by
        simp only [normalizeMembers_eq_map, List.map_append, List.map_cons, sameValue] at permuted ⊢
        exact (permuted.trans List.perm_middle).cons_inv
      simp only [SameMembers]
      refine ⟨before, other, after, rfl,
        sameTree_of_normalize_eq sameValue.symm leftUnique.1 (rightUnique _ otherMember), ?_⟩
      refine sameMembers_of_normalize_perm remaining leftUnique.2
        (uniqueKeysMembers_iff.mpr fun member included => rightUnique member ?_)
      rcases List.mem_append.mp included with left | right
      · exact List.mem_append_left _ left
      · exact List.mem_append_right _ (List.mem_cons_of_mem _ right)
end

/-- Comparing ordered maps decides tree equality up to member order. -/
theorem normalize_eq_iff_sameTree {left right : Value} (leftUnique : UniqueKeys left)
    (rightUnique : UniqueKeys right) :
    normalize left = normalize right ↔ SameTree left right :=
  ⟨fun same => sameTree_of_normalize_eq same leftUnique rightUnique,
    fun same => normalize_eq_of_sameTree same leftUnique⟩

end Value

end Json
