import TaskAttest.Library.Json.RoundTrip

/-! Typed encodings in the manner of derived serializers. Reading is lenient:
a structure may be spelled as an array, an enumeration as a one-entry map, a
missing optional field is absent and an unknown field is ignored. The laws say
that what was written is read back, with members in any order. -/

set_option autoImplicit false

namespace Json

/-- A type with its writer and its reader. `nesting` bounds the depth of what is written. -/
class Codec (α : Type) where
  serialize : α → Value
  deserialize : Value → Option α
  nesting : Nat
  deserialize_of_sameTree : ∀ {value : α} {document : Value},
    (serialize value).SameTree document → document.UniqueKeys → deserialize document = some value
  uniqueKeys : ∀ value, (serialize value).UniqueKeys
  integral : ∀ value, (serialize value).Integral
  depth_le : ∀ value, (serialize value).depth ≤ nesting

export Codec (serialize deserialize)

section Laws

variable {α : Type} [Codec α]

theorem deserialize_serialize (value : α) : deserialize (serialize value) = some value :=
  Codec.deserialize_of_sameTree (Value.sameTree_refl _) (Codec.uniqueKeys value)

private theorem serialize_injective {left right : α} (same : serialize left = serialize right) :
    left = right := by
  have read := deserialize_serialize left
  rw [same, deserialize_serialize] at read
  exact (Option.some.inj read).symm

/-- Trees that agree up to member order are written from one value. -/
theorem eq_of_sameTree {left right : α} (same : (serialize left).SameTree (serialize right)) :
    left = right := by
  have read := Codec.deserialize_of_sameTree same (Codec.uniqueKeys right)
  rw [deserialize_serialize] at read
  exact (Option.some.inj read).symm

theorem parse_render (layout : Layout) {depth : Nat} (shallow : Codec.nesting α ≤ depth)
    {before after : List Char} (beforeBlank : ∀ character ∈ before, isWhitespace character = true)
    (afterBlank : ∀ character ∈ after, isWhitespace character = true) (value : α) :
    parse depth (utf8 (before ++ (serialize value).render layout 0 ++ after)) =
      some (serialize value) :=
  parse_utf8_render layout before after (Codec.integral value)
    ((Codec.depth_le value).trans shallow) beforeBlank afterBlank

/-- The compact encoding is injective as a byte string. -/
theorem utf8_compact_injective {left right : α}
    (same : utf8 (serialize left).compact = utf8 (serialize right).compact) : left = right :=
  serialize_injective (render_injective .compact (Codec.integral left) (Codec.integral right)
    (utf8_injective same))

end Laws

/-! Scalars -/

instance : Codec String where
  serialize value := .string value
  deserialize
    | .string value => some value
    | _ => none
  nesting := 0
  deserialize_of_sameTree same _ := by
    simp only [Value.SameTree] at same
    rw [same]
  uniqueKeys _ := trivial
  integral _ := trivial
  depth_le _ := Nat.le_refl _

instance : Codec Bool where
  serialize value := .bool value
  deserialize
    | .bool value => some value
    | _ => none
  nesting := 0
  deserialize_of_sameTree same _ := by
    simp only [Value.SameTree] at same
    rw [same]
  uniqueKeys _ := trivial
  integral _ := trivial
  depth_le _ := Nat.le_refl _

private theorem integral_toNat (value : UInt64) : (Value.number value.toNat).Integral := by
  have bound := value.toNat_lt
  simp only [Value.Integral]
  omega

instance : Codec UInt64 where
  serialize value := .number value.toNat
  deserialize
    | .number value => if 0 ≤ value ∧ value < 2 ^ 64 then some (UInt64.ofNat value.toNat) else none
    | _ => none
  nesting := 0
  deserialize_of_sameTree := by
    intro value document same _
    simp only [Value.SameTree] at same
    have bound := value.toNat_lt
    subst same
    simp only [Int.toNat_natCast, UInt64.ofNat_toNat]
    exact if_pos (by omega)
  uniqueKeys _ := trivial
  integral := integral_toNat
  depth_le _ := Nat.le_refl _

instance : Codec UInt8 where
  serialize value := .number value.toNat
  deserialize
    | .number value => if 0 ≤ value ∧ value < 2 ^ 8 then some (UInt8.ofNat value.toNat) else none
    | _ => none
  nesting := 0
  deserialize_of_sameTree := by
    intro value document same _
    simp only [Value.SameTree] at same
    have bound := value.toNat_lt
    subst same
    simp only [Int.toNat_natCast, UInt8.ofNat_toNat]
    exact if_pos (by omega)
  uniqueKeys _ := trivial
  integral value := by
    have bound := value.toNat_lt
    simp only [Value.Integral]
    omega
  depth_le _ := Nat.le_refl _

instance : Codec Int32 where
  serialize value := .number value.toInt
  deserialize
    | .number value =>
        if -2 ^ 31 ≤ value ∧ value < 2 ^ 31 then some (Int32.ofInt value) else none
    | _ => none
  nesting := 0
  deserialize_of_sameTree := by
    intro value document same _
    simp only [Value.SameTree] at same
    have lower := value.le_toInt
    have upper := value.toInt_lt
    subst same
    simp only [Int32.ofInt_toInt]
    exact if_pos (by omega)
  uniqueKeys _ := trivial
  integral value := by
    have lower := value.le_toInt
    have upper := value.toInt_lt
    simp only [Value.Integral]
    omega
  depth_le _ := Nat.le_refl _

/-! Enumerations -/

/-- Variants are written by name. A reader also takes a map from the name to
nothing. -/
@[reducible] def enumeration {α : Type} (name : α → String) (variants : List α)
    (named : ∀ variant, variants.find? (fun other => name other == name variant) = some variant) :
    Codec α where
  serialize variant := .string (name variant)
  deserialize
    | .string text => variants.find? fun variant => name variant == text
    | .object [(text, .null)] => variants.find? fun variant => name variant == text
    | .object [(text, .object [])] => variants.find? fun variant => name variant == text
    | _ => none
  nesting := 0
  deserialize_of_sameTree := by
    intro variant document same _
    simp only [Value.SameTree] at same
    subst same
    exact named variant
  uniqueKeys _ := trivial
  integral _ := trivial
  depth_le _ := Nat.le_refl _

/-! Options and sequences -/

def serializeOption {α : Type} [Codec α] : Option α → Value
  | none => .null
  | some value => serialize value

def deserializeOption {α : Type} [Codec α] : Value → Option (Option α)
  | .null => some none
  | document => (deserialize document).map some

/-- Nothing is written as null, so the type itself must never be written so. -/
@[reducible] def optional {α : Type} [Codec α] (notNull : ∀ value : α, serialize value ≠ .null) :
    Codec (Option α) where
  serialize := serializeOption
  deserialize := deserializeOption
  nesting := Codec.nesting α
  deserialize_of_sameTree := by
    intro value document same unique
    cases value with
    | none =>
        simp only [serializeOption, Value.SameTree] at same
        rw [same]
        rfl
    | some value =>
        have read := Codec.deserialize_of_sameTree same unique
        have present : document ≠ .null := by
          rintro rfl
          apply notNull value
          simp only [serializeOption] at same
          cases shape : serialize value <;> simp_all [Value.SameTree]
        rw [deserializeOption, read]
        · rfl
        · exact present
  uniqueKeys value := by
    cases value with
    | none => exact trivial
    | some value => exact Codec.uniqueKeys value
  integral value := by
    cases value with
    | none => exact trivial
    | some value => exact Codec.integral value
  depth_le value := by
    cases value with
    | none => exact Nat.zero_le _
    | some value => exact Codec.depth_le value

instance : Codec (Option String) := optional (by intro value; exact Value.noConfusion)

instance : Codec (Option Int32) := optional (by intro value; exact Value.noConfusion)

private theorem Value.depthElements_le {elements : List Value} {bound : Nat}
    (each : ∀ element ∈ elements, element.depth ≤ bound) : depthElements elements ≤ bound := by
  induction elements with
  | nil => exact Nat.zero_le _
  | cons element rest ih =>
      simp only [depthElements]
      exact Nat.max_le.mpr ⟨each _ (List.mem_cons_self ..),
        ih fun other member => each other (List.mem_cons_of_mem _ member)⟩

private theorem Value.integralElements_iff {elements : List Value} :
    IntegralElements elements ↔ ∀ element ∈ elements, element.Integral := by
  induction elements with
  | nil => simp [IntegralElements]
  | cons element rest ih => simp [IntegralElements, ih]

def deserializeList {α : Type} [Codec α] : List Value → Option (List α)
  | [] => some []
  | document :: rest => do
      let value ← deserialize document
      let values ← deserializeList rest
      some (value :: values)

private theorem deserializeList_of_same {α : Type} [Codec α] {values : List α}
    {documents : List Value} (same : Value.SameElements (values.map serialize) documents)
    (unique : Value.UniqueKeysElements documents) : deserializeList documents = some values := by
  induction values generalizing documents with
  | nil =>
      simp only [List.map_nil, Value.SameElements] at same
      rw [same]
      rfl
  | cons value values ih =>
      simp only [List.map_cons, Value.SameElements] at same
      obtain ⟨document, rest, rfl, related, remaining⟩ := same
      simp only [Value.UniqueKeysElements] at unique
      rw [deserializeList, Codec.deserialize_of_sameTree related unique.1, ih remaining unique.2]
      rfl

instance {α : Type} [Codec α] : Codec (List α) where
  serialize values := .array (values.map serialize)
  deserialize
    | .array documents => deserializeList documents
    | _ => none
  nesting := Codec.nesting α + 1
  deserialize_of_sameTree := by
    intro values document same unique
    simp only [Value.SameTree] at same
    obtain ⟨documents, rfl, related⟩ := same
    exact deserializeList_of_same related (by simpa [Value.UniqueKeys] using unique)
  uniqueKeys values := by
    simp only [Value.UniqueKeys, Value.uniqueKeysElements_iff, List.mem_map]
    rintro _ ⟨value, _, rfl⟩
    exact Codec.uniqueKeys value
  integral values := by
    simp only [Value.Integral, Value.integralElements_iff, List.mem_map]
    rintro _ ⟨value, _, rfl⟩
    exact Codec.integral value
  depth_le values := by
    simp only [Value.depth]
    refine Nat.succ_le_succ (Value.depthElements_le ?_)
    simp only [List.mem_map]
    rintro _ ⟨value, _, rfl⟩
    exact Codec.depth_le value

/-! String maps -/

def deserializeMembers {α : Type} [Codec α] : Members → Option (List (String × α))
  | [] => some []
  | (key, document) :: rest => do
      let value ← deserialize document
      let entries ← deserializeMembers rest
      some ((key, value) :: entries)

private theorem deserializeMembers_append {α : Type} [Codec α] {left right : Members}
    {leftEntries rightEntries : List (String × α)}
    (leftRead : deserializeMembers left = some leftEntries)
    (rightRead : deserializeMembers right = some rightEntries) :
    deserializeMembers (left ++ right) = some (leftEntries ++ rightEntries) := by
  induction left generalizing leftEntries with
  | nil =>
      cases leftRead
      exact rightRead
  | cons member rest ih =>
      obtain ⟨key, document⟩ := member
      simp only [deserializeMembers, Option.bind_eq_bind, Option.bind_eq_some_iff,
        Option.some.injEq] at leftRead
      obtain ⟨value, read, entries, restRead, rfl⟩ := leftRead
      simp [deserializeMembers, read, ih restRead]

private theorem deserializeMembers_split {α : Type} [Codec α] {left right : Members}
    {entries : List (String × α)} (read : deserializeMembers (left ++ right) = some entries) :
    ∃ leftEntries rightEntries, entries = leftEntries ++ rightEntries ∧
      deserializeMembers left = some leftEntries ∧
      deserializeMembers right = some rightEntries := by
  induction left generalizing entries with
  | nil => exact ⟨[], entries, rfl, rfl, read⟩
  | cons member rest ih =>
      obtain ⟨key, document⟩ := member
      simp only [List.cons_append, deserializeMembers, Option.bind_eq_bind,
        Option.bind_eq_some_iff, Option.some.injEq] at read
      obtain ⟨value, headRead, tailEntries, tailRead, rfl⟩ := read
      obtain ⟨leftEntries, rightEntries, rfl, leftRead, rightRead⟩ := ih tailRead
      exact ⟨(key, value) :: leftEntries, rightEntries, rfl,
        by simp [deserializeMembers, headRead, leftRead], rightRead⟩

private theorem deserializeMembers_of_same {α : Type} [Codec α] {entries : List (String × α)}
    {members : Members}
    (same : Value.SameMembers (entries.map fun entry => (entry.1, serialize entry.2)) members)
    (unique : Value.UniqueKeysMembers members) :
    ∃ read, deserializeMembers members = some read ∧ read.Perm entries := by
  induction entries generalizing members with
  | nil =>
      simp only [List.map_nil, Value.SameMembers] at same
      exact ⟨[], by rw [same]; rfl, .refl _⟩
  | cons entry entries ih =>
      obtain ⟨key, value⟩ := entry
      simp only [List.map_cons, Value.SameMembers] at same
      obtain ⟨before, document, after, rfl, related, remaining⟩ := same
      rw [Value.uniqueKeysMembers_iff] at unique
      obtain ⟨rest, restRead, permuted⟩ := ih remaining (Value.uniqueKeysMembers_iff.mpr
        fun member included => unique member (by
          rcases List.mem_append.mp included with left | right
          · exact List.mem_append_left _ left
          · exact List.mem_append_right _ (List.mem_cons_of_mem _ right)))
      obtain ⟨leftEntries, rightEntries, rfl, leftRead, rightRead⟩ :=
        deserializeMembers_split restRead
      have valueRead := Codec.deserialize_of_sameTree related (unique (key, document) (by simp))
      have tailRead : deserializeMembers ((key, document) :: after) =
          some ((key, value) :: rightEntries) := by
        simp [deserializeMembers, valueRead, rightRead]
      exact ⟨_, deserializeMembers_append leftRead tailRead,
        List.perm_middle.trans (permuted.cons _)⟩

private theorem Value.depthMembers_le {members : Members} {bound : Nat}
    (each : ∀ member ∈ members, member.2.depth ≤ bound) : depthMembers members ≤ bound := by
  induction members with
  | nil => exact Nat.zero_le _
  | cons member rest ih =>
      obtain ⟨key, value⟩ := member
      simp only [depthMembers]
      exact Nat.max_le.mpr ⟨each _ (List.mem_cons_self ..),
        ih fun other included => each other (List.mem_cons_of_mem _ included)⟩

private theorem Value.integralMembers_iff {members : Members} :
    IntegralMembers members ↔ ∀ member ∈ members, member.2.Integral := by
  induction members with
  | nil => simp [IntegralMembers]
  | cons member rest ih =>
      obtain ⟨key, value⟩ := member
      simp [IntegralMembers, ih]

instance {α : Type} [Codec α] : Codec (SortedMap String α) where
  serialize map := .object (map.entries.map fun entry => (entry.1, serialize entry.2))
  deserialize
    | .object members => (deserializeMembers members).map SortedMap.ofList
    | _ => none
  nesting := Codec.nesting α + 1
  deserialize_of_sameTree := by
    intro map document same unique
    simp only [Value.SameTree] at same
    obtain ⟨members, rfl, related⟩ := same
    simp only [Value.UniqueKeys] at unique
    obtain ⟨read, membersRead, permuted⟩ := deserializeMembers_of_same related unique.2
    simp only [membersRead, Option.map_some, Option.some.injEq]
    exact SortedMap.ofList_eq_of_perm permuted
  uniqueKeys map := by
    simp only [Value.UniqueKeys, Value.uniqueKeysMembers_iff, List.map_map, List.mem_map]
    refine ⟨map.keys_nodup, ?_⟩
    rintro _ ⟨entry, _, rfl⟩
    exact Codec.uniqueKeys entry.2
  integral map := by
    simp only [Value.Integral, Value.integralMembers_iff, List.mem_map]
    rintro _ ⟨entry, _, rfl⟩
    exact Codec.integral entry.2
  depth_le map := by
    simp only [Value.depth]
    refine Nat.succ_le_succ (Value.depthMembers_le ?_)
    simp only [List.mem_map]
    rintro _ ⟨entry, _, rfl⟩
    exact Codec.depth_le entry.2

/-! Structures -/

/-- The members a derived structure reader looks at: those of a map, where no
known field may be repeated, or the elements of an array in field order. -/
def structMembers (names : List String) : Value → Option Members
  | .object members =>
      if ((members.map Prod.fst).filter (· ∈ names)).Nodup then some members else none
  | .array elements => if elements.length = names.length then some (names.zip elements) else none
  | _ => none

/-- A field that must be present. -/
def required {α : Type} [Codec α] (members : Members) (name : String) : Option α :=
  members.lookup name >>= deserialize

/-- A field of optional type, absent when it is missing. -/
def nullable {α : Type} [Codec (Option α)] (members : Members) (name : String) :
    Option (Option α) :=
  match members.lookup name with
  | none => some none
  | some document => deserialize document

section Structures

variable {fields members : Members}

/-- A document's members are a structure's fields in some order, without repeated keys. -/
structure Reordered (fields members : Members) : Prop where
  same : Value.SameMembers fields members
  unique : (Value.object members).UniqueKeys

theorem structMembers_object {names : List String} (unique : (Value.object members).UniqueKeys) :
    structMembers names (.object members) = some members := by
  simp only [Value.UniqueKeys] at unique
  exact if_pos (unique.1.filter _)

theorem Reordered.lookup (reordered : Reordered fields members) {name : String} {value : Value}
    (listed : (name, value) ∈ fields) :
    ∃ document, members.lookup name = some document ∧ value.SameTree document ∧
      document.UniqueKeys := by
  obtain ⟨document, included, related⟩ := reordered.same.partner listed
  have unique := reordered.unique
  simp only [Value.UniqueKeys, Value.uniqueKeysMembers_iff] at unique
  exact ⟨document, List.lookup_of_mem unique.1 included, related, unique.2 _ included⟩

theorem Reordered.required {α : Type} [Codec α] (reordered : Reordered fields members)
    (name : String) (value : α) (listed : (name, serialize value) ∈ fields) :
    required members name = some value := by
  obtain ⟨document, found, related, unique⟩ := reordered.lookup listed
  rw [Json.required, found]
  exact Codec.deserialize_of_sameTree related unique

theorem Reordered.nullable {α : Type} [Codec (Option α)] (reordered : Reordered fields members)
    (name : String) (value : Option α) (listed : (name, serialize value) ∈ fields) :
    nullable members name = some value := by
  obtain ⟨document, found, related, unique⟩ := reordered.lookup listed
  rw [Json.nullable, found]
  exact Codec.deserialize_of_sameTree related unique

/-- What a writer guarantees of each field. -/
def Value.Written (bound : Nat) (value : Value) : Prop :=
  value.UniqueKeys ∧ value.Integral ∧ value.depth ≤ bound

theorem written_serialize {α : Type} [Codec α] {bound : Nat} (shallow : Codec.nesting α ≤ bound)
    (value : α) : (serialize value).Written bound :=
  ⟨Codec.uniqueKeys value, Codec.integral value, (Codec.depth_le value).trans shallow⟩

theorem Value.Written.object {bound : Nat} (unique : (members.map Prod.fst).Nodup)
    (written : ∀ member ∈ members, member.2.Written bound) :
    (Value.object members).Written (bound + 1) := by
  refine ⟨?_, ?_, ?_⟩
  · simp only [Value.UniqueKeys, Value.uniqueKeysMembers_iff]
    exact ⟨unique, fun member included => (written member included).1⟩
  · simp only [Value.Integral, Value.integralMembers_iff]
    exact fun member included => (written member included).2.1
  · simp only [Value.depth]
    exact Nat.succ_le_succ
      (Value.depthMembers_le fun member included => (written member included).2.2)

/-- The codec of a structure from its field names, its writer and its reader. -/
@[reducible] def structure_ {α : Type} (names : List String) (fields : α → Members)
    (ofMembers : Members → Option α) (bound : Nat) (distinct : names.Nodup)
    (named : ∀ value, (fields value).map Prod.fst = names)
    (written : ∀ value, ∀ member ∈ fields value, member.2.Written bound)
    (reads : ∀ {value : α} {members : Members}, Reordered (fields value) members →
      ofMembers members = some value) : Codec α where
  serialize value := .object (fields value)
  deserialize document := structMembers names document >>= ofMembers
  nesting := bound + 1
  deserialize_of_sameTree := by
    intro value document same unique
    simp only [Value.SameTree] at same
    obtain ⟨members, rfl, related⟩ := same
    rw [structMembers_object unique]
    exact reads ⟨related, unique⟩
  uniqueKeys value := (Value.Written.object (named value ▸ distinct) (written value)).1
  integral value := (Value.Written.object (named value ▸ distinct) (written value)).2.1
  depth_le value := (Value.Written.object (named value ▸ distinct) (written value)).2.2

/-- Dropping the same keys on both sides keeps the members related. -/
theorem Value.SameMembers.filter_keys (keep : String → Bool) :
    ∀ {fields members : Members}, Value.SameMembers fields members →
      Value.SameMembers (fields.filter fun member => keep member.1)
        (members.filter fun member => keep member.1)
  | [], members, same => by
      simp only [Value.SameMembers] at same
      subst same
      simp [Value.SameMembers]
  | (key, value) :: rest, members, same => by
      simp only [Value.SameMembers] at same
      obtain ⟨before, other, after, rfl, related, remaining⟩ := same
      have tail := Value.SameMembers.filter_keys keep remaining
      simp only [List.filter_append, List.filter_cons] at tail ⊢
      split
      · rename_i kept
        simp only [Value.SameMembers]
        exact ⟨_, other, _, rfl, related, tail⟩
      · exact tail

end Structures

end Json
