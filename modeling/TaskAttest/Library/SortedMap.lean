import Mathlib.Data.List.Sort
import Mathlib.Data.List.Nodup
import Mathlib.Order.Basic

/-! Ordered maps and ordered sets as strictly increasing association lists.
The representation is canonical, so two maps are equal exactly when they hold
the same entries, whatever order the entries arrived in. -/

set_option autoImplicit false

/-- Where no key is repeated, looking one up finds its only item. -/
theorem List.lookup_of_mem {Key Item : Type} [BEq Key] [LawfulBEq Key]
    {entries : List (Key × Item)} {key : Key} {item : Item}
    (unique : (entries.map Prod.fst).Nodup) (member : (key, item) ∈ entries) :
    entries.lookup key = some item := by
  induction entries with
  | nil => cases member
  | cons head rest ih =>
      obtain ⟨headKey, headItem⟩ := head
      simp only [List.map_cons, List.nodup_cons] at unique
      cases List.mem_cons.mp member with
      | inl same =>
          cases same
          exact List.lookup_cons_self
      | inr later =>
          have different : key ≠ headKey := by
            intro same
            exact unique.1 (same ▸ List.mem_map_of_mem (f := Prod.fst) later)
          have skipped : (key == headKey) = false := beq_eq_false_iff_ne.mpr different
          rw [List.lookup_cons, skipped]
          exact ih unique.2 later

/-- A finite map whose entries are kept in strictly increasing key order. -/
structure SortedMap (Key Item : Type) [LT Key] where
  entries : List (Key × Item)
  ordered : entries.Pairwise fun left right => left.1 < right.1

namespace SortedMap

variable {Key Item : Type} [LinearOrder Key]

/-- Insert an entry, replacing the item of a key that is already present. -/
def insertEntry (key : Key) (item : Item) : List (Key × Item) → List (Key × Item)
  | [] => [(key, item)]
  | (other, old) :: rest =>
      if key < other then (key, item) :: (other, old) :: rest
      else if key = other then (key, item) :: rest
      else (other, old) :: insertEntry key item rest

private theorem mem_keys_insertEntry {key probe : Key} {item : Item} {entries : List (Key × Item)} :
    probe ∈ (insertEntry key item entries).map Prod.fst ↔
      probe = key ∨ probe ∈ entries.map Prod.fst := by
  induction entries with
  | nil => simp [insertEntry]
  | cons entry rest ih =>
      obtain ⟨other, old⟩ := entry
      simp only [insertEntry]
      split
      · simp
      · split
        · rename_i same
          subst same
          simp
        · simp only [List.map_cons, List.mem_cons, ih]
          tauto

private theorem insertEntry_perm {key : Key} {item : Item} {entries : List (Key × Item)}
    (fresh : key ∉ entries.map Prod.fst) :
    (insertEntry key item entries).Perm ((key, item) :: entries) := by
  induction entries with
  | nil => exact .refl _
  | cons entry rest ih =>
      obtain ⟨other, old⟩ := entry
      simp only [List.map_cons, List.mem_cons, not_or] at fresh
      simp only [insertEntry]
      split
      · exact .refl _
      · rw [if_neg fresh.1]
        exact ((ih fresh.2).cons _).trans (.swap _ _ _)

private theorem insertEntry_ordered {key : Key} {item : Item} {entries : List (Key × Item)}
    (ordered : entries.Pairwise fun left right => left.1 < right.1) :
    (insertEntry key item entries).Pairwise fun left right => left.1 < right.1 := by
  induction entries with
  | nil => simp [insertEntry]
  | cons entry rest ih =>
      obtain ⟨other, old⟩ := entry
      obtain ⟨below, restOrdered⟩ := List.pairwise_cons.mp ordered
      simp only [insertEntry]
      split
      · rename_i smaller
        refine List.pairwise_cons.mpr ⟨?_, ordered⟩
        intro later member
        rcases List.mem_cons.mp member with rfl | member
        · exact smaller
        · exact smaller.trans (below later member)
      · split
        · rename_i same
          subst same
          exact List.pairwise_cons.mpr ⟨below, restOrdered⟩
        · rename_i notSmaller different
          refine List.pairwise_cons.mpr ⟨?_, ih restOrdered⟩
          intro later member
          have known := mem_keys_insertEntry.mp (List.mem_map_of_mem (f := Prod.fst) member)
          rcases known with same | known
          · rw [same]
            exact lt_of_le_of_ne (not_lt.mp notSmaller) (Ne.symm different)
          · obtain ⟨previous, included, same⟩ := List.mem_map.mp known
            rw [← same]
            exact below previous included

def empty : SortedMap Key Item := ⟨[], .nil⟩

def insert (map : SortedMap Key Item) (key : Key) (item : Item) : SortedMap Key Item :=
  ⟨insertEntry key item map.entries, insertEntry_ordered map.ordered⟩

/-- Insert the entries one after another, so that the last entry of a key wins. -/
def ofList (entries : List (Key × Item)) : SortedMap Key Item :=
  entries.foldl (fun map entry => map.insert entry.1 entry.2) empty

def keys (map : SortedMap Key Item) : List Key := map.entries.map Prod.fst

def find? (map : SortedMap Key Item) (key : Key) : Option Item := map.entries.lookup key

omit [LinearOrder Key] in
@[ext] theorem ext [LT Key] {left right : SortedMap Key Item}
    (same : left.entries = right.entries) : left = right := by
  cases left
  cases right
  cases same
  rfl

theorem keys_nodup (map : SortedMap Key Item) : map.keys.Nodup :=
  List.pairwise_map.mpr (map.ordered.imp fun smaller => smaller.ne)

/-- Strict order leaves one list for each set of entries. -/
theorem eq_of_perm {left right : SortedMap Key Item}
    (permuted : left.entries.Perm right.entries) : left = right :=
  SortedMap.ext (permuted.eq_of_pairwise
    (fun _ _ _ _ smaller larger => absurd (smaller.trans larger) (lt_irrefl _))
    left.ordered right.ordered)

private theorem foldl_insert_perm {entries : List (Key × Item)} {map : SortedMap Key Item}
    (unique : (map.entries ++ entries).map Prod.fst |>.Nodup) :
    (entries.foldl (fun map entry => map.insert entry.1 entry.2) map).entries.Perm
      (map.entries ++ entries) := by
  induction entries generalizing map with
  | nil => simp
  | cons entry rest ih =>
      have fresh : entry.1 ∉ map.entries.map Prod.fst := by
        simp only [List.map_append, List.map_cons, List.nodup_append, List.nodup_cons] at unique
        intro member
        exact unique.2.2 _ member _ (List.mem_cons_self ..) rfl
      have inserted : (map.insert entry.1 entry.2).entries.Perm (entry :: map.entries) :=
        insertEntry_perm fresh
      have moved : ((map.insert entry.1 entry.2).entries ++ rest).Perm
          (map.entries ++ entry :: rest) :=
        (inserted.append_right rest).trans List.perm_middle.symm
      exact (ih ((moved.map Prod.fst).nodup_iff.mpr unique)).trans moved

private theorem ofList_perm {entries : List (Key × Item)} (unique : (entries.map Prod.fst).Nodup) :
    (ofList entries).entries.Perm entries := by
  simpa [ofList, empty] using @foldl_insert_perm _ _ _ entries empty (by simpa [empty] using unique)

/-- Reading a map back from its own entries loses nothing, in any arrival order. -/
theorem ofList_eq_of_perm {map : SortedMap Key Item} {entries : List (Key × Item)}
    (permuted : entries.Perm map.entries) : ofList entries = map :=
  eq_of_perm ((ofList_perm ((permuted.map Prod.fst).nodup_iff.mpr map.keys_nodup)).trans permuted)

/-- A key that is not repeated has its own item. -/
theorem find?_ofList {entries : List (Key × Item)} {key : Key} {item : Item}
    (unique : (entries.map Prod.fst).Nodup) (member : (key, item) ∈ entries) :
    (ofList entries).find? key = some item :=
  List.lookup_of_mem (keys_nodup _) ((ofList_perm unique).mem_iff.mpr member)

theorem ofList_eq_ofList_iff {left right : List (Key × Item)}
    (leftUnique : (left.map Prod.fst).Nodup) (rightUnique : (right.map Prod.fst).Nodup) :
    ofList left = ofList right ↔ left.Perm right := by
  constructor
  · intro same
    have leftPerm := ofList_perm leftUnique
    rw [same] at leftPerm
    exact leftPerm.symm.trans (ofList_perm rightUnique)
  · intro permuted
    exact ofList_eq_of_perm (permuted.trans (ofList_perm rightUnique).symm)

private theorem mem_foldl_keys {entries : List (Key × Item)} {map : SortedMap Key Item}
    {probe : Key} :
    probe ∈ (entries.foldl (fun map entry => map.insert entry.1 entry.2) map).keys ↔
      probe ∈ map.keys ∨ probe ∈ entries.map Prod.fst := by
  induction entries generalizing map with
  | nil => simp
  | cons entry rest ih =>
      have inserted : probe ∈ (map.insert entry.1 entry.2).keys ↔
          probe = entry.1 ∨ probe ∈ map.keys := mem_keys_insertEntry
      simp only [List.foldl_cons, ih, inserted, List.map_cons, List.mem_cons]
      tauto

private theorem mem_keys_ofList {entries : List (Key × Item)} {probe : Key} :
    probe ∈ (ofList entries).keys ↔ probe ∈ entries.map Prod.fst := by
  rw [ofList, mem_foldl_keys]
  simp [keys, empty]

end SortedMap

/-- The elements of a list in strictly increasing order, each once. -/
def sortedSet {Element : Type} [LinearOrder Element] (elements : List Element) : List Element :=
  (SortedMap.ofList (elements.map fun element => (element, ()))).keys

section SortedSet

variable {Element : Type} [LinearOrder Element] {left right elements : List Element}

@[simp] theorem mem_sortedSet {probe : Element} :
    probe ∈ sortedSet elements ↔ probe ∈ elements := by
  rw [sortedSet, SortedMap.mem_keys_ofList, List.map_map]
  simp

theorem sortedSet_ordered : (sortedSet elements).Pairwise (· < ·) :=
  List.pairwise_map.mpr (SortedMap.ordered _)

private theorem sortedSet_nodup : (sortedSet elements).Nodup := SortedMap.keys_nodup _

/-- Strictly increasing lists with the same members are the same list. -/
theorem eq_of_mem_iff (leftOrdered : left.Pairwise (· < ·)) (rightOrdered : right.Pairwise (· < ·))
    (sameMembers : ∀ probe, probe ∈ left ↔ probe ∈ right) : left = right := by
  have permuted : left.Perm right :=
    (List.perm_ext_iff_of_nodup (leftOrdered.imp LT.lt.ne) (rightOrdered.imp LT.lt.ne)).mpr
      sameMembers
  exact permuted.eq_of_pairwise
    (fun _ _ _ _ smaller larger => absurd (smaller.trans larger) (lt_irrefl _))
    leftOrdered rightOrdered

theorem sortedSet_eq_iff :
    sortedSet left = sortedSet right ↔ ∀ probe, probe ∈ left ↔ probe ∈ right := by
  constructor
  · intro same probe
    rw [← @mem_sortedSet _ _ left, same, mem_sortedSet]
  · intro sameMembers
    apply eq_of_mem_iff sortedSet_ordered sortedSet_ordered
    intro probe
    simp [sameMembers probe]

/-- Collecting into a set keeps the length exactly when nothing was repeated. -/
theorem length_sortedSet_eq_iff :
    (sortedSet elements).length = elements.length ↔ elements.Nodup := by
  constructor
  · intro sameLength
    have included : (sortedSet elements).Subperm elements :=
      List.subperm_of_subset sortedSet_nodup fun _ member => mem_sortedSet.mp member
    have permuted := included.perm_of_length_le sameLength.ge
    exact permuted.nodup_iff.mp sortedSet_nodup
  · intro unique
    exact ((List.perm_ext_iff_of_nodup sortedSet_nodup unique).mpr
      fun probe => mem_sortedSet).length_eq

end SortedSet
