import Mathlib.Data.List.Basic

/-! Updating the first element of a list that satisfies a test. -/

set_option autoImplicit false

namespace List

variable {Element : Type} {test : Element → Bool} {update : Element → Element}
  {elements updated : List Element} {found : Element}

/-- The first element that passes the test, and the list with that element updated. -/
def updateFirst (test : Element → Bool) (update : Element → Element) :
    List Element → Option (Element × List Element)
  | [] => none
  | first :: rest =>
      if test first then some (first, update first :: rest)
      else (updateFirst test update rest).map fun result => (result.1, first :: result.2)

theorem updateFirst_eq_none_iff :
    updateFirst test update elements = none ↔ ∀ element ∈ elements, test element = false := by
  induction elements with
  | nil => simp [updateFirst]
  | cons first rest ih =>
      rw [updateFirst]
      cases tested : test first with
      | true => simp [tested]
      | false => simp [tested, ih]

/-- The list splits at the element that was found. -/
theorem updateFirst_eq_some_iff :
    updateFirst test update elements = some (found, updated) ↔
      ∃ before after, elements = before ++ found :: after ∧
        (∀ element ∈ before, test element = false) ∧ test found = true ∧
        updated = before ++ update found :: after := by
  induction elements generalizing updated with
  | nil => simp [updateFirst]
  | cons first rest ih =>
      rw [updateFirst]
      cases tested : test first with
      | true =>
          simp only [if_true, Option.some.injEq, Prod.mk.injEq]
          constructor
          · intro same
            obtain ⟨rfl, rfl⟩ := same
            exact ⟨[], rest, rfl, List.forall_mem_nil _, tested, rfl⟩
          · intro found
            obtain ⟨before, after, split, untested, passes, rfl⟩ := found
            cases before with
            | nil =>
                obtain ⟨rfl, rfl⟩ := List.cons.inj split
                exact ⟨rfl, rfl⟩
            | cons other others =>
                obtain ⟨rfl, _⟩ := List.cons.inj split
                rw [untested first (List.mem_cons_self ..)] at tested
                cases tested
      | false =>
          simp only [Bool.false_eq_true, if_false, Option.map_eq_some_iff, Prod.exists,
            Prod.mk.injEq]
          constructor
          · intro found
            obtain ⟨_, others, inner, rfl, rfl⟩ := found
            obtain ⟨before, after, rfl, untested, passes, rfl⟩ := ih.mp inner
            exact ⟨first :: before, after, rfl, List.forall_mem_cons.mpr ⟨tested, untested⟩, passes,
              rfl⟩
          · intro found
            obtain ⟨before, after, split, untested, passes, rfl⟩ := found
            cases before with
            | nil =>
                obtain ⟨rfl, _⟩ := List.cons.inj split
                rw [passes] at tested
                cases tested
            | cons other others =>
                obtain ⟨rfl, rfl⟩ := List.cons.inj split
                refine ⟨found, others ++ update found :: after, ih.mpr ?_, rfl, rfl⟩
                exact ⟨others, after, rfl, (List.forall_mem_cons.mp untested).2, passes, rfl⟩

end List
