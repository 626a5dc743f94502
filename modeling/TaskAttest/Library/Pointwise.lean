import Mathlib.Data.List.Forall2

/-! Relations between the elements of two lists at the same positions, and elements with
their positions. -/

set_option autoImplicit false

namespace List

variable {First Second Third : Type} {Relates : First → Second → Prop}
  {firsts : List First} {seconds : List Second}

theorem Forall₂.comp {Continues : Second → Third → Prop} {thirds : List Third}
    (left : Forall₂ Relates firsts seconds) (right : Forall₂ Continues seconds thirds) :
    Forall₂ (fun first third => ∃ second, Relates first second ∧ Continues second third)
      firsts thirds := by
  induction left generalizing thirds with
  | nil =>
      cases right
      exact .nil
  | cons related _ ih =>
      cases right with
      | cons continued others => exact .cons ⟨_, related, continued⟩ (ih others)

theorem Forall₂.exists_left (related : Forall₂ Relates firsts seconds) {second : Second}
    (member : second ∈ seconds) : ∃ first ∈ firsts, Relates first second := by
  induction related with
  | nil => cases member
  | cons head _ ih =>
      cases mem_cons.mp member with
      | inl same => exact ⟨_, mem_cons_self .., same ▸ head⟩
      | inr later =>
          obtain ⟨first, listed, relates⟩ := ih later
          exact ⟨first, mem_cons_of_mem _ listed, relates⟩

theorem Forall₂.exists_right (related : Forall₂ Relates firsts seconds) {first : First}
    (member : first ∈ firsts) : ∃ second ∈ seconds, Relates first second :=
  related.flip.exists_left member

/-- A list related to two joined lists is joined at the same place. -/
theorem Forall₂.split_left {before after : List First}
    (related : Forall₂ Relates (before ++ after) seconds) :
    ∃ kept others, seconds = kept ++ others ∧ Forall₂ Relates before kept ∧
      Forall₂ Relates after others :=
  ⟨seconds.take before.length, seconds.drop before.length, (take_append_drop ..).symm,
    (forall₂_take_append _ _ _ related.flip).flip, (forall₂_drop_append _ _ _ related.flip).flip⟩

/-- Where a relation decides another one by its first member alone, so do the lists. -/
theorem forall₂_iff_forall_mem {Holds : First → Second → Prop} {Good : First → Prop}
    (related : Forall₂ Relates firsts seconds)
    (same : ∀ {first second}, Relates first second → (Holds first second ↔ Good first)) :
    Forall₂ Holds firsts seconds ↔ ∀ first ∈ firsts, Good first := by
  induction related with
  | nil => exact ⟨fun _ => forall_mem_nil _, fun _ => .nil⟩
  | cons head _ ih => rw [forall₂_cons, forall_mem_cons, same head, ih]

/-- The lists are related through what their elements are made from. -/
theorem Forall₂.imp_of_mem {Holds : First → Second → Prop}
    (related : Forall₂ Relates firsts seconds)
    (imp : ∀ first ∈ firsts, ∀ {second}, Relates first second → Holds first second) :
    Forall₂ Holds firsts seconds := by
  induction related with
  | nil => exact .nil
  | cons head _ ih =>
      obtain ⟨first, others⟩ := forall_mem_cons.mp imp
      exact .cons (first head) (ih others)

theorem pairwise_zipIdx (items : List First) (start : Nat) :
    (items.zipIdx start).Pairwise fun earlier later => earlier.2 < later.2 := by
  have positions : ((items.zipIdx start).map Prod.snd).Pairwise (· < ·) := by
    rw [zipIdx_map_snd]
    exact pairwise_lt_range'
  exact pairwise_map.mp positions

/-- What is made of the elements alone needs no positions. -/
theorem flatMap_zipIdx (items : List First) (start : Nat) (make : First → List Second) :
    ((items.zipIdx start).flatMap fun placed => make placed.1) = items.flatMap make := by
  rw [← flatMap_map, zipIdx_map_fst]

end List
