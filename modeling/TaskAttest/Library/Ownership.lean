import TaskAttest.Library.FileSystem
import TaskAttest.Library.Transition

/-! A file system that parties share. Each party changes only what is under names of its
own, and may give a file of its own one of the common names, where a rule says what is
found. Common names are never taken back. -/

set_option autoImplicit false

namespace FileSystem

variable {Path Node : Type}

/-- The names that no party owns, and what may be found there. What the rule says of a
system holds of every later one that keeps the common names. -/
structure Commons (Path Node : Type) where
  common : Path → Prop
  rule : FileSystem Path Node → Path → Node → Prop
  kept : ∀ {before after : FileSystem Path Node} {path : Path} {node : Node},
    (∀ {other : Path} {found : Node}, common other → before.lookup other = some found →
      after.lookup other = some found) → rule before path node → rule after path node

/-- A file with one name. -/
structure Sole (path : Path) (node : Node) (system : FileSystem Path Node) : Prop where
  found : system.lookup path = some node
  alone : ∀ {other : Path}, system.links other = system.links path → other = path

/-- What a party may do that owns some names. -/
structure Acts (commons : Commons Path Node) (mine : Path → Prop)
    (before after : FileSystem Path Node) : Prop where
  kept : ∀ {path : Path} {file : Nat}, ¬mine path → before.links path = some file →
    after.links path = some file ∧ after.nodes file = before.nodes file
  fresh : ∀ {path : Path} {file : Nat}, after.links path = some file →
    before.links path = some file ∨ ∀ other, before.links other = some file → mine other
  published : ∀ {path : Path} {node : Node}, commons.common path → before.links path = none →
    after.lookup path = some node → commons.rule after path node

theorem Sole.linked {path : Path} {node : Node} {system : FileSystem Path Node}
    (sole : system.Sole path node) :
    ∃ file, system.links path = some file ∧ system.nodes file = node :=
  Option.map_eq_some_iff.mp sole.found

namespace Acts

variable {commons : Commons Path Node} {mine wider : Path → Prop}
  {first before after system : FileSystem Path Node} {path source target : Path} {node : Node}

theorem refl : Acts commons mine system system where
  kept _ linked := ⟨linked, rfl⟩
  fresh := .inl
  published _ missing found := by
    rw [lookup, missing] at found
    cases found

theorem lookup (acts : Acts commons mine before after) (other : ¬mine path)
    (found : before.lookup path = some node) : after.lookup path = some node := by
  obtain ⟨file, linked, rfl⟩ := Option.map_eq_some_iff.mp found
  obtain ⟨still, same⟩ := acts.kept other linked
  simp [FileSystem.lookup, still, same]

theorem mono (acts : Acts commons mine before after) (wide : ∀ path, mine path → wider path) :
    Acts commons wider before after where
  kept other linked := acts.kept (fun owned => other (wide _ owned)) linked
  fresh linked := (acts.fresh linked).imp_right fun owned other named => wide _ (owned other named)
  published := acts.published

theorem trans (apart : ∀ path, mine path → ¬commons.common path)
    (earlier : Acts commons mine first before) (later : Acts commons mine before after) :
    Acts commons mine first after where
  kept other linked := by
    obtain ⟨still, same⟩ := earlier.kept other linked
    obtain ⟨remains, unchanged⟩ := later.kept other still
    exact ⟨remains, unchanged.trans same⟩
  fresh := by
    intro path file linked
    rcases later.fresh linked with between | owned
    · exact earlier.fresh between
    · refine .inr fun other named => ?_
      exact Classical.byContradiction fun foreign =>
        foreign (owned other (earlier.kept foreign named).1)
  published := by
    intro path node common missing found
    cases between : before.lookup path with
    | none =>
        refine later.published common ?_ found
        simpa [FileSystem.lookup] using between
    | some present =>
        have still := later.lookup (fun owned => apart path owned common) between
        obtain rfl : present = node := Option.some.inj (still.symm.trans found)
        refine commons.kept ?_ (earlier.published common missing between)
        exact fun shared => later.lookup fun owned => apart _ owned shared

/-- A file of one party stays as it is, whatever the others do. -/
theorem sole (acts : Acts commons mine before after) (other : ¬mine path)
    (alone : before.Sole path node) : after.Sole path node := by
  refine ⟨acts.lookup other alone.found, ?_⟩
  intro name same
  obtain ⟨file, linked, _⟩ := alone.linked
  rw [(acts.kept other linked).1] at same
  rcases acts.fresh same with before' | owned
  · exact alone.alone (before'.trans linked.symm)
  · exact absurd (owned path linked) other

section Calls

variable [DecidableEq Path]

theorem create (missing : system.links path = none)
    (ruled : commons.common path → commons.rule (system.create path node) path node) :
    Acts commons mine system (system.create path node) where
  kept := by
    intro other file _ linked
    have different : other ≠ path := by
      intro same
      rw [same, missing] at linked
      cases linked
    have old : file ≠ system.next := Nat.ne_of_lt (system.allocated linked)
    exact ⟨by simp [FileSystem.create, different, linked], by simp [FileSystem.create, old]⟩
  fresh := by
    intro other file linked
    simp only [FileSystem.create] at linked
    split at linked
    · cases linked
      refine .inr fun name named => ?_
      exact absurd (system.allocated named) (Nat.lt_irrefl _)
    · exact .inl linked
  published := by
    intro other found common absent present
    by_cases same : other = path
    · rw [same, lookup_create_self] at present
      cases present
      rw [same] at common ⊢
      exact ruled common
    · rw [lookup_create_other _ _ same, FileSystem.lookup, absent] at present
      cases present

/-- A new file where nothing was at first. -/
theorem grow (acts : Acts commons mine first before) (later : first.next ≤ before.next)
    (missing : first.links path = none) (plain : ¬commons.common path) :
    Acts commons mine first (before.create path node) where
  kept := by
    intro other file foreign linked
    have different : other ≠ path := by
      intro same
      rw [same, missing] at linked
      cases linked
    have old : file ≠ before.next :=
      Nat.ne_of_lt (Nat.lt_of_lt_of_le (first.allocated linked) later)
    obtain ⟨still, same⟩ := acts.kept foreign linked
    exact ⟨by simp [FileSystem.create, different, still], by simp [FileSystem.create, old, same]⟩
  fresh := by
    intro other file linked
    simp only [FileSystem.create] at linked
    split at linked
    · cases linked
      refine .inr fun name named => ?_
      exact absurd (Nat.lt_of_lt_of_le (first.allocated named) later) (Nat.lt_irrefl _)
    · exact acts.fresh linked
  published := by
    intro other found common absent present
    have different : other ≠ path := by
      intro same
      rw [same] at common
      exact plain common
    rw [lookup_create_other _ _ different] at present
    refine commons.kept ?_ (acts.published common absent present)
    intro name entry shared holds
    have apart : name ≠ path := by
      intro same
      rw [same] at shared
      exact plain shared
    rw [lookup_create_other _ _ apart, holds]

omit [DecidableEq Path] in
theorem modify (change : Node → Node) (sole : system.Sole path node) (own : mine path) :
    Acts commons mine system (system.modify path change) where
  kept := by
    intro other file foreign linked
    have apart : system.links path ≠ some file := by
      intro same
      have named := sole.alone (linked.trans same.symm)
      rw [named] at foreign
      exact foreign own
    exact ⟨linked, by simp [FileSystem.modify, apart]⟩
  fresh := .inl
  published := by
    intro other found _ missing present
    rw [FileSystem.lookup, show (system.modify path change).links other = none from missing]
      at present
    cases present

/-- Giving a file of one's own another name. -/
theorem link (sole : system.Sole source node) (own : mine source)
    (missing : system.links target = none)
    (ruled : commons.common target → commons.rule (system.link source target) target node) :
    Acts commons mine system (system.link source target) where
  kept := by
    intro other file _ linked
    have different : other ≠ target := by
      intro same
      rw [same, missing] at linked
      cases linked
    exact ⟨by simp [FileSystem.link, different, linked], rfl⟩
  fresh := by
    intro other file linked
    simp only [FileSystem.link] at linked
    split at linked
    · refine .inr fun name named => ?_
      rw [sole.alone (named.trans linked.symm)]
      exact own
    · exact .inl linked
  published := by
    intro other found common absent present
    by_cases same : other = target
    · rw [same, lookup_link_target, sole.found] at present
      cases present
      rw [same] at common ⊢
      exact ruled common
    · rw [lookup_link_other _ same, FileSystem.lookup, absent] at present
      cases present

theorem unlink (own : mine path) : Acts commons mine system (system.unlink path) where
  kept := by
    intro other file foreign linked
    have different : other ≠ path := by
      intro same
      rw [same] at foreign
      exact foreign own
    exact ⟨by simp [FileSystem.unlink, different, linked], rfl⟩
  fresh := by
    intro other file linked
    simp only [FileSystem.unlink] at linked
    split at linked
    · cases linked
    · exact .inl linked
  published := by
    intro other found _ missing present
    rw [FileSystem.lookup] at present
    simp only [FileSystem.unlink] at present
    split at present
    · cases present
    · rw [missing] at present
      cases present

end Calls

end Acts

namespace Sole

variable [DecidableEq Path] {system : FileSystem Path Node} {path other : Path} {node found : Node}

theorem create (node : Node) : (system.create path node).Sole path node where
  found := lookup_create_self _ _
  alone := by
    intro name same
    simp only [FileSystem.create, if_true] at same
    split at same
    · assumption
    · exact absurd (system.allocated same) (Nat.lt_irrefl _)

omit [DecidableEq Path] in
theorem modify (sole : system.Sole path node) (change : Node → Node) :
    (system.modify path change).Sole path (change node) where
  found := by rw [lookup_modify_self, sole.found, Option.map_some]
  alone := sole.alone

omit [DecidableEq Path] in
theorem modify_other (sole : system.Sole path node) (different : other ≠ path)
    (change : Node → Node) : (system.modify other change).Sole path node where
  found := by
    rw [lookup_modify_other, sole.found]
    exact fun same => different (sole.alone same.symm)
  alone := sole.alone

end Sole

/-! Runs of any number of parties -/

section Runs

variable {commons : Commons Path Node} {start now : FileSystem Path Node} {path : Path}
  {node : Node}

/-- A step of some party. -/
def ActsSome (commons : Commons Path Node) (before after : FileSystem Path Node) : Prop :=
  ∃ mine : Path → Prop, (∀ path, mine path → ¬commons.common path) ∧
    Acts commons mine before after

/-- A whole run is as one step of a party that owns all names but the common ones. -/
theorem run_acts (run : Transition.Run (ActsSome commons) start now) :
    Acts commons (fun path => ¬commons.common path) start now := by
  induction run with
  | refl => exact .refl
  | tail _ step ih =>
      obtain ⟨mine, apart, acts⟩ := step
      exact ih.trans (fun _ owned => owned) (acts.mono apart)

/-- What is found at a common name is found there for ever. -/
theorem run_keeps (run : Transition.Run (ActsSome commons) start now)
    (common : commons.common path) (found : start.lookup path = some node) :
    now.lookup path = some node :=
  (run_acts run).lookup (fun owned => owned common) found

/-- What has come to a common name is there by the rule. -/
theorem run_ruled (run : Transition.Run (ActsSome commons) start now)
    (common : commons.common path) (missing : start.links path = none)
    (found : now.lookup path = some node) : commons.rule now path node :=
  (run_acts run).published common missing found

end Runs

end FileSystem
