/-! A file system of hard links: several paths may name one file, and a file is
changed through any of them. -/

set_option autoImplicit false

/-- Files below `next` have been allocated; only those are linked. -/
structure FileSystem (Path Node : Type) where
  links : Path → Option Nat
  nodes : Nat → Node
  next : Nat
  allocated : ∀ {path : Path} {file : Nat}, links path = some file → file < next

namespace FileSystem

variable {Path Node : Type} [DecidableEq Path]

/-- Nothing is linked. -/
def empty (node : Node) : FileSystem Path Node where
  links _ := none
  nodes _ := node
  next := 0
  allocated := nofun

/-- The file a path names. -/
def lookup (system : FileSystem Path Node) (path : Path) : Option Node :=
  (system.links path).map system.nodes

/-- Put a new file at a path. -/
def create (system : FileSystem Path Node) (path : Path) (node : Node) : FileSystem Path Node where
  links other := if other = path then some system.next else system.links other
  nodes file := if file = system.next then node else system.nodes file
  next := system.next + 1
  allocated := by
    intro other file linked
    split at linked
    · cases linked
      exact Nat.lt_succ_self _
    · exact Nat.lt_succ_of_lt (system.allocated linked)

/-- Change the file a path names, for every path that names it. -/
def modify (system : FileSystem Path Node) (path : Path) (change : Node → Node) :
    FileSystem Path Node where
  links := system.links
  nodes file :=
    if system.links path = some file then change (system.nodes file) else system.nodes file
  next := system.next
  allocated := system.allocated

/-- Give the file at `source` the further name `target`. -/
def link (system : FileSystem Path Node) (source target : Path) : FileSystem Path Node where
  links other := if other = target then system.links source else system.links other
  nodes := system.nodes
  next := system.next
  allocated := by
    intro other file linked
    split at linked
    · exact system.allocated linked
    · exact system.allocated linked

/-- Remove one name of a file. -/
def unlink (system : FileSystem Path Node) (path : Path) : FileSystem Path Node where
  links other := if other = path then none else system.links other
  nodes := system.nodes
  next := system.next
  allocated := by
    intro other file linked
    split at linked
    · cases linked
    · exact system.allocated linked

variable (system : FileSystem Path Node) {path other source target : Path}

@[simp] theorem lookup_create_self (node : Node) :
    (system.create path node).lookup path = some node := by
  simp [lookup, create]

@[simp] theorem lookup_create_other (node : Node) (different : other ≠ path) :
    (system.create path node).lookup other = system.lookup other := by
  simp only [lookup, create, if_neg different]
  cases linked : system.links other with
  | none => rfl
  | some file =>
      simp only [Option.map_some, if_neg (Nat.ne_of_lt (system.allocated linked))]

@[simp] theorem lookup_link_target :
    (system.link source target).lookup target = system.lookup source := by
  simp [lookup, link]

@[simp] theorem lookup_link_other (different : other ≠ target) :
    (system.link source target).lookup other = system.lookup other := by
  simp [lookup, link, different]

@[simp] theorem lookup_unlink_self : (system.unlink path).lookup path = none := by
  simp [lookup, unlink]

@[simp] theorem lookup_unlink_other (different : other ≠ path) :
    (system.unlink path).lookup other = system.lookup other := by
  simp [lookup, unlink, different]

omit [DecidableEq Path] in
theorem lookup_modify_self (change : Node → Node) :
    (system.modify path change).lookup path = (system.lookup path).map change := by
  cases linked : system.links path <;> simp [lookup, modify, linked]

omit [DecidableEq Path] in
/-- Names of other files do not see the change. -/
theorem lookup_modify_other (change : Node → Node)
    (different : system.links other ≠ system.links path) :
    (system.modify path change).lookup other = system.lookup other := by
  simp only [lookup, modify]
  cases linked : system.links other with
  | none => rfl
  | some file =>
      rw [linked] at different
      simp [Ne.symm different]

omit [DecidableEq Path] in
theorem lookup_eq_none_iff : system.lookup path = none ↔ system.links path = none := by
  simp [lookup]

end FileSystem
