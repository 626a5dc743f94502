import TaskAttest.Path
import Mathlib.Data.String.Basic

/-! How the text and the components of a joined path arise from its parts. -/

set_option autoImplicit false

namespace TaskAttest

/-! Text -/

/-- Joining adds one fixed separator, possibly empty, before the relative part. -/
theorem joinPath_toList (base : String) :
    ∃ separator : List Char, ∀ relative,
      (joinPath base relative).toList = base.toList ++ separator ++ relative.toList := by
  by_cases closed : base = "" ∨ base.toList.getLast? = some '/'
  · exact ⟨[], fun relative => by rw [joinPath, if_pos closed, String.toList_append]; simp⟩
  · refine ⟨['/'], fun relative => ?_⟩
    rw [joinPath, if_neg closed, String.toList_append, String.toList_append]
    rfl

theorem joinPath_injective (base : String) {left right : String}
    (same : joinPath base left = joinPath base right) : left = right := by
  obtain ⟨separator, joined⟩ := joinPath_toList base
  have sameText := congrArg String.toList same
  rw [joined, joined] at sameText
  exact String.toList_injective (List.append_cancel_left sameText)

/-- Directories whose names begin differently share no file. -/
theorem joinPath_ne_of_head {base left right leftRest rightRest : String} (first other : Char)
    (leftHead : left.toList.head? = some first) (rightHead : right.toList.head? = some other)
    (different : first ≠ other) :
    joinPath (joinPath base left) leftRest ≠ joinPath (joinPath base right) rightRest := by
  intro same
  obtain ⟨separator, joined⟩ := joinPath_toList base
  obtain ⟨leftSeparator, leftJoined⟩ := joinPath_toList (joinPath base left)
  obtain ⟨rightSeparator, rightJoined⟩ := joinPath_toList (joinPath base right)
  have sameText := congrArg String.toList same
  rw [leftJoined, rightJoined, joined, joined] at sameText
  simp only [List.append_assoc, List.append_cancel_left_eq] at sameText
  have sameHead := congrArg List.head? sameText
  simp only [List.head?_append, leftHead, rightHead, Option.some_or, Option.some.injEq] at sameHead
  exact different sameHead

/-! Components -/

theorem splitOnChar_of_not_mem {separator : Char} {text : List Char}
    (absent : separator ∉ text) : splitOnChar separator text = [text] := by
  induction text with
  | nil => rfl
  | cons character rest ih =>
      simp only [List.mem_cons, not_or] at absent
      rw [splitOnChar, if_neg (Ne.symm absent.1), ih absent.2]

theorem splitOnChar_ne_nil (separator : Char) (text : List Char) :
    splitOnChar separator text ≠ [] := by
  cases text with
  | nil => simp [splitOnChar]
  | cons character rest =>
      simp only [splitOnChar]
      split
      · simp
      · split <;> simp

theorem splitOnChar_append (separator : Char) (left right : List Char) :
    splitOnChar separator (left ++ separator :: right) =
      splitOnChar separator left ++ splitOnChar separator right := by
  induction left with
  | nil => simp [splitOnChar]
  | cons character rest ih =>
      simp only [List.cons_append, splitOnChar]
      split
      · rw [ih, List.cons_append]
      · rw [ih]
        cases pieces : splitOnChar separator rest with
        | nil => exact absurd pieces (splitOnChar_ne_nil separator rest)
        | cons piece others => rfl

private theorem not_mem_of_mem_splitOnChar {separator : Char} {text piece : List Char}
    (member : piece ∈ splitOnChar separator text) : separator ∉ piece := by
  induction text generalizing piece with
  | nil =>
      rw [splitOnChar, List.mem_singleton] at member
      simp [member]
  | cons character rest ih =>
      simp only [splitOnChar] at member
      split at member
      · rcases List.mem_cons.mp member with rfl | member
        · simp
        · exact ih member
      · rename_i different
        cases pieces : splitOnChar separator rest with
        | nil => exact absurd pieces (splitOnChar_ne_nil separator rest)
        | cons first others =>
            rw [pieces] at member ih
            rcases List.mem_cons.mp member with rfl | member
            · rw [List.mem_cons, not_or]
              exact ⟨Ne.symm different, ih (List.mem_cons_self ..)⟩
            · exact ih (List.mem_cons_of_mem _ member)

/-- What a path begins with besides its named components. -/
def pathStart (text : List Char) : List Component :=
  if text.head? = some '/' then [.rootDir]
  else if (splitOnChar '/' text).head? = some ['.'] then [.curDir]
  else []

private theorem components_eq (path : String) :
    components path =
      pathStart path.toList ++ (splitOnChar '/' path.toList).filterMap componentOf := by
  unfold components pathStart
  split
  · rename_i rest shape
    simp [shape, splitOnChar, componentOf]
  · rename_i relative
    have notRoot : path.toList.head? ≠ some '/' := by
      cases shape : path.toList with
      | nil => simp
      | cons character rest =>
          intro root
          obtain rfl := Option.some.inj root
          exact relative rest shape
    rw [if_neg notRoot]

/-- A file name that is one component. -/
structure PlainName (name : String) : Prop where
  noSeparator : '/' ∉ name.toList
  component : componentOf name.toList = some (.normal name.toList)

/-- Any text without a separator names a file, but for the shortest ones. -/
theorem plainName_of_length {name : String} (noSeparator : '/' ∉ name.toList)
    (long : 2 < name.toList.length) : PlainName name := by
  refine ⟨noSeparator, ?_⟩
  have notShort : ∀ short : List Char, short.length ≤ 2 → name.toList ≠ short := by
    intro short bound same
    rw [same] at long
    omega
  simp [componentOf, notShort [] (by decide), notShort ['.'] (by decide),
    notShort ['.', '.'] (by decide)]

/-- A file name is the last component of its path, and one of the pieces between
separators. -/
theorem fileName?_cases {path : String} {name : List Char} (named : fileName? path = some name) :
    (components path).getLast? = some (.normal name) ∧ name ∈ splitOnChar '/' path.toList ∧
      name ≠ [] := by
  have last : (components path).getLast? = some (.normal name) := by
    unfold fileName? at named
    split at named
    · rename_i found same
      rw [same, Option.some.inj named]
    · cases named
  refine ⟨last, ?_⟩
  have member := List.mem_of_getLast? last
  rw [components_eq, List.mem_append] at member
  rcases member with atStart | within
  · unfold pathStart at atStart
    split at atStart
    · simp at atStart
    · split at atStart <;> simp at atStart
  · obtain ⟨piece, listed, component⟩ := List.mem_filterMap.mp within
    unfold componentOf at component
    split at component
    · cases component
    · rename_i plain
      split at component
      · cases component
      · cases component
        exact ⟨listed, fun empty => plain (.inl empty)⟩

theorem noSeparator_of_fileName? {path : String} {name : List Char}
    (named : fileName? path = some name) : '/' ∉ name :=
  not_mem_of_mem_splitOnChar (fileName?_cases named).2.1

/-- What follows a separator does not change how a path begins. -/
theorem pathStart_append (left right : List Char) :
    pathStart (left ++ '/' :: right) = pathStart (left ++ ['/']) := by
  have sameHead : (left ++ '/' :: right).head? = (left ++ ['/']).head? := by cases left <;> rfl
  have sameFirst : (splitOnChar '/' (left ++ '/' :: right)).head? =
      (splitOnChar '/' (left ++ ['/'])).head? := by
    rw [splitOnChar_append, splitOnChar_append, List.head?_append_of_ne_nil _
      (splitOnChar_ne_nil _ _), List.head?_append_of_ne_nil _ (splitOnChar_ne_nil _ _)]
  rw [pathStart, pathStart, sameHead, sameFirst]

private theorem pathStart_closed {left : List Char} (nonempty : left ≠ []) :
    pathStart (left ++ ['/']) = pathStart left := by
  have sameHead : (left ++ ['/']).head? = left.head? := List.head?_append_of_ne_nil _ nonempty
  have sameFirst : (splitOnChar '/' (left ++ ['/'])).head? = (splitOnChar '/' left).head? := by
    rw [splitOnChar_append, List.head?_append_of_ne_nil _ (splitOnChar_ne_nil _ _)]
  rw [pathStart, pathStart, sameHead, sameFirst]

theorem components_joinPath {base name : String} (plain : PlainName name) :
    components (joinPath base name) = components base ++ [.normal name.toList] := by
  have own : (splitOnChar '/' name.toList).filterMap componentOf = [.normal name.toList] := by
    rw [splitOnChar_of_not_mem plain.noSeparator]
    simp [plain.component]
  rw [components_eq, components_eq]
  by_cases nonempty : base = ""
  · have start : pathStart name.toList = [] := by
      have noRoot : name.toList.head? ≠ some '/' := fun root =>
        plain.noSeparator (List.mem_of_mem_head? root)
      have noDot : name.toList ≠ ['.'] := by
        intro dot
        have component := plain.component
        rw [dot] at component
        cases component
      simp [pathStart, noRoot, splitOnChar_of_not_mem plain.noSeparator, noDot]
    rw [joinPath, if_pos (.inl nonempty), nonempty, String.empty_append, own, start]
    rfl
  by_cases closed : base.toList.getLast? = some '/'
  · obtain ⟨left, shape⟩ := List.getLast?_eq_some_iff.mp closed
    rw [joinPath, if_pos (.inr closed), String.toList_append, shape, List.append_assoc,
      List.singleton_append, pathStart_append, splitOnChar_append, splitOnChar_append,
      List.filterMap_append, List.filterMap_append, own]
    simp [splitOnChar, componentOf]
  · have open' : ¬(base = "" ∨ base.toList.getLast? = some '/') := not_or.mpr ⟨nonempty, closed⟩
    have text : (joinPath base name).toList = base.toList ++ '/' :: name.toList := by
      rw [joinPath, if_neg open', String.toList_append, String.toList_append]
      simp
    have baseText : base.toList ≠ [] := fun empty => nonempty (String.toList_injective empty)
    rw [text, pathStart_append, pathStart_closed baseText, splitOnChar_append,
      List.filterMap_append, own, List.append_assoc]

/-- The text of a path whose components are known. -/
def directoryText (parts : List Component) : String :=
  match parts with
  | [.rootDir] => "/"
  | _ => String.ofList (['/'].intercalate (parts.map Component.text))

theorem parent?_joinPath {base name : String} (plain : PlainName name)
    (named : components base ≠ []) :
    parent? (joinPath base name) = some (directoryText (components base)) := by
  have parts := @components_joinPath base name plain
  unfold parent?
  cases shape : components base with
  | nil => exact absurd shape named
  | cons first rest =>
      rw [shape, List.cons_append] at parts
      cases rest with
      | nil => cases first <;> simp [parts, directoryText]
      | cons second others =>
          have dropped : (first :: second :: (others ++ [Component.normal name.toList])).dropLast =
              first :: second :: others := by
            rw [← List.cons_append, ← List.cons_append, List.dropLast_concat]
          cases others <;> cases first <;> simp_all [directoryText]

/-! The length of a parent -/

/-- How long pieces are together, each with a separator. -/
def spread : List (List Char) → Nat
  | [] => 0
  | piece :: rest => piece.length + 1 + spread rest

theorem spread_splitOnChar (separator : Char) (text : List Char) :
    spread (splitOnChar separator text) = text.length + 1 := by
  induction text with
  | nil => rfl
  | cons character rest ih =>
      simp only [splitOnChar]
      split
      · simp [spread] at ih ⊢
        omega
      · cases pieces : splitOnChar separator rest with
        | nil => exact absurd pieces (splitOnChar_ne_nil separator rest)
        | cons piece others =>
            rw [pieces] at ih
            simp [spread] at ih ⊢
            omega

theorem length_intercalate (pieces : List (List Char)) :
    (['/'].intercalate pieces).length ≤ spread pieces - 1 := by
  induction pieces with
  | nil => simp [spread]
  | cons piece others ih =>
      cases others with
      | nil => simp [spread]
      | cons second rest =>
          rw [List.intercalate_cons_cons]
          simp [spread] at ih ⊢
          omega

theorem spread_sublist {pieces others : List (List Char)} (sub : pieces.Sublist others) :
    spread pieces ≤ spread others := by
  induction sub with
  | slnil => exact Nat.le_refl _
  | cons piece _ ih => exact ih.trans (Nat.le_add_left _ _)
  | cons_cons piece _ ih => exact Nat.add_le_add_left ih _

private theorem texts_sublist (pieces : List (List Char)) :
    ((pieces.filterMap componentOf).map Component.text).Sublist pieces := by
  induction pieces with
  | nil => exact .slnil
  | cons piece others ih =>
      cases component : componentOf piece with
      | none =>
          rw [List.filterMap_cons_none component]
          exact ih.cons _
      | some found =>
          have text : found.text = piece := by
            unfold componentOf at component
            split at component
            · cases component
            · split at component <;> cases component
              · rename_i dots
                exact dots.symm
              · rfl
          rw [List.filterMap_cons_some component, List.map_cons, text]
          exact ih.cons_cons _

/-- The texts of the components are among the pieces of a path. -/
theorem components_sublist (path : String) :
    ((components path).map Component.text).Sublist (splitOnChar '/' path.toList) := by
  rw [components_eq]
  unfold pathStart
  split
  · rename_i root
    obtain ⟨rest, shape⟩ : ∃ rest, path.toList = '/' :: rest := by
      cases text : path.toList with
      | nil => simp [text] at root
      | cons character rest =>
          rw [text] at root
          exact ⟨rest, by rw [Option.some.inj root]⟩
    rw [shape, splitOnChar, if_pos rfl]
    rw [List.filterMap_cons_none (by rfl : componentOf [] = none)]
    exact (texts_sublist _).cons_cons []
  · split
    · rename_i dot
      cases pieces : splitOnChar '/' path.toList with
      | nil => exact absurd pieces (splitOnChar_ne_nil _ _)
      | cons first others =>
          rw [pieces] at dot
          rw [Option.some.inj dot]
          exact (texts_sublist others).cons_cons ['.']
    · exact texts_sublist _

theorem length_parent?_le {path parent : String} (found : parent? path = some parent) :
    parent.toList.length ≤ path.toList.length := by
  have texts : spread ((components path).map Component.text) ≤ path.toList.length + 1 :=
    spread_splitOnChar '/' path.toList ▸ spread_sublist (components_sublist path)
  unfold parent? at found
  split at found
  · cases found
  · cases found
  · rename_i last shape
    rw [shape] at texts
    simp [spread] at texts
    have text : parent.toList.length = 1 := by rw [← Option.some.inj found]; rfl
    omega
  · have dropped := spread_sublist ((List.dropLast_sublist (components path)).map Component.text)
    have bound := length_intercalate ((components path).dropLast.map Component.text)
    rw [← Option.some.inj found, String.toList_ofList]
    omega

end TaskAttest
