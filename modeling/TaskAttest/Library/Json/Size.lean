import TaskAttest.Library.Json.Text
import TaskAttest.Library.Utf8

/-! How long the text of a value can be, from the sizes of its strings alone. -/

set_option autoImplicit false

private theorem length_le_length_utf8 (text : List Char) : text.length ≤ (utf8 text).length := by
  induction text with
  | nil => exact Nat.le_refl _
  | cons character rest ih =>
      have step : utf8 (character :: rest) = String.utf8EncodeChar character ++ utf8 rest := rfl
      have positive := character.utf8Size_pos
      rw [step, List.length_append, String.length_utf8EncodeChar, List.length_cons]
      omega

private theorem length_toList_le_utf8ByteSize (text : String) :
    text.toList.length ≤ text.utf8ByteSize := by
  have bytes : text.utf8ByteSize = (utf8 text.toList).length := by
    have encoded : (String.ofList text.toList).toByteArray = (utf8 text.toList).toByteArray := rfl
    rw [String.ofList_toList] at encoded
    rw [← String.size_toByteArray, encoded, List.size_toByteArray]
  rw [bytes]
  exact length_le_length_utf8 _

namespace Json

@[simp] theorem Layout.compact_line (indent : Nat) : Layout.compact.line indent = [] := rfl

@[simp] theorem Layout.compact_colon : Layout.compact.colon = [] := rfl

namespace Value

variable {layout : Layout}

/-- Each character of a string may need six. -/
def stringRoom (text : String) : Nat := 6 * text.utf8ByteSize + 2

mutual
/-- Room for the text of a value. -/
def room (layout : Layout) (indent : Nat) : Value → Nat
  | .null => 4
  | .bool _ => 5
  | .number value => (renderNumber value).length
  | .float text => text.length
  | .string value => stringRoom value
  | .array [] => 2
  | .array (element :: rest) =>
      (layout.line (indent + 1)).length + room layout (indent + 1) element +
        roomElements layout (indent + 1) rest + (layout.line indent).length + 2
  | .object [] => 2
  | .object ((key, value) :: rest) =>
      (layout.line (indent + 1)).length + stringRoom key + layout.colon.length +
        room layout (indent + 1) value + roomMembers layout (indent + 1) rest +
        (layout.line indent).length + 3
def roomElements (layout : Layout) (indent : Nat) : List Value → Nat
  | [] => 0
  | element :: rest =>
      (layout.line indent).length + room layout indent element +
        roomElements layout indent rest + 1
def roomMembers (layout : Layout) (indent : Nat) : Members → Nat
  | [] => 0
  | (key, value) :: rest =>
      (layout.line indent).length + stringRoom key + layout.colon.length +
        room layout indent value + roomMembers layout indent rest + 2
end

private theorem length_renderString_le_room (text : String) :
    (renderString text).length ≤ stringRoom text := by
  have written := length_renderString_le text
  have sized := length_toList_le_utf8ByteSize text
  rw [stringRoom]
  omega

mutual
private theorem length_render_le (indent : Nat) :
    ∀ value : Value, (value.render layout indent).length ≤ value.room layout indent
  | .null => Nat.le_refl _
  | .bool true => Nat.le_succ _
  | .bool false => Nat.le_refl _
  | .number _ => Nat.le_refl _
  | .float _ => Nat.le_refl _
  | .string text => length_renderString_le_room text
  | .array [] => Nat.le_refl _
  | .array (element :: rest) => by
      have first := length_render_le (indent + 1) element
      have others := length_renderElements_le (indent + 1) rest
      simp only [render, room, List.length_cons, List.length_append, List.length_nil]
      omega
  | .object [] => Nat.le_refl _
  | .object ((key, value) :: rest) => by
      have name := length_renderString_le_room key
      have first := length_render_le (indent + 1) value
      have others := length_renderMembers_le (indent + 1) rest
      simp only [render, room, List.length_cons, List.length_append, List.length_nil]
      omega
private theorem length_renderElements_le (indent : Nat) : ∀ elements : List Value,
    (renderElements layout indent elements).length ≤ roomElements layout indent elements
  | [] => Nat.le_refl _
  | element :: rest => by
      have first := length_render_le indent element
      have others := length_renderElements_le indent rest
      simp only [renderElements, roomElements, List.length_cons, List.length_append]
      omega
private theorem length_renderMembers_le (indent : Nat) : ∀ members : Members,
    (renderMembers layout indent members).length ≤ roomMembers layout indent members
  | [] => Nat.le_refl _
  | (key, value) :: rest => by
      have name := length_renderString_le_room key
      have first := length_render_le indent value
      have others := length_renderMembers_le indent rest
      simp only [renderMembers, roomMembers, List.length_cons, List.length_append]
      omega
end

theorem length_utf8_renderMembers_le (indent : Nat) (members : Members) :
    (utf8 (renderMembers layout indent members)).length ≤ 4 * roomMembers layout indent members :=
  (length_utf8_le _).trans (Nat.mul_le_mul_left 4 (length_renderMembers_le indent members))

/-! A compact text is what is left of any other without its blanks. -/

mutual
private theorem render_compact_sublist (indent other : Nat) :
    ∀ value : Value, (value.render .compact indent).Sublist (value.render layout other)
  | .null => List.Sublist.refl _
  | .bool true => List.Sublist.refl _
  | .bool false => List.Sublist.refl _
  | .number _ => List.Sublist.refl _
  | .float _ => List.Sublist.refl _
  | .string _ => List.Sublist.refl _
  | .array [] => List.Sublist.refl _
  | .array (element :: rest) => by
      have first := render_compact_sublist (indent + 1) (other + 1) element
      have others := renderElements_compact_sublist (indent + 1) (other + 1) rest
      have line := List.nil_sublist (layout.line (other + 1))
      have last := List.nil_sublist (layout.line other)
      simp only [render, Layout.compact_line]
      exact ((((line.append first).append others).append last).append (.refl _)).cons_cons _
  | .object [] => List.Sublist.refl _
  | .object ((key, value) :: rest) => by
      have first := render_compact_sublist (indent + 1) (other + 1) value
      have others := renderMembers_compact_sublist (indent + 1) (other + 1) rest
      have name := List.Sublist.refl (renderString key)
      have colon := (List.nil_sublist layout.colon).cons_cons ':'
      have line := List.nil_sublist (layout.line (other + 1))
      have last := List.nil_sublist (layout.line other)
      simp only [render, Layout.compact_line, Layout.compact_colon]
      exact ((((((line.append name).append colon).append first).append others).append
        last).append (.refl _)).cons_cons _
private theorem renderElements_compact_sublist (indent other : Nat) : ∀ elements : List Value,
    (renderElements .compact indent elements).Sublist (renderElements layout other elements)
  | [] => List.Sublist.refl _
  | element :: rest => by
      have first := render_compact_sublist indent other element
      have others := renderElements_compact_sublist indent other rest
      have line := List.nil_sublist (layout.line other)
      simp only [renderElements, Layout.compact_line]
      exact ((line.append first).append others).cons_cons _
private theorem renderMembers_compact_sublist (indent other : Nat) : ∀ members : Members,
    (renderMembers .compact indent members).Sublist (renderMembers layout other members)
  | [] => List.Sublist.refl _
  | (key, value) :: rest => by
      have first := render_compact_sublist indent other value
      have others := renderMembers_compact_sublist indent other rest
      have name := List.Sublist.refl (renderString key)
      have colon := (List.nil_sublist layout.colon).cons_cons ':'
      have line := List.nil_sublist (layout.line other)
      simp only [renderMembers, Layout.compact_line, Layout.compact_colon]
      exact ((((line.append name).append colon).append first).append others).cons_cons _
end

end Value

end Json
