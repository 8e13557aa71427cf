import GatedResources.Proofs.CompactText

/-!
# Reading indented text

A value whose numbers are whole numbers of 64 bits, written with a line for each of its parts, is
read back as it is.
-/

namespace GatedResources
namespace Json

theorem line_break_gap (level : Nat) : IsGap (lineBreak level) := by
  intro symbol inside
  rcases List.mem_cons.mp inside with rfl | blank
  · decide
  · rw [List.eq_of_mem_replicate blank]
    decide

theorem line_end_gap : IsGap "\n".toList :=
  line_break_gap 0

mutual

/-- Indented text is laid out with line breaks before the parts of a container and behind them. -/
theorem laid_indented {depth : Nat} (level : Nat) (value : Json) (whole : value.HasWholeNumbers)
    (shallow : value.nesting ≤ depth) : Laid depth value (indentedSymbols level value) := by
  match value with
  | .null => exact .null
  | .bool value => exact .flag value
  | .number written => exact .number whole
  | .string text => exact .string text
  | .array elements =>
      match depth with
      | 0 => exact absurd shallow (Nat.not_succ_le_zero _)
      | depth + 1 =>
          match elements with
          | [] => exact .array no_gap .none
          | element :: others =>
              obtain ⟨inner, written, inside⟩ := laid_indented_elements (level + 1)
                (element :: others) nofun whole (Nat.le_of_succ_le_succ shallow)
                (line_break_gap level)
              have laid := Laid.array (line_break_gap (level + 1)) inside
              rw [← List.append_assoc, ← written] at laid
              exact laid
  | .object members =>
      match depth with
      | 0 => exact absurd shallow (Nat.not_succ_le_zero _)
      | depth + 1 =>
          match members with
          | [] => exact .object no_gap .none
          | member :: others =>
              obtain ⟨inner, written, inside⟩ := laid_indented_members (level + 1)
                (member :: others) nofun whole (Nat.le_of_succ_le_succ shallow)
                (line_break_gap level)
              have laid := Laid.object (line_break_gap (level + 1)) inside
              rw [← List.append_assoc, ← written] at laid
              exact laid

/-- The line break before the closing bracket belongs to the last element. -/
theorem laid_indented_elements {depth : Nat} (level : Nat) (elements : List Json)
    (filled : elements ≠ []) (whole : ElementsHaveWholeNumbers elements)
    (shallow : elementsNesting elements ≤ depth) {after : List Char} (gap : IsGap after) :
    ∃ inner, indentedElements level elements ++ after = lineBreak level ++ inner ∧
      LaidElements depth elements inner := by
  match elements with
  | [] => exact absurd rfl filled
  | [element] =>
      have own := laid_indented level element whole.1 (Nat.le_trans (Nat.le_max_left _ _) shallow)
      exact ⟨_, by simp [indentedElements], .last own gap⟩
  | element :: next :: others =>
      have own := laid_indented level element whole.1 (Nat.le_trans (Nat.le_max_left _ _) shallow)
      obtain ⟨later, written, further⟩ := laid_indented_elements level (next :: others) nofun
        whole.2 (Nat.le_trans (Nat.le_max_right _ _) shallow) gap
      refine ⟨_, ?_, .more own no_gap (line_break_gap level) further⟩
      rw [indentedElements, ← written]
      simp

theorem laid_indented_members {depth : Nat} (level : Nat) (members : List (String × Json))
    (filled : members ≠ []) (whole : MembersHaveWholeNumbers members)
    (shallow : membersNesting members ≤ depth) {after : List Char} (gap : IsGap after) :
    ∃ inner, indentedMembers level members ++ after = lineBreak level ++ inner ∧
      LaidMembers depth members inner := by
  have space : IsGap [' '] := by
    intro symbol inside
    rw [List.mem_singleton.mp inside]
    decide
  match members with
  | [] => exact absurd rfl filled
  | [(key, value)] =>
      have own := laid_indented level value whole.1 (Nat.le_trans (Nat.le_max_left _ _) shallow)
      exact ⟨_, by simp [indentedMembers], .last no_gap space own gap⟩
  | (key, value) :: next :: others =>
      have own := laid_indented level value whole.1 (Nat.le_trans (Nat.le_max_left _ _) shallow)
      obtain ⟨later, written, further⟩ := laid_indented_members level (next :: others) nofun
        whole.2 (Nat.le_trans (Nat.le_max_right _ _) shallow) gap
      refine ⟨_, ?_, .more no_gap space own no_gap (line_break_gap level) further⟩
      rw [indentedMembers, ← written]
      simp

end

/-- Indented text and what blanks stand behind it are read to the value that was written. -/
theorem parse_indented_in_order {value : Json} (whole : value.HasWholeNumbers)
    (shallow : value.nesting ≤ greatestDepth) {after : String} (gap : IsGap after.toList) :
    parseInOrder (value.indented ++ after) = some value := by
  apply parse_laid (laid_indented 0 value whole shallow) gap
  rw [String.toList_append]
  exact congrArg (· ++ after.toList) String.toList_ofList

end Json
end GatedResources
