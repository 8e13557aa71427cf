import GatedResources.Proofs.LaidText

/-!
# Reading compact text

A value whose numbers are whole numbers of 64 bits, written without spaces, is read back as it is,
with its members in the order in which they are written.
-/

namespace GatedResources
namespace Json

mutual

def nesting : Json -> Nat
  | .array elements => elementsNesting elements + 1
  | .object members => membersNesting members + 1
  | .null | .bool _ | .number _ | .string _ => 0

def elementsNesting : List Json -> Nat
  | [] => 0
  | element :: rest => max (nesting element) (elementsNesting rest)

def membersNesting : List (String × Json) -> Nat
  | [] => 0
  | (_, value) :: rest => max (nesting value) (membersNesting rest)

end

mutual

def HasWholeNumbers : Json -> Prop
  | .number value => IsWhole value
  | .array elements => ElementsHaveWholeNumbers elements
  | .object members => MembersHaveWholeNumbers members
  | .null | .bool _ | .string _ => True

def ElementsHaveWholeNumbers : List Json -> Prop
  | [] => True
  | element :: rest => HasWholeNumbers element ∧ ElementsHaveWholeNumbers rest

def MembersHaveWholeNumbers : List (String × Json) -> Prop
  | [] => True
  | (_, value) :: rest => HasWholeNumbers value ∧ MembersHaveWholeNumbers rest

end

mutual

/-- Compact text is laid out without blanks. -/
theorem laid_compact {depth : Nat} (value : Json) (whole : value.HasWholeNumbers)
    (shallow : value.nesting ≤ depth) : Laid depth value (compactSymbols value) := by
  match value with
  | .null => exact .null
  | .bool true => exact .flag true
  | .bool false => exact .flag false
  | .number written => exact .number whole
  | .string text => exact .string text
  | .array elements =>
      match depth with
      | 0 => exact absurd shallow (Nat.not_succ_le_zero _)
      | depth + 1 =>
          have inside := laid_compact_elements elements whole (Nat.le_of_succ_le_succ shallow)
          exact .array no_gap inside
  | .object members =>
      match depth with
      | 0 => exact absurd shallow (Nat.not_succ_le_zero _)
      | depth + 1 =>
          have inside := laid_compact_members members whole (Nat.le_of_succ_le_succ shallow)
          exact .object no_gap inside

theorem laid_compact_elements {depth : Nat} (elements : List Json)
    (whole : ElementsHaveWholeNumbers elements) (shallow : elementsNesting elements ≤ depth) :
    LaidElements depth elements (compactElements elements) := by
  match elements with
  | [] => exact .none
  | [element] =>
      have own := laid_compact element whole.1 (Nat.le_trans (Nat.le_max_left _ _) shallow)
      have laid := LaidElements.last own no_gap
      rwa [List.append_nil] at laid
  | element :: next :: others =>
      have own := laid_compact element whole.1 (Nat.le_trans (Nat.le_max_left _ _) shallow)
      have further := laid_compact_elements (next :: others) whole.2
        (Nat.le_trans (Nat.le_max_right _ _) shallow)
      exact .more own no_gap no_gap further

theorem laid_compact_members {depth : Nat} (members : List (String × Json))
    (whole : MembersHaveWholeNumbers members) (shallow : membersNesting members ≤ depth) :
    LaidMembers depth members (compactMembers members) := by
  match members with
  | [] => exact .none
  | [(key, value)] =>
      have own := laid_compact value whole.1 (Nat.le_trans (Nat.le_max_left _ _) shallow)
      rw [compactMembers, ← List.append_nil (compactSymbols value)]
      exact .last no_gap no_gap own no_gap
  | (key, value) :: next :: others =>
      have own := laid_compact value whole.1 (Nat.le_trans (Nat.le_max_left _ _) shallow)
      have further := laid_compact_members (next :: others) whole.2
        (Nat.le_trans (Nat.le_max_right _ _) shallow)
      rw [compactMembers, List.append_assoc, List.cons_append]
      exact .more no_gap no_gap own no_gap no_gap further

end

/-- A whole text is read to the value that was written into it. -/
theorem parse_compact_in_order {value : Json} (whole : value.HasWholeNumbers)
    (shallow : value.nesting ≤ greatestDepth) :
    parseInOrder value.compact = some value := by
  have laid := laid_compact value whole shallow
  apply parse_laid laid no_gap
  rw [List.append_nil]
  exact String.toList_ofList

theorem parse_compact {value : Json} (whole : value.HasWholeNumbers)
    (shallow : value.nesting ≤ greatestDepth) :
    parse value.compact = some value.sorted := by
  rw [parse, parse_compact_in_order whole shallow]
  rfl

end Json
end GatedResources
