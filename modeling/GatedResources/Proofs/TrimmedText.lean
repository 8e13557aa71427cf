import GatedResources.Text.Trim

/-!
# Text without its ends

What is left of a text when characters are dropped from its ends neither begins nor ends with a
character that is dropped, and stands in the text with dropped characters only around it.
-/

namespace GatedResources
namespace Trim

theorem drop_while_solid {drops : Char -> Bool} {symbols : List Char}
    (solid : ∀ symbol ∈ symbols.head?, drops symbol = false) :
    symbols.dropWhile drops = symbols := by
  cases symbols with
  | nil => rfl
  | cons symbol rest => simp [solid symbol rfl]

theorem head_drop_while (drops : Char -> Bool) (symbols : List Char) :
    ∀ symbol ∈ (symbols.dropWhile drops).head?, drops symbol = false := by
  intro symbol first
  have kept := List.head?_dropWhile_not drops symbols
  rw [Option.mem_def.mp first] at kept
  exact kept

/-- Some of what is dropped may be gone already. -/
theorem both_drop_while {drops fewer : Char -> Bool}
    (within : ∀ symbol, fewer symbol = true → drops symbol = true) (symbols : List Char) :
    both drops (symbols.dropWhile fewer) = both drops symbols := by
  have same : (symbols.dropWhile fewer).dropWhile drops = symbols.dropWhile drops := by
    induction symbols with
    | nil => rfl
    | cons symbol rest claim =>
        rw [List.dropWhile_cons]
        split
        · next dropped => rw [claim, List.dropWhile_cons_of_pos (within symbol dropped)]
        · rfl
  rw [both, both, same]

/-- A part that neither begins nor ends with what is dropped is left of the text around it. -/
theorem both_around {drops : Char -> Bool} {before middle after : List Char}
    (leading : ∀ symbol ∈ before, drops symbol = true)
    (trailing : ∀ symbol ∈ after, drops symbol = true)
    (first : ∀ symbol ∈ middle.head?, drops symbol = false)
    (last : ∀ symbol ∈ middle.getLast?, drops symbol = false) :
    both drops (before ++ middle ++ after) = middle := by
  unfold both
  rw [List.append_assoc, List.dropWhile_append_of_pos leading]
  cases middle with
  | nil =>
      have nothing : (after ++ []).dropWhile drops = [].dropWhile drops :=
        List.dropWhile_append_of_pos trailing
      rw [List.append_nil] at nothing
      simp [nothing]
  | cons symbol rest =>
      have started : (symbol :: rest ++ after).dropWhile drops = symbol :: rest ++ after :=
        drop_while_solid (by simpa using first)
      have trailed : ∀ symbol ∈ after.reverse, drops symbol = true := by simpa using trailing
      have ended : ∀ final ∈ (symbol :: rest).reverse.head?, drops final = false := by
        rw [List.head?_reverse]
        exact last
      rw [started, List.reverse_append, List.dropWhile_append_of_pos trailed]
      rw [drop_while_solid ended, List.reverse_reverse]

/-- What is left stands in the text with dropped characters only around it. -/
theorem both_parts (drops : Char -> Bool) (symbols : List Char) :
    ∃ before after, symbols = before ++ both drops symbols ++ after ∧
      (∀ symbol ∈ before, drops symbol = true) ∧ (∀ symbol ∈ after, drops symbol = true) := by
  let kept := symbols.dropWhile drops
  have whole : kept = both drops symbols ++ (kept.reverse.takeWhile drops).reverse := by
    rw [both, ← List.reverse_append, List.takeWhile_append_dropWhile, List.reverse_reverse]
  refine ⟨symbols.takeWhile drops, (kept.reverse.takeWhile drops).reverse, ?_, ?_, ?_⟩
  · rw [List.append_assoc, ← whole, List.takeWhile_append_dropWhile]
  · exact fun symbol member => List.all_eq_true.mp List.all_takeWhile symbol member
  · intro symbol member
    exact List.all_eq_true.mp List.all_takeWhile symbol (List.mem_reverse.mp member)

theorem head_both (drops : Char -> Bool) (symbols : List Char) :
    ∀ symbol ∈ (both drops symbols).head?, drops symbol = false := by
  intro symbol first
  obtain ⟨after, whole⟩ : ∃ after, symbols.dropWhile drops = both drops symbols ++ after := by
    refine ⟨((symbols.dropWhile drops).reverse.takeWhile drops).reverse, ?_⟩
    rw [both, ← List.reverse_append, List.takeWhile_append_dropWhile, List.reverse_reverse]
  apply head_drop_while drops symbols symbol
  rw [whole, List.head?_append, Option.mem_def.mp first]
  rfl

theorem last_both (drops : Char -> Bool) (symbols : List Char) :
    ∀ symbol ∈ (both drops symbols).getLast?, drops symbol = false := by
  intro symbol last
  rw [both, List.getLast?_reverse] at last
  exact head_drop_while drops _ symbol last

end Trim
end GatedResources
