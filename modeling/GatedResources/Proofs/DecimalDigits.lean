import GatedResources.Number.Decimal

/-!
# Decimal digits

The digits of a natural number are digits, the first is zero only where it is the only one, and
read from the left they are the number.
-/

namespace GatedResources
namespace Decimal

theorem digit_char_value : ∀ digit < 10, digitValue (digitChar digit) = digit := by
  decide

theorem digit_char_is_digit : ∀ digit < 10, isDigit (digitChar digit) = true := by
  decide

theorem digits_are_digits (value : Nat) : ∀ symbol ∈ digits value,
    ∃ digit < 10, symbol = digitChar digit := by
  induction value using Nat.strongRecOn with
  | ind value claim =>
      intro symbol member
      rw [digits] at member
      split at member
      case isTrue below =>
          exact ⟨value, below, List.mem_singleton.mp member⟩
      case isFalse above =>
          rcases List.mem_append.mp member with leading | last
          · exact claim (value / 10) (by omega) symbol leading
          · exact ⟨value % 10, by omega, List.mem_singleton.mp last⟩

theorem is_digit_of_digits {value : Nat} {symbol : Char} (member : symbol ∈ digits value) :
    isDigit symbol = true := by
  obtain ⟨digit, below, same⟩ := digits_are_digits value symbol member
  rw [same]
  exact digit_char_is_digit digit below

theorem digits_nonempty (value : Nat) : digits value ≠ [] := by
  rw [digits]
  by_cases below : value < 10
  · simp [below]
  · simp [below]

theorem digits_start (value : Nat) :
    ∃ symbol rest, digits value = symbol :: rest ∧ isDigit symbol = true := by
  cases written : digits value with
  | nil => exact absurd written (digits_nonempty value)
  | cons symbol rest =>
      exact ⟨symbol, rest, rfl, is_digit_of_digits (written ▸ List.mem_cons_self)⟩

theorem digits_head {value : Nat} (positive : 0 < value) :
    ∃ digit, 0 < digit ∧ digit < 10 ∧ (digits value).head? = some (digitChar digit) := by
  induction value using Nat.strongRecOn with
  | ind value claim =>
      by_cases below : value < 10
      · refine ⟨value, positive, below, ?_⟩
        rw [digits, if_pos below]
        rfl
      · obtain ⟨digit, above, small, first⟩ := claim (value / 10) (by omega) (by omega)
        refine ⟨digit, above, small, ?_⟩
        rw [digits, if_neg below, List.head?_append, first]
        rfl

theorem digits_first_zero {value : Nat} (zero : (digits value).head? = some '0') :
    (digits value).length = 1 := by
  have nonzero : ∀ digit < 10, 0 < digit → digitChar digit ≠ '0' := by decide
  rcases Nat.eq_zero_or_pos value with none | positive
  · rw [none, digits]
    rfl
  · obtain ⟨digit, above, small, first⟩ := digits_head positive
    rw [first] at zero
    exact absurd (Option.some.inj zero) (nonzero digit small above)

/-- The number that digits read from the left continue. -/
theorem digits_fold (value : Nat) :
    (digits value).foldl (fun total symbol => total * 10 + digitValue symbol) 0 = value := by
  induction value using Nat.strongRecOn with
  | ind value claim =>
      by_cases below : value < 10
      · rw [digits, if_pos below, List.foldl_cons, List.foldl_nil, digit_char_value value below]
        omega
      · have before := claim (value / 10) (by omega)
        have last := digit_char_value (value % 10) (by omega)
        rw [digits, if_neg below, List.foldl_append, before, List.foldl_cons, List.foldl_nil, last]
        omega

theorem fold_le (symbols : List Char) (total : Nat) :
    total ≤ symbols.foldl (fun total symbol => total * 10 + digitValue symbol) total := by
  induction symbols generalizing total with
  | nil => exact Nat.le_refl total
  | cons symbol rest claim =>
      have further := claim (total * 10 + digitValue symbol)
      rw [List.foldl_cons]
      omega

end Decimal
end GatedResources
