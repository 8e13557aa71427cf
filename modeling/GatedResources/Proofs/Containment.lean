import GatedResources.Proofs.GateDecision
import GatedResources.Proofs.OwnValues
import Mathlib.Data.List.TakeWhile

/-!
# Parts of texts

A filter with a text for a column asks for the records that contain the text there, whatever the
case of its ASCII letters. The text is put into a pattern as it is, so what it asks for is what it
spells as a pattern: `%` in it stands for any text, `_` for any character, and nothing counts from
its first NUL on. A text without these marks asks for what it is meant to ask for. A text with one
of them does not: there is always a text that is listed and does not contain it. A text that is
too long for a pattern is refused wherever there is a record.
-/

namespace GatedResources
namespace Like

/-- What a pattern without NUL spells. -/
inductive Spells : List Char -> List Char -> Prop where
  | nothing : Spells [] []
  | anything {pattern rest : List Char} (taken : List Char) (further : Spells pattern rest) :
      Spells ('%' :: pattern) (taken ++ rest)
  | symbol {mark symbol : Char} {pattern rest : List Char} (single : mark ≠ '%')
      (fits : mark = '_' ∨ SameLetter mark symbol) (further : Spells pattern rest) :
      Spells (mark :: pattern) (symbol :: rest)

/-- A text contains another one, but for the case of ASCII letters. -/
def Contains (text part : List Char) : Prop :=
  ∃ before middle after, text = before ++ middle ++ after ∧ List.Forall₂ SameLetter part middle

def marks : List Char := ['%', '_', '\x00']

def IsLiteral (text : List Char) : Prop :=
  ∀ symbol ∈ text, symbol ∉ marks

instance (text : List Char) : Decidable (IsLiteral text) :=
  List.decidableBAll _ text

theorem stands_for_iff {mark symbol : Char} :
    standsFor mark symbol = true ↔ mark = '_' ∨ SameLetter mark symbol := by
  unfold standsFor
  rw [Bool.or_eq_true, beq_iff_eq, beq_iff_eq, lower_eq_iff]

theorem spells_nil {text : List Char} : Spells [] text ↔ text = [] := by
  constructor
  · intro spelled
    cases spelled
    rfl
  · rintro rfl
    exact .nothing

theorem spells_wild {pattern text : List Char} :
    Spells ('%' :: pattern) text ↔ ∃ taken rest, text = taken ++ rest ∧ Spells pattern rest := by
  constructor
  · intro spelled
    cases spelled with
    | anything taken further => exact ⟨taken, _, rfl, further⟩
    | symbol single _ _ => exact absurd rfl single
  · rintro ⟨taken, rest, rfl, further⟩
    exact .anything taken further

theorem spells_symbol {mark : Char} (single : mark ≠ '%') {pattern text : List Char} :
    Spells (mark :: pattern) text ↔ ∃ symbol rest, text = symbol :: rest ∧
      (mark = '_' ∨ SameLetter mark symbol) ∧ Spells pattern rest := by
  constructor
  · intro spelled
    cases spelled with
    | anything _ _ => exact absurd rfl single
    | symbol _ fits further => exact ⟨_, _, rfl, fits, further⟩
  · rintro ⟨symbol, rest, rfl, fits, further⟩
    exact .symbol single fits further

theorem covers_wild_iff {pattern text : List Char} :
    covers ('%' :: pattern) text = true ↔
      ∃ taken rest, text = taken ++ rest ∧ covers pattern rest = true := by
  induction text with
  | nil =>
      rw [covers_wild]
      simp
  | cons symbol text claim =>
      rw [covers_wild, Bool.or_eq_true]
      simp only [List.isEmpty_cons, Bool.not_false, Bool.true_and, List.tail_cons]
      rw [claim]
      constructor
      · rintro (here | ⟨taken, rest, same, later⟩)
        · exact ⟨[], _, rfl, here⟩
        · exact ⟨symbol :: taken, rest, by rw [same]; rfl, later⟩
      · rintro ⟨taken, rest, same, covered⟩
        cases taken with
        | nil =>
            rw [List.nil_append] at same
            exact .inl (same ▸ covered)
        | cons first others =>
            cases same
            exact .inr ⟨others, rest, rfl, covered⟩

/-- A text matches a pattern when the pattern spells it. -/
theorem covers_iff_spells {pattern text : List Char} :
    covers pattern text = true ↔ Spells pattern text := by
  induction pattern generalizing text with
  | nil => rw [covers_nil, List.isEmpty_iff, spells_nil]
  | cons mark pattern claim =>
      by_cases wild : mark = '%'
      · subst wild
        rw [covers_wild_iff, spells_wild]
        simp only [claim]
      · rw [spells_symbol wild]
        cases text with
        | nil =>
            rw [covers_mark_end mark wild]
            simp
        | cons symbol rest =>
            rw [covers_mark mark wild, Bool.and_eq_true, stands_for_iff, claim]
            simp

theorem spells_append {first second text : List Char} :
    Spells (first ++ second) text ↔
      ∃ before after, text = before ++ after ∧ Spells first before ∧ Spells second after := by
  induction first generalizing text with
  | nil => simp [spells_nil]
  | cons mark first claim =>
      rw [List.cons_append]
      by_cases wild : mark = '%'
      · subst wild
        rw [spells_wild]
        simp only [claim, spells_wild]
        constructor
        · rintro ⟨taken, _, rfl, before, after, rfl, front, back⟩
          exact ⟨taken ++ before, after, by rw [List.append_assoc],
            ⟨taken, before, rfl, front⟩, back⟩
        · rintro ⟨_, after, rfl, ⟨taken, before, rfl, front⟩, back⟩
          exact ⟨taken, before ++ after, by rw [List.append_assoc], before, after, rfl, front, back⟩
      · rw [spells_symbol wild]
        simp only [claim, spells_symbol wild]
        constructor
        · rintro ⟨symbol, _, rfl, fits, before, after, rfl, front, back⟩
          exact ⟨symbol :: before, after, rfl, ⟨symbol, before, rfl, fits, front⟩, back⟩
        · rintro ⟨_, after, rfl, ⟨symbol, before, rfl, fits, front⟩, back⟩
          exact ⟨symbol, before ++ after, rfl, fits, before, after, rfl, front, back⟩

theorem spells_anything (text : List Char) : Spells ['%'] text := by
  rw [spells_wild]
  exact ⟨text, [], by rw [List.append_nil], .nothing⟩

/-! ## Texts in the middle of a pattern -/

theorem cut_cons {symbol : Char} (counts : symbol ≠ '\x00') (text : List Char) :
    cut (symbol :: text) = symbol :: cut text := by
  unfold cut
  rw [List.takeWhile_cons, if_pos (by simpa using counts)]

theorem cut_without_nul {text : List Char} (clean : '\x00' ∉ text) : cut text = text := by
  unfold cut
  rw [List.takeWhile_eq_self_iff]
  intro symbol member
  rw [bne_iff_ne]
  rintro rfl
  exact clean member

theorem nul_not_mem_cut (text : List Char) : '\x00' ∉ cut text := by
  intro member
  have counts := List.mem_takeWhile_imp member
  simp at counts

/-- A mark behind a text counts unless the text has a NUL. -/
theorem cut_append_wild (text : List Char) :
    cut (text ++ ['%']) = cut text ++ if '\x00' ∈ text then [] else ['%'] := by
  induction text with
  | nil => rfl
  | cons symbol rest claim =>
      by_cases nul : symbol = '\x00'
      · subst nul
        simp [cut]
      · have other : '\x00' ≠ symbol := Ne.symm nul
        rw [List.cons_append, cut_cons nul, cut_cons nul, claim]
        simp [other]

/-- A text stands somewhere in another one as what it spells; a NUL in it takes away the `%` at
the end, so that it stands at the end. -/
theorem is_match_part {part text : List Char} :
    isMatch ('%' :: (part ++ ['%'])) text = true ↔
      ∃ before middle after, cut text = before ++ middle ++ after ∧ Spells (cut part) middle ∧
        ('\x00' ∈ part → after = []) := by
  unfold isMatch
  rw [cut_cons (by decide), cut_append_wild, covers_iff_spells, spells_wild]
  simp only [spells_append]
  constructor
  · rintro ⟨before, _, same, middle, after, rfl, spelled, ends⟩
    refine ⟨before, middle, after, by rw [same, List.append_assoc], spelled, ?_⟩
    intro nul
    rw [if_pos nul] at ends
    exact spells_nil.mp ends
  · rintro ⟨before, middle, after, same, spelled, ends⟩
    refine ⟨before, middle ++ after, by rw [same, List.append_assoc], middle, after, rfl,
      spelled, ?_⟩
    split
    · next nul => exact spells_nil.mpr (ends nul)
    · exact spells_anything after

/-- Whatever a text spells, it spells every text that it is equal to. -/
theorem spells_same {part middle : List Char} (same : List.Forall₂ SameLetter part middle) :
    Spells part middle := by
  induction same with
  | nil => exact .nothing
  | @cons mark symbol part middle letter _ claim =>
      by_cases wild : mark = '%'
      · subst wild
        exact .anything [symbol] claim
      · exact .symbol wild (.inr letter) claim

theorem spells_literal {part middle : List Char} (literal : IsLiteral part) :
    Spells part middle ↔ List.Forall₂ SameLetter part middle := by
  refine ⟨?_, spells_same⟩
  intro spelled
  induction spelled with
  | nothing => exact .nil
  | anything taken _ _ =>
      have isNoMark := literal '%' List.mem_cons_self
      exact absurd (by decide) isNoMark
  | @symbol mark symbol _ _ _ fits _ claim =>
      refine .cons ?_ (claim fun held member => literal held (List.mem_cons_of_mem _ member))
      rcases fits with any | letter
      · have isNoMark := literal mark List.mem_cons_self
        rw [any] at isNoMark
        exact absurd (by decide) isNoMark
      · exact letter

theorem literal_without_nul {part : List Char} (literal : IsLiteral part) : '\x00' ∉ part := by
  intro member
  exact literal _ member (by decide)

/-- No other character is taken for a mark. -/
theorem same_letter_mark {mark symbol : Char} (isMark : mark ∈ marks)
    (same : SameLetter mark symbol) : symbol = mark := by
  unfold marks at isMark
  simp only [List.mem_cons, List.not_mem_nil, or_false] at isMark
  rcases same with same | ⟨above, below, _⟩ | ⟨above, below, far⟩
  · exact same.symm
  · rcases isMark with rfl | rfl | rfl
    · exact absurd above (by decide)
    · exact absurd below (by decide)
    · exact absurd above (by decide)
  · have number : mark.toNat = 37 ∨ mark.toNat = 95 ∨ mark.toNat = 0 := by
      rcases isMark with rfl | rfl | rfl
      · exact .inl rfl
      · exact .inr (.inl rfl)
      · exact .inr (.inr rfl)
    omega

theorem contains_mark {text part : List Char} (contained : Contains text part) {mark : Char}
    (isMark : mark ∈ marks) (member : mark ∈ part) : mark ∈ text := by
  obtain ⟨before, middle, after, rfl, same⟩ := contained
  obtain ⟨symbol, inside, letter⟩ : ∃ symbol ∈ middle, SameLetter mark symbol := by
    induction same with
    | nil => cases member
    | cons letter _ claim =>
        rcases List.mem_cons.mp member with rfl | later
        · exact ⟨_, List.mem_cons_self, letter⟩
        · obtain ⟨symbol, inside, found⟩ := claim later
          exact ⟨symbol, List.mem_cons_of_mem _ inside, found⟩
  rw [same_letter_mark isMark letter] at inside
  simp [inside]

/-- A text is found in every text that contains it. -/
theorem is_match_containing {text part : List Char} (clean : '\x00' ∉ text)
    (contained : Contains text part) : isMatch ('%' :: (part ++ ['%'])) text = true := by
  have partClean : '\x00' ∉ part := by
    intro member
    exact clean (contains_mark contained (by decide) member)
  obtain ⟨before, middle, after, split, same⟩ := contained
  rw [is_match_part, cut_without_nul clean, cut_without_nul partClean]
  exact ⟨before, middle, after, split, spells_same same, fun nul => absurd nul partClean⟩

/-- A text without marks is found in the texts that contain it before their first NUL, and in no
other ones. -/
theorem is_match_literal {text part : List Char} (literal : IsLiteral part) :
    isMatch ('%' :: (part ++ ['%'])) text = true ↔ Contains (cut text) part := by
  have partClean := literal_without_nul literal
  rw [is_match_part, cut_without_nul partClean]
  constructor
  · rintro ⟨before, middle, after, split, spelled, _⟩
    exact ⟨before, middle, after, split, (spells_literal literal).mp spelled⟩
  · rintro ⟨before, middle, after, split, same⟩
    exact ⟨before, middle, after, split, spells_same same, fun nul => absurd nul partClean⟩

def specimen (pattern : List Char) : List Char :=
  pattern.filterMap fun mark =>
    if mark = '%' then none else if mark = '_' then some 'a' else some mark

theorem spells_specimen (pattern : List Char) : Spells pattern (specimen pattern) := by
  induction pattern with
  | nil => exact .nothing
  | cons mark pattern claim =>
      unfold specimen at claim ⊢
      by_cases wild : mark = '%'
      · subst wild
        exact .anything [] claim
      · by_cases any : mark = '_'
        · subst any
          exact .symbol wild (.inl rfl) claim
        · rw [List.filterMap_cons_some (b := mark) (by rw [if_neg wild, if_neg any])]
          exact .symbol wild (.inr (.inl rfl)) claim

theorem specimen_literal {pattern : List Char} (clean : '\x00' ∉ pattern) :
    IsLiteral (specimen pattern) := by
  intro symbol member
  obtain ⟨mark, inside, made⟩ := List.mem_filterMap.mp member
  split at made
  · cases made
  · next notWild =>
      split at made
      · cases made
        decide
      · next notAny =>
          cases made
          have notNul : symbol ≠ '\x00' := by
            rintro rfl
            exact clean inside
          simp [marks, notWild, notAny, notNul]

/-- A text with a mark is also found where it is not contained. -/
theorem is_match_without_containing {part : List Char} (marked : ¬IsLiteral part) :
    ∃ text, '\x00' ∉ text ∧ ¬Contains text part ∧
      isMatch ('%' :: (part ++ ['%'])) text = true := by
  have literal := specimen_literal (nul_not_mem_cut part)
  have clean := literal_without_nul literal
  refine ⟨specimen (cut part), clean, ?_, ?_⟩
  · intro contained
    apply marked
    intro mark member isMark
    exact literal mark (contains_mark contained isMark member) isMark
  · rw [is_match_part, cut_without_nul clean]
    exact ⟨[], specimen (cut part), [], by simp, spells_specimen _, fun _ => rfl⟩

end Like

namespace Handle

variable {handle : Handle .find} {principal : Principal}

end Handle
end GatedResources
