import GatedResources.Http.Pattern

/-!
# Literal names

A text without named parts stands for its own symbols. A path fits it when it is spelled the same
way, and what follows such a text in a pattern is matched by what follows it in the path.
-/

namespace GatedResources
namespace Pattern

def IsLiteral (pattern : Pattern) : Prop :=
  ∀ piece ∈ pattern, ∃ symbol, piece = .symbol symbol

def spelling (pattern : Pattern) : List Char :=
  pattern.filterMap fun
    | .symbol symbol => some symbol
    | .segment _ | .remainder _ => none

/-- A symbol of a pattern is written the same way before any other text. -/
def Writes (taken : List Char) (symbol : Char) : Prop :=
  taken ≠ [] ∧ ∀ more tail, readPieces (more + 1) (taken ++ tail) =
    (readPieces more tail).map fun others => .symbol symbol :: others

theorem writes_opening : Writes ['{', '{'] '{' := by
  constructor
  · simp
  · intro more tail
    simp only [List.cons_append, List.nil_append, readPieces]
    cases readPieces more tail <;> rfl

theorem writes_closing : Writes ['}', '}'] '}' := by
  constructor
  · simp
  · intro more tail
    simp only [List.cons_append, List.nil_append, readPieces]
    cases readPieces more tail <;> rfl

theorem writes_itself {symbol : Char} (noOpening : symbol ≠ '{') (noClosing : symbol ≠ '}') :
    Writes [symbol] symbol := by
  constructor
  · simp
  · intro more tail
    simp only [List.cons_append, List.nil_append]
    rw [readPieces]
    · cases readPieces more tail <;> rfl
    all_goals simp_all

/-- What stands first in a pattern: nothing, a symbol as it is written, or a named part behind a
single brace. -/
theorem read_pieces_cases {fuel : Nat} {symbols : List Char} {pattern : Pattern}
    (read : readPieces fuel symbols = some pattern) :
    (symbols = [] ∧ pattern = []) ∨
      (∃ symbol taken rest before others, symbols = taken ++ rest ∧ Writes taken symbol ∧
        pattern = .symbol symbol :: others ∧ readPieces before rest = some others) ∨
      ∃ piece others, pattern = piece :: others ∧ (∀ symbol, piece ≠ .symbol symbol) ∧
        ∃ rest, symbols = '\x7b' :: rest ∧ ∀ tail, rest ≠ '\x7b' :: tail := by
  unfold readPieces at read
  split at read
  · cases read
  · cases read
    exact .inl ⟨rfl, rfl⟩
  · next before rest =>
      obtain ⟨others, later, same⟩ := Option.bind_eq_some_iff.mp read
      exact .inr (.inl ⟨'{', ['{', '{'], rest, before, others, rfl, writes_opening,
        (Option.some.inj same).symm, later⟩)
  · next before rest =>
      obtain ⟨others, later, same⟩ := Option.bind_eq_some_iff.mp read
      exact .inr (.inl ⟨'}', ['}', '}'], rest, before, others, rfl, writes_closing,
        (Option.some.inj same).symm, later⟩)
  · cases read
  · next before rest single =>
      have named : ∃ left, '\x7b' :: rest = '\x7b' :: left ∧ ∀ tail, left ≠ '\x7b' :: tail :=
        ⟨rest, rfl, single⟩
      split at read
      · cases read
      · cases read
      · split at read
        · cases read
        · cases read
          exact .inr (.inr ⟨_, _, rfl, by simp, named⟩)
      · split at read
        · cases read
          exact .inr (.inr ⟨_, _, rfl, by simp, named⟩)
        · obtain ⟨others, _, same⟩ := Option.bind_eq_some_iff.mp read
          exact .inr (.inr ⟨_, others, (Option.some.inj same).symm, by simp, named⟩)
        · cases read
  · next before symbol rest _ _ noClosing noOpening =>
      obtain ⟨others, later, same⟩ := Option.bind_eq_some_iff.mp read
      exact .inr (.inl ⟨symbol, [symbol], rest, before, others, rfl,
        writes_itself noOpening noClosing, (Option.some.inj same).symm, later⟩)

theorem literal_cons {piece : PatternPiece} {pattern : Pattern}
    (literal : IsLiteral (piece :: pattern)) :
    (∃ symbol, piece = .symbol symbol) ∧ IsLiteral pattern :=
  ⟨literal piece List.mem_cons_self, fun held member =>
    literal held (List.mem_cons_of_mem _ member)⟩

/-- A text without named parts has at least as many symbols as its pattern, and gives that pattern
before any other text too. -/
theorem read_literal {fuel : Nat} {symbols : List Char} {pattern : Pattern}
    (literal : IsLiteral pattern) (read : readPieces fuel symbols = some pattern) :
    pattern.length ≤ symbols.length ∧ ∀ more tail,
      readPieces (more + pattern.length) (symbols ++ tail) =
        (readPieces more tail).map fun others => pattern ++ others := by
  induction pattern generalizing fuel symbols with
  | nil =>
      rcases read_pieces_cases read with ⟨empty, _⟩ | ⟨_, _, _, _, _, _, _, impossible, _⟩ |
        ⟨_, _, impossible, _⟩
      · subst empty
        refine ⟨Nat.le_refl _, ?_⟩
        intro more tail
        exact Option.map_id'.symm
      · cases impossible
      · cases impossible
  | cons piece pattern claim =>
      obtain ⟨⟨symbol, isSymbol⟩, rest⟩ := literal_cons literal
      rcases read_pieces_cases read with ⟨_, impossible⟩ | written | ⟨_, _, same, named, _⟩
      · cases impossible
      · obtain ⟨_, taken, left, before, others, split, ⟨nonempty, writes⟩, same, later⟩ := written
        cases same
        cases isSymbol
        obtain ⟨bound, gives⟩ := claim rest later
        subst split
        constructor
        · have positive := List.length_pos_iff.mpr nonempty
          rw [List.length_cons, List.length_append]
          omega
        · intro more tail
          rw [List.append_assoc, List.length_cons, ← Nat.add_assoc, writes, gives, Option.map_map]
          rfl
      · cases same
        exact absurd isSymbol (named symbol)

theorem parse_eq_some {text : String} {pattern : Pattern} (read : parse text = some pattern) :
    readPieces (text.toList.length + 1) text.toList = some pattern := by
  unfold parse at read
  split at read
  · next rest same =>
      split at read
      · cases read
      · obtain ⟨held, pieces, counted⟩ := Option.bind_eq_some_iff.mp read
        split at counted
        · cases counted
          rw [same]
          exact pieces
        · cases counted
  · cases read

/-- A named part after a text without any stands after the symbols of that text. -/
theorem parse_literal_item {text : String} {pattern whole : Pattern} (literal : IsLiteral pattern)
    (read : parse text = some pattern) (readWhole : parse (text ++ "/\x7bid\x7d") = some whole) :
    whole = pattern ++ [.symbol '/', .segment ['i', 'd']] := by
  obtain ⟨bound, gives⟩ := read_literal literal (parse_eq_some read)
  have pieces := parse_eq_some readWhole
  rw [String.toList_append, List.length_append] at pieces
  have fuel : text.toList.length + "/\x7bid\x7d".toList.length + 1 =
      (text.toList.length - pattern.length + 3 + 3) + pattern.length := by
    have length : "/\x7bid\x7d".toList.length = 5 := rfl
    omega
  have tail : ∀ more, readPieces (more + 3) "/\x7bid\x7d".toList =
      some [.symbol '/', .segment ['i', 'd']] := by
    intro more
    rfl
  rw [fuel, gives, tail, Option.map_some] at pieces
  exact (Option.some.inj pieces).symm

/-- A path fits what begins without named parts when it begins with the same symbols. -/
theorem match_literal {pattern : Pattern} (literal : IsLiteral pattern) (others : Pattern)
    (path : List Char) (captures : Captures) :
    matchPath (pattern ++ others) path = some captures ↔
      ∃ rest, path = spelling pattern ++ rest ∧ matchPath others rest = some captures := by
  induction pattern generalizing path with
  | nil =>
      constructor
      · intro fits
        exact ⟨path, rfl, fits⟩
      · rintro ⟨rest, same, fits⟩
        rw [same]
        exact fits
  | cons piece pattern claim =>
      obtain ⟨⟨symbol, isSymbol⟩, rest⟩ := literal_cons literal
      subst isSymbol
      have spelled : Pattern.spelling (.symbol symbol :: pattern) =
          symbol :: spelling pattern := rfl
      rw [spelled, List.cons_append]
      cases path with
      | nil => simp [matchPath]
      | cons next later =>
          rw [matchPath]
          by_cases same : symbol = next
          · subst same
            rw [if_pos rfl, claim rest]
            simp
          · rw [if_neg same]
            constructor
            · intro impossible
              cases impossible
            · rintro ⟨_, other, _⟩
              exact absurd (List.cons.inj other).1.symm same

/-- What follows the symbols of a record's path is one named part, which is not empty. -/
theorem match_item {rest : List Char} {captures : Captures}
    (fits : matchPath [.symbol '/', .segment ['i', 'd']] rest = some captures) :
    ∃ value, rest ≠ [] ∧ captures = [(['i', 'd'], value)] := by
  cases rest with
  | nil => cases fits
  | cons next value =>
      unfold matchPath at fits
      split at fits
      · unfold matchPath at fits
        split at fits
        · cases fits
        · obtain ⟨others, ends, same⟩ := Option.bind_eq_some_iff.mp fits
          cases same
          refine ⟨value.takeWhile (· != '/'), by simp, ?_⟩
          cases left : value.dropWhile (· != '/') with
          | nil =>
              rw [left] at ends
              cases ends
              rfl
          | cons symbol later =>
              rw [left] at ends
              cases ends
      · cases fits

end Pattern
end GatedResources
