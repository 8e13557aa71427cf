import GatedResources.Proofs.BrokenText
import GatedResources.Proofs.LaidText

/-!
# The value of a text in one line

A text is read as the value it is written for, crashes the reader, or stands for itself. Only bare
text is written for itself. Every text can be written between quotes.
-/

namespace GatedResources
namespace InlineValue

variable {symbols input rest content : List Char} {text : String} {value : Json}

def SaysSomething (symbols : List Char) : Prop :=
  ∃ value, Says value symbols

/-- A text that is written for a value is read as that value. -/
theorem parse_said (told : Says value text.toList) : parse text = some value.sorted := by
  have read := read_said value text.toList (2 * text.toList.length + 2) [] told trivial (by omega)
  rw [List.append_nil] at read
  simp only [parse, read]

theorem parse_broken (breaks : Breaks text.toList) : parse text = none := by
  simp only [parse, cut_of_breaks breaks _ (Nat.le_succ _)]

/-- A text that is neither written for a value nor breaks the reader stands for itself. -/
theorem parse_unsaid (unsaid : ¬ SaysSomething text.toList) (whole : ¬ Breaks text.toList) :
    parse text = some (.string text) := by
  unfold parse
  dsimp only
  split
  · next value read =>
      obtain ⟨symbols, told, same⟩ := (said_of_read _).1 read
      rw [List.append_nil] at same
      exact absurd ⟨value, same ▸ told⟩ unsaid
  · rfl
  · rfl
  · next cut => exact absurd ((breaks_at _).1 cut) whole

theorem parse_eq_none : parse text = none ↔ Breaks text.toList := by
  constructor
  · intro crashes
    by_cases broken : Breaks text.toList
    · exact broken
    · by_cases something : SaysSomething text.toList
      · obtain ⟨value, told⟩ := something
        rw [parse_said told] at crashes
        cases crashes
      · rw [parse_unsaid something broken] at crashes
        cases crashes
  · exact parse_broken

/-! ## Text that is written for itself -/

/-- Bare text without blanks around it that does not read as a number. -/
structure IsPlain (symbols : List Char) : Prop where
  bare : IsBare symbols
  trimmed : Trim.spaces symbols = symbols
  noPoint : pointNumber? symbols = none
  noWhole : wholeNumber? symbols = none

instance (symbols : List Char) : Decidable (IsPlain symbols) :=
  decidable_of_iff (IsBare symbols ∧ Trim.spaces symbols = symbols ∧
      pointNumber? symbols = none ∧ wholeNumber? symbols = none)
    ⟨fun ⟨bare, trimmed, noPoint, noWhole⟩ => ⟨bare, trimmed, noPoint, noWhole⟩,
      fun ⟨bare, trimmed, noPoint, noWhole⟩ => ⟨bare, trimmed, noPoint, noWhole⟩⟩

theorem bare_eq_string : bare symbols = .string text ↔
    pointNumber? symbols = none ∧ wholeNumber? symbols = none ∧ text = String.ofList symbols := by
  unfold bare
  cases pointNumber? symbols with
  | some number => simp
  | none =>
      cases wholeNumber? symbols with
      | some number => simp
      | none => simp [eq_comm]

theorem read_code_unit_length {unit : Nat} (read : Json.readCodeUnit input = some (unit, rest)) :
    rest.length ≤ input.length := by
  unfold Json.readCodeUnit at read
  split at read
  · simp only [Option.bind_eq_bind, Option.bind_eq_some_iff, Option.some.injEq,
      Prod.mk.injEq] at read
    obtain ⟨_, _, _, _, _, _, _, _, -, rfl⟩ := read
    simp only [List.length_cons]
    omega
  · cases read

theorem read_code_point_length {long : Bool} {symbol : Char}
    (read : readCodePoint input long = some (symbol, rest)) : rest.length ≤ input.length := by
  have checked : ∀ {code : Nat} {left : List Char},
      (if code.isValidChar then some (Char.ofNat code, left) else none) = some (symbol, rest) →
        rest = left := by
    intro code left made
    split at made
    · cases made
      rfl
    · cases made
  unfold readCodePoint at read
  cases long with
  | true =>
      obtain ⟨⟨high, behind⟩, highRead, later⟩ := Option.bind_eq_some_iff.mp read
      obtain ⟨⟨low, left⟩, lowRead, made⟩ := Option.bind_eq_some_iff.mp later
      rw [checked made]
      exact Nat.le_trans (read_code_unit_length lowRead) (read_code_unit_length highRead)
  | false =>
      obtain ⟨⟨low, left⟩, lowRead, made⟩ := Option.bind_eq_some_iff.mp read
      rw [checked made]
      exact read_code_unit_length lowRead

theorem read_escape_length {symbol : Char} (read : readEscape input = some (symbol, rest)) :
    rest.length < input.length := by
  unfold readEscape at read
  split at read
  case h_8 | h_9 => exact Nat.lt_succ_of_le (read_code_point_length read)
  case h_10 => cases read
  all_goals
    cases read
    exact Nat.lt_succ_self _

theorem unescape_length {fuel : Nat} (made : unescape fuel input = some symbols) :
    symbols.length ≤ input.length := by
  induction fuel generalizing input symbols with
  | zero =>
      cases input with
      | nil =>
          rw [unescape] at made
          cases made
          exact Nat.le_refl _
      | cons symbol rest =>
          rw [unescape] at made
          · cases made
          · exact nofun
  | succ fuel claim =>
      cases input with
      | nil =>
          rw [unescape] at made
          cases made
          exact Nat.le_refl _
      | cons symbol rest =>
          rw [unescape] at made
          split at made
          · simp only [Option.bind_eq_bind, Option.bind_eq_some_iff, Option.some.injEq] at made
            obtain ⟨⟨value, behind⟩, escape, later, inside, rfl⟩ := made
            have shorter := read_escape_length escape
            have further := claim inside
            simp only [List.length_cons] at further ⊢
            omega
          · split at made
            · simp only [Option.bind_eq_bind, Option.bind_eq_some_iff, Option.some.injEq] at made
              obtain ⟨later, inside, rfl⟩ := made
              exact Nat.succ_le_succ (claim inside)
            · cases made

theorem first_bytes_length {count : Nat} (kept : firstBytes count input = some symbols) :
    symbols.length ≤ input.length := by
  induction input generalizing count symbols with
  | nil =>
      cases count <;>
        · rw [firstBytes] at kept
          cases kept
          exact Nat.le_refl _
  | cons symbol rest claim =>
      cases count with
      | zero =>
          rw [firstBytes] at kept
          cases kept
          exact Nat.zero_le _
      | succ count =>
          rw [firstBytes] at kept
          split at kept
          · obtain ⟨later, inside, rfl⟩ := Option.map_eq_some_iff.mp kept
            exact Nat.succ_le_succ (claim inside)
          · cases kept

/-- Quotes and escapes take room. -/
theorem quoted_text_length (means : quotedText content = .ok symbols) :
    symbols.length ≤ content.length := by
  have parts := congrArg List.length
    (List.takeWhile_append_dropWhile (p := (· != '\\')) (l := content))
  rw [List.length_append] at parts
  unfold quotedText at means
  dsimp only at means
  split at means
  · split at means
    · cases means
      omega
    · split at means
      · cases means
      · next kept found =>
          obtain ⟨later, inside, same⟩ := except_bind_eq_ok.mp means
          cases same
          have first := first_bytes_length found
          cases made : unescape (content.dropWhile (· != '\\')).length
              (content.dropWhile (· != '\\')) with
          | none =>
              rw [made] at inside
              cases inside
          | some values =>
              rw [made] at inside
              cases inside
              have second := unescape_length made
              rw [List.length_append]
              omega
  · cases means

/-- Text between quotes or apostrophes is longer than what it stands for. -/
theorem said_own_iff : Says (.string text) text.toList ↔ IsPlain text.toList := by
  constructor
  · rintro (⟨plain, means⟩ | ⟨content, -, means, before, after, -, -, whole⟩ |
      ⟨symbol, single, before, after, -, -, whole⟩)
    · obtain ⟨noPoint, noWhole, same⟩ := bare_eq_string.mp means
      have trimmed : Trim.spaces text.toList = text.toList :=
        ((congrArg String.toList same).trans String.toList_ofList).symm
      rw [trimmed] at noPoint noWhole
      exact ⟨plain, trimmed, noPoint, noWhole⟩
    · have shorter := quoted_text_length means
      rw [whole] at shorter
      simp only [quotes, List.length_append, List.length_cons] at shorter
      omega
    · have shorter := congrArg List.length whole
      rw [single, String.toList_singleton] at shorter
      simp only [List.length_append, List.length_cons, List.length_nil] at shorter
      omega
  · intro plain
    refine .inl ⟨plain.bare, bare_eq_string.mpr ?_⟩
    rw [plain.trimmed]
    exact ⟨plain.noPoint, plain.noWhole, String.ofList_toList.symm⟩

/-- Whether a text is kept as it stands. -/
def Keeps (text : String) : Prop :=
  IsPlain text.toList ∨ ¬ SaysSomething text.toList ∧ ¬ Breaks text.toList

theorem sorted_eq_string : value.sorted = .string text ↔ value = .string text := by
  cases value <;> simp [Json.sorted]

theorem parse_eq_own : parse text = some (.string text) ↔ Keeps text := by
  constructor
  · intro kept
    by_cases something : SaysSomething text.toList
    · obtain ⟨value, told⟩ := something
      rw [parse_said told, Option.some.injEq, sorted_eq_string] at kept
      subst kept
      exact .inl (said_own_iff.mp told)
    · refine .inr ⟨something, fun broken => ?_⟩
      rw [parse_broken broken] at kept
      cases kept
  · rintro (plain | ⟨nothing, whole⟩)
    · exact parse_said (said_own_iff.mpr plain)
    · exact parse_unsaid nothing whole

/-! ## Text for every text -/

def codeUnit (unit : Nat) : List Char :=
  [Json.hexDigit (unit / 16 / 16 / 16 % 16), Json.hexDigit (unit / 16 / 16 % 16),
    Json.hexDigit (unit / 16 % 16), Json.hexDigit (unit % 16)]

def escapedSymbol (symbol : Char) : List Char :=
  '\\' :: 'U' :: (codeUnit (symbol.toNat / 0x10000) ++ codeUnit (symbol.toNat % 0x10000))

def spelled (text : String) : String :=
  String.ofList (quotes (text.toList.flatMap escapedSymbol))

theorem read_code_unit_digits {unit : Nat} (fits : unit < 0x10000) (rest : List Char) :
    Json.readCodeUnit (codeUnit unit ++ rest) = some (unit, rest) := by
  have digit : ∀ number, Json.hexValue (Json.hexDigit (number % 16)) = some (number % 16) :=
    fun number => Json.hex_value_digit _ (Nat.mod_lt _ (by decide))
  have whole : ((unit / 16 / 16 / 16 % 16 * 16 + unit / 16 / 16 % 16) * 16 + unit / 16 % 16) * 16 +
      unit % 16 = unit := by omega
  simp only [codeUnit, List.cons_append, List.nil_append, Json.readCodeUnit, digit,
    Option.bind_eq_bind, Option.bind_some, whole]

theorem code_fits (symbol : Char) : symbol.toNat < 0x110000 := by
  rcases symbol.valid with low | ⟨-, high⟩
  · exact Nat.lt_trans low (by decide)
  · exact high

theorem read_code_point_long (input : List Char) : readCodePoint input true =
    (Json.readCodeUnit input).bind fun high => (Json.readCodeUnit high.2).bind fun low =>
      if (high.1 * 0x10000 + low.1).isValidChar then
        some (Char.ofNat (high.1 * 0x10000 + low.1), low.2)
      else none := rfl

theorem read_escaped_symbol (symbol : Char) (rest : List Char) :
    readEscape ('U' :: (codeUnit (symbol.toNat / 0x10000) ++ codeUnit (symbol.toNat % 0x10000)) ++
      rest) = some (symbol, rest) := by
  have bound := code_fits symbol
  have valid : symbol.toNat.isValidChar := symbol.valid
  have whole : symbol.toNat / 0x10000 * 0x10000 + symbol.toNat % 0x10000 = symbol.toNat := by omega
  have high : symbol.toNat / 0x10000 < 0x10000 := by omega
  have low : symbol.toNat % 0x10000 < 0x10000 := by omega
  rw [List.cons_append, List.append_assoc, readEscape, read_code_point_long,
    read_code_unit_digits high, Option.bind_some, read_code_unit_digits low, Option.bind_some]
  dsimp only
  rw [whole, if_pos valid, Char.ofNat_toNat]

theorem unescape_escaped (symbols : List Char) (fuel : Nat) (enough : symbols.length ≤ fuel) :
    unescape fuel (symbols.flatMap escapedSymbol) = some symbols := by
  induction symbols generalizing fuel with
  | nil => rw [List.flatMap_nil, unescape]
  | cons symbol symbols claim =>
      cases fuel with
      | zero => exact absurd enough (Nat.not_succ_le_zero _)
      | succ fuel =>
          have later := claim fuel (Nat.le_of_succ_le_succ enough)
          have read := read_escaped_symbol symbol (symbols.flatMap escapedSymbol)
          rw [List.flatMap_cons, escapedSymbol, List.cons_append, unescape, if_pos rfl, read]
          simp [later]

theorem content_append (plain : ∀ symbol ∈ symbols, symbol ≠ '"' ∧ symbol ≠ '\\')
    (closed : IsContent rest) : IsContent (symbols ++ rest) := by
  induction symbols with
  | nil => exact closed
  | cons symbol symbols claim =>
      have own := plain symbol List.mem_cons_self
      rw [List.cons_append, IsContent]
      · exact ⟨own.1, own.2, claim fun other later => plain other (List.mem_cons_of_mem _ later)⟩
      · exact fun _ _ same => absurd same own.2

theorem code_unit_plain (unit : Nat) :
    ∀ symbol ∈ codeUnit unit, symbol ≠ '"' ∧ symbol ≠ '\\' := by
  have digits : ∀ digit < 16, Json.hexDigit digit ≠ '"' ∧ Json.hexDigit digit ≠ '\\' := by decide
  have digit : ∀ number, Json.hexDigit (number % 16) ≠ '"' ∧ Json.hexDigit (number % 16) ≠ '\\' :=
    fun number => digits _ (Nat.mod_lt _ (by decide))
  simp only [codeUnit, List.forall_mem_cons]
  exact ⟨digit _, digit _, digit _, digit _, nofun⟩

theorem content_escaped (symbols : List Char) : IsContent (symbols.flatMap escapedSymbol) := by
  induction symbols with
  | nil => trivial
  | cons symbol symbols claim =>
      rw [List.flatMap_cons, escapedSymbol, List.cons_append, List.cons_append, IsContent,
        List.append_assoc]
      exact content_append (code_unit_plain _) (content_append (code_unit_plain _) claim)

theorem quoted_text_escaped (symbols : List Char) :
    quotedText (symbols.flatMap escapedSymbol) = .ok symbols := by
  have enough : symbols.length ≤ (symbols.flatMap escapedSymbol).length := by
    induction symbols with
    | nil => exact Nat.le_refl _
    | cons symbol symbols claim =>
        simp only [List.flatMap_cons, List.length_append, escapedSymbol, List.length_cons]
        omega
  have made := unescape_escaped symbols _ enough
  cases symbols with
  | nil => rfl
  | cons symbol symbols =>
      rw [List.flatMap_cons] at made ⊢
      obtain ⟨later, same⟩ : ∃ later,
          escapedSymbol symbol ++ symbols.flatMap escapedSymbol = '\\' :: later := ⟨_, rfl⟩
      rw [same] at made ⊢
      have first : ('\\' :: later).takeWhile (· != '\\') = [] := by simp
      have last : ('\\' :: later).dropWhile (· != '\\') = '\\' :: later := by simp
      rw [quotedText, first, last, List.all_nil, if_pos rfl, if_neg nofun, made]
      rfl

/-- Every text can be written for. -/
theorem said_spelled (text : String) : Says (.string text) (spelled text).toList := by
  have whole : (spelled text).toList = quotes (text.toList.flatMap escapedSymbol) :=
    String.toList_ofList
  rw [whole]
  exact .inr (.inl ⟨_, content_escaped _, quoted_text_escaped _, [], [], nofun, nofun, by simp⟩)

end InlineValue
end GatedResources
