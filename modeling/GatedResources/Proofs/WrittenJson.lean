import GatedResources.Proofs.LaidText
import GatedResources.Proofs.Outcome
import GatedResources.Proofs.SpelledText

/-!
# JSON by its grammar and by its meaning

What has a meaning as JSON text is written by the grammar: whoever reads its bytes by the grammar
alone gets an outline, and the outline means what the text means.
-/

namespace GatedResources

def Json.Outline.member? (depth : Nat) (member : List Char × Outline) :
    Option (String × Json) := do
  some (← text? member.1, ← value? depth member.2)

namespace Spells

open Json

variable {octets symbols rest : List Char}

/-! ## Plain parts -/

/-- Octets and their text begin alike, or both begin beyond the plain characters. -/
theorem starts (spells : Spells octets symbols) :
    (octets = [] ∧ symbols = []) ∨
      (∃ symbol others later, octets = symbol :: others ∧ symbols = symbol :: later ∧
        symbol.toNat < 128 ∧ Spells others later) ∨
      ∃ octet others symbol later, octets = octet :: others ∧ symbols = symbol :: later ∧
        128 ≤ octet.toNat ∧ 128 ≤ symbol.toNat := by
  cases spells with
  | nil => exact .inl ⟨rfl, rfl⟩
  | plain low later => exact .inr (.inl ⟨_, _, _, rfl, rfl, low, later⟩)
  | @wide own symbol octets symbols wide later =>
      obtain ⟨first, others, spelled, high⟩ := wide_start wide
      rw [spelled]
      exact .inr (.inr ⟨first, others ++ octets, symbol, symbols, rfl, rfl,
        high first List.mem_cons_self, wide.beyond⟩)

theorem high_ne {symbol mark : Char} (high : 128 ≤ symbol.toNat) (plain : mark.toNat < 128) :
    symbol ≠ mark := by
  rintro rfl
  omega

theorem nothing_spelled (spells : Spells octets symbols) (nothing : symbols = []) :
    octets = [] := by
  cases spells with
  | nil => rfl
  | plain low later => cases nothing
  | wide wide later => cases nothing

theorem skip_blanks (spells : Spells octets symbols) :
    Spells (skipBlanks octets) (skipBlanks symbols) := by
  apply (spells.takes _).2
  intro symbol blank
  simp only [isBlank, Bool.or_eq_true, beq_iff_eq] at blank
  rcases blank with ((rfl | rfl) | rfl) | rfl <;> decide

/-- A plain character behind blanks stands behind them in the octets too. -/
theorem mark_behind {mark : Char} {later : List Char} (spells : Spells octets symbols)
    (found : skipBlanks symbols = mark :: later) (plain : mark.toNat < 128) :
    ∃ beyond, skipBlanks octets = mark :: beyond ∧ Spells beyond later := by
  have behind := spells.skip_blanks
  rw [found] at behind
  exact behind.head_plain plain

theorem digit_plain {symbol : Char} (digit : Decimal.isDigit symbol = true) :
    symbol.toNat < 128 := by
  simp only [Decimal.isDigit, Bool.and_eq_true, decide_eq_true_eq] at digit
  exact Nat.lt_of_le_of_lt (Char.le_def.mp digit.2) (by decide)

theorem digits (spells : Spells octets symbols) :
    octets.takeWhile Decimal.isDigit = symbols.takeWhile Decimal.isDigit ∧
      Spells (octets.dropWhile Decimal.isDigit) (symbols.dropWhile Decimal.isDigit) :=
  spells.takes fun _ => digit_plain

theorem read_word_spelled {letters : List Char} (plain : ∀ letter ∈ letters, letter.toNat < 128)
    (spells : Spells octets symbols) (read : readWord letters symbols = some rest) :
    ∃ after, readWord letters octets = some after ∧ Spells after rest := by
  unfold readWord at read
  split at read
  case isFalse => cases read
  case isTrue begins =>
  obtain ⟨later, rfl⟩ := List.isPrefixOf_iff_prefix.mp begins
  obtain ⟨after, rfl, follow⟩ := spells.front_plain plain
  rw [List.drop_left] at read
  cases read
  refine ⟨after, ?_, follow⟩
  have same : letters.isPrefixOf (letters ++ after) = true :=
    List.isPrefixOf_iff_prefix.mpr (List.prefix_append _ _)
  rw [readWord, if_pos same, List.drop_left]

/-! ## Numbers -/

theorem sign_spelled (spells : Spells octets symbols) :
    (signOf octets).1 = (signOf symbols).1 ∧ Spells (signOf octets).2 (signOf symbols).2 := by
  rcases spells.starts with ⟨rfl, rfl⟩ | ⟨symbol, others, later, rfl, rfl, low, follow⟩ |
    ⟨octet, others, symbol, later, rfl, rfl, high, beyond⟩
  · exact ⟨rfl, .nil⟩
  · by_cases minus : symbol = '-'
    · subst minus
      exact ⟨rfl, follow⟩
    · simpa [signOf, minus] using spells
  · have noMinus : octet ≠ '-' := high_ne high (by decide)
    have beyondMinus : symbol ≠ '-' := high_ne beyond (by decide)
    simpa [signOf, noMinus, beyondMinus] using spells

theorem read_fraction_other {symbol : Char} (noPoint : symbol ≠ '.') (later : List Char) :
    readFraction (symbol :: later) = some (none, symbol :: later) := by
  simp [readFraction, noPoint]

theorem read_fraction_point (later : List Char) :
    readFraction ('.' :: later) =
      if (later.takeWhile Decimal.isDigit).isEmpty then none
      else some (some (later.takeWhile Decimal.isDigit), later.dropWhile Decimal.isDigit) := rfl

theorem fraction {places : Option (List Char)} (spells : Spells octets symbols)
    (read : readFraction symbols = some (places, rest)) :
    ∃ after, readFraction octets = some (places, after) ∧ Spells after rest := by
  rcases spells.starts with ⟨rfl, rfl⟩ | ⟨symbol, others, later, rfl, rfl, low, follow⟩ |
    ⟨octet, others, symbol, later, rfl, rfl, high, beyond⟩
  · cases read
    exact ⟨[], rfl, .nil⟩
  · by_cases point : symbol = '.'
    · subst point
      obtain ⟨same, further⟩ := follow.digits
      rw [read_fraction_point] at read ⊢
      rw [same]
      split at read
      case isTrue => cases read
      case isFalse filled =>
      cases read
      rw [if_neg filled]
      exact ⟨_, rfl, further⟩
    · rw [read_fraction_other point] at read
      cases read
      exact ⟨_, read_fraction_other point others, spells⟩
  · rw [read_fraction_other (high_ne beyond (by decide))] at read
    cases read
    exact ⟨_, read_fraction_other (high_ne high (by decide)) others, spells⟩

def exponentSign : List Char -> Bool × List Char
  | '-' :: rest => (true, rest)
  | '+' :: rest => (false, rest)
  | rest => (false, rest)

def readPower (negative : Bool) (input : List Char) : Option (Option Int × List Char) :=
  let digits := input.takeWhile Decimal.isDigit
  if digits.isEmpty then
    none
  else
    let power : Int := Decimal.value digits
    some (some (if negative then -power else power), input.dropWhile Decimal.isDigit)

theorem read_exponent_marked {symbol : Char} (marked : symbol = 'e' ∨ symbol = 'E')
    (later : List Char) :
    readExponent (symbol :: later) = readPower (exponentSign later).1 (exponentSign later).2 := by
  rcases marked with rfl | rfl <;> rfl

theorem read_exponent_other {symbol : Char} (unmarked : ¬(symbol = 'e' ∨ symbol = 'E'))
    (later : List Char) : readExponent (symbol :: later) = some (none, symbol :: later) := by
  simp [readExponent, unmarked]

theorem exponent_sign (spells : Spells octets symbols) :
    (exponentSign octets).1 = (exponentSign symbols).1 ∧
      Spells (exponentSign octets).2 (exponentSign symbols).2 := by
  rcases spells.starts with ⟨rfl, rfl⟩ | ⟨symbol, others, later, rfl, rfl, low, follow⟩ |
    ⟨octet, others, symbol, later, rfl, rfl, high, beyond⟩
  · exact ⟨rfl, .nil⟩
  · by_cases minus : symbol = '-'
    · subst minus
      exact ⟨rfl, follow⟩
    · by_cases plus : symbol = '+'
      · subst plus
        exact ⟨rfl, follow⟩
      · simpa [exponentSign, minus, plus] using spells
  · have noMinus : octet ≠ '-' := high_ne high (by decide)
    have noPlus : octet ≠ '+' := high_ne high (by decide)
    have beyondMinus : symbol ≠ '-' := high_ne beyond (by decide)
    have beyondPlus : symbol ≠ '+' := high_ne beyond (by decide)
    simpa [exponentSign, noMinus, noPlus, beyondMinus, beyondPlus] using spells

theorem exponent {power : Option Int} (spells : Spells octets symbols)
    (read : readExponent symbols = some (power, rest)) :
    ∃ after, readExponent octets = some (power, after) ∧ Spells after rest := by
  rcases spells.starts with ⟨rfl, rfl⟩ | ⟨symbol, others, later, rfl, rfl, low, follow⟩ |
    ⟨octet, others, symbol, later, rfl, rfl, high, beyond⟩
  · cases read
    exact ⟨[], rfl, .nil⟩
  · by_cases marked : symbol = 'e' ∨ symbol = 'E'
    · obtain ⟨sameSign, unsigned⟩ := follow.exponent_sign
      obtain ⟨same, further⟩ := unsigned.digits
      rw [read_exponent_marked marked] at read ⊢
      rw [sameSign]
      unfold readPower at read ⊢
      dsimp only at read ⊢
      rw [same]
      split at read
      case isTrue => cases read
      case isFalse filled =>
      cases read
      rw [if_neg filled]
      exact ⟨_, rfl, further⟩
    · rw [read_exponent_other marked] at read
      cases read
      exact ⟨_, read_exponent_other marked others, spells⟩
  · have unmarked : ¬(symbol = 'e' ∨ symbol = 'E') := by
      rintro (same | same)
      · exact high_ne beyond (by decide) same
      · exact high_ne beyond (by decide) same
    have unmarkedToo : ¬(octet = 'e' ∨ octet = 'E') := by
      rintro (same | same)
      · exact high_ne high (by decide) same
      · exact high_ne high (by decide) same
    rw [read_exponent_other unmarked] at read
    cases read
    exact ⟨_, read_exponent_other unmarkedToo others, spells⟩

theorem written_number {number : WrittenNumber} (spells : Spells octets symbols)
    (read : readWrittenNumber symbols = some (number, rest)) :
    ∃ after, readWrittenNumber octets = some (number, after) ∧ Spells after rest := by
  obtain ⟨sameSign, unsigned⟩ := spells.sign_spelled
  obtain ⟨same, further⟩ := unsigned.digits
  rw [read_written_signed] at read ⊢
  rw [sameSign]
  unfold readUnsigned at read ⊢
  dsimp only at read ⊢
  rw [same]
  split at read
  case isTrue => cases read
  case isFalse sound =>
  rw [if_neg sound]
  obtain ⟨⟨digits, left⟩, readDigits, read⟩ := Option.bind_eq_some_iff.mp read
  obtain ⟨⟨power, last⟩, readPower, read⟩ := Option.bind_eq_some_iff.mp read
  cases read
  obtain ⟨behind, digitsRead, further⟩ := further.fraction readDigits
  obtain ⟨after, powerRead, further⟩ := further.exponent readPower
  refine ⟨after, ?_, further⟩
  refine Option.bind_eq_some_iff.mpr ⟨(digits, behind), digitsRead, ?_⟩
  exact Option.bind_eq_some_iff.mpr ⟨(power, after), powerRead, rfl⟩

/-! ## Strings -/

theorem append (spells : Spells octets symbols) {front : List Char}
    (plain : ∀ symbol ∈ front, symbol.toNat < 128) :
    Spells (front ++ octets) (front ++ symbols) := by
  induction front with
  | nil => exact spells
  | cons symbol others claim =>
      exact .plain (plain symbol List.mem_cons_self)
        (claim fun other inside => plain other (List.mem_cons_of_mem _ inside))

theorem hex_plain {symbol : Char} {value : Nat} (digit : hexValue symbol = some value) :
    symbol.toNat < 128 := by
  unfold hexValue at digit
  have below : ∀ greatest : Char, greatest.toNat < 128 → symbol ≤ greatest → symbol.toNat < 128 :=
    fun greatest low least => Nat.lt_of_le_of_lt (Char.le_def.mp least) low
  split at digit
  case isTrue range =>
    simp only [Bool.and_eq_true, decide_eq_true_eq] at range
    exact below '9' (by decide) range.2
  case isFalse =>
  split at digit
  case isTrue range =>
    simp only [Bool.and_eq_true, decide_eq_true_eq] at range
    exact below 'f' (by decide) range.2
  case isFalse =>
  split at digit
  case isTrue range =>
    simp only [Bool.and_eq_true, decide_eq_true_eq] at range
    exact below 'F' (by decide) range.2
  case isFalse => cases digit

structure IsUnit (digits : List Char) (unit : Nat) : Prop where
  four : digits.length = 4
  plain : ∀ digit ∈ digits, digit.toNat < 128
  hex : digits.all (fun digit => (hexValue digit).isSome) = true
  read : ∀ tail, readCodeUnit (digits ++ tail) = some (unit, tail)

theorem read_code_unit {unit : Nat} (read : readCodeUnit symbols = some (unit, rest)) :
    ∃ digits, symbols = digits ++ rest ∧ IsUnit digits unit := by
  unfold readCodeUnit at read
  split at read
  case h_2 => cases read
  case h_1 first second third fourth tail =>
  obtain ⟨one, firstDigit, read⟩ := Option.bind_eq_some_iff.mp read
  obtain ⟨two, secondDigit, read⟩ := Option.bind_eq_some_iff.mp read
  obtain ⟨three, thirdDigit, read⟩ := Option.bind_eq_some_iff.mp read
  obtain ⟨four, fourthDigit, read⟩ := Option.bind_eq_some_iff.mp read
  cases read
  refine ⟨[first, second, third, fourth], rfl, rfl, ?_, ?_, ?_⟩
  · intro digit inside
    simp only [List.mem_cons, List.not_mem_nil, or_false] at inside
    rcases inside with rfl | rfl | rfl | rfl
    · exact hex_plain firstDigit
    · exact hex_plain secondDigit
    · exact hex_plain thirdDigit
    · exact hex_plain fourthDigit
  · simp [firstDigit, secondDigit, thirdDigit, fourthDigit]
  · intro tail
    simp [readCodeUnit, firstDigit, secondDigit, thirdDigit, fourthDigit]

theorem IsUnit.written {digits : List Char} {unit : Nat} (own : IsUnit digits unit)
    (input : List Char) : readWrittenText ('\\' :: 'u' :: (digits ++ input)) =
      (readWrittenText input).map fun read => ('\\' :: 'u' :: (digits ++ read.1), read.2) := by
  have hex := own.hex
  obtain ⟨first, second, third, fourth, rfl⟩ : ∃ first second third fourth,
      digits = [first, second, third, fourth] := by
    match digits, own.four with
    | [first, second, third, fourth], _ => exact ⟨first, second, third, fourth, rfl⟩
  simp only [List.cons_append, List.nil_append]
  rw [readWrittenText]
  simp only [hex, if_true]
  rfl

/-- Characters after a backslash that are an escape for a symbol, and that are read as such
whatever follows. -/
structure IsEscape (front : List Char) (value : Char) : Prop where
  plain : ∀ symbol ∈ front, symbol.toNat < 128
  read : ∀ tail, readEscape (front ++ tail) = some (value, tail)
  written : ∀ input, readWrittenText ('\\' :: (front ++ input)) =
    (readWrittenText input).map fun read => ('\\' :: (front ++ read.1), read.2)

theorem mark_escape {mark value : Char} (known : (mark, value) ∈ [('"', '"'), ('\\', '\\'),
    ('/', '/'), ('b', '\x08'), ('f', '\x0c'), ('n', '\n'), ('r', '\r'), ('t', '\t')]) :
    IsEscape [mark] value := by
  simp only [List.mem_cons, Prod.mk.injEq, List.not_mem_nil, or_false] at known
  rcases known with ⟨rfl, rfl⟩ | ⟨rfl, rfl⟩ | ⟨rfl, rfl⟩ | ⟨rfl, rfl⟩ | ⟨rfl, rfl⟩ | ⟨rfl, rfl⟩ |
    ⟨rfl, rfl⟩ | ⟨rfl, rfl⟩
  all_goals
    refine ⟨by simp, fun _ => rfl, fun input => ?_⟩
    rw [List.singleton_append, readWrittenText]
    · rfl
    · exact nofun

theorem unicode_escape {value : Char} (read : readUnicodeEscape symbols = some (value, rest)) :
    ∃ front, symbols = front ++ rest ∧ IsEscape ('u' :: front) value := by
  unfold readUnicodeEscape at read
  obtain ⟨⟨unit, behind⟩, readUnit, further⟩ := Option.bind_eq_some_iff.mp read
  obtain ⟨digits, rfl, own⟩ := read_code_unit readUnit
  dsimp only at further
  split at further
  case isTrue leading =>
    split at further
    case h_2 => cases further
    case h_1 later =>
    obtain ⟨⟨low, last⟩, readLow, final⟩ := Option.bind_eq_some_iff.mp further
    obtain ⟨lowDigits, rfl, second⟩ := read_code_unit readLow
    dsimp only at final
    split at final
    case isFalse => cases final
    case isTrue trailing =>
    rw [Option.some.injEq, Prod.mk.injEq] at final
    obtain ⟨rfl, rfl⟩ := final
    refine ⟨digits ++ '\\' :: 'u' :: lowDigits, by simp, ?_, ?_, ?_⟩
    · intro symbol inside
      simp only [List.mem_cons, List.mem_append] at inside
      rcases inside with rfl | inside | rfl | rfl | inside
      · decide
      · exact own.plain symbol inside
      · decide
      · decide
      · exact second.plain symbol inside
    · intro tail
      have written : 'u' :: (digits ++ '\\' :: 'u' :: lowDigits) ++ tail =
          'u' :: (digits ++ ('\\' :: 'u' :: (lowDigits ++ tail))) := by simp
      rw [written, readEscape]
      refine Option.bind_eq_some_iff.mpr ⟨(unit, _), own.read _, ?_⟩
      dsimp only
      rw [if_pos leading]
      refine Option.bind_eq_some_iff.mpr ⟨(low, tail), second.read tail, ?_⟩
      dsimp only
      rw [if_pos trailing]
    · intro input
      have written : '\\' :: ('u' :: (digits ++ '\\' :: 'u' :: lowDigits) ++ input) =
          '\\' :: 'u' :: (digits ++ ('\\' :: 'u' :: (lowDigits ++ input))) := by simp
      rw [written, own.written, second.written]
      cases readWrittenText input <;> simp
  case isFalse single =>
    split at further
    case isTrue => cases further
    case isFalse whole =>
    cases further
    refine ⟨digits, rfl, ?_, ?_, own.written⟩
    · intro symbol inside
      rcases List.mem_cons.mp inside with rfl | inside
      · decide
      · exact own.plain symbol inside
    · intro tail
      rw [List.cons_append, readEscape]
      refine Option.bind_eq_some_iff.mpr ⟨(unit, tail), own.read tail, ?_⟩
      dsimp only
      rw [if_neg single, if_neg whole]

theorem read_escape {value : Char} (read : readEscape symbols = some (value, rest)) :
    ∃ front, symbols = front ++ rest ∧ IsEscape front value := by
  unfold readEscape at read
  split at read
  case h_9 later =>
    obtain ⟨front, rfl, escape⟩ := unicode_escape read
    exact ⟨'u' :: front, rfl, escape⟩
  case h_10 => cases read
  all_goals
    cases read
    exact ⟨[_], rfl, mark_escape (by simp)⟩

theorem high_written {own : List Char} (high : ∀ octet ∈ own, 128 ≤ octet.toNat)
    (input : List Char) : readWrittenText (own ++ input) =
      (readWrittenText input).map fun read => (own ++ read.1, read.2) := by
  induction own with
  | nil =>
      rw [List.nil_append]
      cases readWrittenText input <;> rfl
  | cons octet others claim =>
      have beyond := high octet List.mem_cons_self
      have noQuote : octet ≠ '"' := high_ne beyond (by decide)
      have noEscape : octet ≠ '\\' := high_ne beyond (by decide)
      have solid : ¬(decide (octet.toNat < 32) || octet == '\\') = true := by
        simp [noEscape]
        omega
      rw [List.cons_append, readWrittenText, if_neg solid,
        claim fun other inside => high other (List.mem_cons_of_mem _ inside)]
      · cases readWrittenText input <;> rfl
      · exact noQuote
      · exact fun _ _ _ _ _ same => absurd same noEscape
      · exact fun _ _ same => absurd same noEscape

/-- A character that is no mark stands for itself, in one octet or in several. -/
theorem written_text_copied {symbol : Char} (spells : Spells octets (symbol :: symbols))
    (noQuote : symbol ≠ '"') (noEscape : symbol ≠ '\\') (noControl : ¬symbol.toNat < 32) :
    ∃ own others, octets = own ++ others ∧ Spells others symbols ∧
      (∀ {front back}, Spells front back → Spells (own ++ front) (symbol :: back)) ∧
      ∀ input, readWrittenText (own ++ input) =
        (readWrittenText input).map fun read => (own ++ read.1, read.2) := by
  cases spells with
  | @plain _ others _ low follow =>
      refine ⟨[symbol], others, rfl, follow, .plain low, ?_⟩
      intro input
      have solid : ¬(decide (symbol.toNat < 32) || symbol == '\\') = true := by
        simp [noEscape]
        omega
      rw [List.singleton_append, readWrittenText, if_neg solid]
      · rfl
      · exact noQuote
      · exact fun _ _ _ _ _ same => absurd same noEscape
      · exact fun _ _ same => absurd same noEscape
  | @wide own _ others _ wide follow =>
      obtain ⟨first, more, spelled, high⟩ := wide_start wide
      exact ⟨ofBytes own, others, rfl, follow, .wide wide, high_written (spelled ▸ high)⟩

/-- The octets of a string are read up to the quote that ends the string, and mean its text. -/
theorem written_text {held : List Char} {fuel : Nat} {text : String}
    (spells : Spells octets symbols) (read : readSymbols held fuel symbols = some (text, rest)) :
    ∃ written inner after, readWrittenText octets = some (written, after) ∧
      Spells written inner ∧ Spells after rest ∧
      ∀ enough, inner.length < enough → ∀ tail,
        readSymbols held enough (inner ++ '"' :: tail) = some (text, tail) := by
  -- The text before a quote is kept as a list of its own, so that it can be read again alone.
  induction fuel generalizing held octets symbols with
  | zero => cases read
  | succ fuel claim =>
  cases symbols with
  | nil => cases read
  | cons symbol later =>
  rw [readSymbols] at read
  by_cases quote : symbol = '"'
  case pos =>
    subst quote
    rw [if_pos rfl, Option.some.injEq, Prod.mk.injEq] at read
    obtain ⟨rfl, rfl⟩ := read
    obtain ⟨others, rfl, follow⟩ := spells.head_plain (by decide)
    refine ⟨[], [], others, by rw [readWrittenText], .nil, follow, ?_⟩
    intro enough below tail
    obtain ⟨steps, rfl⟩ := Nat.exists_eq_succ_of_ne_zero (Nat.ne_zero_of_lt below)
    rw [List.nil_append, readSymbols, if_pos rfl]
  rw [if_neg quote] at read
  by_cases escape : symbol = '\\'
  case pos =>
    subst escape
    rw [if_pos rfl] at read
    obtain ⟨⟨value, behind⟩, readMark, further⟩ := Option.bind_eq_some_iff.mp read
    obtain ⟨front, rfl, own⟩ := read_escape readMark
    obtain ⟨others, rfl, follow⟩ := spells.head_plain (by decide)
    obtain ⟨last, rfl, beyond⟩ := follow.front_plain own.plain
    obtain ⟨written, inner, after, drawn, within, behindToo, again⟩ := claim beyond further
    refine ⟨'\\' :: (front ++ written), '\\' :: (front ++ inner), after, ?_, ?_, behindToo, ?_⟩
    · rw [own.written, drawn]
      rfl
    · exact .plain (by decide) (within.append own.plain)
    · intro enough below tail
      obtain ⟨steps, rfl⟩ := Nat.exists_eq_succ_of_ne_zero (Nat.ne_zero_of_lt below)
      have fits : inner.length < steps := by
        rw [List.length_cons, List.length_append] at below
        omega
      rw [List.cons_append, readSymbols, if_neg quote, if_pos rfl, List.append_assoc]
      exact Option.bind_eq_some_iff.mpr ⟨(value, _), own.read _, again steps fits tail⟩
  rw [if_neg escape] at read
  by_cases control : symbol.toNat < 32
  case pos =>
    rw [if_pos control] at read
    cases read
  rw [if_neg control] at read
  obtain ⟨own, others, rfl, follow, single, copied⟩ :=
    spells.written_text_copied quote escape control
  obtain ⟨written, inner, after, drawn, within, behind, again⟩ := claim follow read
  refine ⟨own ++ written, symbol :: inner, after, ?_, single within, behind, ?_⟩
  · rw [copied, drawn]
    rfl
  · intro enough below tail
    obtain ⟨steps, rfl⟩ := Nat.exists_eq_succ_of_ne_zero (Nat.ne_zero_of_lt below)
    have fits : inner.length < steps := Nat.lt_of_succ_lt_succ below
    rw [List.cons_append, readSymbols, if_neg quote, if_neg escape, if_neg control]
    exact again steps fits tail

theorem text_of_spelled {written inner : List Char} {text : String} (spells : Spells written inner)
    (read : ∀ enough, inner.length < enough → ∀ tail,
      readSymbols [] enough (inner ++ '"' :: tail) = some (text, tail)) :
    Outline.text? written = some text := by
  unfold Outline.text?
  refine Option.bind_eq_some_iff.mpr ⟨inner, spells.decode_spelled, ?_⟩
  have fits : inner.length < (inner ++ ['"']).length + 1 := by
    rw [List.length_append]
    omega
  rw [readStringBody, read _ fits []]

/-! ## Values -/

def DrawsValues (fuel : Nat) : Prop :=
  ∀ {depth steps : Nat} {octets symbols rest : List Char} {value : Json}, fuel ≤ steps →
    Spells octets symbols → readValue depth fuel symbols = some (value, rest) →
    ∃ drawn after, readOutline steps octets = some (drawn, after) ∧ Spells after rest ∧
      drawn.value? depth = some value

def DrawsElements (fuel : Nat) : Prop :=
  ∀ {depth steps : Nat} {octets symbols rest : List Char} {values : List Json}, fuel ≤ steps →
    Spells octets symbols → readElements depth fuel symbols = some (values, rest) →
    ∃ drawn after, outlineElements steps octets = some (drawn, after) ∧ Spells after rest ∧
      drawn.mapM (Outline.value? depth) = some values

def DrawsMembers (fuel : Nat) : Prop :=
  ∀ {depth steps : Nat} {octets symbols rest : List Char} {members : List (String × Json)},
    fuel ≤ steps → Spells octets symbols →
    readMembers depth fuel symbols = some (members, rest) →
    ∃ drawn after, outlineMembers steps octets = some (drawn, after) ∧ Spells after rest ∧
      drawn.mapM (Outline.member? depth) = some members

theorem draws_elements {fuel : Nat} (values : DrawsValues fuel) (elements : DrawsElements fuel) :
    DrawsElements (fuel + 1) := by
  intro depth steps octets symbols rest found enough spells read
  obtain ⟨steps, rfl⟩ := Nat.exists_eq_succ_of_ne_zero (Nat.ne_zero_of_lt enough)
  have fits := Nat.le_of_succ_le_succ enough
  rw [readElements] at read
  obtain ⟨⟨value, behind⟩, readFirst, further⟩ := Option.bind_eq_some_iff.mp read
  obtain ⟨drawn, after, drawnFirst, follow, means⟩ := values fits spells readFirst
  rw [outlineElements]
  dsimp only at further
  split at further
  case h_1 later comma =>
    obtain ⟨⟨others, last⟩, readOthers, same⟩ := Option.bind_eq_some_iff.mp further
    cases same
    obtain ⟨beyond, blank, next⟩ := follow.mark_behind comma (by decide)
    obtain ⟨drawnOthers, final, drawnLater, ends, mean⟩ := elements fits next readOthers
    refine ⟨drawn :: drawnOthers, final, ?_, ends, ?_⟩
    · refine Option.bind_eq_some_iff.mpr ⟨(drawn, after), drawnFirst, ?_⟩
      dsimp only
      rw [blank]
      exact Option.bind_eq_some_iff.mpr ⟨(drawnOthers, final), drawnLater, rfl⟩
    · rw [List.mapM_cons, means, mean]
      rfl
  case h_2 later closing =>
    cases further
    obtain ⟨beyond, blank, next⟩ := follow.mark_behind closing (by decide)
    refine ⟨[drawn], beyond, ?_, next, ?_⟩
    · refine Option.bind_eq_some_iff.mpr ⟨(drawn, after), drawnFirst, ?_⟩
      dsimp only
      rw [blank]
      rfl
    · rw [List.mapM_cons, means]
      rfl
  case h_3 => cases further

theorem draws_members {fuel : Nat} (values : DrawsValues fuel) (members : DrawsMembers fuel) :
    DrawsMembers (fuel + 1) := by
  intro depth steps octets symbols rest found enough spells read
  obtain ⟨steps, rfl⟩ := Nat.exists_eq_succ_of_ne_zero (Nat.ne_zero_of_lt enough)
  have fits := Nat.le_of_succ_le_succ enough
  rw [readMembers] at read
  rw [outlineMembers]
  split at read
  case h_2 => cases read
  case h_1 afterQuote quote =>
  obtain ⟨inside, opened, begun⟩ := spells.mark_behind quote (by decide)
  rw [opened]
  obtain ⟨⟨key, afterKey⟩, readKey, further⟩ := Option.bind_eq_some_iff.mp read
  obtain ⟨written, inner, closed, drawnKey, keySpelled, behindKey, again⟩ :=
    begun.written_text readKey
  have named := text_of_spelled keySpelled again
  dsimp only at further
  split at further
  case h_2 => cases further
  case h_1 afterColon colon =>
  obtain ⟨apart, divided, start⟩ := behindKey.mark_behind colon (by decide)
  obtain ⟨⟨value, afterValue⟩, readValue, final⟩ := Option.bind_eq_some_iff.mp further
  obtain ⟨drawn, after, drawnValue, follow, means⟩ := values fits start readValue
  have own : Outline.member? depth (written, drawn) = some (key, value) := by
    unfold Outline.member?
    rw [named, means]
    rfl
  dsimp only at final
  split at final
  case h_1 later comma =>
    obtain ⟨⟨others, last⟩, readOthers, same⟩ := Option.bind_eq_some_iff.mp final
    cases same
    obtain ⟨beyond, blank, next⟩ := follow.mark_behind comma (by decide)
    obtain ⟨drawnOthers, finish, drawnLater, ends, mean⟩ := members fits next readOthers
    refine ⟨(written, drawn) :: drawnOthers, finish, ?_, ends, ?_⟩
    · refine Option.bind_eq_some_iff.mpr ⟨(written, closed), drawnKey, ?_⟩
      dsimp only
      rw [divided]
      refine Option.bind_eq_some_iff.mpr ⟨(drawn, after), drawnValue, ?_⟩
      dsimp only
      rw [blank]
      exact Option.bind_eq_some_iff.mpr ⟨(drawnOthers, finish), drawnLater, rfl⟩
    · rw [List.mapM_cons, own, mean]
      rfl
  case h_2 later closing =>
    cases final
    obtain ⟨beyond, blank, next⟩ := follow.mark_behind closing (by decide)
    refine ⟨[(written, drawn)], beyond, ?_, next, ?_⟩
    · refine Option.bind_eq_some_iff.mpr ⟨(written, closed), drawnKey, ?_⟩
      dsimp only
      rw [divided]
      refine Option.bind_eq_some_iff.mpr ⟨(drawn, after), drawnValue, ?_⟩
      dsimp only
      rw [blank]
      rfl
    · rw [List.mapM_cons, own]
      rfl
  case h_3 => cases final

/-- Every number begins with a minus or a digit. -/
theorem number_start {number : WrittenNumber}
    (read : readWrittenNumber symbols = some (number, rest)) :
    ∃ symbol later, symbols = symbol :: later ∧ StartsNumber symbol := by
  cases symbols with
  | nil => cases read
  | cons symbol later =>
      refine ⟨symbol, later, rfl, ?_⟩
      by_cases minus : symbol = '-'
      · exact .inl minus
      · cases digit : Decimal.isDigit symbol with
        | true => exact .inr digit
        | false =>
            have unsigned : signOf (symbol :: later) = (false, symbol :: later) := by
              simp [signOf, minus]
            rw [read_written_signed, unsigned] at read
            unfold readUnsigned at read
            simp [digit] at read

theorem starts_number_plain {symbol : Char} (start : StartsNumber symbol) :
    symbol.toNat < 128 := by
  rcases start with rfl | digit
  · decide
  · exact digit_plain digit

theorem draws_number {number : Number} {steps : Nat} (spells : Spells octets symbols)
    (read : readNumber (skipBlanks symbols) = some (number, rest)) :
    ∃ drawn after, readOutline (steps + 1) octets = some (drawn, after) ∧ Spells after rest ∧
      ∀ depth, drawn.value? depth = some (.number number) := by
  obtain ⟨⟨written, behind⟩, readWritten, further⟩ := Option.bind_eq_some_iff.mp read
  obtain ⟨value, means, same⟩ := Option.bind_eq_some_iff.mp further
  cases same
  obtain ⟨symbol, later, begins, start⟩ := number_start readWritten
  obtain ⟨others, blank, _⟩ := spells.mark_behind begins (starts_number_plain start)
  obtain ⟨after, drawn, follow⟩ := spells.skip_blanks.written_number readWritten
  refine ⟨.number written, after, ?_, follow, ?_⟩
  · have other := starts_number_other start
    rw [blank] at drawn
    rw [readOutline, blank]
    split
    case h_7 =>
        rw [drawn]
        rfl
    all_goals
      next same =>
        exact absurd (List.cons.inj same).1 (other _ (by decide) (by decide))
  · intro depth
    rw [Outline.value?.eq_def]
    dsimp only
    rw [means]
    rfl

theorem read_array {inner : List Char} (opened : skipBlanks octets = '[' :: inner) (steps : Nat) :
    readOutline (steps + 1) octets =
      match skipBlanks inner with
      | ']' :: rest => some (.array [], rest)
      | rest => (outlineElements steps rest).bind fun read => some (.array read.1, read.2) := by
  rw [readOutline, opened]
  rfl

theorem read_object {inner : List Char} (opened : skipBlanks octets = '\x7b' :: inner)
    (steps : Nat) :
    readOutline (steps + 1) octets =
      match skipBlanks inner with
      | '\x7d' :: rest => some (.object [], rest)
      | rest => (outlineMembers steps rest).bind fun read => some (.object read.1, read.2) := by
  rw [readOutline, opened]
  rfl

/-- What the octets begin with, if it is plain, the text begins with. -/
theorem head_octet {mark : Char} {others : List Char} (spells : Spells (mark :: others) symbols)
    (plain : mark.toNat < 128) : ∃ later, symbols = mark :: later := by
  rcases spells.starts with ⟨impossible, _⟩ | ⟨symbol, _, later, same, begins, _, _⟩ |
    ⟨octet, _, _, _, same, _, high, _⟩
  · cases impossible
  · cases same
    exact ⟨later, begins⟩
  · cases same
    omega

/-- What does not end at once in the text does not in the octets. -/
theorem stays_open {mark : Char} (spells : Spells octets symbols) (plain : mark.toNat < 128)
    (filled : ∀ beyond, skipBlanks symbols ≠ mark :: beyond) :
    ∀ after, skipBlanks octets ≠ mark :: after := by
  intro after closed
  have blank := spells.skip_blanks
  rw [closed] at blank
  obtain ⟨beyond, closing⟩ := blank.head_octet plain
  exact filled beyond closing

theorem draws_string {later : List Char} {text : String} (spells : Spells octets symbols)
    (quote : skipBlanks symbols = '"' :: later) (read : readStringBody later = some (text, rest))
    (steps : Nat) :
    ∃ drawn after, readOutline (steps + 1) octets = some (drawn, after) ∧ Spells after rest ∧
      ∀ depth, drawn.value? depth = some (.string text) := by
  obtain ⟨inside, opened, begun⟩ := spells.mark_behind quote (by decide)
  obtain ⟨written, inner, after, drawn, spelled, follow, again⟩ := begun.written_text read
  refine ⟨.string written, after, ?_, follow, ?_⟩
  · rw [readOutline, opened]
    exact Option.bind_eq_some_iff.mpr ⟨(written, after), drawn, rfl⟩
  · intro depth
    rw [Outline.value?.eq_def]
    dsimp only
    rw [text_of_spelled spelled again]
    rfl

theorem draws_word {first : Char} {letters later : List Char} {steps : Nat}
    (spells : Spells octets symbols) (drawn : Outline)
    (begins : skipBlanks symbols = first :: later)
    (plain : ∀ letter ∈ first :: letters, letter.toNat < 128)
    (read : readWord letters later = some rest)
    (draws : ∀ inner, skipBlanks octets = first :: inner → readOutline (steps + 1) octets =
      (readWord letters inner).bind fun after => some (drawn, after)) :
    ∃ after, readOutline (steps + 1) octets = some (drawn, after) ∧ Spells after rest := by
  obtain ⟨inner, opened, begun⟩ := spells.mark_behind begins (plain first List.mem_cons_self)
  obtain ⟨after, found, follow⟩ :=
    begun.read_word_spelled (fun letter inside => plain letter (List.mem_cons_of_mem _ inside)) read
  refine ⟨after, ?_, follow⟩
  rw [draws inner opened, found]
  rfl

theorem draws_values {fuel : Nat} (elements : DrawsElements fuel) (members : DrawsMembers fuel) :
    DrawsValues (fuel + 1) := by
  intro depth steps octets symbols rest value enough spells read
  obtain ⟨steps, rfl⟩ := Nat.exists_eq_succ_of_ne_zero (Nat.ne_zero_of_lt enough)
  have fits := Nat.le_of_succ_le_succ enough
  rw [readValue.eq_def] at read
  dsimp only at read
  split at read
  case h_1 later quote =>
    obtain ⟨⟨text, behind⟩, readText, same⟩ := Option.bind_eq_some_iff.mp read
    cases same
    obtain ⟨drawn, after, found, follow, means⟩ := draws_string spells quote readText steps
    exact ⟨drawn, after, found, follow, means depth⟩
  case h_2 later bracket =>
    obtain ⟨inner, opened, begun⟩ := spells.mark_behind bracket (by decide)
    cases depth with
    | zero => cases read
    | succ depth =>
    dsimp only at read
    rw [read_array opened]
    split at read
    case h_1 last closing =>
      cases read
      obtain ⟨after, closed, follow⟩ := begun.mark_behind closing (by decide)
      refine ⟨.array [], after, ?_, follow, rfl⟩
      rw [closed]
      rfl
    case h_2 filled =>
      obtain ⟨⟨values, behind⟩, readAll, same⟩ := Option.bind_eq_some_iff.mp read
      cases same
      obtain ⟨drawn, after, drawnAll, follow, mean⟩ := elements fits begun.skip_blanks readAll
      refine ⟨.array drawn, after, ?_, follow, ?_⟩
      · split
        case h_1 last closed => exact absurd closed (begun.stays_open (by decide) filled last)
        case h_2 => exact Option.bind_eq_some_iff.mpr ⟨(drawn, after), drawnAll, rfl⟩
      · rw [Outline.value?.eq_def]
        exact congrArg (Option.map Json.array) mean
  case h_3 later brace =>
    obtain ⟨inner, opened, begun⟩ := spells.mark_behind brace (by decide)
    cases depth with
    | zero => cases read
    | succ depth =>
    dsimp only at read
    rw [read_object opened]
    split at read
    case h_1 last closing =>
      cases read
      obtain ⟨after, closed, follow⟩ := begun.mark_behind closing (by decide)
      refine ⟨.object [], after, ?_, follow, rfl⟩
      rw [closed]
      rfl
    case h_2 filled =>
      obtain ⟨⟨held, behind⟩, readAll, same⟩ := Option.bind_eq_some_iff.mp read
      cases same
      obtain ⟨drawn, after, drawnAll, follow, mean⟩ := members fits begun.skip_blanks readAll
      refine ⟨.object drawn, after, ?_, follow, ?_⟩
      · split
        case h_1 last closed => exact absurd closed (begun.stays_open (by decide) filled last)
        case h_2 => exact Option.bind_eq_some_iff.mpr ⟨(drawn, after), drawnAll, rfl⟩
      · rw [Outline.value?.eq_def]
        exact congrArg (Option.map Json.object) mean
  case h_4 later letter =>
    obtain ⟨behind, found, same⟩ := Option.bind_eq_some_iff.mp read
    cases same
    obtain ⟨after, drawn, follow⟩ := spells.draws_word .null letter (by simp) found
      fun inner opened => by rw [readOutline, opened]; rfl
    exact ⟨.null, after, drawn, follow, by rw [Outline.value?.eq_def]⟩
  case h_5 later letter =>
    obtain ⟨behind, found, same⟩ := Option.bind_eq_some_iff.mp read
    cases same
    obtain ⟨after, drawn, follow⟩ := spells.draws_word (.bool true) letter (by simp) found
      fun inner opened => by rw [readOutline, opened]; rfl
    exact ⟨.bool true, after, drawn, follow, by rw [Outline.value?.eq_def]⟩
  case h_6 later letter =>
    obtain ⟨behind, found, same⟩ := Option.bind_eq_some_iff.mp read
    cases same
    obtain ⟨after, drawn, follow⟩ := spells.draws_word (.bool false) letter (by simp) found
      fun inner opened => by rw [readOutline, opened]; rfl
    exact ⟨.bool false, after, drawn, follow, by rw [Outline.value?.eq_def]⟩
  case h_7 =>
    obtain ⟨⟨number, behind⟩, readOwn, same⟩ := Option.bind_eq_some_iff.mp read
    cases same
    obtain ⟨drawn, after, found, follow, means⟩ := draws_number spells readOwn
    exact ⟨drawn, after, found, follow, means depth⟩

/-- Text and octets are read in step: each reader of the one calls the next with one step less, and
so does its counterpart, which may have steps to spare. -/
theorem draws (fuel : Nat) : DrawsValues fuel ∧ DrawsElements fuel ∧ DrawsMembers fuel := by
  induction fuel with
  | zero =>
      refine ⟨?_, ?_, ?_⟩
      · intro _ _ _ _ _ _ _ _ read
        rw [readValue] at read
        cases read
      · intro _ _ _ _ _ _ _ _ read
        rw [readElements] at read
        cases read
      · intro _ _ _ _ _ _ _ _ read
        rw [readMembers] at read
        cases read
  | succ fuel claim =>
      obtain ⟨values, elements, members⟩ := claim
      exact ⟨draws_values elements members, draws_elements values elements,
        draws_members values members⟩

end Spells

namespace Json

/-- What has a meaning as JSON text has an outline with that meaning. -/
theorem outline_of_text {bytes : List UInt8} {symbols : List Char} {value : Json}
    (text : Utf8.decode bytes = some symbols)
    (parsed : parseInOrder (String.ofList symbols) = some value) :
    ∃ drawn, outline bytes = some drawn ∧ drawn.value? greatestDepth = some value := by
  have spells := Spells.of_decoded text
  obtain ⟨⟨_, rest⟩, read, ended⟩ := Option.bind_eq_some_iff.mp parsed
  dsimp only at ended
  split at ended
  case isFalse => cases ended
  case isTrue blank =>
  cases ended
  rw [readJson, String.toList_ofList] at read
  have enough : fuelFor symbols ≤ fuelFor (ofBytes bytes) := by
    unfold fuelFor
    have shorter := spells.length_le
    omega
  obtain ⟨drawn, after, found, follow, means⟩ := (Spells.draws _).1 enough spells read
  have nothing : skipBlanks after = [] :=
    follow.skip_blanks.nothing_spelled (List.isEmpty_iff.mp blank)
  refine ⟨drawn, ?_, means⟩
  refine Option.bind_eq_some_iff.mpr ⟨(drawn, after), found, ?_⟩
  dsimp only
  rw [nothing]
  rfl

end Json
end GatedResources
