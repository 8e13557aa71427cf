import GatedResources.Json.Parser
import GatedResources.Json.Printer
import GatedResources.Proofs.DecimalDigits

/-!
# Reading laid out text

A text that gives the parts of a value in order, with any blanks between them, is read as that
value, with its members in the order in which they are written. Its numbers are whole numbers of 64
bits.
-/

namespace GatedResources
namespace Json

/-! ## Numbers -/

theorem accumulate_all (symbols : List Char) (significand taken : Nat)
    (fits : symbols.foldl (fun total symbol => total * 10 + Decimal.digitValue symbol) significand <
      Nat.pow 2 64) :
    accumulate significand taken symbols =
      (symbols.foldl (fun total symbol => total * 10 + Decimal.digitValue symbol) significand,
        taken + symbols.length) := by
  induction symbols generalizing significand taken with
  | nil => rfl
  | cons symbol rest claim =>
      rw [List.foldl_cons] at fits ⊢
      have below := Nat.lt_of_le_of_lt (Decimal.fold_le rest _) fits
      rw [accumulate, if_pos below, claim _ _ fits, List.length_cons]
      congr 1
      omega

theorem accumulate_digits {value : Nat} (fits : value < Nat.pow 2 64) :
    accumulate 0 0 (Decimal.digits value) = (value, (Decimal.digits value).length) := by
  have whole := Decimal.digits_fold value
  have taken := accumulate_all (Decimal.digits value) 0 0 (by rw [whole]; exact fits)
  rw [taken, whole, Nat.zero_add]

def StopsNumber (rest : List Char) : Prop :=
  ∀ symbol ∈ rest.head?, Decimal.isDigit symbol = false ∧ symbol ≠ '.' ∧ symbol ≠ 'e' ∧
    symbol ≠ 'E'

theorem take_digits (value : Nat) {rest : List Char} (stops : StopsNumber rest) :
    (Decimal.digits value ++ rest).takeWhile Decimal.isDigit = Decimal.digits value ∧
      (Decimal.digits value ++ rest).dropWhile Decimal.isDigit = rest := by
  have all : ∀ symbol ∈ Decimal.digits value, Decimal.isDigit symbol = true :=
    fun symbol member => Decimal.is_digit_of_digits member
  rw [List.takeWhile_append_of_pos all, List.dropWhile_append_of_pos all]
  cases rest with
  | nil => simp
  | cons symbol rest =>
      have other := (stops symbol rfl).1
      simp [other]

theorem read_fraction_stopped {rest : List Char} (stops : StopsNumber rest) :
    readFraction rest = some (none, rest) := by
  cases rest with
  | nil => rfl
  | cons symbol rest =>
      have noPoint := (stops symbol rfl).2.1
      simp [readFraction, noPoint]

theorem read_exponent_stopped {rest : List Char} (stops : StopsNumber rest) :
    readExponent rest = some (none, rest) := by
  cases rest with
  | nil => rfl
  | cons symbol rest =>
      have unmarked := (stops symbol rfl).2.2
      simp [readExponent, unmarked]

theorem digits_unpadded (value : Nat) : ((Decimal.digits value).isEmpty ||
    ((Decimal.digits value).head? == some '0' && decide (1 < (Decimal.digits value).length))) =
      false := by
  rw [Bool.or_eq_false_iff, List.isEmpty_eq_false_iff]
  refine ⟨Decimal.digits_nonempty value, ?_⟩
  by_cases zero : (Decimal.digits value).head? = some '0'
  · rw [Decimal.digits_first_zero zero]
    simp
  · simp [zero]

def signOf : List Char -> Bool × List Char
  | '-' :: rest => (true, rest)
  | rest => (false, rest)

def readUnsigned (negative : Bool) (input : List Char) : Option (WrittenNumber × List Char) := do
  let whole := input.takeWhile Decimal.isDigit
  if whole.isEmpty || (whole.head? == some '0' && 1 < whole.length) then
    none
  else
    let (fraction, rest) ← readFraction (input.dropWhile Decimal.isDigit)
    let (exponent, rest) ← readExponent rest
    some (⟨negative, whole, fraction, exponent⟩, rest)

theorem read_written_signed (input : List Char) :
    readWrittenNumber input = readUnsigned (signOf input).1 (signOf input).2 := rfl

theorem sign_of_digits (value : Nat) (rest : List Char) :
    signOf (Decimal.digits value ++ rest) = (false, Decimal.digits value ++ rest) := by
  obtain ⟨symbol, symbols, written, digit⟩ := Decimal.digits_start value
  have noMinus : symbol ≠ '-' := by
    rintro rfl
    exact absurd digit (by decide)
  rw [written]
  simp [signOf, noMinus]

theorem read_unsigned_digits (negative : Bool) (value : Nat) {rest : List Char}
    (stops : StopsNumber rest) :
    readUnsigned negative (Decimal.digits value ++ rest) =
      some (⟨negative, Decimal.digits value, none, none⟩, rest) := by
  obtain ⟨taken, left⟩ := take_digits value stops
  simp only [readUnsigned, taken, left, digits_unpadded]
  simp [read_fraction_stopped stops, read_exponent_stopped stops]

def IsWhole (number : Number) : Prop :=
  ∃ whole : Int, number = .integer whole ∧ -(Nat.pow 2 63 : Nat) ≤ whole ∧
    whole < (Nat.pow 2 64 : Nat)

theorem written_natural_value {value : Nat} (fits : value < Nat.pow 2 64) :
    WrittenNumber.value? ⟨false, Decimal.digits value, none, none⟩ = some (.integer value) := by
  simp [WrittenNumber.value?, accumulate_digits fits]

theorem written_negative_value {value : Nat} (positive : 0 < value)
    (fits : value ≤ Nat.pow 2 63) :
    WrittenNumber.value? ⟨true, Decimal.digits value, none, none⟩ =
      some (.integer (-(value : Int))) := by
  have below : value < Nat.pow 2 64 := Nat.lt_of_le_of_lt fits (by decide)
  have nonzero : value ≠ 0 := by omega
  simp [WrittenNumber.value?, accumulate_digits below, nonzero, fits]

theorem read_number_text {number : Number} (whole : IsWhole number) {rest : List Char}
    (stops : StopsNumber rest) :
    readNumber ((numberText number).toList ++ rest) = some (number, rest) := by
  obtain ⟨value, same, above, below⟩ := whole
  subst same
  cases value with
  | ofNat value =>
      have fits : value < Nat.pow 2 64 := Int.ofNat_lt.mp below
      have text : (numberText (.integer (.ofNat value))).toList = Decimal.digits value :=
        String.toList_ofList
      rw [text, readNumber, read_written_signed, sign_of_digits,
        read_unsigned_digits _ value stops]
      simp [written_natural_value fits]
  | negSucc value =>
      have fits : value + 1 ≤ Nat.pow 2 63 := by
        omega
      have text : (numberText (.integer (.negSucc value))).toList =
          '-' :: Decimal.digits (value + 1) := by
        simp [numberText, Decimal.integer, Decimal.natural]
      have signed : signOf ('-' :: (Decimal.digits (value + 1) ++ rest)) =
          (true, Decimal.digits (value + 1) ++ rest) := rfl
      rw [text, List.cons_append, readNumber, read_written_signed, signed,
        read_unsigned_digits _ (value + 1) stops]
      simp [written_negative_value (Nat.succ_pos value) fits, Int.negSucc_eq]

/-! ## Strings -/

theorem hex_value_digit : ∀ digit < 16, hexValue (hexDigit digit) = some digit := by
  decide

theorem read_control_escape {symbol : Char} (control : symbol.toNat < 32) (rest : List Char) :
    readEscape ('u' :: '0' :: '0' :: hexDigit (symbol.toNat / 16) ::
      hexDigit (symbol.toNat % 16) :: rest) = some (symbol, rest) := by
  have high := hex_value_digit (symbol.toNat / 16) (by omega)
  have low := hex_value_digit (symbol.toNat % 16) (by omega)
  have zero : hexValue '0' = some 0 := by decide
  have code : ((0 * 16 + 0) * 16 + symbol.toNat / 16) * 16 + symbol.toNat % 16 = symbol.toNat := by
    omega
  have single : ¬ 0xD800 ≤ symbol.toNat := by omega
  have alone : ¬ 0xDC00 ≤ symbol.toNat := by omega
  simp only [readEscape, readUnicodeEscape, readCodeUnit, zero, high, low, Option.bind_eq_bind,
    Option.bind_some, code]
  simp [single, alone, Char.ofNat_toNat]

/-- A character as it stands between quotes is read as that character. -/
theorem read_symbols_escaped (symbol : Char) (held : List Char) (fuel : Nat) (rest : List Char) :
    readSymbols held (fuel + 1) (escaped symbol ++ rest) =
      readSymbols (symbol :: held) fuel rest := by
  unfold escaped
  split
  case h_8 noQuote noBackslash _ _ _ _ _ =>
      by_cases control : symbol.toNat < 32
      · have read := read_control_escape control rest
        rw [if_pos control]
        simp [readSymbols, read]
      · rw [if_neg control]
        rw [List.cons_append, List.nil_append, readSymbols, if_neg noQuote, if_neg noBackslash,
          if_neg control]
  all_goals rfl

theorem read_symbols_quoted (symbols held : List Char) (fuel : Nat) (rest : List Char)
    (enough : symbols.length < fuel) :
    readSymbols held fuel (symbols.flatMap escaped ++ '"' :: rest) =
      some (String.ofList (held.reverse ++ symbols), rest) := by
  induction symbols generalizing held fuel with
  | nil =>
      cases fuel with
      | zero => exact absurd enough (Nat.not_lt_zero _)
      | succ fuel => simp [readSymbols]
  | cons symbol symbols claim =>
      cases fuel with
      | zero => exact absurd enough (Nat.not_lt_zero _)
      | succ fuel =>
          have left : symbols.length < fuel := Nat.lt_of_succ_lt_succ enough
          rw [List.flatMap_cons, List.append_assoc, read_symbols_escaped, claim _ _ left]
          simp

theorem length_le_escaped (symbols : List Char) :
    symbols.length ≤ (symbols.flatMap escaped).length := by
  have one : ∀ symbol, 1 ≤ (escaped symbol).length := by
    intro symbol
    unfold escaped
    split
    case h_8 => split <;> simp
    all_goals simp
  induction symbols with
  | nil => exact Nat.le_refl 0
  | cons symbol rest claim =>
      have first := one symbol
      rw [List.flatMap_cons, List.length_append, List.length_cons]
      omega

theorem read_string_quoted (text : String) (rest : List Char) :
    readStringBody (text.toList.flatMap escaped ++ '"' :: rest) = some (text, rest) := by
  have size := length_le_escaped text.toList
  have enough : text.toList.length <
      (text.toList.flatMap escaped ++ '"' :: rest).length + 1 := by
    rw [List.length_append]
    omega
  rw [readStringBody, read_symbols_quoted _ _ _ _ enough]
  simp

/-! ## Texts of values -/

def IsGap (symbols : List Char) : Prop :=
  ∀ symbol ∈ symbols, isBlank symbol = true

mutual

/-- The texts of a value that opens no more than `depth` containers inside each other. Blanks may
stand behind each bracket, brace, colon and comma and before it. -/
inductive Laid : Nat -> Json -> List Char -> Prop
  | null {depth : Nat} : Laid depth .null ['n', 'u', 'l', 'l']
  | flag {depth : Nat} (value : Bool) :
      Laid depth (.bool value) (if value then "true" else "false").toList
  | number {depth : Nat} {number : Number} (whole : IsWhole number) :
      Laid depth (.number number) (numberText number).toList
  | string {depth : Nat} (text : String) : Laid depth (.string text) (quotedSymbols text)
  | array {depth : Nat} {elements : List Json} {before inner : List Char} (gap : IsGap before)
      (inside : LaidElements depth elements inner) :
      Laid (depth + 1) (.array elements) ('[' :: (before ++ (inner ++ [']'])))
  | object {depth : Nat} {members : List (String × Json)} {before inner : List Char}
      (gap : IsGap before) (inside : LaidMembers depth members inner) :
      Laid (depth + 1) (.object members) ('\x7b' :: (before ++ (inner ++ ['\x7d'])))

inductive LaidElements : Nat -> List Json -> List Char -> Prop
  | none {depth : Nat} : LaidElements depth [] []
  | last {depth : Nat} {element : Json} {own after : List Char} (laid : Laid depth element own)
      (behind : IsGap after) : LaidElements depth [element] (own ++ after)
  | more {depth : Nat} {element next : Json} {others : List Json}
      {own after before later : List Char} (laid : Laid depth element own) (behind : IsGap after)
      (gap : IsGap before) (further : LaidElements depth (next :: others) later) :
      LaidElements depth (element :: next :: others) (own ++ (after ++ ',' :: (before ++ later)))

inductive LaidMembers : Nat -> List (String × Json) -> List Char -> Prop
  | none {depth : Nat} : LaidMembers depth [] []
  | last {depth : Nat} {key : String} {value : Json} {named valued own after : List Char}
      (beforeColon : IsGap named) (behindColon : IsGap valued) (laid : Laid depth value own)
      (behind : IsGap after) :
      LaidMembers depth [(key, value)]
        (quotedSymbols key ++ (named ++ ':' :: (valued ++ (own ++ after))))
  | more {depth : Nat} {key : String} {value : Json} {next : String × Json}
      {others : List (String × Json)} {named valued own after before later : List Char}
      (beforeColon : IsGap named) (behindColon : IsGap valued) (laid : Laid depth value own)
      (behind : IsGap after) (gap : IsGap before)
      (further : LaidMembers depth (next :: others) later) :
      LaidMembers depth ((key, value) :: next :: others)
        (quotedSymbols key ++ (named ++ ':' :: (valued ++ (own ++ (after ++ ',' ::
          (before ++ later))))))

end

def StartsNumber (symbol : Char) : Prop :=
  symbol = '-' ∨ Decimal.isDigit symbol = true

theorem number_text_start {number : Number} (whole : IsWhole number) :
    ∃ symbol tail, (numberText number).toList = symbol :: tail ∧ StartsNumber symbol := by
  obtain ⟨value, same, -, -⟩ := whole
  subst same
  cases value with
  | ofNat value =>
      obtain ⟨symbol, tail, written, digit⟩ := Decimal.digits_start value
      refine ⟨symbol, tail, ?_, .inr digit⟩
      rw [← written]
      exact String.toList_ofList
  | negSucc value =>
      refine ⟨'-', Decimal.digits (value + 1), ?_, .inl rfl⟩
      simp [numberText, Decimal.integer, Decimal.natural]

theorem starts_number_other {symbol : Char} (start : StartsNumber symbol) (other : Char)
    (different : other ≠ '-') (noDigit : Decimal.isDigit other = false) : symbol ≠ other := by
  rintro rfl
  rcases start with minus | digit
  · exact different minus
  · rw [noDigit] at digit
    cases digit

theorem skip_blanks_kept {symbol : Char} (solid : isBlank symbol = false) (tail : List Char) :
    skipBlanks (symbol :: tail) = symbol :: tail := by
  simp [skipBlanks, solid]

theorem skip_blanks_quote (tail : List Char) : skipBlanks ('"' :: tail) = '"' :: tail :=
  skip_blanks_kept (by decide) tail

theorem number_not_blank {symbol : Char} (start : StartsNumber symbol) :
    isBlank symbol = false := by
  have noSpace := starts_number_other start ' ' (by decide) (by decide)
  have noBreak := starts_number_other start '\n' (by decide) (by decide)
  have noTab := starts_number_other start '\t' (by decide) (by decide)
  have noReturn := starts_number_other start '\r' (by decide) (by decide)
  simp [isBlank, noSpace, noBreak, noTab, noReturn]

theorem read_value_number {symbol : Char} (start : StartsNumber symbol) (depth fuel : Nat)
    (tail : List Char) :
    readValue depth (fuel + 1) (symbol :: tail) =
      (readNumber (symbol :: tail)).map fun read => (.number read.1, read.2) := by
  have other := starts_number_other start
  rw [readValue, skip_blanks_kept (number_not_blank start)]
  split
  case h_7 =>
      cases readNumber (symbol :: tail) <;> rfl
  all_goals
    next same =>
      exact absurd (List.cons.inj same).1 (other _ (by decide) (by decide))

/-! ## Blanks -/

variable {depth fuel : Nat} {value : Json} {elements : List Json}
  {members : List (String × Json)} {before after own inner rest input : List Char}

theorem no_gap : IsGap [] :=
  nofun

theorem skip_gap (gap : IsGap before) (input : List Char) :
    skipBlanks (before ++ input) = skipBlanks input :=
  List.dropWhile_append_of_pos gap

theorem skip_gap_kept (gap : IsGap before) {symbol : Char} (solid : isBlank symbol = false)
    (rest : List Char) : skipBlanks (before ++ symbol :: rest) = symbol :: rest := by
  rw [skip_gap gap, skip_blanks_kept solid]

theorem read_value_behind (gap : IsGap before) (input : List Char) :
    readValue depth fuel (before ++ input) = readValue depth fuel input := by
  cases fuel with
  | zero => rw [readValue, readValue]
  | succ fuel => rw [readValue, readValue, skip_gap gap]

theorem read_elements_behind (gap : IsGap before) (input : List Char) :
    readElements depth fuel (before ++ input) = readElements depth fuel input := by
  cases fuel with
  | zero => rw [readElements, readElements]
  | succ fuel => rw [readElements, readElements, read_value_behind gap]

theorem read_members_behind (gap : IsGap before) (input : List Char) :
    readMembers depth fuel (before ++ input) = readMembers depth fuel input := by
  cases fuel with
  | zero => rw [readMembers, readMembers]
  | succ fuel => rw [readMembers, readMembers, skip_gap gap]

/-- A number does not go on where blanks, a comma or the end of a container stand. -/
theorem stops_behind (gap : IsGap after) {mark : Char} (known : mark ∈ [',', ']', '\x7d'])
    (rest : List Char) : StopsNumber (after ++ mark :: rest) := by
  intro symbol first
  cases after with
  | nil =>
      rw [← Option.some.inj first]
      simp only [List.mem_cons, List.not_mem_nil, or_false] at known
      rcases known with rfl | rfl | rfl <;> decide
  | cons blank others =>
      have own := gap blank List.mem_cons_self
      rw [← Option.some.inj first]
      simp only [isBlank, Bool.or_eq_true, beq_iff_eq] at own
      rcases own with ((rfl | rfl) | rfl) | rfl <;> decide

theorem stops_gap (gap : IsGap after) : StopsNumber after := by
  intro symbol first
  cases after with
  | nil => cases first
  | cons blank others =>
      have own := gap blank List.mem_cons_self
      rw [← Option.some.inj first]
      simp only [isBlank, Bool.or_eq_true, beq_iff_eq] at own
      rcases own with ((rfl | rfl) | rfl) | rfl <;> decide

/-! ## One step of the reader -/

/-- The first symbol of a value's text is no blank and closes no container. -/
theorem Laid.start (laid : Laid depth value own) :
    ∃ symbol tail, own = symbol :: tail ∧ isBlank symbol = false ∧ symbol ≠ ']' := by
  cases laid with
  | null => exact ⟨_, _, rfl, by decide, by decide⟩
  | flag value => cases value <;> exact ⟨_, _, rfl, by decide, by decide⟩
  | number whole =>
      obtain ⟨symbol, tail, written, start⟩ := number_text_start whole
      exact ⟨symbol, tail, written, number_not_blank start,
        starts_number_other start ']' (by decide) (by decide)⟩
  | string text => exact ⟨_, _, rfl, by decide, by decide⟩
  | array gap inside => exact ⟨_, _, rfl, by decide, by decide⟩
  | object gap inside => exact ⟨_, _, rfl, by decide, by decide⟩

theorem LaidElements.start (laid : LaidElements depth elements inner) (filled : elements ≠ []) :
    ∃ symbol tail, inner = symbol :: tail ∧ isBlank symbol = false ∧ symbol ≠ ']' := by
  cases laid with
  | none => exact absurd rfl filled
  | last laid behind =>
      obtain ⟨symbol, tail, rfl, own⟩ := laid.start
      exact ⟨symbol, _, rfl, own⟩
  | more laid behind gap further =>
      obtain ⟨symbol, tail, rfl, own⟩ := laid.start
      exact ⟨symbol, _, rfl, own⟩

theorem LaidMembers.start (laid : LaidMembers depth members inner) (filled : members ≠ []) :
    ∃ tail, inner = '"' :: tail := by
  cases laid with
  | none => exact absurd rfl filled
  | last => exact ⟨_, rfl⟩
  | more => exact ⟨_, rfl⟩

theorem read_opened_array {symbol : Char} (gap : IsGap before) (solid : isBlank symbol = false)
    (noClose : symbol ≠ ']') (depth fuel : Nat) (tail : List Char) :
    readValue (depth + 1) (fuel + 1) ('[' :: (before ++ symbol :: tail)) =
      (readElements depth fuel (symbol :: tail)).map fun read => (.array read.1, read.2) := by
  have start : ∀ tail, skipBlanks ('[' :: tail) = '[' :: tail := skip_blanks_kept (by decide)
  rw [readValue, start]
  simp only [skip_gap_kept gap solid]
  split
  · next same => exact absurd (List.cons.inj same).1 noClose
  · cases readElements depth fuel (symbol :: tail) <;> rfl

theorem read_opened_object (gap : IsGap before) (depth fuel : Nat) (tail : List Char) :
    readValue (depth + 1) (fuel + 1) ('\x7b' :: (before ++ '"' :: tail)) =
      (readMembers depth fuel ('"' :: tail)).map fun read => (.object read.1, read.2) := by
  have start : ∀ tail, skipBlanks ('\x7b' :: tail) = '\x7b' :: tail :=
    skip_blanks_kept (by decide)
  rw [readValue, start]
  have opened : skipBlanks (before ++ '"' :: tail) = '"' :: tail :=
    skip_gap_kept gap (by decide) tail
  simp only [opened]
  split
  · next same => exact absurd (List.cons.inj same).1 (by decide)
  · cases readMembers depth fuel ('"' :: tail) <;> rfl

theorem quoted_append (text : String) (rest : List Char) :
    quotedSymbols text ++ rest = '"' :: (text.toList.flatMap escaped ++ '"' :: rest) := by
  simp [quotedSymbols]

theorem read_value_string (text : String) (depth fuel : Nat) (rest : List Char) :
    readValue depth (fuel + 1) (quotedSymbols text ++ rest) = some (.string text, rest) := by
  rw [quoted_append, readValue, skip_blanks_quote]
  simp [read_string_quoted]

theorem read_elements_next (behind : IsGap after)
    (read : readValue depth fuel input = some (value, after ++ ',' :: rest)) :
    readElements depth (fuel + 1) input =
      (readElements depth fuel rest).map fun later => (value :: later.1, later.2) := by
  have comma : skipBlanks (after ++ ',' :: rest) = ',' :: rest :=
    skip_gap_kept behind (by decide) rest
  rw [readElements, read]
  simp only [Option.bind_eq_bind, Option.bind_some, comma]
  cases readElements depth fuel rest <;> rfl

theorem read_elements_last (behind : IsGap after)
    (read : readValue depth fuel input = some (value, after ++ ']' :: rest)) :
    readElements depth (fuel + 1) input = some ([value], rest) := by
  have bracket : skipBlanks (after ++ ']' :: rest) = ']' :: rest :=
    skip_gap_kept behind (by decide) rest
  rw [readElements, read]
  simp only [Option.bind_eq_bind, Option.bind_some, bracket]

theorem read_members_next (key : String) {named : List Char} (gap : IsGap named)
    (behind : IsGap after)
    (read : readValue depth fuel input = some (value, after ++ ',' :: rest)) :
    readMembers depth (fuel + 1) (quotedSymbols key ++ (named ++ ':' :: input)) =
      (readMembers depth fuel rest).map fun later => ((key, value) :: later.1, later.2) := by
  have colon : skipBlanks (named ++ ':' :: input) = ':' :: input :=
    skip_gap_kept gap (by decide) input
  have comma : skipBlanks (after ++ ',' :: rest) = ',' :: rest :=
    skip_gap_kept behind (by decide) rest
  rw [quoted_append, readMembers, skip_blanks_quote]
  simp only [read_string_quoted, Option.bind_eq_bind, Option.bind_some, colon, read, comma]
  cases readMembers depth fuel rest <;> rfl

theorem read_members_last (key : String) {named : List Char} (gap : IsGap named)
    (behind : IsGap after)
    (read : readValue depth fuel input = some (value, after ++ '\x7d' :: rest)) :
    readMembers depth (fuel + 1) (quotedSymbols key ++ (named ++ ':' :: input)) =
      some ([(key, value)], rest) := by
  have colon : skipBlanks (named ++ ':' :: input) = ':' :: input :=
    skip_gap_kept gap (by decide) input
  have brace : skipBlanks (after ++ '\x7d' :: rest) = '\x7d' :: rest :=
    skip_gap_kept behind (by decide) rest
  rw [quoted_append, readMembers, skip_blanks_quote]
  simp only [read_string_quoted, Option.bind_eq_bind, Option.bind_some, colon, read, brace]

theorem read_array (gap : IsGap before) (inside : LaidElements depth elements inner)
    (read : elements ≠ [] →
      readElements depth fuel (inner ++ ']' :: rest) = some (elements, rest)) :
    readValue (depth + 1) (fuel + 1) ('[' :: (before ++ (inner ++ [']'])) ++ rest) =
      some (.array elements, rest) := by
  have written : '[' :: (before ++ (inner ++ [']'])) ++ rest =
      '[' :: (before ++ (inner ++ ']' :: rest)) := by simp
  rw [written]
  by_cases filled : elements = []
  · subst filled
    cases inside
    have start : ∀ tail, skipBlanks ('[' :: tail) = '[' :: tail := skip_blanks_kept (by decide)
    have bracket : skipBlanks (before ++ ']' :: rest) = ']' :: rest :=
      skip_gap_kept gap (by decide) rest
    rw [List.nil_append, readValue, start]
    simp only [bracket]
  · obtain ⟨symbol, tail, begins, solid, noClose⟩ := inside.start filled
    rw [begins, List.cons_append, read_opened_array gap solid noClose, ← List.cons_append,
      ← begins, read filled]
    rfl

theorem read_object (gap : IsGap before) (inside : LaidMembers depth members inner)
    (read : members ≠ [] →
      readMembers depth fuel (inner ++ '\x7d' :: rest) = some (members, rest)) :
    readValue (depth + 1) (fuel + 1) ('\x7b' :: (before ++ (inner ++ ['\x7d'])) ++ rest) =
      some (.object members, rest) := by
  have written : '\x7b' :: (before ++ (inner ++ ['\x7d'])) ++ rest =
      '\x7b' :: (before ++ (inner ++ '\x7d' :: rest)) := by simp
  rw [written]
  by_cases filled : members = []
  · subst filled
    cases inside
    have start : ∀ tail, skipBlanks ('\x7b' :: tail) = '\x7b' :: tail :=
      skip_blanks_kept (by decide)
    have brace : skipBlanks (before ++ '\x7d' :: rest) = '\x7d' :: rest :=
      skip_gap_kept gap (by decide) rest
    rw [List.nil_append, readValue, start]
    simp only [brace]
  · obtain ⟨tail, begins⟩ := inside.start filled
    rw [begins, List.cons_append, read_opened_object gap, ← List.cons_append, ← begins,
      read filled]
    rfl

/-! ## What is laid out is read -/

mutual

theorem Laid.read {depth : Nat} {value : Json} {own : List Char} (laid : Laid depth value own)
    (fuel : Nat) (rest : List Char) (enough : own.length ≤ fuel) (stops : StopsNumber rest) :
    readValue depth fuel (own ++ rest) = some (value, rest) := by
  match fuel with
  | 0 =>
      obtain ⟨symbol, tail, rfl, -⟩ := laid.start
      exact absurd enough (Nat.not_succ_le_zero _)
  | fuel + 1 =>
    cases laid with
    | null => rfl
    | flag value => cases value <;> rfl
    | number whole =>
        obtain ⟨symbol, tail, text, start⟩ := number_text_start whole
        have read := read_number_text whole stops
        rw [text, List.cons_append] at read
        rw [text, List.cons_append, read_value_number start, read]
        rfl
    | string text => exact read_value_string text _ fuel rest
    | array gap inside =>
        simp only [List.length_cons, List.length_append] at enough
        exact read_array gap inside fun filled => inside.read fuel rest filled (by omega)
    | object gap inside =>
        simp only [List.length_cons, List.length_append] at enough
        exact read_object gap inside fun filled => inside.read fuel rest filled (by omega)

theorem LaidElements.read {depth : Nat} {elements : List Json} {inner : List Char}
    (laid : LaidElements depth elements inner) (fuel : Nat) (rest : List Char)
    (filled : elements ≠ []) (enough : inner.length < fuel) :
    readElements depth fuel (inner ++ ']' :: rest) = some (elements, rest) := by
  match fuel with
  | 0 => exact absurd enough (Nat.not_lt_zero _)
  | fuel + 1 =>
    cases laid with
    | none => exact absurd rfl filled
    | @last _ element own after laid behind =>
        rw [List.length_append] at enough
        have read := laid.read fuel (after ++ ']' :: rest) (by omega)
          (stops_behind behind (by simp) rest)
        rw [List.append_assoc, read_elements_last behind read]
    | @more _ element next others own after before later laid behind gap further =>
        simp only [List.length_append, List.length_cons] at enough
        have read := laid.read fuel (after ++ ',' :: (before ++ (later ++ ']' :: rest)))
          (by omega) (stops_behind behind (by simp) _)
        have others := further.read fuel rest nofun (by omega)
        have written : own ++ (after ++ ',' :: (before ++ later)) ++ ']' :: rest =
            own ++ (after ++ ',' :: (before ++ (later ++ ']' :: rest))) := by simp
        rw [written, read_elements_next behind read, read_elements_behind gap, others]
        rfl

theorem LaidMembers.read {depth : Nat} {members : List (String × Json)} {inner : List Char}
    (laid : LaidMembers depth members inner) (fuel : Nat) (rest : List Char)
    (filled : members ≠ []) (enough : inner.length < fuel) :
    readMembers depth fuel (inner ++ '\x7d' :: rest) = some (members, rest) := by
  match fuel with
  | 0 => exact absurd enough (Nat.not_lt_zero _)
  | fuel + 1 =>
    cases laid with
    | none => exact absurd rfl filled
    | @last _ key value named valued own after beforeColon behindColon laid behind =>
        simp only [List.length_append, List.length_cons] at enough
        have read := laid.read fuel (after ++ '\x7d' :: rest) (by omega)
          (stops_behind behind (by simp) rest)
        rw [← read_value_behind behindColon] at read
        have written : quotedSymbols key ++ (named ++ ':' :: (valued ++ (own ++ after))) ++
            '\x7d' :: rest = quotedSymbols key ++ (named ++ ':' :: (valued ++ (own ++
              (after ++ '\x7d' :: rest)))) := by simp
        rw [written, read_members_last key beforeColon behind read]
    | @more _ key value next others named valued own after before later beforeColon behindColon
        laid behind gap further =>
        simp only [List.length_append, List.length_cons] at enough
        have read := laid.read fuel (after ++ ',' :: (before ++ (later ++ '\x7d' :: rest)))
          (by omega) (stops_behind behind (by simp) _)
        rw [← read_value_behind behindColon] at read
        have others := further.read fuel rest nofun (by omega)
        have written : quotedSymbols key ++ (named ++ ':' :: (valued ++ (own ++ (after ++ ',' ::
            (before ++ later))))) ++ '\x7d' :: rest = quotedSymbols key ++ (named ++ ':' ::
              (valued ++ (own ++ (after ++ ',' :: (before ++ (later ++ '\x7d' :: rest)))))) := by
          simp
        rw [written, read_members_next key beforeColon behind read, read_members_behind gap,
          others]
        rfl

end

/-- A whole text is read to the value that is laid out in it. -/
theorem parse_laid {text : String} (laid : Laid greatestDepth value own) (gap : IsGap after)
    (written : text.toList = own ++ after) : parseInOrder text = some value := by
  have enough : own.length ≤ fuelFor (own ++ after) := by
    rw [fuelFor, List.length_append]
    omega
  have read := laid.read _ after enough (stops_gap gap)
  have nothing : skipBlanks after = [] := by
    rw [← List.append_nil after, skip_gap gap]
    rfl
  rw [parseInOrder, written, readJson, read]
  simp [nothing]

end Json
end GatedResources
