import GatedResources.Proofs.Outcome
import GatedResources.Proofs.TrimmedText
import GatedResources.Settings.InlineValue

/-!
# The grammar of values in one line

What may be written for a value is told without the reader: a word, a list, a mapping or quoted
text with blanks around it, or bare text. The reader finds the value that a text is written for. It
crashes over quoted text that cannot be cut, where quoted text may stand. A text that is neither of
these stands for itself.
-/

namespace GatedResources
namespace InlineValue

/-! ## What may be written -/

def IsGap (symbols : List Char) : Prop :=
  ∀ symbol ∈ symbols, isBlank symbol = true

def Surrounds (own symbols : List Char) : Prop :=
  ∃ before after, IsGap before ∧ IsGap after ∧ symbols = before ++ (own ++ after)

/-- What may stand between quotes: no quote and no backslash, unless behind a backslash. -/
def IsContent : List Char -> Prop
  | [] => True
  | '\\' :: _ :: rest => IsContent rest
  | symbol :: rest => symbol ≠ '"' ∧ symbol ≠ '\\' ∧ IsContent rest

def quotes (content : List Char) : List Char :=
  '"' :: (content ++ ['"'])

def beginnings : List (List Char) :=
  [['"'], ['\''], "true".toList, "false".toList]

/-- Text that no separator ends and that begins like no other value. -/
structure IsBare (symbols : List Char) : Prop where
  solid : ∀ symbol ∈ symbols, isSeparator symbol = false
  plain : ∀ beginning ∈ beginnings, ¬ beginning <+: skipBlanks symbols

theorem is_bare_iff {symbols : List Char} : IsBare symbols ↔
    symbols.all (fun symbol => !isSeparator symbol) = true ∧
      beginnings.all (fun beginning => !beginning.isPrefixOf (skipBlanks symbols)) = true := by
  have solid : symbols.all (fun symbol => !isSeparator symbol) = true ↔
      ∀ symbol ∈ symbols, isSeparator symbol = false := by simp
  have plain : beginnings.all (fun beginning => !beginning.isPrefixOf (skipBlanks symbols)) = true ↔
      ∀ beginning ∈ beginnings, ¬ beginning <+: skipBlanks symbols := by
    simp [← List.isPrefixOf_iff_prefix]
  rw [solid, plain]
  exact ⟨fun own => ⟨own.solid, own.plain⟩, fun own => ⟨own.1, own.2⟩⟩

instance (symbols : List Char) : Decidable (IsBare symbols) :=
  decidable_of_iff _ is_bare_iff.symm

def SaysKey (key : String) (symbols : List Char) : Prop :=
  (∃ name, name ≠ [] ∧ (∀ symbol ∈ name, isKeySymbol symbol = true) ∧ key = String.ofList name ∧
    Surrounds name symbols) ∨
  ∃ content, IsContent content ∧ quotedText content = .ok key.toList ∧
    Surrounds (quotes content) symbols

mutual

def Says : Json -> List Char -> Prop
  | .null, _ => False
  | .bool value, symbols => Surrounds (if value then "true" else "false").toList symbols
  | .number value, symbols => IsBare symbols ∧ bare (Trim.spaces symbols) = .number value
  | .string text, symbols =>
      (IsBare symbols ∧ bare (Trim.spaces symbols) = .string text) ∨
      (∃ content, IsContent content ∧ quotedText content = .ok text.toList ∧
        Surrounds (quotes content) symbols) ∨
      ∃ symbol, text = String.singleton symbol ∧ Surrounds ['\'', symbol, '\''] symbols
  | .array elements, symbols =>
      ∃ inner, SaysElements elements inner ∧ Surrounds ('[' :: (inner ++ [']'])) symbols
  | .object members, symbols =>
      ∃ inner, SaysMembers members inner ∧ Surrounds ('\x7b' :: (inner ++ ['\x7d'])) symbols

/-- A comma stands behind each element. It may be missing behind the last one if that is not
empty. -/
def SaysElements : List Json -> List Char -> Prop
  | [], inner => inner = []
  | element :: rest, inner => ∃ own, Says element own ∧
      ((rest = [] ∧ own ≠ [] ∧ inner = own) ∨
        ∃ later, inner = own ++ ',' :: later ∧ SaysElements rest later)

def SaysMembers : List (String × Json) -> List Char -> Prop
  | [], inner => inner = []
  | (key, value) :: rest, inner => ∃ name own, SaysKey key name ∧ Says value own ∧
      ((rest = [] ∧ inner = name ++ '=' :: own) ∨
        ∃ later, inner = name ++ '=' :: (own ++ ',' :: later) ∧ SaysMembers rest later)

end

/-- What follows a value inside a text: nothing, a comma, or the end of a container. -/
def IsBoundary : List Char -> Prop
  | [] => True
  | symbol :: _ => symbol = ',' ∨ symbol = ']' ∨ symbol = '\x7d'

/-! ## Blanks -/

variable {before after own symbols input rest later content : List Char} {fuel : Nat}

theorem skip_gap (gap : IsGap before) (input : List Char) :
    skipBlanks (before ++ input) = skipBlanks input :=
  List.dropWhile_append_of_pos gap

theorem skip_solid {symbol : Char} (solid : isBlank symbol = false) (rest : List Char) :
    skipBlanks (symbol :: rest) = symbol :: rest := by
  simp [skipBlanks, solid]

theorem skip_boundary (boundary : IsBoundary rest) : skipBlanks rest = rest := by
  cases rest with
  | nil => rfl
  | cons symbol rest => rcases boundary with rfl | rfl | rfl <;> rfl

/-- Blanks before what is left when they are skipped. -/
theorem gap_before (input : List Char) :
    ∃ before, IsGap before ∧ input = before ++ skipBlanks input := by
  refine ⟨input.takeWhile isBlank, ?_, List.takeWhile_append_dropWhile.symm⟩
  exact fun symbol inside => List.all_eq_true.mp List.all_takeWhile symbol inside

theorem head_skip (input : List Char) {symbol : Char} {rest : List Char}
    (skipped : skipBlanks input = symbol :: rest) : isBlank symbol = false := by
  apply Trim.head_drop_while isBlank input symbol
  exact congrArg List.head? skipped

/-! ## Quoted text -/

theorem split_content (closed : IsContent content) (rest : List Char) :
    splitQuoted (content ++ '"' :: rest) = some (content, rest) := by
  induction content using IsContent.induct with
  | case1 => rfl
  | case2 symbol content claim => simp [splitQuoted, claim closed]
  | case3 symbol content noEscape claim =>
      rw [IsContent] at closed
      · obtain ⟨noQuote, noBackslash, closed⟩ := closed
        rw [List.cons_append, splitQuoted, claim closed]
        · rfl
        · exact noQuote
        · exact fun _ _ same => absurd same noBackslash
      · exact noEscape

theorem content_of_split (split : splitQuoted input = some (content, rest)) :
    IsContent content ∧ input = content ++ '"' :: rest := by
  induction input using splitQuoted.induct generalizing content with
  | case1 => cases split
  | case2 later =>
      cases split
      exact ⟨trivial, rfl⟩
  | case3 symbol later claim =>
      rw [splitQuoted, Option.map_eq_some_iff] at split
      obtain ⟨⟨inner, last⟩, found, same⟩ := split
      cases same
      obtain ⟨closed, whole⟩ := claim found
      exact ⟨closed, by rw [whole]; rfl⟩
  | case4 symbol later noQuote noEscape claim =>
      rw [splitQuoted, Option.map_eq_some_iff] at split
      · obtain ⟨⟨inner, last⟩, found, same⟩ := split
        cases same
        obtain ⟨closed, whole⟩ := claim found
        have noBackslash : symbol ≠ '\\' := by
          rintro rfl
          rw [whole] at noEscape
          cases inner with
          | nil => exact noEscape _ _ rfl rfl
          | cons next inner => exact noEscape _ _ rfl rfl
        refine ⟨?_, by rw [whole]; rfl⟩
        rw [IsContent]
        · exact ⟨noQuote, noBackslash, closed⟩
        · exact fun _ _ same => absurd same noBackslash
      · exact noQuote
      · exact noEscape

theorem read_content (closed : IsContent content) (rest : List Char) :
    readQuoted (content ++ '"' :: rest) =
      quotedText content >>= fun symbols => .ok (String.ofList symbols, rest) := by
  rw [readQuoted, split_content closed]
  rfl

theorem read_content_ok {text : String} (closed : IsContent content)
    (means : quotedText content = .ok text.toList) (rest : List Char) :
    readQuoted (content ++ '"' :: rest) = .ok (text, rest) := by
  rw [read_content closed, means]
  exact congrArg (fun made => Except.ok (made, rest)) String.ofList_toList

/-- What comes of quoted text comes of what stands before the closing quote. -/
theorem content_of_read {read : Except Failure (String × List Char)}
    (found : readQuoted input = read) (legible : read ≠ .error .malformed) :
    ∃ content rest, IsContent content ∧ input = content ++ '"' :: rest ∧
      read = (quotedText content).map fun symbols => (String.ofList symbols, rest) := by
  cases split : splitQuoted input with
  | none =>
      rw [readQuoted, split] at found
      exact absurd found.symm legible
  | some parts =>
      obtain ⟨content, rest⟩ := parts
      obtain ⟨closed, whole⟩ := content_of_split split
      rw [whole, read_content closed] at found
      refine ⟨content, rest, closed, whole, ?_⟩
      rw [← found]
      cases quotedText content <;> rfl

/-! ## One step of the reader -/

theorem read_quotes (gap : IsGap before) (later : List Char) :
    readValue (fuel + 1) (before ++ '"' :: later) =
      readQuoted later >>= fun read => .ok (.string read.1, skipBlanks read.2) := by
  rw [readValue, skip_gap gap, skip_solid (by decide)]
  cases found : readQuoted later <;> simp only [found] <;> rfl

theorem read_list (gap : IsGap before) (later : List Char) :
    readValue (fuel + 1) (before ++ '[' :: later) =
      readElements fuel later >>= fun read => .ok (.array read.1, skipBlanks read.2) := by
  rw [readValue, skip_gap gap, skip_solid (by decide)]
  cases found : readElements fuel later <;> simp only [found] <;> rfl

theorem read_mapping (gap : IsGap before) (later : List Char) :
    readValue (fuel + 1) (before ++ '\x7b' :: later) =
      readMembers fuel later >>= fun read => .ok (.object read.1, skipBlanks read.2) := by
  rw [readValue, skip_gap gap, skip_solid (by decide)]
  cases found : readMembers fuel later <;> simp only [found] <;> rfl

theorem read_apostrophes (gap : IsGap before) (symbol : Char) (later : List Char) :
    readValue (fuel + 1) (before ++ '\'' :: symbol :: '\'' :: later) =
      .ok (.string (String.singleton symbol), skipBlanks later) := by
  rw [readValue, skip_gap gap, skip_solid (by decide)]
  rfl

theorem read_flag (gap : IsGap before) (value : Bool) (later : List Char) :
    readValue (fuel + 1) (before ++ ((if value then "true" else "false").toList ++ later)) =
      .ok (.bool value, skipBlanks later) := by
  rw [readValue, skip_gap gap]
  cases value <;> rfl

theorem is_space_of_blank (symbol : Char) (blank : isBlank symbol = true) :
    Trim.isSpace symbol = true := by
  simp only [isBlank, Json.isBlank, Bool.or_eq_true, beq_iff_eq] at blank
  rcases blank with (((rfl | rfl) | rfl) | rfl) | rfl <;> decide

theorem not_separator_of_blank {symbol : Char} (blank : isBlank symbol = true) :
    isSeparator symbol = false := by
  simp only [isBlank, Json.isBlank, Bool.or_eq_true, beq_iff_eq] at blank
  rcases blank with (((rfl | rfl) | rfl) | rfl) | rfl <;> decide

theorem skip_append (boundary : IsBoundary rest) (symbols : List Char) :
    skipBlanks (symbols ++ rest) = skipBlanks symbols ++ rest := by
  have same := skip_boundary boundary
  unfold skipBlanks at same ⊢
  rw [List.dropWhile_append, same]
  split
  · next nothing => rw [List.isEmpty_iff.mp nothing, List.nil_append]
  · rfl

/-- Bare text ends where a separator stands. -/
theorem take_solid (boundary : IsBoundary rest)
    (solid : ∀ symbol ∈ own, isSeparator symbol = false) :
    (own ++ rest).takeWhile (fun symbol => !isSeparator symbol) = own ∧
      (own ++ rest).dropWhile (fun symbol => !isSeparator symbol) = rest := by
  have inside : ∀ symbol ∈ own, (!isSeparator symbol) = true := by simpa using solid
  rw [List.takeWhile_append_of_pos inside, List.dropWhile_append_of_pos inside]
  cases rest with
  | nil => simp
  | cons symbol rest => rcases boundary with rfl | rfl | rfl <;> simp [isSeparator]

namespace IsBare

theorem own_solid (plain : IsBare symbols) :
    ∀ symbol ∈ skipBlanks symbols, isSeparator symbol = false :=
  fun symbol inside => plain.solid symbol ((List.dropWhile_sublist _).mem inside)

/-- What stands behind bare text does not make it begin like another value. -/
theorem apart (plain : IsBare symbols) (boundary : IsBoundary rest) :
    ∀ beginning ∈ beginnings, ¬ beginning <+: skipBlanks symbols ++ rest := by
  intro beginning known within
  by_cases short : beginning.length ≤ (skipBlanks symbols).length
  · apply plain.plain beginning known
    exact List.prefix_of_prefix_length_le within (List.prefix_append _ _) short
  · have reaches : skipBlanks symbols <+: beginning :=
      List.prefix_of_prefix_length_le (List.prefix_append _ _) within (by omega)
    obtain ⟨beyond, rfl⟩ := reaches
    rw [List.prefix_append_right_inj] at within
    cases beyond with
    | nil => simp at short
    | cons letter others =>
        obtain ⟨later, rfl⟩ := within
        have letters : ∀ beginning ∈ beginnings,
            beginning.all (fun letter => !isSeparator letter) = true := by decide
        have other := List.all_eq_true.mp (letters _ known) letter (by simp)
        rcases boundary with rfl | rfl | rfl <;> exact absurd other (by decide)

theorem no_mark (plain : IsBare symbols) (boundary : IsBoundary rest) {symbol : Char}
    (mark : symbol = '[' ∨ symbol = '\x7b') (later : List Char) :
    skipBlanks symbols ++ rest ≠ symbol :: later := by
  intro same
  have opened : isSeparator symbol = true := by rcases mark with rfl | rfl <;> decide
  cases own : skipBlanks symbols with
  | cons first others =>
      rw [own] at same
      have solid := plain.own_solid first (own ▸ List.mem_cons_self)
      rw [(List.cons.inj same).1, opened] at solid
      cases solid
  | nil =>
      rw [own, List.nil_append] at same
      subst same
      rcases mark with rfl | rfl <;> simp [IsBoundary] at boundary

/-- Bare text is read up to the separator behind it. -/
theorem read (plain : IsBare symbols) (boundary : IsBoundary rest) :
    readValue (fuel + 1) (symbols ++ rest) = .ok (bare (Trim.spaces symbols), rest) := by
  have apart := plain.apart boundary
  have noWord : ∀ word ∈ ["true".toList, "false".toList],
      Json.readWord word (skipBlanks symbols ++ rest) = none := by
    intro word known
    have inside : word ∈ beginnings := List.mem_cons_of_mem _ (List.mem_cons_of_mem _ known)
    rw [Json.readWord, if_neg]
    rw [List.isPrefixOf_iff_prefix]
    exact apart word inside
  have noMark : ∀ mark ∈ [['"'], ['\'']], ∀ later, skipBlanks symbols ++ rest ≠ mark ++ later := by
    intro mark known later same
    apply apart mark (List.mem_append_left ["true".toList, "false".toList] known)
    exact ⟨later, same.symm⟩
  rw [readValue, skip_append boundary]
  split
  · next same => exact absurd same (plain.no_mark boundary (.inr rfl) _)
  · next same => exact absurd same (plain.no_mark boundary (.inl rfl) _)
  · next same => exact absurd same (noMark ['"'] (by simp) _)
  · next same => exact absurd same (noMark ['\''] (by simp) _)
  · next same => exact absurd same (noMark ['\''] (by simp) _)
  · obtain ⟨taken, left⟩ := take_solid boundary plain.own_solid
    rw [noWord "true".toList (by simp), noWord "false".toList (by simp)]
    dsimp only
    rw [taken, left, skipBlanks, Trim.spaces, Trim.both_drop_while is_space_of_blank]
    change Except.ok (_, skipBlanks rest) = _
    rw [skip_boundary boundary]
    rfl

end IsBare

/-! ## Keys -/

variable {key : String} {name : List Char}

def readName (input : List Char) : Except Failure (String × List Char) :=
  match input with
  | '"' :: rest => readQuoted rest
  | _ =>
      if (input.takeWhile isKeySymbol).isEmpty then .error .malformed
      else .ok (String.ofList (input.takeWhile isKeySymbol), input.dropWhile isKeySymbol)

def readEquals (read : String × List Char) : Except Failure (String × List Char) :=
  match skipBlanks read.2 with
  | '=' :: rest => .ok (read.1, rest)
  | _ => .error .malformed

theorem read_key_parts (input : List Char) :
    readKey input = readName (skipBlanks input) >>= readEquals := by
  unfold readKey
  dsimp only
  split
  · next later same =>
      rw [same]
      change _ = readQuoted later >>= readEquals
      cases readQuoted later <;> rfl
  · next other =>
      rw [readName]
      · split <;> rfl
      · exact other

theorem read_equals (gap : IsGap after) (key : String) (later : List Char) :
    readEquals (key, after ++ '=' :: later) = .ok (key, later) := by
  rw [readEquals, skip_gap gap, skip_solid (by decide)]
  rfl

theorem equals_of_read {read : String × List Char} (found : readEquals read = .ok (key, later)) :
    ∃ after, IsGap after ∧ read = (key, after ++ '=' :: later) := by
  obtain ⟨own, rest⟩ := read
  obtain ⟨after, gap, whole⟩ := gap_before rest
  unfold readEquals at found
  split at found
  · next left same =>
      cases found
      dsimp only at same
      exact ⟨after, gap, by rw [← same, ← whole]⟩
  · cases found

theorem equals_not_cut (read : String × List Char) : readEquals read ≠ .error .cutCharacter := by
  unfold readEquals
  split <;> exact nofun

/-- Neither a blank nor a mark around a key can stand in its name. -/
theorem key_symbol_other {symbol : Char} (allowed : isKeySymbol symbol = true) :
    isBlank symbol = false ∧ symbol ≠ '"' ∧ symbol ≠ '=' ∧ symbol ≠ '\x7d' := by
  refine ⟨?_, ?_, ?_, ?_⟩
  · cases blank : isBlank symbol with
    | false => rfl
    | true =>
        simp only [isBlank, Json.isBlank, Bool.or_eq_true, beq_iff_eq] at blank
        rcases blank with (((rfl | rfl) | rfl) | rfl) | rfl <;> exact absurd allowed (by decide)
  all_goals
    rintro rfl
    exact absurd allowed (by decide)

theorem read_plain_name (filled : name ≠ []) (allowed : ∀ symbol ∈ name, isKeySymbol symbol = true)
    (stops : ∀ symbol ∈ rest.head?, isKeySymbol symbol = false) :
    readName (name ++ rest) = .ok (String.ofList name, rest) := by
  have taken : (name ++ rest).takeWhile isKeySymbol = name := by
    rw [List.takeWhile_append_of_pos allowed]
    cases rest with
    | nil => simp
    | cons symbol rest => simp [stops symbol rfl]
  have left : (name ++ rest).dropWhile isKeySymbol = rest := by
    rw [List.dropWhile_append_of_pos allowed]
    exact Trim.drop_while_solid stops
  unfold readName
  split
  · next same =>
      cases name with
      | nil => exact absurd rfl filled
      | cons symbol others =>
          have noQuote := (key_symbol_other (allowed symbol List.mem_cons_self)).2.1
          exact absurd (List.cons.inj same).1 noQuote
  · rw [taken, left, if_neg]
    simpa using filled

theorem read_key_said (told : SaysKey key name) (later : List Char) :
    readKey (name ++ '=' :: later) = .ok (key, later) := by
  rcases told with ⟨plain, filled, allowed, rfl, before, after, leading, trailing, rfl⟩ |
    ⟨content, closed, means, before, after, leading, trailing, rfl⟩
  · have stops : ∀ symbol ∈ (after ++ '=' :: later).head?, isKeySymbol symbol = false := by
      intro symbol first
      cases own : isKeySymbol symbol with
      | false => rfl
      | true =>
          have other := key_symbol_other own
          cases after with
          | nil => exact absurd (Option.some.inj first).symm other.2.2.1
          | cons blank others =>
              rw [← Option.some.inj first, trailing blank List.mem_cons_self] at other
              cases other.1
    have solid : skipBlanks (plain ++ (after ++ '=' :: later)) =
        plain ++ (after ++ '=' :: later) := by
      cases plain with
      | nil => exact absurd rfl filled
      | cons symbol others =>
          exact skip_solid (key_symbol_other (allowed symbol List.mem_cons_self)).1 _
    rw [read_key_parts, List.append_assoc, List.append_assoc, skip_gap leading, solid,
      read_plain_name filled allowed stops]
    exact read_equals trailing _ later
  · have written : before ++ (quotes content ++ after) ++ '=' :: later =
        before ++ '"' :: (content ++ '"' :: (after ++ '=' :: later)) := by
      simp [quotes]
    rw [written, read_key_parts, skip_gap leading, skip_solid (by decide)]
    change readQuoted _ >>= readEquals = _
    rw [read_content_ok closed means]
    exact read_equals trailing _ later

/-- What is read for a key was written for it. -/
theorem key_of_read (read : readKey input = .ok (key, later)) :
    ∃ name, SaysKey key name ∧ input = name ++ '=' :: later := by
  obtain ⟨before, leading, whole⟩ := gap_before input
  rw [read_key_parts] at read
  obtain ⟨⟨own, rest⟩, named, ended⟩ := except_bind_eq_ok.mp read
  obtain ⟨after, trailing, same⟩ := equals_of_read ended
  cases same
  unfold readName at named
  split at named
  · next inside begins =>
      obtain ⟨content, behind, closed, rfl, means⟩ := content_of_read named nofun
      obtain ⟨meaning, own, same⟩ := except_map_eq_ok means.symm
      cases same
      refine ⟨before ++ (quotes content ++ after), .inr ⟨content, closed, ?_, before, after,
        leading, trailing, rfl⟩, ?_⟩
      · rw [own, String.toList_ofList]
      · rw [whole, begins]
        simp [quotes]
  · split at named
    · cases named
    · next filled =>
        obtain ⟨same, left⟩ := Prod.mk.inj (Except.ok.inj named)
        have parts := List.takeWhile_append_dropWhile (p := isKeySymbol) (l := skipBlanks input)
        refine ⟨before ++ ((skipBlanks input).takeWhile isKeySymbol ++ after), .inl
          ⟨_, by simpa using filled, ?_, same.symm, before, after, leading, trailing, rfl⟩, ?_⟩
        · exact fun symbol inside => List.all_eq_true.mp List.all_takeWhile symbol inside
        · rw [left] at parts
          rw [List.append_assoc, List.append_assoc, parts]
          exact whole

/-! ## The reader finds what is said -/

def readFurther (fuel : Nat) (read : Json × List Char) : Except Failure (List Json × List Char) :=
  match read.2 with
  | ',' :: rest => readElements fuel rest >>= fun later => .ok (read.1 :: later.1, later.2)
  | ']' :: rest => .ok ([read.1], rest)
  | _ => .error .malformed

def readOthers (fuel : Nat) (key : String) (read : Json × List Char) :
    Except Failure (List (String × Json) × List Char) :=
  match read.2 with
  | ',' :: rest => readMembers fuel rest >>= fun later => .ok ((key, read.1) :: later.1, later.2)
  | '\x7d' :: rest => .ok ([(key, read.1)], rest)
  | _ => .error .malformed

theorem read_elements_step (unclosed : ∀ later, input ≠ ']' :: later) :
    readElements (fuel + 1) input = readValue fuel input >>= readFurther fuel := by
  rw [readElements.eq_def]
  split
  · contradiction
  · next same => exact absurd rfl (unclosed _)
  · next same _ =>
      cases same
      rfl

theorem read_members_step (unclosed : ∀ later, input ≠ '\x7d' :: later) :
    readMembers (fuel + 1) input =
      readKey input >>= fun read => readValue fuel read.2 >>= readOthers fuel read.1 := by
  rw [readMembers.eq_def]
  split
  · contradiction
  · next same => exact absurd rfl (unclosed _)
  · next same _ =>
      cases same
      rfl

theorem skip_behind (gap : IsGap after) (boundary : IsBoundary rest) :
    skipBlanks (after ++ rest) = rest := by
  rw [skip_gap gap, skip_boundary boundary]

theorem surrounds_start {symbol first : Char} (surrounds : Surrounds (symbol :: own) symbols)
    (begins : symbols = first :: later) : isBlank first = true ∨ first = symbol := by
  obtain ⟨before, after, leading, -, rfl⟩ := surrounds
  cases before with
  | nil => exact .inr (List.cons.inj begins).1.symm
  | cons blank others => exact .inl ((List.cons.inj begins).1 ▸ leading blank List.mem_cons_self)

/-- No value begins where a list or a mapping ends. -/
theorem said_unclosed {value : Json} (told : Says value symbols) {closing : Char}
    (closes : closing = ']' ∨ closing = '\x7d') (later : List Char) :
    symbols ≠ closing :: later := by
  intro begins
  have noBlank : isBlank closing = false := by rcases closes with rfl | rfl <;> decide
  have separates : isSeparator closing = true := by rcases closes with rfl | rfl <;> decide
  have noBare : ¬ IsBare symbols := by
    intro plain
    have solid := plain.solid closing (begins ▸ List.mem_cons_self)
    rw [separates] at solid
    cases solid
  have noMark : ∀ mark own, Surrounds (mark :: own) symbols → closing = mark := by
    intro mark own surrounds
    rcases surrounds_start surrounds begins with blank | same
    · rw [noBlank] at blank
      cases blank
    · exact same
  have different : ∀ mark ∈ ['t', 'f', '"', '\'', '[', '\x7b'], closing ≠ mark := by
    rcases closes with rfl | rfl <;> simp
  cases value with
  | null => exact told
  | bool value =>
      cases value with
      | true => exact different 't' (by simp) (noMark 't' _ told)
      | false => exact different 'f' (by simp) (noMark 'f' _ told)
  | number value => exact noBare told.1
  | string text =>
      rcases told with ⟨plain, -⟩ | ⟨content, -, -, surrounds⟩ | ⟨symbol, -, surrounds⟩
      · exact noBare plain
      · exact different '"' (by simp) (noMark _ _ surrounds)
      · exact different '\'' (by simp) (noMark _ _ surrounds)
  | array elements =>
      obtain ⟨inner, -, surrounds⟩ := told
      exact different '[' (by simp) (noMark _ _ surrounds)
  | object members =>
      obtain ⟨inner, -, surrounds⟩ := told
      exact different '\x7b' (by simp) (noMark _ _ surrounds)

theorem said_append_unclosed {value : Json} (told : Says value own) {closing : Char}
    (closes : closing = ']' ∨ closing = '\x7d')
    (behind : own = [] → ∀ later, rest ≠ closing :: later) (later : List Char) :
    own ++ rest ≠ closing :: later := by
  intro begins
  cases own with
  | nil => exact behind rfl later begins
  | cons symbol tail =>
      rw [(List.cons.inj begins).1] at told
      exact said_unclosed told closes _ rfl

theorem said_key_unclosed (told : SaysKey key name) (rest later : List Char) :
    name ++ rest ≠ '\x7d' :: later := by
  rcases told with ⟨plain, filled, allowed, -, before, after, leading, trailing, rfl⟩ |
    ⟨content, -, -, before, after, leading, trailing, rfl⟩
  · intro begins
    cases before with
    | cons blank others =>
        have own := leading blank List.mem_cons_self
        rw [(List.cons.inj begins).1] at own
        exact absurd own (by decide)
    | nil =>
        cases plain with
        | nil => exact filled rfl
        | cons symbol others =>
            have other := key_symbol_other (allowed symbol List.mem_cons_self)
            exact other.2.2.2 (List.cons.inj begins).1
  · intro begins
    cases before with
    | cons blank others =>
        have own := leading blank List.mem_cons_self
        rw [(List.cons.inj begins).1] at own
        exact absurd own (by decide)
    | nil => exact absurd (List.cons.inj begins).1 (by decide)

mutual

/-- The value that a text is written for is read from it. -/
theorem read_said (value : Json) (symbols : List Char) (fuel : Nat) (rest : List Char)
    (told : Says value symbols) (boundary : IsBoundary rest)
    (enough : 2 * symbols.length + 1 ≤ fuel) :
    readValue fuel (symbols ++ rest) = .ok (value, rest) := by
  match fuel with
  | 0 => omega
  | fuel + 1 =>
    match value with
    | .null => exact told.elim
    | .bool value =>
        obtain ⟨before, after, leading, trailing, rfl⟩ := told
        rw [List.append_assoc, List.append_assoc, read_flag leading, skip_behind trailing boundary]
    | .number value =>
        obtain ⟨plain, means⟩ := told
        rw [plain.read boundary, means]
    | .string text =>
        rcases told with ⟨plain, means⟩ | ⟨content, closed, means, before, after, leading, trailing,
          rfl⟩ | ⟨symbol, rfl, before, after, leading, trailing, rfl⟩
        · rw [plain.read boundary, means]
        · have written : before ++ (quotes content ++ after) ++ rest =
              before ++ '"' :: (content ++ '"' :: (after ++ rest)) := by simp [quotes]
          rw [written, read_quotes leading, read_content_ok closed means]
          exact congrArg (fun left => Except.ok (_, left)) (skip_behind trailing boundary)
        · rw [List.append_assoc, List.append_assoc]
          change readValue _ (before ++ '\'' :: symbol :: '\'' :: (after ++ rest)) = _
          rw [read_apostrophes leading, skip_behind trailing boundary]
    | .array elements =>
        obtain ⟨inner, inside, before, after, leading, trailing, rfl⟩ := told
        have written : before ++ ('[' :: (inner ++ [']']) ++ after) ++ rest =
            before ++ '[' :: (inner ++ ']' :: (after ++ rest)) := by simp
        have size : 2 * inner.length + 2 ≤ fuel := by
          simp only [List.length_append, List.length_cons] at enough
          omega
        rw [written, read_list leading, read_said_elements elements inner fuel _ inside size]
        exact congrArg (fun left => Except.ok (_, left)) (skip_behind trailing boundary)
    | .object members =>
        obtain ⟨inner, inside, before, after, leading, trailing, rfl⟩ := told
        have written : before ++ ('\x7b' :: (inner ++ ['\x7d']) ++ after) ++ rest =
            before ++ '\x7b' :: (inner ++ '\x7d' :: (after ++ rest)) := by simp
        have size : 2 * inner.length + 2 ≤ fuel := by
          simp only [List.length_append, List.length_cons] at enough
          omega
        rw [written, read_mapping leading, read_said_members members inner fuel _ inside size]
        exact congrArg (fun left => Except.ok (_, left)) (skip_behind trailing boundary)

theorem read_said_elements (elements : List Json) (inner : List Char) (fuel : Nat)
    (rest : List Char) (told : SaysElements elements inner)
    (enough : 2 * inner.length + 2 ≤ fuel) :
    readElements fuel (inner ++ ']' :: rest) = .ok (elements, rest) := by
  match fuel with
  | 0 => omega
  | fuel + 1 =>
    match elements with
    | [] =>
        cases told
        rfl
    | element :: others =>
        obtain ⟨own, first, ⟨rfl, filled, rfl⟩ | ⟨later, rfl, others⟩⟩ := told
        · have unclosed : ∀ later, inner ++ ']' :: rest ≠ ']' :: later :=
            said_append_unclosed first (.inl rfl) fun empty => absurd empty filled
          rw [read_elements_step unclosed,
            read_said element inner fuel (']' :: rest) first (.inr (.inl rfl)) (by omega)]
          rfl
        · have unclosed : ∀ left, own ++ ',' :: (later ++ ']' :: rest) ≠ ']' :: left :=
            said_append_unclosed first (.inl rfl) nofun
          rw [List.length_append, List.length_cons] at enough
          rw [List.append_assoc, List.cons_append, read_elements_step unclosed,
            read_said element own fuel (',' :: (later ++ ']' :: rest)) first (.inl rfl) (by omega)]
          change readElements fuel (later ++ ']' :: rest) >>= _ = _
          rw [read_said_elements _ later fuel rest others (by omega)]
          rfl

theorem read_said_members (members : List (String × Json)) (inner : List Char) (fuel : Nat)
    (rest : List Char) (told : SaysMembers members inner)
    (enough : 2 * inner.length + 2 ≤ fuel) :
    readMembers fuel (inner ++ '\x7d' :: rest) = .ok (members, rest) := by
  match fuel with
  | 0 => omega
  | fuel + 1 =>
    match members with
    | [] =>
        cases told
        rfl
    | (key, value) :: others =>
        obtain ⟨name, own, named, first, ⟨rfl, rfl⟩ | ⟨later, rfl, others⟩⟩ := told
        · rw [List.length_append, List.length_cons] at enough
          rw [List.append_assoc, List.cons_append,
            read_members_step (said_key_unclosed named _), read_key_said named]
          change readValue fuel (own ++ '\x7d' :: rest) >>= _ = _
          rw [read_said value own fuel ('\x7d' :: rest) first (.inr (.inr rfl)) (by omega)]
          rfl
        · rw [List.length_append, List.length_cons, List.length_append, List.length_cons] at enough
          rw [List.append_assoc, List.cons_append, List.append_assoc, List.cons_append,
            read_members_step (said_key_unclosed named _), read_key_said named]
          change readValue fuel (own ++ ',' :: (later ++ '\x7d' :: rest)) >>= _ = _
          rw [read_said value own fuel (',' :: (later ++ '\x7d' :: rest)) first (.inl rfl)
            (by omega)]
          change readMembers fuel (later ++ '\x7d' :: rest) >>= _ = _
          rw [read_said_members _ later fuel rest others (by omega)]
          rfl

end

/-! ## What is read is said -/

theorem not_begins {beginning : List Char} {reader : Option (List Char)}
    (read : Json.readWord beginning input = reader) (unread : reader = none) :
    ¬ beginning <+: input := by
  intro within
  rw [Json.readWord, if_pos (List.isPrefixOf_iff_prefix.mpr within)] at read
  rw [← read] at unread
  cases unread

/-- What is taken where no other value begins is bare text. -/
theorem bare_taken (apart : ∀ beginning ∈ beginnings, ¬ beginning <+: skipBlanks input) :
    ∃ symbols, IsBare symbols ∧
      input = symbols ++ (skipBlanks input).dropWhile (fun symbol => !isSeparator symbol) ∧
      Trim.spaces symbols =
        Trim.spaces ((skipBlanks input).takeWhile fun symbol => !isSeparator symbol) := by
  obtain ⟨before, leading, whole⟩ := gap_before input
  let taken := (skipBlanks input).takeWhile fun symbol => !isSeparator symbol
  have first : skipBlanks taken = taken := by
    apply Trim.drop_while_solid
    intro symbol begins
    cases own : skipBlanks input with
    | nil => simp [taken, own] at begins
    | cons head others =>
        have solid := head_skip input own
        simp only [taken, own, List.takeWhile_cons] at begins
        split at begins
        · rwa [← Option.some.inj begins]
        · cases begins
  have skipped : skipBlanks (before ++ taken) = taken := by rw [skip_gap leading, first]
  refine ⟨before ++ taken, ⟨?_, ?_⟩, ?_, ?_⟩
  · intro symbol inside
    rcases List.mem_append.mp inside with blank | within
    · exact not_separator_of_blank (leading symbol blank)
    · simpa using List.all_eq_true.mp List.all_takeWhile symbol within
  · intro beginning known within
    rw [skipped] at within
    exact apart beginning known (within.trans (List.takeWhile_prefix _))
  · rw [List.append_assoc, List.takeWhile_append_dropWhile]
    exact whole
  · have same := Trim.both_drop_while is_space_of_blank (before ++ taken)
    change Trim.both Trim.isSpace (skipBlanks (before ++ taken)) = _ at same
    rw [skipped] at same
    exact same.symm

inductive Meets (fuel : Nat) : List Char -> Prop
  | quotes {before later : List Char} (gap : IsGap before) : Meets fuel (before ++ '"' :: later)
  | list {before later : List Char} (gap : IsGap before) : Meets fuel (before ++ '[' :: later)
  | mapping {before later : List Char} (gap : IsGap before) :
      Meets fuel (before ++ '\x7b' :: later)
  | apostrophes {before later : List Char} (gap : IsGap before) (symbol : Char) :
      Meets fuel (before ++ '\'' :: symbol :: '\'' :: later)
  | flag {before later : List Char} (gap : IsGap before) (value : Bool) :
      Meets fuel (before ++ ((if value then "true" else "false").toList ++ later))
  | bare {symbols rest : List Char} (plain : IsBare symbols)
      (read : readValue (fuel + 1) (symbols ++ rest) = .ok (bare (Trim.spaces symbols), rest)) :
      Meets fuel (symbols ++ rest)
  | malformed {input : List Char} (read : readValue (fuel + 1) input = .error .malformed) :
      Meets fuel input

theorem word_read {word : List Char} (read : Json.readWord word input = some rest) :
    input = word ++ rest := by
  unfold Json.readWord at read
  split at read
  · next begins =>
      obtain ⟨later, rfl⟩ := List.isPrefixOf_iff_prefix.mp begins
      rw [List.drop_left] at read
      cases read
      rfl
  · cases read

/-- What is left behind bare text does not begin with a blank. -/
theorem skip_unsolid (input : List Char) :
    skipBlanks (input.dropWhile fun symbol => !isSeparator symbol) =
      input.dropWhile fun symbol => !isSeparator symbol := by
  apply Trim.drop_while_solid
  intro symbol first
  have separates := Trim.head_drop_while (fun symbol => !isSeparator symbol) input symbol first
  cases blank : isBlank symbol with
  | false => rfl
  | true =>
      rw [not_separator_of_blank blank] at separates
      cases separates

theorem input_meets (fuel : Nat) (input : List Char) : Meets fuel input := by
  obtain ⟨before, leading, whole⟩ := gap_before input
  have read := readValue.eq_2 input fuel
  dsimp only at read
  split at read
  · next later same => exact (same ▸ whole) ▸ .mapping leading
  · next later same => exact (same ▸ whole) ▸ .list leading
  · next later same => exact (same ▸ whole) ▸ .quotes leading
  · next symbol later same => exact (same ▸ whole) ▸ .apostrophes leading symbol
  · exact .malformed read
  · next noMapping noList noQuote noCharacter noApostrophe =>
    split at read
    · next later found => exact ((word_read found) ▸ whole) ▸ .flag leading true
    · next later _ found => exact ((word_read found) ▸ whole) ▸ .flag leading false
    · next noTrue noFalse =>
      have apart : ∀ beginning ∈ beginnings, ¬ beginning <+: skipBlanks input := by
        intro beginning known within
        simp only [beginnings, List.mem_cons, List.not_mem_nil, or_false] at known
        rcases known with rfl | rfl | rfl | rfl
        · obtain ⟨later, same⟩ := within
          exact noQuote later same.symm
        · obtain ⟨later, same⟩ := within
          exact noApostrophe later same.symm
        · exact not_begins rfl noTrue within
        · exact not_begins rfl noFalse within
      obtain ⟨symbols, plain, parts, same⟩ := bare_taken apart
      have ended := skip_unsolid (skipBlanks input)
      rw [parts]
      refine .bare plain ?_
      rw [← parts, same, read]
      change Except.ok (_, skipBlanks _) = _
      rw [ended]

def ValuesSaid (fuel : Nat) : Prop :=
  ∀ {input rest : List Char} {value : Json}, readValue fuel input = .ok (value, rest) →
    ∃ symbols, Says value symbols ∧ input = symbols ++ rest

def ElementsSaid (fuel : Nat) : Prop :=
  ∀ {input rest : List Char} {elements : List Json},
    readElements fuel input = .ok (elements, rest) →
    ∃ inner, SaysElements elements inner ∧ input = inner ++ ']' :: rest

def MembersSaid (fuel : Nat) : Prop :=
  ∀ {input rest : List Char} {members : List (String × Json)},
    readMembers fuel input = .ok (members, rest) →
    ∃ inner, SaysMembers members inner ∧ input = inner ++ '\x7d' :: rest

/-- The blanks behind a value belong to it. -/
theorem surrounded (gap : IsGap before) (own left : List Char) :
    ∃ symbols, Surrounds own symbols ∧ before ++ (own ++ left) = symbols ++ skipBlanks left := by
  obtain ⟨after, trailing, ended⟩ := gap_before left
  refine ⟨before ++ (own ++ after), ⟨before, after, gap, trailing, rfl⟩, ?_⟩
  rw [List.append_assoc, List.append_assoc, ← ended]

theorem values_said (elements : ElementsSaid fuel) (members : MembersSaid fuel) :
    ValuesSaid (fuel + 1) := by
  intro input rest value read
  cases input_meets fuel input with
  | @quotes before later gap =>
      rw [read_quotes gap] at read
      obtain ⟨⟨text, left⟩, found, same⟩ := except_bind_eq_ok.mp read
      cases same
      obtain ⟨content, behind, closed, rfl, means⟩ := content_of_read found nofun
      obtain ⟨meaning, own, same⟩ := except_map_eq_ok means.symm
      cases same
      obtain ⟨symbols, surrounds, whole⟩ := surrounded gap (quotes content) left
      refine ⟨symbols, .inr (.inl ⟨content, closed, ?_, surrounds⟩), ?_⟩
      · rw [own, String.toList_ofList]
      · simpa [quotes] using whole
  | @list before later gap =>
      rw [read_list gap] at read
      obtain ⟨⟨found, left⟩, inside, same⟩ := except_bind_eq_ok.mp read
      cases same
      obtain ⟨inner, told, rfl⟩ := elements inside
      obtain ⟨symbols, surrounds, whole⟩ := surrounded gap ('[' :: (inner ++ [']'])) left
      exact ⟨symbols, ⟨inner, told, surrounds⟩, by simpa using whole⟩
  | @mapping before later gap =>
      rw [read_mapping gap] at read
      obtain ⟨⟨found, left⟩, inside, same⟩ := except_bind_eq_ok.mp read
      cases same
      obtain ⟨inner, told, rfl⟩ := members inside
      obtain ⟨symbols, surrounds, whole⟩ := surrounded gap ('\x7b' :: (inner ++ ['\x7d'])) left
      exact ⟨symbols, ⟨inner, told, surrounds⟩, by simpa using whole⟩
  | @apostrophes before left gap symbol =>
      rw [read_apostrophes gap] at read
      cases read
      obtain ⟨symbols, surrounds, whole⟩ := surrounded gap ['\'', symbol, '\''] left
      exact ⟨symbols, .inr (.inr ⟨symbol, rfl, surrounds⟩), by simpa using whole⟩
  | @flag before left gap value =>
      rw [read_flag gap] at read
      cases read
      obtain ⟨symbols, surrounds, whole⟩ :=
        surrounded gap (if value then "true" else "false").toList left
      exact ⟨symbols, surrounds, whole⟩
  | @bare symbols left plain found =>
      rw [found] at read
      cases read
      refine ⟨symbols, ?_, rfl⟩
      cases made : bare (Trim.spaces symbols) with
      | number value => exact ⟨plain, made⟩
      | string text => exact .inl ⟨plain, made⟩
      | null | bool _ | array _ | object _ =>
          unfold bare at made
          split at made <;> cases made
  | malformed found =>
      rw [found] at read
      cases read

theorem elements_said (values : ValuesSaid fuel) (elements : ElementsSaid fuel) :
    ElementsSaid (fuel + 1) := by
  intro input rest found read
  by_cases closed : ∃ later, input = ']' :: later
  · obtain ⟨later, rfl⟩ := closed
    cases read
    exact ⟨[], rfl, rfl⟩
  · rw [read_elements_step fun later same => closed ⟨later, same⟩] at read
    obtain ⟨⟨element, left⟩, taken, further⟩ := except_bind_eq_ok.mp read
    obtain ⟨own, told, rfl⟩ := values taken
    unfold readFurther at further
    split at further
    · next later comma =>
        obtain ⟨⟨others, behind⟩, inside, same⟩ := except_bind_eq_ok.mp further
        cases same
        dsimp only at comma
        obtain ⟨inner, listed, rfl⟩ := elements inside
        subst comma
        exact ⟨own ++ ',' :: inner, ⟨own, told, .inr ⟨inner, rfl, listed⟩⟩, by simp⟩
    · next later bracket =>
        cases further
        dsimp only at bracket
        subst bracket
        refine ⟨own, ⟨own, told, .inl ⟨rfl, ?_, rfl⟩⟩, rfl⟩
        rintro rfl
        exact closed ⟨_, rfl⟩
    · cases further

theorem members_said (values : ValuesSaid fuel) (members : MembersSaid fuel) :
    MembersSaid (fuel + 1) := by
  intro input rest found read
  by_cases closed : ∃ later, input = '\x7d' :: later
  · obtain ⟨later, rfl⟩ := closed
    cases read
    exact ⟨[], rfl, rfl⟩
  · rw [read_members_step fun later same => closed ⟨later, same⟩] at read
    obtain ⟨⟨key, behindKey⟩, keyTaken, valued⟩ := except_bind_eq_ok.mp read
    obtain ⟨⟨value, left⟩, taken, further⟩ := except_bind_eq_ok.mp valued
    obtain ⟨name, named, rfl⟩ := key_of_read keyTaken
    obtain ⟨own, told, rfl⟩ := values taken
    unfold readOthers at further
    split at further
    · next later comma =>
        obtain ⟨⟨others, behind⟩, inside, same⟩ := except_bind_eq_ok.mp further
        cases same
        dsimp only at comma
        obtain ⟨inner, listed, rfl⟩ := members inside
        subst comma
        refine ⟨name ++ '=' :: (own ++ ',' :: inner), ⟨name, own, named, told, .inr ⟨inner, rfl,
          listed⟩⟩, by simp⟩
    · next later brace =>
        cases further
        dsimp only at brace
        subst brace
        exact ⟨name ++ '=' :: own, ⟨name, own, named, told, .inl ⟨rfl, rfl⟩⟩, by simp⟩
    · cases further

/-- A value, elements and members call each other with one step less. -/
theorem said_of_read (fuel : Nat) : ValuesSaid fuel ∧ ElementsSaid fuel ∧ MembersSaid fuel := by
  induction fuel with
  | zero =>
      refine ⟨?_, ?_, ?_⟩ <;> intro _ _ _ read
      · rw [readValue] at read
        cases read
      · rw [readElements] at read
        cases read
      · rw [readMembers] at read
        cases read
  | succ fuel claim =>
      obtain ⟨values, elements, members⟩ := claim
      exact ⟨values_said elements members, elements_said values elements,
        members_said values members⟩

end InlineValue
end GatedResources
