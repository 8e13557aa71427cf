import GatedResources.Proofs.DecimalDigits
import GatedResources.Proofs.Selections

/-!
# Reading statement text

Statement text is read into the names in double quotes and the symbols between them. What a
statement writes reads as it was meant: a quoted name is that name whatever its symbols are, each
value has one placeholder, and its code adds none.
-/

namespace GatedResources
namespace Sql

inductive Lexeme where
  | symbol (value : Char)
  | name (text : String)
deriving DecidableEq, Repr

/-- Where a reader stands: between names, within a name, or after a quote that ends a name unless
another one follows. -/
inductive Place where
  | outside
  | within (held : List Char)
  | closing (held : List Char)
deriving DecidableEq, Repr

structure Reader where
  found : List Lexeme
  place : Place
deriving DecidableEq, Repr

namespace Reader

def step (reader : Reader) (symbol : Char) : Reader :=
  match reader.place with
  | .outside =>
      if symbol = '"' then ⟨reader.found, .within []⟩
      else ⟨reader.found ++ [.symbol symbol], .outside⟩
  | .within held =>
      if symbol = '"' then ⟨reader.found, .closing held⟩
      else ⟨reader.found, .within (held ++ [symbol])⟩
  | .closing held =>
      if symbol = '"' then ⟨reader.found, .within (held ++ ['"'])⟩
      else ⟨reader.found ++ [.name (String.ofList held), .symbol symbol], .outside⟩

def finish (reader : Reader) : Option (List Lexeme) :=
  match reader.place with
  | .outside => some reader.found
  | .within _ => none
  | .closing held => some (reader.found ++ [.name (String.ofList held)])

end Reader

def lexemes (text : List Char) : Option (List Lexeme) :=
  (text.foldl Reader.step ⟨[], .outside⟩).finish

def Reads (known : String -> Prop) (mark : Char) (count : Nat) (text : List Char) : Prop :=
  ∃ parts : List Lexeme,
    (∀ found, text.foldl Reader.step ⟨found, .outside⟩ = ⟨found ++ parts, .outside⟩) ∧
    (∀ name, .name name ∈ parts → known name) ∧ parts.count (.symbol mark) = count

def IsPlainText (text : List Char) : Prop :=
  ∀ symbol ∈ text, symbol ≠ '"' ∧ symbol ≠ '?' ∧ symbol ≠ '$'

instance (text : List Char) : Decidable (IsPlainText text) :=
  List.decidableBAll _ text

section Reading

variable {known : String -> Prop} {mark : Char}

theorem reads_nil : Reads known mark 0 [] := by
  refine ⟨[], ?_, ?_, rfl⟩
  · intro found
    rw [List.append_nil]
    rfl
  · intro name member
    cases member

theorem reads_append {first second : List Char} {count more : Nat}
    (firstReads : Reads known mark count first) (secondReads : Reads known mark more second) :
    Reads known mark (count + more) (first ++ second) := by
  obtain ⟨parts, read, names, marks⟩ := firstReads
  obtain ⟨others, readOthers, otherNames, otherMarks⟩ := secondReads
  refine ⟨parts ++ others, ?_, ?_, ?_⟩
  · intro found
    rw [List.foldl_append, read, readOthers, List.append_assoc]
  · intro name member
    rcases List.mem_append.mp member with inFirst | inSecond
    · exact names name inFirst
    · exact otherNames name inSecond
  · rw [List.count_append, marks, otherMarks]

theorem reads_symbol {symbol : Char} (plain : symbol ≠ '"') :
    Reads known mark (if symbol = mark then 1 else 0) [symbol] := by
  refine ⟨[.symbol symbol], ?_, ?_, ?_⟩
  · intro found
    simp [Reader.step, plain]
  · intro name member
    simp at member
  · rw [List.count_singleton]
    simp

theorem reads_without_marks {text : List Char} (unquoted : '"' ∉ text) (unmarked : mark ∉ text) :
    Reads known mark 0 text := by
  induction text with
  | nil => exact reads_nil
  | cons symbol rest claim =>
      rw [List.mem_cons, not_or] at unquoted unmarked
      have first : Reads known mark 0 [symbol] := by
        have read : Reads known mark (if symbol = mark then 1 else 0) [symbol] :=
          reads_symbol (Ne.symm unquoted.1)
        rwa [if_neg (Ne.symm unmarked.1)] at read
      exact reads_append first (claim unquoted.2 unmarked.2)

theorem reads_plain (placeholder : mark = '?' ∨ mark = '$') {text : List Char}
    (plain : IsPlainText text) : Reads known mark 0 text := by
  apply reads_without_marks
  · intro member
    exact (plain _ member).1 rfl
  · intro member
    rcases placeholder with same | same
    · exact (plain _ member).2.1 same
    · exact (plain _ member).2.2 same

/-! ## Names -/

/-- Doubled quotes within a name are read as one of its symbols. -/
theorem read_within (found : List Lexeme) (held name : List Char) :
    (name.flatMap fun symbol => if symbol = '"' then ['"', '"'] else [symbol]).foldl
        Reader.step ⟨found, .within held⟩ = ⟨found, .within (held ++ name)⟩ := by
  induction name generalizing held with
  | nil => simp
  | cons symbol rest claim =>
      rw [List.flatMap_cons, List.foldl_append]
      by_cases quote : symbol = '"'
      · subst quote
        have twice : (['"', '"'] : List Char).foldl Reader.step ⟨found, .within held⟩ =
            ⟨found, .within (held ++ ['"'])⟩ := rfl
        rw [if_pos rfl, twice, claim, List.append_assoc]
        rfl
      · have once : [symbol].foldl Reader.step ⟨found, .within held⟩ =
            ⟨found, .within (held ++ [symbol])⟩ := by
          simp [Reader.step, quote]
        rw [if_neg quote, once, claim, List.append_assoc]
        rfl

theorem read_quoted (found : List Lexeme) (name : String) :
    (quoteName name).toList.foldl Reader.step ⟨found, .outside⟩ =
      ⟨found, .closing name.toList⟩ := by
  have written : (quoteName name).toList = '"' :: ((name.toList.flatMap fun symbol =>
      if symbol = '"' then ['"', '"'] else [symbol]) ++ ['"']) := by
    simp [quoteName]
  have opened : Reader.step ⟨found, .outside⟩ '"' = ⟨found, .within []⟩ := rfl
  have closed : (['"'] : List Char).foldl Reader.step ⟨found, .within name.toList⟩ =
      ⟨found, .closing name.toList⟩ := rfl
  rw [written, List.foldl_cons, opened, List.foldl_append, read_within, List.nil_append, closed]

/-- What is not a quote ends a name that may end. -/
theorem step_closing (found : List Lexeme) (name : String) {symbol : Char} (plain : symbol ≠ '"') :
    Reader.step ⟨found, .closing name.toList⟩ symbol =
      Reader.step ⟨found ++ [.name name], .outside⟩ symbol := by
  simp [Reader.step, plain]

theorem reads_name {name : String} {symbol : Char} {rest : List Char} {count : Nat}
    (isKnown : known name) (plain : symbol ≠ '"') (read : Reads known mark count (symbol :: rest)) :
    Reads known mark count ((quoteName name).toList ++ symbol :: rest) := by
  obtain ⟨parts, readParts, names, marks⟩ := read
  refine ⟨.name name :: parts, ?_, ?_, ?_⟩
  · intro found
    have later := readParts (found ++ [.name name])
    rw [List.foldl_cons, List.append_assoc] at later
    rw [List.foldl_append, read_quoted, List.foldl_cons, step_closing found name plain, later]
    rfl
  · intro other member
    rcases List.mem_cons.mp member with same | later
    · cases same
      exact isKnown
    · exact names other later
  · rw [List.count_cons, marks]
    rfl

theorem reads_column (placeholder : mark = '?' ∨ mark = '$') {source column : String}
    {symbol : Char} {rest : List Char} {count : Nat} (sourceKnown : known source)
    (columnKnown : known column) (plain : symbol ≠ '"')
    (read : Reads known mark count (symbol :: rest)) :
    Reads known mark count ((columnName source column).toList ++ symbol :: rest) := by
  have written : (columnName source column).toList ++ symbol :: rest =
      (quoteName source).toList ++ '.' :: ((quoteName column).toList ++ symbol :: rest) := by
    simp [columnName]
  rw [written]
  have dot : Reads known mark 0 ['.'] := reads_plain placeholder (by decide)
  have dotted := reads_append dot (reads_name columnKnown plain read)
  rw [Nat.zero_add, List.singleton_append] at dotted
  exact reads_name sourceKnown (by decide) dotted

/-- A list of columns, up to what stands after it. -/
theorem reads_columns (placeholder : mark = '?' ∨ mark = '$') {source : String}
    {columns : List String} {symbol : Char} {rest : List Char} {count : Nat}
    (sourceKnown : known source) (columnsKnown : ∀ column ∈ columns, known column)
    (plain : symbol ≠ '"') (read : Reads known mark count (symbol :: rest)) :
    Reads known mark count
      ((", ".intercalate (columns.map (columnName source))).toList ++ symbol :: rest) := by
  induction columns with
  | nil => exact read
  | cons column more claim =>
      have own := columnsKnown column List.mem_cons_self
      have others := claim fun other member => columnsKnown other (List.mem_cons_of_mem _ member)
      cases more with
      | nil => simpa using reads_column placeholder sourceKnown own plain read
      | cons next later =>
          have comma : Reads known mark 0 [',', ' '] := reads_plain placeholder (by decide)
          have listed := reads_append comma others
          rw [Nat.zero_add] at listed
          have first := reads_column placeholder sourceKnown own (by decide) listed
          simpa [String.intercalate_cons_cons] using first

/-- Text that ends with a name, and what may stand after it. -/
theorem lexemes_around_name {before after : List Char} {name : String} {count : Nat}
    (beforeReads : Reads known mark 0 before) (isKnown : known name)
    (afterReads : Reads known mark count after) (ends : after.head? ≠ some '"') :
    ∃ parts, lexemes (before ++ (quoteName name).toList ++ after) = some parts ∧
      (∀ name, .name name ∈ parts → known name) ∧ parts.count (.symbol mark) = count := by
  obtain ⟨first, readFirst, firstNames, firstMarks⟩ := beforeReads
  have opened : lexemes (before ++ (quoteName name).toList ++ after) =
      (after.foldl Reader.step ⟨first, .closing name.toList⟩).finish := by
    unfold lexemes
    rw [List.foldl_append, List.foldl_append, readFirst, read_quoted]
    rfl
  cases after with
  | nil =>
      obtain ⟨parts, readParts, _, marks⟩ := afterReads
      have nothing : parts = [] := by
        have := readParts []
        simpa using this.symm
      subst nothing
      refine ⟨first ++ [.name name], ?_, ?_, ?_⟩
      · rw [opened]
        simp [Reader.finish]
      · intro other member
        rcases List.mem_append.mp member with inFirst | last
        · exact firstNames other inFirst
        · cases List.mem_singleton.mp last
          exact isKnown
      · rw [List.count_append, firstMarks, ← marks]
        rfl
  | cons symbol rest =>
      have plain : symbol ≠ '"' := by simpa using ends
      obtain ⟨parts, readParts, names, marks⟩ := reads_name isKnown plain afterReads
      refine ⟨first ++ parts, ?_, ?_, ?_⟩
      · have read := readParts first
        rw [List.foldl_append, read_quoted] at read
        rw [opened, read]
        rfl
      · intro other member
        rcases List.mem_append.mp member with inFirst | later
        · exact firstNames other inFirst
        · exact names other later
      · rw [List.count_append, firstMarks, marks, Nat.zero_add]

end Reading

/-! ## Placeholders -/

theorem reads_question_mark {known : String -> Prop} : Reads known '?' 1 ['?'] :=
  reads_symbol (by decide)

theorem digits_plain (value : Nat) : '"' ∉ Decimal.digits value ∧ '$' ∉ Decimal.digits value := by
  have other : ∀ digit < 10, '"' ≠ Decimal.digitChar digit ∧ '$' ≠ Decimal.digitChar digit := by
    decide
  refine ⟨?_, ?_⟩
  · intro member
    obtain ⟨digit, below, same⟩ := Decimal.digits_are_digits value _ member
    exact (other digit below).1 same
  · intro member
    obtain ⟨digit, below, same⟩ := Decimal.digits_are_digits value _ member
    exact (other digit below).2 same

theorem reads_numbered_mark {known : String -> Prop} (number : Nat) :
    Reads known '$' 1 (numberedMark number) :=
  reads_append (reads_symbol (by decide))
    (reads_without_marks (digits_plain number).1 (digits_plain number).2)

/-! ## Statements -/

def Piece.code? : Piece -> Option String
  | .code text => some text
  | .parameter _ | .raw _ _ => none

def outline (statement : Statement) : List (Option String) :=
  statement.map Piece.code?

theorem outline_append (first second : Statement) :
    outline (first ++ second) = outline first ++ outline second :=
  List.map_append

def fill (placeholder : Nat -> List Char) (count : Nat) : List (Option String) -> List Char
  | [] => []
  | some text :: rest => text.toList ++ fill placeholder count rest
  | none :: rest => placeholder (count + 1) ++ fill placeholder (count + 1) rest

/-- No piece is a condition in SQL, and the code has known names and no placeholders. -/
def IsLegible (known : String -> Prop) (statement : Statement) : Prop :=
  ∀ piece ∈ statement,
    match piece with
    | .code text => Reads known '?' 0 text.toList ∧ Reads known '$' 0 text.toList
    | .parameter _ => True
    | .raw _ _ => False

def HasNoRaw (statement : Statement) : Prop :=
  ∀ sql values, .raw sql values ∉ statement

section Statements

variable {known : String -> Prop} {statement : Statement}

theorem IsLegible.no_raw (legible : IsLegible known statement) : HasNoRaw statement :=
  fun _ _ member => legible _ member

theorem HasNoRaw.tail {piece : Piece} (plain : HasNoRaw (piece :: statement)) :
    HasNoRaw statement :=
  fun sql values member => plain sql values (List.mem_cons_of_mem _ member)

theorem render_filled (plain : HasNoRaw statement) (count : Nat) :
    render statement =
        some ⟨fill (fun _ => ['?']) count (outline statement), parameters statement⟩ ∧
      renderNumbered count statement = some (fill numberedMark count (outline statement)) := by
  induction statement generalizing count with
  | nil => exact ⟨rfl, rfl⟩
  | cons piece rest claim =>
      cases piece with
      | code text =>
          obtain ⟨marked, numbered⟩ := claim plain.tail count
          rw [render, renderNumbered, marked, numbered]
          exact ⟨rfl, rfl⟩
      | parameter value =>
          obtain ⟨marked, numbered⟩ := claim plain.tail (count + 1)
          rw [render, renderNumbered, marked, numbered]
          exact ⟨rfl, rfl⟩
      | raw sql values => exact absurd List.mem_cons_self (plain sql values)

theorem fill_reads {mark : Char} {placeholder : Nat -> List Char}
    (code : ∀ text, Piece.code text ∈ statement → Reads known mark 0 text.toList)
    (plain : HasNoRaw statement)
    (marks : ∀ number, Reads known mark 1 (placeholder number)) (count : Nat) :
    Reads known mark (parameters statement).length
      (fill placeholder count (outline statement)) := by
  induction statement generalizing count with
  | nil => exact reads_nil
  | cons piece rest claim =>
      have later := claim (fun text member => code text (List.mem_cons_of_mem _ member)) plain.tail
      cases piece with
      | code text =>
          have read := reads_append (code text List.mem_cons_self) (later count)
          rw [Nat.zero_add] at read
          exact read
      | parameter value =>
          have read := reads_append (marks (count + 1)) (later (count + 1))
          rw [Nat.add_comm] at read
          exact read
      | raw sql values => exact absurd List.mem_cons_self (plain sql values)

theorem IsLegible.reads_marks (legible : IsLegible known statement) (count : Nat) :
    Reads known '?' (parameters statement).length
        (fill (fun _ => ['?']) count (outline statement)) ∧
      Reads known '$' (parameters statement).length
        (fill numberedMark count (outline statement)) :=
  ⟨fill_reads (fun _ member => (legible _ member).1) legible.no_raw
      (fun _ => reads_question_mark) count,
    fill_reads (fun _ member => (legible _ member).2) legible.no_raw reads_numbered_mark count⟩

theorem is_legible_append {first second : Statement} (firstIs : IsLegible known first)
    (secondIs : IsLegible known second) : IsLegible known (first ++ second) :=
  List.forall_mem_append.mpr ⟨firstIs, secondIs⟩

theorem code_legible {text : String} (plain : IsPlainText text.toList) :
    Reads known '?' 0 text.toList ∧ Reads known '$' 0 text.toList :=
  ⟨reads_plain (.inl rfl) plain, reads_plain (.inr rfl) plain⟩

theorem is_legible_separated {separator : String} {statements : List Statement}
    (plain : IsPlainText separator.toList)
    (legible : ∀ statement ∈ statements, IsLegible known statement) :
    IsLegible known (separated separator statements) := by
  intro piece member
  rcases of_mem_separated member with same | ⟨statement, among, inside⟩
  · subst same
    exact code_legible plain
  · exact legible statement among piece inside

/-- The outline of a list is that of its members. -/
theorem outline_separated {separator : String} {left right : List Statement}
    (same : left.map outline = right.map outline) :
    outline (separated separator left) = outline (separated separator right) := by
  induction left generalizing right with
  | nil =>
      rw [List.map_nil] at same
      rw [List.map_eq_nil_iff.mp same.symm]
  | cons first rest claim =>
      obtain ⟨other, others, rfl, own, later⟩ := List.map_eq_cons_iff.mp same.symm
      have tails := claim later.symm
      cases rest with
      | nil =>
          rw [List.map_nil, List.map_eq_nil_iff] at later
          subst later
          exact own.symm
      | cons next more =>
          cases others with
          | nil => cases later
          | cons nextOther moreOthers =>
              rw [separated, separated, outline_append, outline_append, own]
              exact congrArg (outline first ++ some separator :: ·) tails

end Statements
end Sql
end GatedResources
