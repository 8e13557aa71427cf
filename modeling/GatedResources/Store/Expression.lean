import GatedResources.Sql.Token
import GatedResources.Store.Scalar

/-!
# Conditions written as SQL

The store evaluates comparisons of columns, values and placeholders, joined by `AND`, `OR`
and `NOT`. Any other text is not a statement.
-/

namespace GatedResources

inductive Comparison where
  | equal
  | unequal
  | less
  | lessOrEqual
  | greater
  | greaterOrEqual
deriving DecidableEq, Repr

inductive Expression where
  | column (name : String) (affinity : Affinity)
  | literal (value : Scalar)
  | compare (comparison : Comparison) (left right : Expression)
  | conjunction (left right : Expression)
  | disjunction (left right : Expression)
  | negation (inner : Expression)
deriving Repr

namespace Comparison

def accepts : Comparison -> Ordering -> Bool
  | .equal, order => order == .eq
  | .unequal, order => order != .eq
  | .less, order => order == .lt
  | .lessOrEqual, order => order != .gt
  | .greater, order => order == .gt
  | .greaterOrEqual, order => order != .lt

end Comparison

namespace Expression

def affinity : Expression -> Affinity
  | .column _ affinity => affinity
  | _ => .none

/-- The class both sides of a comparison are brought to: numbers before texts. -/
def sharedAffinity (left right : Affinity) : Affinity :=
  if left = .numeric ∨ right = .numeric then .numeric
  else if left = .text ∨ right = .text then .text
  else .none

/-- Whether a value counts as true; null is neither. -/
def truth : Scalar -> Option Bool
  | .null => none
  | .integer value => some (value != 0)
  | .real value => some (!value.isZero)
  | .text value =>
      match Scalar.numberOfText value with
      | some (.integer value) => some (value != 0)
      | some (.real value) => some (!value.isZero)
      | _ => some false

def ofTruth : Option Bool -> Scalar
  | none => .null
  | some true => .integer 1
  | some false => .integer 0

/-- Conjunction with an unknown: false whenever one side is false. -/
def both : Option Bool -> Option Bool -> Option Bool
  | some false, _ => some false
  | _, some false => some false
  | some true, some true => some true
  | _, _ => none

def not : Option Bool -> Option Bool
  | some value => some (!value)
  | none => none

/-- Disjunction with an unknown: true whenever one side is true. -/
def either (left right : Option Bool) : Option Bool :=
  not (both (not left) (not right))

def eval (record : Record) : Expression -> Scalar
  | .column name _ => Scalar.ofCell (record.cell name)
  | .literal value => value
  | .compare comparison left right =>
      let shared := sharedAffinity left.affinity right.affinity
      let first := Scalar.adapted shared (eval record left)
      let second := Scalar.adapted shared (eval record right)
      if first = .null ∨ second = .null then .null
      else ofTruth (some (comparison.accepts (first.order second)))
  | .conjunction left right =>
      ofTruth (both (truth (eval record left)) (truth (eval record right)))
  | .disjunction left right =>
      ofTruth (either (truth (eval record left)) (truth (eval record right)))
  | .negation inner => ofTruth (not (truth (eval record inner)))

def holds (expression : Expression) (record : Record) : Bool :=
  truth (expression.eval record) == some true

/-- What a reader answers: an expression, the tokens and the values that are left. -/
structure Parsed where
  expression : Expression
  tokens : List Sql.Token
  values : List Scalar

open Sql (Token)

/-- Whether a word is a keyword, whatever the case of its letters. -/
def isKeyword (keyword : String) (word : List Char) : Bool :=
  word.map Char.toUpper == keyword.toList

def columnNamed (entity : Entity) (name : List Char) : Option Expression :=
  let name := String.ofList name
  (entity.typeOf? name).map fun type => .column name type.affinity

def unquoted (text : List Char) : List Char :=
  (text.drop 1).dropLast

def nameOf : Token -> Option (List Char)
  | .word word => some word
  | .quoted ('"' :: text) => some text.dropLast
  | _ => none

def comparisonSign : List Token -> Option (Comparison × List Token)
  | .mark '<' :: .mark '=' :: rest => some (.lessOrEqual, rest)
  | .mark '<' :: .mark '>' :: rest => some (.unequal, rest)
  | .mark '>' :: .mark '=' :: rest => some (.greaterOrEqual, rest)
  | .mark '!' :: .mark '=' :: rest => some (.unequal, rest)
  | .mark '=' :: .mark '=' :: rest => some (.equal, rest)
  | .mark '=' :: rest => some (.equal, rest)
  | .mark '<' :: rest => some (.less, rest)
  | .mark '>' :: rest => some (.greater, rest)
  | _ => none

/-- Reads a value, a placeholder or a column. A placeholder without a value is null. -/
def operand (entity : Entity) (tokens : List Token) (values : List Scalar) : Option Parsed :=
  match tokens with
  | .mark '?' :: rest => some ⟨.literal (values.headD .null), rest, values.drop 1⟩
  | .mark '-' :: .word word :: rest =>
      if word.all Decimal.isDigit then
        some ⟨.literal (.integer (-(Decimal.value word : Int))), rest, values⟩
      else
        none
  | .quoted ('\'' :: text) :: rest =>
      some ⟨.literal (.text (String.ofList text.dropLast)), rest, values⟩
  | source :: .mark '.' :: name :: rest => do
      let source ← nameOf source
      let name ← nameOf name
      if String.ofList source = entity.table then
        some ⟨← columnNamed entity name, rest, values⟩
      else
        none
  | .word word :: rest =>
      if word.all Decimal.isDigit then
        some ⟨.literal (.integer (Decimal.value word)), rest, values⟩
      else do
        some ⟨← columnNamed entity word, rest, values⟩
  | name :: rest => do
      some ⟨← columnNamed entity (← nameOf name), rest, values⟩
  | [] => none

mutual

def disjunctions (entity : Entity) : Nat -> List Token -> List Scalar -> Option Parsed
  | 0, _, _ => none
  | fuel + 1, tokens, values => do
      let left ← conjunctions entity fuel tokens values
      match left.tokens with
      | .word word :: rest =>
          if isKeyword "OR" word then
            let right ← disjunctions entity fuel rest left.values
            some { right with expression := .disjunction left.expression right.expression }
          else
            some left
      | _ => some left

def conjunctions (entity : Entity) : Nat -> List Token -> List Scalar -> Option Parsed
  | 0, _, _ => none
  | fuel + 1, tokens, values => do
      let left ← terms entity fuel tokens values
      match left.tokens with
      | .word word :: rest =>
          if isKeyword "AND" word then
            let right ← conjunctions entity fuel rest left.values
            some { right with expression := .conjunction left.expression right.expression }
          else
            some left
      | _ => some left

def terms (entity : Entity) : Nat -> List Token -> List Scalar -> Option Parsed
  | 0, _, _ => none
  | fuel + 1, tokens, values =>
      match tokens with
      | .word word :: rest =>
          if isKeyword "NOT" word then do
            let inner ← terms entity fuel rest values
            some { inner with expression := .negation inner.expression }
          else
            comparisons entity fuel tokens values
      | _ => comparisons entity fuel tokens values

def comparisons (entity : Entity) : Nat -> List Token -> List Scalar -> Option Parsed
  | 0, _, _ => none
  | fuel + 1, tokens, values => do
      let left ← sides entity fuel tokens values
      match comparisonSign left.tokens with
      | none => some left
      | some (comparison, rest) =>
          let right ← sides entity fuel rest left.values
          some { right with expression := .compare comparison left.expression right.expression }

/-- Reads a side of a comparison; parentheses may enclose any expression. -/
def sides (entity : Entity) : Nat -> List Token -> List Scalar -> Option Parsed
  | 0, _, _ => none
  | fuel + 1, tokens, values =>
      match tokens with
      | .mark '(' :: rest => do
          let inner ← disjunctions entity fuel rest values
          match inner.tokens with
          | .mark ')' :: rest => some { inner with tokens := rest }
          | _ => none
      | _ => operand entity tokens values

end

def isBlanks : Token -> Bool
  | .blanks _ => true
  | _ => false

def parse (entity : Entity) (sql : String) (values : List Scalar) : Option Expression := do
  let tokens := (Sql.tokens sql).filter fun token => !isBlanks token
  let parsed ← disjunctions entity (6 * tokens.length + 6) tokens values
  if parsed.tokens.isEmpty then some parsed.expression else none

end Expression
end GatedResources
