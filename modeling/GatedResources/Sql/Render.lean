import GatedResources.Sql.Statement
import GatedResources.Sql.Token

/-!
# Rendering statements

A statement is rendered for a database by putting placeholders where values stand. A
condition written as SQL has placeholders of its own, which are matched with its values; a
placeholder without a value leaves the statement without a text.
-/

namespace GatedResources
namespace Sql

structure Rendered where
  text : List Char
  values : List Bound
deriving DecidableEq, Repr

namespace Rendered

def append (first second : Rendered) : Rendered :=
  ⟨first.text ++ second.text, first.values ++ second.values⟩

end Rendered

/-- Matches question marks with values. Two in a row stand for a question mark. -/
def positional : List Token -> List Bound -> Option Rendered
  | [], _ => some ⟨[], []⟩
  | .mark '?' :: .mark '?' :: rest, values => do
      let rendered ← positional rest values
      some ⟨'?' :: rendered.text, rendered.values⟩
  | .mark '?' :: _, [] => none
  | .mark '?' :: rest, value :: values => do
      let rendered ← positional rest values
      some ⟨'?' :: rendered.text, value :: rendered.values⟩
  | token :: rest, values => do
      let rendered ← positional rest values
      some ⟨token.text ++ rendered.text, rendered.values⟩

def render : Statement -> Option Rendered
  | [] => some ⟨[], []⟩
  | .code text :: rest => do
      let rendered ← render rest
      some ⟨text.toList ++ rendered.text, rendered.values⟩
  | .parameter value :: rest => do
      let rendered ← render rest
      some ⟨'?' :: rendered.text, value :: rendered.values⟩
  | .raw sql values :: rest => do
      let own ← positional (tokens sql) values
      return own.append (← render rest)

/-- The number a word of digits stands for, unless it is beyond 64 bits. -/
def wordNumber (word : List Char) : Option Nat :=
  if word.all Decimal.isDigit && Decimal.value word < Nat.pow 2 64 then some (Decimal.value word)
  else none

def numberedMark (number : Nat) : List Char :=
  '$' :: Decimal.digits number

/-- Matches numbered placeholders with values. `position` is that of the next value taken in
order, `count` that of the last placeholder written. Answers the text and the new count. -/
def numbered (values : List Bound) (position count : Nat) : List Token -> Option (List Char × Nat)
  | [] => some ([], count)
  | .mark '$' :: .mark '$' :: rest => do
      let (text, count) ← numbered values position count rest
      some ('$' :: text, count)
  | .mark '$' :: .word word :: rest =>
      match wordNumber word with
      | none => numbered values position count rest
      | some number =>
          if number = 0 || values.length < number then
            none
          else do
            let (text, last) ← numbered values position (count + 1) rest
            some (numberedMark (count + 1) ++ text, last)
  | .mark '$' :: rest =>
      if position < values.length then do
        let (text, last) ← numbered values (position + 1) (count + 1) rest
        some (numberedMark (count + 1) ++ text, last)
      else
        none
  | token :: rest => do
      let (text, count) ← numbered values position count rest
      some (token.text ++ text, count)

/-- The statement with numbered placeholders, the first one after `count`. -/
def renderNumbered (count : Nat) : Statement -> Option (List Char)
  | [] => some []
  | .code text :: rest => do
      return text.toList ++ (← renderNumbered count rest)
  | .parameter _ :: rest => do
      return numberedMark (count + 1) ++ (← renderNumbered (count + 1) rest)
  | .raw sql values :: rest => do
      let (text, count) ← numbered values 0 count (tokens sql)
      return text ++ (← renderNumbered count rest)

def literal : Bound -> List Char
  | .text value =>
      let written := value.toList.flatMap fun symbol =>
        if symbol = '\'' then ['\'', '\''] else [symbol]
      '\'' :: written ++ ['\'']
  | .signed value => (Decimal.integer value).toList
  | .unsigned value => (Decimal.natural value).toList
  | .small value => (Decimal.integer value).toList
  | .float value => (Decimal.plainFloatText value).toList
  | .flag value => (if value then "TRUE" else "FALSE").toList

def substitute : List Token -> List Bound -> Option (List Char)
  | [], _ => some []
  | .mark '?' :: _, [] => none
  | .mark '?' :: rest, value :: values => do
      return literal value ++ (← substitute rest values)
  | token :: rest, values => do
      return token.text ++ (← substitute rest values)

def inlined (statement : Statement) : Option String := do
  let rendered ← render statement
  let text ← substitute (tokens (String.ofList rendered.text)) rendered.values
  return String.ofList text

def numberedText (statement : Statement) : Option String :=
  (renderNumbered 0 statement).map String.ofList

end Sql
end GatedResources
