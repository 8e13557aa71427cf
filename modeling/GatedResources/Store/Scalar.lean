import GatedResources.Store.Entity

/-!
# Values as the store compares them

The store knows null, numbers and texts. Values of one class are compared by size, numbers
stand before texts. Before a column is compared to a value, the value is brought to the
class of the column where that is possible.
-/

namespace GatedResources

inductive Scalar where
  | null
  | integer (value : Int)
  | real (value : Binary64)
  | text (value : String)
deriving DecidableEq, Repr

inductive Affinity where
  | none
  | numeric
  | text
deriving DecidableEq, Repr

namespace ColumnType

def affinity : ColumnType -> Affinity
  | .text => .text
  | .integer _ => .numeric
  | .flag => .numeric

end ColumnType

namespace Scalar

def ofCell : Cell -> Scalar
  | .null => .null
  | .text value => .text value
  | .integer value => .integer value
  | .flag value => .integer (if value then 1 else 0)

/-- The value as text; null has none. -/
def text? : Scalar -> Option String
  | .null => none
  | .integer value => some (Decimal.integer value)
  | .real value => some (Decimal.storedFloatText value)
  | .text value => some value

def fraction? : Scalar -> Option (Int × Nat)
  | .integer value => some (value, 1)
  | .real value =>
      some (if value.negative then -(value.numerator : Int) else value.numerator, value.denominator)
  | .null => none
  | .text _ => none

def rank : Scalar -> Nat
  | .null => 0
  | .integer _ => 1
  | .real _ => 1
  | .text _ => 2

/-- Compares by class first, then numbers by size and texts by code points. -/
def order (left right : Scalar) : Ordering :=
  match left, right with
  | .text first, .text second => compareOfLessAndEq first second
  | left, right =>
      match left.fraction?, right.fraction? with
      | some (first, firstParts), some (second, secondParts) =>
          compareOfLessAndEq (first * secondParts) (second * firstParts)
      | _, _ => compareOfLessAndEq left.rank right.rank

def isBlank (symbol : Char) : Bool :=
  symbol == ' ' || (9 ≤ symbol.toNat && symbol.toNat ≤ 13)

/-- The number of a text that is written as one, blanks around it aside. -/
def numberOfText (text : String) : Option Scalar :=
  let symbols := (text.toList.dropWhile isBlank).reverse.dropWhile isBlank |>.reverse
  let (negative, symbols) :=
    match symbols with
    | '-' :: rest => (true, rest)
    | '+' :: rest => (false, rest)
    | rest => (false, rest)
  let whole := symbols.takeWhile Decimal.isDigit
  let rest := symbols.dropWhile Decimal.isDigit
  let (hasPoint, fraction, rest) :=
    match rest with
    | '.' :: rest => (true, rest.takeWhile Decimal.isDigit, rest.dropWhile Decimal.isDigit)
    | rest => (false, [], rest)
  if whole.isEmpty && fraction.isEmpty then
    none
  else
    let real (power : Int) : Option Scalar :=
      let decimal : Decimal.Scientific :=
        ⟨Decimal.value (whole ++ fraction), power - (fraction.length : Int)⟩
      (decimal.toBinary64 negative).map Scalar.real
    match rest with
    | [] =>
        let value : Int := Decimal.value whole
        let value := if negative then -value else value
        if !hasPoint && -(Nat.pow 2 63 : Nat) ≤ value && value < (Nat.pow 2 63 : Nat) then
          some (.integer value)
        else
          real 0
    | mark :: rest =>
        if mark = 'e' || mark = 'E' then
          let (down, digits) :=
            match rest with
            | '-' :: digits => (true, digits)
            | '+' :: digits => (false, digits)
            | digits => (false, digits)
          if digits.isEmpty || !digits.all Decimal.isDigit then
            none
          else
            let power : Int := min (Decimal.value digits) 9999
            real (if down then -power else power)
        else
          none

def adapted : Affinity -> Scalar -> Scalar
  | .numeric, .text value => (numberOfText value).getD (.text value)
  | Affinity.text, .integer number => .text (Decimal.integer number)
  | Affinity.text, .real number => .text (Decimal.storedFloatText number)
  | _, value => value

/-- Whether two values are equal; null equals nothing. -/
def equal (left right : Scalar) : Bool :=
  left != .null && right != .null && left.order right == .eq

end Scalar
end GatedResources
