import GatedResources.Number.Decimal

/-!
# Decimal numerals

A numeral is a sign, digits with a point anywhere among them, and a power of ten; sign, point
and power may be missing.
-/

namespace GatedResources

/-- A numeral: all its digits, and the power of ten of the last one. -/
structure Numeral where
  negative : Bool
  digits : List Char
  exponent : Int
deriving DecidableEq, Repr

namespace Numeral

def splitSign : List Char -> Bool × List Char
  | '-' :: rest => (true, rest)
  | '+' :: rest => (false, rest)
  | symbols => (false, symbols)

def power? : List Char -> Option Int
  | [] => some 0
  | mark :: rest =>
      let (negative, digits) := splitSign rest
      if (mark == 'e' || mark == 'E') && !digits.isEmpty && digits.all Decimal.isDigit then
        let power : Int := Decimal.value digits
        some (if negative then -power else power)
      else
        none

def parse (symbols : List Char) : Option Numeral := do
  let (negative, unsigned) := splitSign symbols
  let whole := unsigned.takeWhile Decimal.isDigit
  let (fraction, tail) :=
    match unsigned.dropWhile Decimal.isDigit with
    | '.' :: rest => (rest.takeWhile Decimal.isDigit, rest.dropWhile Decimal.isDigit)
    | rest => ([], rest)
  let power ← power? tail
  if whole.isEmpty && fraction.isEmpty then
    none
  else
    some ⟨negative, whole ++ fraction, power - fraction.length⟩

/-- The nearest double; `none` beyond the largest. Powers far out of range decide at once. -/
def toBinary64 (numeral : Numeral) : Option Binary64 :=
  let significand := Decimal.value numeral.digits
  let leading := ((Decimal.digits significand).length : Int) + numeral.exponent
  if significand = 0 || leading < -400 then
    some (Binary64.zero numeral.negative)
  else if 400 < leading then
    none
  else
    Decimal.Scientific.toBinary64 numeral.negative ⟨significand, numeral.exponent⟩

end Numeral
end GatedResources
