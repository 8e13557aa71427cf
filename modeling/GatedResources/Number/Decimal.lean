import GatedResources.Number.Binary64

/-!
# Decimal text of numbers

Writing: the shortest digits that determine a double, laid out plainly or with an
exponent. Reading: the value of digit strings, and two ways to turn a decimal into a
double, one exact and one in steps that each round.
-/

namespace GatedResources
namespace Decimal

def digitChar (digit : Nat) : Char :=
  Char.ofNat (48 + digit)

def isDigit (symbol : Char) : Bool :=
  '0' ≤ symbol && symbol ≤ '9'

def digitValue (symbol : Char) : Nat :=
  symbol.toNat - 48

def digits (value : Nat) : List Char :=
  if value < 10 then [digitChar value] else digits (value / 10) ++ [digitChar (value % 10)]
termination_by value
decreasing_by omega

def value (symbols : List Char) : Nat :=
  symbols.foldl (fun total symbol => 10 * total + digitValue symbol) 0

def natural (value : Nat) : String :=
  String.ofList (digits value)

def integer : Int -> String
  | .ofNat value => natural value
  | .negSucc value => "-" ++ natural (value + 1)

structure Scientific where
  digits : Nat
  exponent : Int
deriving DecidableEq, Repr

/-- Numerator and denominator of `value * 10 ^ (- power)`. -/
def shiftedFraction (number : Binary64) (power : Int) : Nat × Nat :=
  (number.numerator * Nat.pow 10 (-power).toNat, number.denominator * Nat.pow 10 power.toNat)

def Scientific.toBinary64 (negative : Bool) (decimal : Scientific) : Option Binary64 :=
  Binary64.round negative
    (decimal.digits * Nat.pow 10 decimal.exponent.toNat) (Nat.pow 10 (-decimal.exponent).toNat)

def leadingPower (number : Binary64) : Int :=
  let whole := number.numerator / number.denominator
  if 0 < whole then
    ((digits whole).length : Int) - 1
  else
    let inverse := number.denominator / number.numerator
    let count : Int := (digits inverse).length
    if number.denominator = Nat.pow 10 (count.toNat - 1) * number.numerator then 1 - count
    else -count

/-- The decimals with `count` digits on both sides of a number that round back to it, the
nearer one first. -/
def candidates (number : Binary64) (power : Int) (count : Nat) : Option Scientific :=
  let exponent := power - (count : Int) + 1
  let (top, bottom) := shiftedFraction number exponent
  let below : Scientific := ⟨top / bottom, exponent⟩
  let above : Scientific := ⟨top / bottom + 1, exponent⟩
  let remainder := top % bottom
  let ordered :=
    if 2 * remainder < bottom || (2 * remainder == bottom && below.digits % 2 == 0) then
      [below, above]
    else
      [above, below]
  ordered.find? fun decimal => decimal.toBinary64 number.negative == some number

/-- The first digit count from `count` on at which a decimal determines the number. Every
double is determined by 17 digits. -/
def shortestFrom (number : Binary64) (power : Int) (count : Nat) : Nat -> Scientific
  | 0 => ⟨0, 0⟩
  | fuel + 1 =>
      match candidates number power count with
      | some decimal => decimal
      | none => shortestFrom number power (count + 1) fuel

def trimZeros (digitCount : Nat) (exponent : Int) : Nat -> Scientific
  | 0 => ⟨digitCount, exponent⟩
  | fuel + 1 =>
      if digitCount ≠ 0 && digitCount % 10 == 0 then
        trimZeros (digitCount / 10) (exponent + 1) fuel
      else
        ⟨digitCount, exponent⟩

def shortest (number : Binary64) : Scientific :=
  let decimal := shortestFrom number (leadingPower number) 1 17
  trimZeros decimal.digits decimal.exponent 20

def signText (negative : Bool) : List Char :=
  if negative then ['-'] else []

/-- Digits with the decimal point where the exponent puts it. `whole` is appended when there
is no fraction. -/
def positional (decimal : Scientific) (whole : List Char) : List Char :=
  let symbols := digits decimal.digits
  if 0 ≤ decimal.exponent then
    symbols ++ List.replicate decimal.exponent.toNat '0' ++ whole
  else
    let places := (-decimal.exponent).toNat
    if places < symbols.length then
      symbols.take (symbols.length - places) ++ ['.'] ++ symbols.drop (symbols.length - places)
    else
      ['0', '.'] ++ List.replicate (places - symbols.length) '0' ++ symbols

def exponential (decimal : Scientific) : List Char :=
  let symbols := digits decimal.digits
  let power := decimal.exponent + (symbols.length : Int) - 1
  let tail := symbols.drop 1
  symbols.take 1 ++ (if tail.isEmpty then [] else '.' :: tail) ++ ['e'] ++
    (if power < 0 then ['-'] else ['+']) ++ digits power.natAbs

/-- A double in the shortest digits: plain when the power of ten is from -5 to 15, with an
exponent otherwise. Whole numbers keep a `.0`. -/
def floatText (number : Binary64) : String :=
  if number.isZero then
    String.ofList (signText number.negative ++ ['0', '.', '0'])
  else
    let decimal := shortest number
    let power := decimal.exponent + ((digits decimal.digits).length : Int) - 1
    let body :=
      if -5 ≤ power && power ≤ 15 then positional decimal ['.', '0'] else exponential decimal
    String.ofList (signText number.negative ++ body)

/-- A double in the shortest digits, always plain and without a fraction when whole. -/
def plainFloatText (number : Binary64) : String :=
  if number.isZero then
    String.ofList (signText number.negative ++ ['0'])
  else
    String.ofList (signText number.negative ++ positional (shortest number) [])

/-- A double in fifteen significant digits, as the store writes numbers into text. Half a unit
rounds away from zero. -/
def storedFloatText (number : Binary64) : String :=
  if number.isZero then
    "0.0"
  else
    let power := leadingPower number
    let exponent := power - 14
    let (top, bottom) := shiftedFraction number exponent
    let rounded := (2 * top + bottom) / (2 * bottom)
    let decimal := trimZeros rounded exponent 20
    let symbols := digits decimal.digits
    let leading := decimal.exponent + (symbols.length : Int) - 1
    let body :=
      if -5 < leading && leading < 15 then
        positional decimal ['.', '0']
      else
        let tail := symbols.drop 1
        let size := digits leading.natAbs
        let padded := if leading.natAbs < 10 then '0' :: size else size
        symbols.take 1 ++ ['.'] ++ (if tail.isEmpty then ['0'] else tail) ++ ['e'] ++
          (if leading < 0 then ['-'] else ['+']) ++ padded
    String.ofList (signText number.negative ++ body)

/-- Divides by `10 ^ power` in steps of at most `10 ^ 308`, each rounded. -/
def divideInSteps (number : Binary64) (power : Nat) : Option Binary64 :=
  if power ≤ 308 then do
    number.divide (← Binary64.powerOfTen power)
  else if number.isZero then
    some number
  else do
    divideInSteps (← number.divide (← Binary64.powerOfTen 308)) (power - 308)
termination_by power
decreasing_by omega

/-- Scales a significand of at most 64 bits by a power of ten. The significand is rounded
first and the scaling rounds again; `none` when the result is not finite. -/
def scaleInSteps (negative : Bool) (significand : Nat) (exponent : Int) : Option Binary64 := do
  let number ← Binary64.ofNat negative significand
  if exponent < 0 then
    divideInSteps number exponent.natAbs
  else if exponent ≤ 308 then
    number.multiply (← Binary64.powerOfTen exponent.toNat)
  else if number.isZero then
    some number
  else
    none

end Decimal
end GatedResources
