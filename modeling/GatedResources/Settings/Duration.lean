import GatedResources.Text.Quoted
import GatedResources.Text.Trim
import GatedResources.Trace

/-!
# Durations in words

A duration is written as numbers with units, such as `1h 30m` or `2.5s`. Reading keeps the
position in bytes, which messages name.
-/

namespace GatedResources

structure Duration where
  seconds : Nat
  nanoseconds : Nat
deriving DecidableEq, Repr

namespace Duration

inductive Refusal where
  | empty
  | numberExpected (offset : Nat)
  | invalidCharacter (offset : Nat)
  | unknownUnit (unit : String) (value : Nat)
  | tooLarge
deriving DecidableEq, Repr

def Refusal.message : Refusal -> String
  | .empty => "value was empty"
  | .numberExpected offset => "expected number at " ++ Decimal.natural offset
  | .invalidCharacter offset => "invalid character at " ++ Decimal.natural offset
  | .unknownUnit unit value =>
      if unit.isEmpty then
        "time unit needed, for example " ++ Decimal.natural value ++ "sec or " ++
          Decimal.natural value ++ "ms"
      else
        "unknown time unit " ++ quoted unit ++ ", supported units: ns, us/\u00b5s, ms, sec, " ++
          "min, hours, days, weeks, months, years (and few variations)"
  | .tooLarge =>
      "number is too large or cannot be represented without a lack of precision " ++
        "(values below 1ns are not supported)"

/-- What one of a unit is. A fraction of it is counted in seconds or in nanoseconds; of
nanoseconds there are none. -/
structure Unit where
  seconds : Nat
  nanoseconds : Nat
  fraction : Option (Nat × Nat)
deriving DecidableEq, Repr

/-- A unit of whole seconds whose fractions are whole seconds too. -/
def longUnit (seconds : Nat) : Unit :=
  ⟨seconds, 0, some (seconds, 0)⟩

def units : List (List String × Unit) := [
  (["nanos", "nsec", "ns"], ⟨0, 1, none⟩),
  (["usec", "us", "\u00b5s"], ⟨0, 1000, some (0, 1000)⟩),
  (["millis", "msec", "ms"], ⟨0, 1000000, some (0, 1000000)⟩),
  (["seconds", "second", "secs", "sec", "s"], ⟨1, 0, some (0, 1000000000)⟩),
  (["minutes", "minute", "min", "mins", "m"], ⟨60, 0, some (0, 60000000000)⟩),
  (["hours", "hour", "hr", "hrs", "h"], longUnit 3600),
  (["days", "day", "d"], longUnit 86400),
  (["weeks", "week", "wk", "wks", "w"], longUnit 604800),
  (["months", "month", "M"], longUnit 2630016),
  (["years", "year", "yr", "yrs", "y"], longUnit 31557600)]

def fitting (value : Nat) : Outcome Refusal Nat :=
  if value < Nat.pow 2 64 then .done value else .failed .tooLarge

def secondNanoseconds : Nat := 1000000000

/-- A duration of seconds and nanoseconds of at most one more second. That one more second does
not fit is a crash. -/
def make (seconds nanoseconds : Nat) : Outcome Refusal Duration :=
  if nanoseconds < secondNanoseconds then .done ⟨seconds, nanoseconds⟩
  else if seconds + 1 < Nat.pow 2 64 then .done ⟨seconds + 1, nanoseconds - secondNanoseconds⟩
  else .crashed

/-- Adds seconds and nanoseconds to a duration. What is more than a second of nanoseconds is
carried over. -/
def add (duration : Duration) (seconds nanoseconds : Nat) : Outcome Refusal Duration := do
  let nanoseconds ← fitting (duration.nanoseconds + nanoseconds)
  if secondNanoseconds < nanoseconds then do
    let seconds ← fitting (seconds + nanoseconds / secondNanoseconds)
    make (← fitting (duration.seconds + seconds)) (nanoseconds % secondNanoseconds)
  else do
    make (← fitting (duration.seconds + seconds)) nanoseconds

structure Fraction where
  numerator : Nat
  denominator : Nat
deriving DecidableEq, Repr

/-- So much of a count as a fraction says. It must be whole. -/
def Fraction.share (fraction : Fraction) (count : Nat) : Outcome Refusal Nat := do
  let product ← fitting (fraction.numerator * count)
  if product % fraction.denominator = 0 then .done (product / fraction.denominator)
  else .failed .tooLarge

def addUnits (duration : Duration) (unitName : List Char) (value : Nat)
    (fraction : Option Fraction) : Outcome Refusal Duration := do
  let name := String.ofList unitName
  match units.find? fun entry => entry.1.contains name with
  | none => .failed (.unknownUnit name value)
  | some (_, unit) =>
      let duration ← duration.add (← fitting (value * unit.seconds))
        (← fitting (value * unit.nanoseconds))
      match fraction with
      | none => return duration
      | some fraction =>
          match unit.fraction with
          | none => .failed .tooLarge
          | some (seconds, nanoseconds) =>
              duration.add (← fraction.share seconds) (← fraction.share nanoseconds)

def isUnitSymbol (symbol : Char) : Bool :=
  symbol.isAlpha || symbol == '\u00b5'

/-- A number that has been read, the first letter of its unit, and what is left. -/
structure ReadNumber where
  value : Nat
  fraction : Option Fraction
  unitStart : List Char
  offset : Nat
  rest : List Char

/-- Reads the digits after a point. `consumed` is the position; faults are reported at `offset`,
which is that of the point until something has been read after it. -/
def readFraction (value : Nat) (digits : List Char) (offset consumed : Nat) :
    List Char -> Outcome Refusal ReadNumber
  | [] => finish [] consumed []
  | symbol :: rest =>
      let after := consumed + symbol.utf8Size
      if Decimal.isDigit symbol then do
        let _ ← fitting (Nat.pow 10 (digits.length + 1))
        let _ ← fitting (Decimal.value (digits ++ [symbol]))
        readFraction value (digits ++ [symbol]) after after rest
      else if Trim.isSpace symbol then
        readFraction value digits after after rest
      else if isUnitSymbol symbol then
        finish [symbol] after rest
      else
        .failed (.invalidCharacter offset)
where
  finish (unitStart : List Char) (after : Nat) (rest : List Char) : Outcome Refusal ReadNumber :=
    if digits.isEmpty then
      .failed (.invalidCharacter offset)
    else
      let fraction := ⟨Decimal.value digits, Nat.pow 10 digits.length⟩
      .done ⟨value, some fraction, unitStart, after, rest⟩

def readNumber (value offset : Nat) : List Char -> Outcome Refusal ReadNumber
  | [] => .done ⟨value, none, [], offset, []⟩
  | symbol :: rest =>
      let after := offset + symbol.utf8Size
      if Decimal.isDigit symbol then do
        readNumber (← fitting (value * 10 + Decimal.digitValue symbol)) after rest
      else if Trim.isSpace symbol then
        readNumber value after rest
      else if isUnitSymbol symbol then
        .done ⟨value, none, [symbol], after, rest⟩
      else if symbol = '.' then
        readFraction value [] offset after rest
      else
        .failed (.invalidCharacter offset)

/-- Reads the name of a unit. Answers it with the digit that ended it, if one did, the
position and what is left. -/
def readUnit (held : List Char) (offset : Nat) :
    List Char -> Outcome Refusal (List Char × Option Nat × Nat × List Char)
  | [] => .done (held, none, offset, [])
  | symbol :: rest =>
      let after := offset + symbol.utf8Size
      if Decimal.isDigit symbol then .done (held, some (Decimal.digitValue symbol), after, rest)
      else if Trim.isSpace symbol then .done (held, none, after, rest)
      else if isUnitSymbol symbol then readUnit (held ++ [symbol]) after rest
      else .failed (.invalidCharacter offset)

/-- Reads the first digit of a number after white space, if there is any digit. `offset` is
where the white space began. -/
def readFirstDigit (offset consumed : Nat) :
    List Char -> Outcome Refusal (Option (Nat × Nat × List Char))
  | [] => .done none
  | symbol :: rest =>
      let after := consumed + symbol.utf8Size
      if Decimal.isDigit symbol then .done (some (Decimal.digitValue symbol, after, rest))
      else if Trim.isSpace symbol then readFirstDigit offset after rest
      else .failed (.numberExpected offset)

def readParts (duration : Duration) (value offset : Nat) :
    Nat -> List Char -> Outcome Refusal Duration
  | 0, _ => .failed .tooLarge
  | fuel + 1, input => do
      let number ← readNumber value offset input
      let (unit, digit, offset, rest) ← readUnit number.unitStart number.offset number.rest
      let duration ← duration.addUnits unit number.value number.fraction
      match digit with
      | some digit => readParts duration digit offset fuel rest
      | none =>
          match ← readFirstDigit offset offset rest with
          | some (digit, offset, rest) => readParts duration digit offset fuel rest
          | none => return duration

def parse (text : String) : Outcome Refusal Duration :=
  if text = "0" then
    .done ⟨0, 0⟩
  else do
    let symbols := text.toList
    match ← readFirstDigit 0 0 symbols with
    | none => .failed .empty
    | some (digit, offset, rest) => readParts ⟨0, 0⟩ digit offset (symbols.length + 1) rest

end Duration
end GatedResources
