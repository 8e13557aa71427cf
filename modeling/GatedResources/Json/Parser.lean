import GatedResources.Json.Value
import GatedResources.Number.Decimal

/-!
# Reading JSON

Each reader takes the characters that are left and answers what it read with the
characters after it, or `none` where the text is not JSON. Members stay in text order
with duplicates; `Json.parse` sorts them.
-/

namespace GatedResources
namespace Json

def greatestDepth : Nat := 127

def isBlank (symbol : Char) : Bool :=
  symbol == ' ' || symbol == '\n' || symbol == '\t' || symbol == '\r'

def skipBlanks (input : List Char) : List Char :=
  input.dropWhile isBlank

def readWord (word : List Char) (input : List Char) : Option (List Char) :=
  if word.isPrefixOf input then some (input.drop word.length) else none

def hexValue (symbol : Char) : Option Nat :=
  if '0' ≤ symbol && symbol ≤ '9' then some (symbol.toNat - 48)
  else if 'a' ≤ symbol && symbol ≤ 'f' then some (symbol.toNat - 87)
  else if 'A' ≤ symbol && symbol ≤ 'F' then some (symbol.toNat - 55)
  else none

def readCodeUnit : List Char -> Option (Nat × List Char)
  | first :: second :: third :: fourth :: rest => do
      let unit := (((← hexValue first) * 16 + (← hexValue second)) * 16 + (← hexValue third)) * 16 +
        (← hexValue fourth)
      some (unit, rest)
  | _ => none

/-- Reads the character after `\u`. A high surrogate needs its low surrogate next. -/
def readUnicodeEscape (input : List Char) : Option (Char × List Char) := do
  let (unit, rest) ← readCodeUnit input
  if 0xD800 ≤ unit && unit < 0xDC00 then
    match rest with
    | '\\' :: 'u' :: afterMark => do
        let (low, rest) ← readCodeUnit afterMark
        if 0xDC00 ≤ low && low < 0xE000 then
          some (Char.ofNat (0x10000 + (unit - 0xD800) * 0x400 + (low - 0xDC00)), rest)
        else
          none
    | _ => none
  else if 0xDC00 ≤ unit && unit < 0xE000 then
    none
  else
    some (Char.ofNat unit, rest)

def readEscape : List Char -> Option (Char × List Char)
  | '"' :: rest => some ('"', rest)
  | '\\' :: rest => some ('\\', rest)
  | '/' :: rest => some ('/', rest)
  | 'b' :: rest => some ('\x08', rest)
  | 'f' :: rest => some ('\x0c', rest)
  | 'n' :: rest => some ('\n', rest)
  | 'r' :: rest => some ('\r', rest)
  | 't' :: rest => some ('\t', rest)
  | 'u' :: rest => readUnicodeEscape rest
  | _ => none

/-- Reads the characters of a string up to its closing quote; `held` has those before, last
first. The fuel bounds the number of characters. -/
def readSymbols (held : List Char) : Nat -> List Char -> Option (String × List Char)
  | 0, _ => none
  | _ + 1, [] => none
  | fuel + 1, symbol :: rest =>
      if symbol = '"' then
        some (String.ofList held.reverse, rest)
      else if symbol = '\\' then do
        let (value, rest) ← readEscape rest
        readSymbols (value :: held) fuel rest
      else if symbol.toNat < 32 then
        none
      else
        readSymbols (symbol :: held) fuel rest

def readStringBody (input : List Char) : Option (String × List Char) :=
  readSymbols [] (input.length + 1) input

/-- Takes digits into a significand while it fits in 64 bits; answers it with the number of
digits taken. -/
def accumulate (significand taken : Nat) : List Char -> Nat × Nat
  | [] => (significand, taken)
  | symbol :: rest =>
      let next := significand * 10 + Decimal.digitValue symbol
      if next < Nat.pow 2 64 then accumulate next (taken + 1) rest else (significand, taken)

def readExponent : List Char -> Option (Option Int × List Char)
  | symbol :: rest =>
      if symbol = 'e' || symbol = 'E' then
        let (negative, rest) :=
          match rest with
          | '-' :: rest => (true, rest)
          | '+' :: rest => (false, rest)
          | rest => (false, rest)
        let digits := rest.takeWhile Decimal.isDigit
        if digits.isEmpty then
          none
        else
          let power : Int := Decimal.value digits
          some (some (if negative then -power else power), rest.dropWhile Decimal.isDigit)
      else
        some (none, symbol :: rest)
  | [] => some (none, [])

/-- Reads the digits of a fraction, `none` when no point stands next. -/
def readFraction : List Char -> Option (Option (List Char) × List Char)
  | '.' :: rest =>
      let digits := rest.takeWhile Decimal.isDigit
      if digits.isEmpty then none else some (some digits, rest.dropWhile Decimal.isDigit)
  | rest => some (none, rest)

structure WrittenNumber where
  negative : Bool
  whole : List Char
  fraction : Option (List Char)
  exponent : Option Int
deriving DecidableEq, Repr

/-- The value of a written number. Digits beyond 64 bits are dropped before scaling; `none`
when the number is too large. -/
def WrittenNumber.value? (written : WrittenNumber) : Option Number :=
  let (significand, taken) := accumulate 0 0 written.whole
  let dropped := written.whole.length - taken
  match written.fraction, written.exponent with
  | none, none =>
      if dropped = 0 && !written.negative then
        some (.integer significand)
      else if dropped = 0 && significand ≠ 0 && significand ≤ Nat.pow 2 63 then
        some (.integer (-(significand : Int)))
      else do
        some (.float (← Decimal.scaleInSteps written.negative significand dropped))
  | fraction, exponent => do
      let (significand, places) := accumulate significand 0 (fraction.getD [])
      let power : Int := (dropped : Int) - (places : Int) + exponent.getD 0
      some (.float (← Decimal.scaleInSteps written.negative significand power))

def readWrittenNumber (input : List Char) : Option (WrittenNumber × List Char) := do
  let (negative, input) :=
    match input with
    | '-' :: rest => (true, rest)
    | rest => (false, rest)
  let whole := input.takeWhile Decimal.isDigit
  if whole.isEmpty || (whole.head? == some '0' && 1 < whole.length) then
    none
  else
    let (fraction, rest) ← readFraction (input.dropWhile Decimal.isDigit)
    let (exponent, rest) ← readExponent rest
    some (⟨negative, whole, fraction, exponent⟩, rest)

def readNumber (input : List Char) : Option (Number × List Char) := do
  let (written, rest) ← readWrittenNumber input
  some (← written.value?, rest)

mutual

/-- Reads a value. `depth` is how many containers may still be opened; the fuel bounds the
number of steps. -/
def readValue (depth : Nat) : Nat -> List Char -> Option (Json × List Char)
  | 0, _ => none
  | fuel + 1, input =>
      match skipBlanks input with
      | '"' :: rest => do
          let (text, rest) ← readStringBody rest
          some (.string text, rest)
      | '[' :: rest =>
          match depth with
          | 0 => none
          | depth + 1 =>
              match skipBlanks rest with
              | ']' :: rest => some (.array [], rest)
              | rest => do
                  let (elements, rest) ← readElements depth fuel rest
                  some (.array elements, rest)
      | '{' :: rest =>
          match depth with
          | 0 => none
          | depth + 1 =>
              match skipBlanks rest with
              | '}' :: rest => some (.object [], rest)
              | rest => do
                  let (members, rest) ← readMembers depth fuel rest
                  some (.object members, rest)
      | 'n' :: rest => do some (.null, ← readWord ['u', 'l', 'l'] rest)
      | 't' :: rest => do some (.bool true, ← readWord ['r', 'u', 'e'] rest)
      | 'f' :: rest => do some (.bool false, ← readWord ['a', 'l', 's', 'e'] rest)
      | rest => do
          let (value, rest) ← readNumber rest
          some (.number value, rest)

def readElements (depth : Nat) : Nat -> List Char -> Option (List Json × List Char)
  | 0, _ => none
  | fuel + 1, input => do
      let (element, rest) ← readValue depth fuel input
      match skipBlanks rest with
      | ',' :: rest => do
          let (elements, rest) ← readElements depth fuel rest
          some (element :: elements, rest)
      | ']' :: rest => some ([element], rest)
      | _ => none

def readMembers (depth : Nat) : Nat -> List Char -> Option (List (String × Json) × List Char)
  | 0, _ => none
  | fuel + 1, input =>
      match skipBlanks input with
      | '"' :: rest => do
          let (key, rest) ← readStringBody rest
          match skipBlanks rest with
          | ':' :: rest => do
              let (value, rest) ← readValue depth fuel rest
              match skipBlanks rest with
              | ',' :: rest => do
                  let (members, rest) ← readMembers depth fuel rest
                  some ((key, value) :: members, rest)
              | '}' :: rest => some ([(key, value)], rest)
              | _ => none
          | _ => none
      | _ => none

end

/-- Steps that suffice for a text: each call reads a character or is followed by one that
does. -/
def fuelFor (input : List Char) : Nat :=
  2 * input.length + 2

def readJson (depth : Nat) (input : List Char) : Option (Json × List Char) :=
  readValue depth (fuelFor input) input

def parseInOrder (text : String) : Option Json := do
  let (value, rest) ← readJson greatestDepth text.toList
  if (skipBlanks rest).isEmpty then some value else none

def parse (text : String) : Option Json :=
  (parseInOrder text).map sorted

end Json
end GatedResources
