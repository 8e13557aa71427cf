import GatedResources.Number.Decimal

/-!
# Whole numbers in text
-/

namespace GatedResources
namespace Integer

inductive Refusal where
  | empty
  | invalidDigit
  | tooLarge
  | tooSmall
deriving DecidableEq, Repr

def Refusal.message : Refusal -> String
  | .empty => "cannot parse integer from empty string"
  | .invalidDigit => "invalid digit found in string"
  | .tooLarge => "number too large to fit in target type"
  | .tooSmall => "number too small to fit in target type"

def digitsValue (symbols : List Char) : Except Refusal Nat :=
  if symbols.isEmpty || !symbols.all Decimal.isDigit then .error .invalidDigit
  else .ok (Decimal.value symbols)

/-- Reads a natural number below `2 ^ bits`. A plus may precede it. -/
def parseUnsigned (bits : Nat) (symbols : List Char) : Except Refusal Nat := do
  if symbols.isEmpty then
    .error .empty
  else
    let value ← digitsValue (match symbols with
      | '+' :: rest => rest
      | symbols => symbols)
    if value < Nat.pow 2 bits then .ok value else .error .tooLarge

/-- Reads an integer of a width in two's complement. A sign may precede it. -/
def parseSigned (bits : Nat) (symbols : List Char) : Except Refusal Int := do
  match symbols with
  | [] => .error .empty
  | '-' :: rest =>
      let value ← digitsValue rest
      if value ≤ Nat.pow 2 (bits - 1) then .ok (-(value : Int)) else .error .tooSmall
  | '+' :: rest =>
      let value ← digitsValue rest
      if value < Nat.pow 2 (bits - 1) then .ok value else .error .tooLarge
  | symbols =>
      let value ← digitsValue symbols
      if value < Nat.pow 2 (bits - 1) then .ok value else .error .tooLarge

end Integer
end GatedResources
