/-!
# Finite double-precision numbers

A finite double is kept as an exact dyadic number, so every operation is a
computation on natural numbers followed by one rounding. There are no infinities
and no NaN: an operation that leaves the finite range answers `none`.
-/

namespace GatedResources

/-- The number `± significand * 2 ^ exponent`. The values made by `Binary64.round` are
canonical: the significand has 53 bits, or the exponent is the least one. -/
structure Binary64 where
  negative : Bool
  significand : Nat
  exponent : Int
deriving DecidableEq, Repr

namespace Binary64

def leastExponent : Int := -1074

def greatestExponent : Int := 971

def Canonical (number : Binary64) : Prop :=
  number.significand < Nat.pow 2 53 ∧
    leastExponent ≤ number.exponent ∧
    number.exponent ≤ greatestExponent ∧
    (Nat.pow 2 52 ≤ number.significand ∨ number.exponent = leastExponent)

instance (number : Binary64) : Decidable number.Canonical := by
  unfold Canonical
  infer_instance

def zero (negative : Bool) : Binary64 :=
  ⟨negative, 0, leastExponent⟩

def isZero (number : Binary64) : Bool :=
  number.significand == 0

def scaledNumerator (numerator : Nat) (exponent : Int) : Nat :=
  numerator * Nat.pow 2 (-exponent).toNat

def scaledDenominator (denominator : Nat) (exponent : Int) : Nat :=
  denominator * Nat.pow 2 exponent.toNat

/-- Whole quotient, rounded to the nearest and to even on a tie. -/
def divideToNearest (numerator denominator : Nat) : Nat :=
  let quotient := numerator / denominator
  let remainder := numerator % denominator
  if denominator < 2 * remainder then quotient + 1
  else if 2 * remainder < denominator then quotient
  else quotient + quotient % 2

/-- The exponent at which the quotient has 53 bits, or the least exponent. -/
def roundingExponent (numerator denominator : Nat) : Int :=
  let guess : Int := (numerator.log2 : Int) - (denominator.log2 : Int) - 52
  let guess :=
    if scaledNumerator numerator guess / scaledDenominator denominator guess < Nat.pow 2 52 then
      guess - 1
    else
      guess
  max guess leastExponent

/-- The double nearest to `± numerator / denominator`, to even on a tie; `none` when the
magnitude is beyond the finite range. -/
def round (negative : Bool) (numerator denominator : Nat) : Option Binary64 :=
  if numerator = 0 then
    some (zero negative)
  else
    let exponent := roundingExponent numerator denominator
    let significand :=
      divideToNearest (scaledNumerator numerator exponent) (scaledDenominator denominator exponent)
    let rounded : Binary64 :=
      if significand = Nat.pow 2 53 then ⟨negative, Nat.pow 2 52, exponent + 1⟩
      else ⟨negative, significand, exponent⟩
    if greatestExponent < rounded.exponent then none else some rounded

def numerator (number : Binary64) : Nat :=
  number.significand * Nat.pow 2 number.exponent.toNat

def denominator (number : Binary64) : Nat :=
  Nat.pow 2 (-number.exponent).toNat

/-- The double nearest to an integer of at most 64 bits; larger magnitudes may have none. -/
def ofNat (negative : Bool) (value : Nat) : Option Binary64 :=
  round negative value 1

def multiply (left right : Binary64) : Option Binary64 :=
  round (left.negative != right.negative)
    (left.numerator * right.numerator) (left.denominator * right.denominator)

def divide (left right : Binary64) : Option Binary64 :=
  round (left.negative != right.negative)
    (left.numerator * right.denominator) (left.denominator * right.numerator)

def powerOfTen (power : Nat) : Option Binary64 :=
  round false (Nat.pow 10 power) 1

end Binary64
end GatedResources
