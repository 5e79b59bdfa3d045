/-!
Floating point numbers of 64 bits as exact values: a finite number is a significand below two to
the 53rd times a power of two, with the least exponent for which the significand fits. Ratios of
whole numbers are rounded to the nearest such number, ties to the even significand.
-/

namespace DocumentQuery.Number

inductive Binary64 where
  | nan
  | infinite (negative : Bool)
  | finite (negative : Bool) (significand : Nat) (exponent : Int)
  deriving DecidableEq, Repr

namespace Binary64

def leastExponent : Int := -1074

def greatestExponent : Int := 971

def fullSignificand : Nat := 4503599627370496

def isFinite : Binary64 → Bool
  | finite _ _ _ => true
  | _ => false

def zero (negative : Bool) : Binary64 := finite negative 0 leastExponent

def roundHalfEven (numerator denominator : Nat) : Nat :=
  let quotient := numerator / denominator
  let twiceRest := 2 * (numerator % denominator)
  if denominator < twiceRest ∨ (twiceRest = denominator ∧ quotient % 2 = 1) then quotient + 1
  else quotient

def shiftRatio (numerator denominator : Nat) (shift : Int) : Nat × Nat :=
  (numerator * Nat.pow 2 (-shift).toNat, denominator * Nat.pow 2 shift.toNat)

/-- The exponent of the greatest power of two that is not above the ratio. -/
def binaryOrder (numerator denominator : Nat) : Int :=
  let guess : Int := (numerator.log2 : Int) - (denominator.log2 : Int)
  let (scaled, unit) := shiftRatio numerator denominator guess
  if unit ≤ scaled then guess else guess - 1

def ofParts (negative : Bool) (significand : Nat) (exponent : Int) : Binary64 :=
  if greatestExponent < exponent then infinite negative
  else finite negative significand exponent

def ofRatio (negative : Bool) (numerator denominator : Nat) : Binary64 :=
  if numerator = 0 then zero negative
  else
    let exponent := max (binaryOrder numerator denominator - 52) leastExponent
    let (scaled, unit) := shiftRatio numerator denominator exponent
    let significand := roundHalfEven scaled unit
    if significand < 2 * fullSignificand then ofParts negative significand exponent
    else ofParts negative fullSignificand (exponent + 1)

/-- A decimal number. Outside of 10 ^ -330 to 10 ^ 310 the result is known from the position of
the first digit alone, and no large power is computed. -/
def ofDecimal (negative : Bool) (digits : Nat) (power : Int) : Binary64 :=
  let position : Int := power + ((Nat.toDigits 10 digits).length : Int)
  if digits = 0 ∨ position < -330 then zero negative
  else if 310 < position then infinite negative
  else ofRatio negative (digits * Nat.pow 10 power.toNat) (Nat.pow 10 (-power).toNat)

def ofNat (value : Nat) : Binary64 := ofRatio false value 1

/-- The quotient of two counts, each rounded before the division; zero when the divisor is. -/
def quotient (count total : Nat) : Binary64 :=
  match ofNat count, ofNat total with
  | finite _ part partExponent, finite _ whole wholeExponent =>
      if whole = 0 then zero false
      else
        ofRatio false (part * Nat.pow 2 (partExponent - wholeExponent).toNat)
          (whole * Nat.pow 2 (wholeExponent - partExponent).toNat)
  | _, _ => zero false

end Binary64

end DocumentQuery.Number
