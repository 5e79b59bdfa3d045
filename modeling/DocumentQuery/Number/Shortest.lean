import DocumentQuery.Number.Binary64

/-!
The fewest decimal digits that read back as a given binary number, and among those the nearest to
it; of two equally near the greater. All comparisons are between whole numbers.
-/

namespace DocumentQuery.Number

structure DecimalForm where
  digits : Nat
  power : Int
  deriving DecidableEq, Repr

/-- The number of digits before the decimal point of a ratio; for a ratio below one, minus the
number of zeros right after the point. The fuel bounds the number of zeros. -/
def decimalOrder : Nat → Nat → Nat → Int
  | 0, _, _ => 0
  | fuel + 1, numerator, denominator =>
      if denominator ≤ numerator then ((Nat.toDigits 10 (numerator / denominator)).length : Int)
      else if denominator ≤ 10 * numerator then 0
      else decimalOrder fuel (10 * numerator) denominator - 1

def dropTrailingZeros : Nat → Nat → Int → DecimalForm
  | 0, digits, power => ⟨digits, power⟩
  | fuel + 1, digits, power =>
      if digits ≠ 0 ∧ digits % 10 = 0 then dropTrailingZeros fuel (digits / 10) (power + 1)
      else ⟨digits, power⟩

/-- The numbers that round to one binary number, over a common denominator. The ends belong to
the interval when the significand is even. -/
structure RoundingInterval where
  value : Nat
  low : Nat
  high : Nat
  denominator : Nat
  closed : Bool

/-- The gap below a power of two is half the gap above it, except at the least exponent. -/
def RoundingInterval.around (significand : Nat) (exponent : Int) : RoundingInterval :=
  let unit := Nat.pow 2 (exponent - 2).toNat
  let lowGap :=
    if significand = Binary64.fullSignificand ∧ Binary64.leastExponent < exponent then 1 else 2
  { value := 4 * significand * unit
    low := (4 * significand - lowGap) * unit
    high := (4 * significand + 2) * unit
    denominator := Nat.pow 2 (2 - exponent).toNat
    closed := significand % 2 = 0 }

/-- The neighbour of the value on the grid of a power of ten that lies in the interval, if one
does. -/
def RoundingInterval.gridPoint? (interval : RoundingInterval) (power : Int) : Option Nat :=
  let scale := Nat.pow 10 (-power).toNat
  let unit := interval.denominator * Nat.pow 10 power.toNat
  let value := interval.value * scale
  let below := value / unit
  let inside := fun point : Nat =>
    if interval.closed then
      decide (interval.low * scale ≤ point * unit ∧ point * unit ≤ interval.high * scale)
    else decide (interval.low * scale < point * unit ∧ point * unit < interval.high * scale)
  if inside below && inside (below + 1) then
    if 2 * (value % unit) < unit then some below else some (below + 1)
  else if inside below then some below
  else if inside (below + 1) then some (below + 1)
  else none

def RoundingInterval.search (interval : RoundingInterval) : Nat → Int → DecimalForm
  | 0, power => ⟨interval.value * Nat.pow 10 (-power).toNat / interval.denominator, power⟩
  | fuel + 1, power =>
      match interval.gridPoint? power with
      | some point => dropTrailingZeros 17 point power
      | none => interval.search fuel (power - 1)

def shortestDecimal (significand : Nat) (exponent : Int) : DecimalForm :=
  if significand = 0 then ⟨0, 0⟩
  else
    let interval := RoundingInterval.around significand exponent
    interval.search 17 (decimalOrder 330 interval.value interval.denominator - 1)

end DocumentQuery.Number
