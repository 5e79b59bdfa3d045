import DocumentQuery.Number.Digits
import DocumentQuery.Number.Shortest
import DocumentQuery.Text.Basic

/-!
Floating point numbers as text. Reading takes an optional sign, digits with an optional point, and
an optional exponent, or a word for infinity or for no number. Writing gives the fewest digits
that read back: with a point and at least one digit after it from 10 ^ -4 up to below 10 ^ 16, and
with an exponent outside of that.
-/

namespace DocumentQuery.Number

open DocumentQuery.Text

/-- Digits, a point and digits; one side of the point may be empty, and the point may be absent. -/
def readDecimalDigits (negative : Bool) (chars : List Char) : Option Binary64 :=
  let whole := chars.takeWhile isAsciiDigit
  let afterWhole := chars.dropWhile isAsciiDigit
  let afterPoint := match afterWhole with
    | '.' :: rest => rest
    | _ => []
  let fraction := afterPoint.takeWhile isAsciiDigit
  let tail := match afterWhole with
    | '.' :: rest => rest.dropWhile isAsciiDigit
    | rest => rest
  let exponent := match tail with
    | [] => some 0
    | mark :: rest => if lowerChar mark = 'e' then readInt rest else none
  match readNat (whole ++ fraction), exponent with
  | some digits, some power =>
      some (Binary64.ofDecimal negative digits (power - (fraction.length : Int)))
  | _, _ => none

def readBinary64 (chars : List Char) : Option Binary64 :=
  let (negative, unsigned) := splitSign chars
  let word := String.ofList (unsigned.map lowerChar)
  if word = "inf" ∨ word = "infinity" then some (.infinite negative)
  else if word = "nan" then some .nan
  else readDecimalDigits negative unsigned

def placePoint (digits : List Char) (point : Int) : List Char :=
  if point ≤ 0 then ['0', '.'] ++ List.replicate (-point).toNat '0' ++ digits
  else
    let whole := point.toNat
    if digits.length ≤ whole then
      digits ++ List.replicate (whole - digits.length) '0' ++ ['.', '0']
    else digits.take whole ++ '.' :: digits.drop whole

def scientific (digits : List Char) (point : Int) : List Char :=
  let significand := match digits with
    | first :: second :: rest => first :: '.' :: second :: rest
    | few => few
  significand ++ 'e' :: writeInt (point - 1)

def writeDecimal (form : DecimalForm) : List Char :=
  if form.digits = 0 then ['0', '.', '0']
  else
    let digits := writeNat form.digits
    let point := form.power + (digits.length : Int)
    if -4 < point ∧ point ≤ 16 then placePoint digits point else scientific digits point

def writeBinary64 : Binary64 → List Char
  | .nan => ['N', 'a', 'N']
  | .infinite negative => (if negative then ['-'] else []) ++ ['i', 'n', 'f']
  | .finite negative significand exponent =>
      (if negative then ['-'] else []) ++ writeDecimal (shortestDecimal significand exponent)

end DocumentQuery.Number
