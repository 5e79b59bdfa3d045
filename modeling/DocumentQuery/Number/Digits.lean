import DocumentQuery.Text.Basic

/-!
Whole numbers as digits of ASCII, and signed integers of 64 bits. A sign is optional in front of
the digits; at least one digit is needed, and leading zeros are allowed.
-/

namespace DocumentQuery.Number

open DocumentQuery.Text

def digitValue (char : Char) : Nat := char.toNat - 48

def appendDigits (value : Nat) : List Char → Option Nat
  | [] => some value
  | char :: rest =>
      if isAsciiDigit char then appendDigits (10 * value + digitValue char) rest else none

def readNat (chars : List Char) : Option Nat :=
  if chars.isEmpty then none else appendDigits 0 chars

def writeNat (value : Nat) : List Char := Nat.toDigits 10 value

def writePadded (width value : Nat) : List Char :=
  List.replicate (width - (writeNat value).length) '0' ++ writeNat value

/-- Takes a sign off, if there is one, and tells whether it was a minus. -/
def splitSign : List Char → Bool × List Char
  | '-' :: rest => (true, rest)
  | '+' :: rest => (false, rest)
  | chars => (false, chars)

def readInt (chars : List Char) : Option Int :=
  let (negative, digits) := splitSign chars
  (readNat digits).map fun value => if negative then -(value : Int) else (value : Int)

def writeInt (value : Int) : List Char :=
  if value < 0 then '-' :: writeNat value.natAbs else writeNat value.natAbs

/-- An integer outside the 64 bit range is refused, not wrapped. -/
def readInt64 (chars : List Char) : Option Int64 := do
  let value ← readInt chars
  if Int64.minValue.toInt ≤ value ∧ value ≤ Int64.maxValue.toInt then some (Int64.ofInt value)
  else none

def writeInt64 (value : Int64) : List Char := writeInt value.toInt

end DocumentQuery.Number
