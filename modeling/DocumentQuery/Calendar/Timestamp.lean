import DocumentQuery.Calendar.Moment
import DocumentQuery.Number.Digits

/-!
Moments as text in the internet form of RFC 3339, and in a plain form for the moments that have
none there: those before the year zero, and those at an offset of a day or more or with seconds.
-/

namespace DocumentQuery.Calendar

open DocumentQuery.Number DocumentQuery.Text

def takeNumber : Nat → Nat → List Char → Option (Nat × List Char)
  | 0, value, chars => some (value, chars)
  | _ + 1, _, [] => none
  | count + 1, value, char :: rest =>
      if isAsciiDigit char then takeNumber count (10 * value + digitValue char) rest else none

def takeChar (expected : Char) : List Char → Option (List Char)
  | [] => none
  | char :: rest => if char = expected then some rest else none

/-- Any one character of ASCII may stand between the date and the time. -/
def takeSeparator : List Char → Option (List Char)
  | [] => none
  | char :: rest => if char.toNat < 128 then some rest else none

/-- Digits after the point as nanoseconds. Digits beyond the ninth are dropped. -/
def fractionNanoseconds (digits : List Char) : Nat :=
  ((digits.take 9).foldl (fun value char => 10 * value + digitValue char) 0)
    * Nat.pow 10 (9 - digits.length)

def takeFraction : List Char → Option (Nat × List Char)
  | '.' :: rest =>
      let digits := rest.takeWhile isAsciiDigit
      if digits.isEmpty then none
      else some (fractionNanoseconds digits, rest.dropWhile isAsciiDigit)
  | chars => some (0, chars)

/-- The offset ends the text: a letter Z for UTC, or a sign, hours below 24 and minutes below
60. -/
def readOffset : List Char → Option Int
  | [] => none
  | mark :: rest =>
      if mark = 'Z' ∨ mark = 'z' then if rest.isEmpty then some 0 else none
      else if mark = '+' ∨ mark = '-' then do
        let (hour, rest) ← takeNumber 2 0 rest
        let rest ← takeChar ':' rest
        let (minute, rest) ← takeNumber 2 0 rest
        if hour < 24 ∧ minute < 60 ∧ rest.isEmpty then
          let seconds : Int := ((hour * 60 + minute) * 60 : Nat)
          some (if mark = '-' then -seconds else seconds)
        else none
      else none

/-- The second 60 stands for the last nanosecond before it, and only at the end of a month. -/
def assemble (date : Date) (time : ClockTime) (offset : Int) : Option Moment :=
  let leap := time.second = 60
  let time := if leap then { time with second := 59, nanosecond := 999999999 } else time
  if date.isValid && time.isValid then
    let moment := Moment.ofLocal date time offset
    if leap && !moment.isLastMinuteOfMonth then none else some moment
  else none

def readTimestamp (chars : List Char) : Option Moment := do
  let (year, rest) ← takeNumber 4 0 chars
  let rest ← takeChar '-' rest
  let (month, rest) ← takeNumber 2 0 rest
  let rest ← takeChar '-' rest
  let (day, rest) ← takeNumber 2 0 rest
  let rest ← takeSeparator rest
  let (hour, rest) ← takeNumber 2 0 rest
  let rest ← takeChar ':' rest
  let (minute, rest) ← takeNumber 2 0 rest
  let rest ← takeChar ':' rest
  let (second, rest) ← takeNumber 2 0 rest
  let (nanosecond, rest) ← takeFraction rest
  let offset ← readOffset rest
  assemble ⟨(year : Int), month, day⟩ ⟨hour, minute, second, nanosecond⟩ offset

/-- The nine digits of a fraction of a second without the zeros at their end. -/
def fractionDigits (nanosecond : Nat) : List Char :=
  ((writePadded 9 nanosecond).reverse.dropWhile (· = '0')).reverse

def writeDate (date : Date) : List Char :=
  (if date.year < 0 then ['-'] else []) ++ writePadded 4 date.year.natAbs ++ '-' ::
    writePadded 2 date.month ++ '-' :: writePadded 2 date.day

def writeMinuteSecond (time : ClockTime) : List Char :=
  ':' :: writePadded 2 time.minute ++ ':' :: writePadded 2 time.second

def offsetSign (offset : Int) : Char := if offset < 0 then '-' else '+'

def writeOffsetMinutes (offset : Int) : List Char :=
  offsetSign offset :: writePadded 2 (offset.natAbs / 3600) ++ ':' ::
    writePadded 2 (offset.natAbs / 60 % 60)

def hasInternetForm (moment : Moment) : Bool :=
  0 ≤ moment.localDate.year && moment.offset.natAbs / 3600 ≤ 23 && moment.offset.natAbs % 60 = 0

def writeInternetForm (moment : Moment) : List Char :=
  let time := moment.localTime
  let fraction := fractionDigits time.nanosecond
  writeDate moment.localDate ++ 'T' :: writePadded 2 time.hour ++ writeMinuteSecond time
    ++ (if fraction.isEmpty then [] else '.' :: fraction)
    ++ (if moment.offset = 0 then ['Z'] else writeOffsetMinutes moment.offset)

def writePlainForm (moment : Moment) : List Char :=
  let time := moment.localTime
  let fraction := fractionDigits time.nanosecond
  writeDate moment.localDate ++ ' ' :: writeNat time.hour ++ writeMinuteSecond time
    ++ '.' :: (if fraction.isEmpty then ['0'] else fraction)
    ++ ' ' :: writeOffsetMinutes moment.offset
    ++ ':' :: writePadded 2 (moment.offset.natAbs % 60)

def writeTimestamp (moment : Moment) : List Char :=
  if hasInternetForm moment then writeInternetForm moment else writePlainForm moment

end DocumentQuery.Calendar
