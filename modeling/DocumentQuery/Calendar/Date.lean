/-!
The proleptic Gregorian calendar: dates and the number of days since the first of January of the
year zero. Both directions are exact for every integer year, before and after that day.
-/

namespace DocumentQuery.Calendar

structure Date where
  year : Int
  month : Nat
  day : Nat
  deriving DecidableEq, Repr

def daysBeforeYear (year : Int) : Int :=
  365 * year + (year + 3) / 4 - (year + 99) / 100 + (year + 399) / 400

def yearLength (year : Int) : Int := daysBeforeYear (year + 1) - daysBeforeYear year

def monthLengths (year : Int) : List Nat :=
  [31, if yearLength year = 366 then 29 else 28, 31, 30, 31, 30, 31, 31, 30, 31, 30, 31]

/-- Zero for a month that does not exist. -/
def monthLength (year : Int) (month : Nat) : Nat :=
  if month = 0 then 0 else ((monthLengths year)[month - 1]?).getD 0

def Date.isValid (date : Date) : Bool :=
  1 ≤ date.day && date.day ≤ monthLength date.year date.month

/-- The days of the months before one that is counted from zero. -/
def daysBeforeMonth : Nat → List Nat → Nat
  | 0, _ => 0
  | _ + 1, [] => 0
  | months + 1, length :: rest => length + daysBeforeMonth months rest

def Date.dayNumber (date : Date) : Int :=
  daysBeforeYear date.year
    + (daysBeforeMonth (date.month - 1) (monthLengths date.year) : Int) + (date.day : Int) - 1

/-- The year of a day. The average length of a year gives the year itself or a neighbour. -/
def yearOfDay (dayNumber : Int) : Int :=
  let guess := 400 * dayNumber / 146097
  if dayNumber < daysBeforeYear guess then guess - 1
  else if daysBeforeYear (guess + 1) ≤ dayNumber then guess + 1
  else guess

/-- Walks over months of the given lengths to the one that holds a day, counted from zero. -/
def locateMonth (month dayOfYear : Nat) : List Nat → Nat × Nat
  | [] => (month, dayOfYear + 1)
  | length :: rest =>
      if dayOfYear < length then (month, dayOfYear + 1)
      else locateMonth (month + 1) (dayOfYear - length) rest

def Date.ofDayNumber (dayNumber : Int) : Date :=
  let year := yearOfDay dayNumber
  let (month, day) := locateMonth 1 (dayNumber - daysBeforeYear year).toNat (monthLengths year)
  ⟨year, month, day⟩

theorem day_in_year_of_day (dayNumber : Int) :
    daysBeforeYear (yearOfDay dayNumber) ≤ dayNumber ∧
      dayNumber < daysBeforeYear (yearOfDay dayNumber + 1) := by
  rw [yearOfDay]
  generalize near : 400 * dayNumber / 146097 = guess
  by_cases early : dayNumber < daysBeforeYear guess
  · simp only [if_pos early, Int.sub_add_cancel]
    simp only [daysBeforeYear] at early ⊢
    omega
  · by_cases late : daysBeforeYear (guess + 1) ≤ dayNumber
    · simp only [if_neg early, if_pos late]
      simp only [daysBeforeYear] at late ⊢
      omega
    · simp only [if_neg early, if_neg late]
      omega

end DocumentQuery.Calendar
