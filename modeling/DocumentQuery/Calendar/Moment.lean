import DocumentQuery.Calendar.Date

/-!
Points in time with an offset from UTC, and their date and clock time at an offset. An instant is
counted in nanoseconds from the start of 1970 in UTC, without leap seconds.
-/

namespace DocumentQuery.Calendar

structure Moment where
  instant : Int
  /-- Seconds east of UTC. -/
  offset : Int
  deriving DecidableEq, Repr

structure ClockTime where
  hour : Nat
  minute : Nat
  second : Nat
  nanosecond : Nat
  deriving DecidableEq, Repr

def nanosecondsPerDay : Int := 86400 * 1000000000

def epochDay : Int := 719528

def ClockTime.isValid (time : ClockTime) : Bool :=
  time.hour < 24 && time.minute < 60 && time.second < 60 && time.nanosecond < 1000000000

def ClockTime.nanosecondOfDay (time : ClockTime) : Nat :=
  ((time.hour * 60 + time.minute) * 60 + time.second) * 1000000000 + time.nanosecond

def ClockTime.ofNanosecond (nanosecond : Nat) : ClockTime :=
  { hour := nanosecond / 3600000000000
    minute := nanosecond / 60000000000 % 60
    second := nanosecond / 1000000000 % 60
    nanosecond := nanosecond % 1000000000 }

namespace Moment

/-- The moment at which a clock at the offset shows a date and a time. -/
def ofLocal (date : Date) (time : ClockTime) (offset : Int) : Moment :=
  { instant := (date.dayNumber - epochDay) * nanosecondsPerDay
      + (time.nanosecondOfDay : Int) - offset * 1000000000
    offset }

def localNanoseconds (moment : Moment) : Int := moment.instant + moment.offset * 1000000000

def localDate (moment : Moment) : Date :=
  Date.ofDayNumber (moment.localNanoseconds / nanosecondsPerDay + epochDay)

def localTime (moment : Moment) : ClockTime :=
  ClockTime.ofNanosecond (moment.localNanoseconds % nanosecondsPerDay).toNat

def toUtc (moment : Moment) : Moment := { moment with offset := 0 }

/-- Whether the clock in UTC shows the last minute of a month. -/
def isLastMinuteOfMonth (moment : Moment) : Bool :=
  let date := moment.toUtc.localDate
  let time := moment.toUtc.localTime
  date.day = monthLength date.year date.month && time.hour = 23 && time.minute = 59

end Moment

end DocumentQuery.Calendar
