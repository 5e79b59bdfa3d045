import DocumentQuery.Calendar.Moment
import DocumentQuery.Proofs.Calendar.Date

/-!
Moments and the clocks that show them. What a clock at an offset shows tells the moment.
-/

namespace DocumentQuery.Calendar

theorem is_valid_of_nanosecond {nanosecond : Nat} (inDay : nanosecond < 86400 * 1000000000) :
    (ClockTime.ofNanosecond nanosecond).isValid = true := by
  simp only [ClockTime.isValid, Bool.and_eq_true, decide_eq_true_eq]
  simp only [ClockTime.ofNanosecond]
  omega

@[simp] theorem nanosecond_of_day_of_nanosecond (nanosecond : Nat) :
    (ClockTime.ofNanosecond nanosecond).nanosecondOfDay = nanosecond := by
  simp only [ClockTime.ofNanosecond, ClockTime.nanosecondOfDay]
  omega

namespace Moment

@[simp] theorem is_valid_local_date (moment : Moment) : moment.localDate.isValid = true :=
  is_valid_of_day_number _

@[simp] theorem is_valid_local_time (moment : Moment) : moment.localTime.isValid = true := by
  apply is_valid_of_nanosecond
  simp only [nanosecondsPerDay]
  omega

/-- A moment is the one at which a clock at its offset shows what it shows. -/
@[simp] theorem of_local_local (moment : Moment) :
    ofLocal moment.localDate moment.localTime moment.offset = moment := by
  have day : moment.localDate.dayNumber =
      moment.localNanoseconds / nanosecondsPerDay + epochDay := day_number_of_day_number _
  have time : (moment.localTime.nanosecondOfDay : Int) =
      moment.localNanoseconds % nanosecondsPerDay := by
    simp only [localTime, nanosecond_of_day_of_nanosecond, nanosecondsPerDay]
    omega
  rw [ofLocal, day, time, Int.add_sub_cancel, Int.mul_comm, Int.mul_ediv_add_emod, localNanoseconds,
    Int.add_sub_cancel]

theorem year_local_date (moment : Moment) : moment.localDate.year =
    yearOfDay (moment.localNanoseconds / nanosecondsPerDay + epochDay) := by
  obtain ⟨index, day, ends, -⟩ :=
    of_day_number_ends (moment.localNanoseconds / nanosecondsPerDay + epochDay)
  rw [localDate, ends]

theorem nanosecond_of_day_lt {time : ClockTime} (valid : time.isValid = true) :
    (time.nanosecondOfDay : Int) < nanosecondsPerDay := by
  simp only [ClockTime.isValid, Bool.and_eq_true, decide_eq_true_eq] at valid
  simp only [ClockTime.nanosecondOfDay, nanosecondsPerDay]
  omega

theorem year_local_date_of_local {date : Date} (dateValid : date.isValid = true) {time : ClockTime}
    (timeValid : time.isValid = true) (offset : Int) :
    (ofLocal date time offset).localDate.year = date.year := by
  have notNegative : 0 ≤ (time.nanosecondOfDay : Int) := Int.natCast_nonneg _
  have inDay := nanosecond_of_day_lt timeValid
  have sameDay : (ofLocal date time offset).localNanoseconds / nanosecondsPerDay + epochDay =
      date.dayNumber := by
    simp only [ofLocal, localNanoseconds, epochDay, nanosecondsPerDay] at *
    generalize (time.nanosecondOfDay : Int) = nanoseconds at *
    omega
  obtain ⟨begun, notEnded⟩ := day_number_in_year dateValid
  obtain ⟨notBefore, notAfter⟩ := year_of_day_bounds begun notEnded
  rw [year_local_date, sameDay]
  exact Int.le_antisymm notAfter notBefore

/-- The clock in UTC is at most one day apart from any other. -/
theorem utc_day_of_local (date : Date) {time : ClockTime} (valid : time.isValid = true)
    {offset : Int} (west : -86400 < offset) (east : offset < 86400) :
    date.dayNumber - 1 ≤
        (ofLocal date time offset).toUtc.localNanoseconds / nanosecondsPerDay + epochDay ∧
      (ofLocal date time offset).toUtc.localNanoseconds / nanosecondsPerDay + epochDay ≤
        date.dayNumber + 1 := by
  have inDay := nanosecond_of_day_lt valid
  have notNegative : 0 ≤ (time.nanosecondOfDay : Int) := Int.natCast_nonneg _
  simp only [ofLocal, toUtc, localNanoseconds, epochDay, nanosecondsPerDay] at *
  generalize (time.nanosecondOfDay : Int) = nanoseconds at *
  omega

/-- A date in the years of four digits is in UTC one of these years or a neighbour of them. -/
theorem utc_year_of_local {date : Date} (dateValid : date.isValid = true) {time : ClockTime}
    (timeValid : time.isValid = true) {offset : Int} (west : -86400 < offset)
    (east : offset < 86400) (notBefore : 0 ≤ date.year) (notAfter : date.year ≤ 9999) :
    -1 ≤ (ofLocal date time offset).toUtc.localDate.year ∧
      (ofLocal date time offset).toUtc.localDate.year ≤ 10000 := by
  obtain ⟨begun, notEnded⟩ := day_number_in_year dateValid
  obtain ⟨dayBefore, dayAfter⟩ := utc_day_of_local date timeValid west east
  rw [year_local_date]
  apply year_of_day_bounds
  · simp only [daysBeforeYear] at *
    omega
  · simp only [daysBeforeYear] at *
    omega

end Moment

end DocumentQuery.Calendar
