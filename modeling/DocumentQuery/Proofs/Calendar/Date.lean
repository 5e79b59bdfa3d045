import DocumentQuery.Calendar.Date
import Mathlib.Algebra.GroupWithZero.Nat

/-!
Dates of days. Every day has a date of its own, which exists in the calendar and leads back to the
day. The year is found by its first day, and the month and the day within it by a walk over the
lengths of the months.
-/

namespace DocumentQuery.Calendar

theorem year_length_cases (year : Int) : yearLength year = 365 ∨ yearLength year = 366 := by
  simp only [yearLength, daysBeforeYear]
  omega

theorem sum_month_lengths (year : Int) : ((monthLengths year).sum : Int) = yearLength year := by
  rcases year_length_cases year with common | leap
  · simp [monthLengths, common]
  · simp [monthLengths, leap]

theorem month_length_succ (year : Int) (index : Nat) :
    monthLength year (index + 1) = ((monthLengths year)[index]?).getD 0 := by
  rw [monthLength, if_neg (Nat.succ_ne_zero index), Nat.add_sub_cancel]

theorem month_length_le (year : Int) (month : Nat) : monthLength year month ≤ 31 := by
  have each : ∀ length ∈ monthLengths year, length ≤ 31 := by
    simp only [monthLengths]
    split <;> decide
  cases month with
  | zero => exact Nat.zero_le _
  | succ index =>
      rw [month_length_succ]
      cases listed : (monthLengths year)[index]? with
      | none => exact Nat.zero_le _
      | some length => exact each length (List.mem_of_getElem? listed)

theorem bounds_of_is_valid {date : Date} (valid : date.isValid = true) :
    1 ≤ date.month ∧ date.month ≤ 12 ∧ 1 ≤ date.day ∧ date.day ≤ 31 := by
  simp only [Date.isValid, Bool.and_eq_true, decide_eq_true_eq] at valid
  have longest := month_length_le date.year date.month
  cases month : date.month with
  | zero =>
      have noMonth : monthLength date.year date.month = 0 := by
        rw [month]
        rfl
      omega
  | succ index =>
      rcases Nat.lt_or_ge index 12 with early | late
      · omega
      · have noMonth : monthLength date.year date.month = 0 := by
          rw [month, month_length_succ, List.getElem?_eq_none late]
          rfl
        omega

/-- A walk over months that hold a day ends at one of them and at a day of this month, after as
many days as it began with. -/
theorem locate_month_ends {lengths : List Nat} {dayOfYear : Nat} (held : dayOfYear < lengths.sum)
    (month : Nat) :
    ∃ index day, locateMonth month dayOfYear lengths = (month + index, day) ∧
      1 ≤ day ∧ day ≤ (lengths[index]?).getD 0 ∧
        daysBeforeMonth index lengths + day = dayOfYear + 1 := by
  induction lengths generalizing month dayOfYear with
  | nil => exact absurd held (Nat.not_lt_zero _)
  | cons length rest induction =>
      rw [locateMonth]
      split
      · next inside =>
          exact ⟨0, dayOfYear + 1, rfl, Nat.le_add_left _ _, inside, Nat.zero_add _⟩
      · next beyond =>
          rw [List.sum_cons] at held
          have later : dayOfYear - length < rest.sum := by omega
          obtain ⟨index, day, ends, positive, listed, days⟩ := induction later (month + 1)
          refine ⟨index + 1, day, ?_, positive, listed, ?_⟩
          · rw [ends, Nat.add_assoc, Nat.add_comm 1]
          · rw [daysBeforeMonth]
            omega

theorem of_day_number_ends (dayNumber : Int) :
    ∃ index day, Date.ofDayNumber dayNumber = ⟨yearOfDay dayNumber, index + 1, day⟩ ∧
      1 ≤ day ∧ day ≤ monthLength (yearOfDay dayNumber) (index + 1) ∧
        daysBeforeYear (yearOfDay dayNumber) +
          (daysBeforeMonth index (monthLengths (yearOfDay dayNumber)) : Int) + (day : Int) - 1 =
            dayNumber := by
  have year := day_in_year_of_day dayNumber
  have length := sum_month_lengths (yearOfDay dayNumber)
  rw [yearLength] at length
  have held : (dayNumber - daysBeforeYear (yearOfDay dayNumber)).toNat <
      (monthLengths (yearOfDay dayNumber)).sum := by
    omega
  obtain ⟨index, day, ends, positive, listed, days⟩ := locate_month_ends held 1
  refine ⟨index, day, ?_, positive, ?_, by omega⟩
  · simp only [Date.ofDayNumber, ends, Nat.add_comm 1]
  · rw [month_length_succ]
    exact listed

@[simp] theorem is_valid_of_day_number (dayNumber : Int) :
    (Date.ofDayNumber dayNumber).isValid = true := by
  obtain ⟨index, day, ends, positive, listed, -⟩ := of_day_number_ends dayNumber
  simp only [ends, Date.isValid, Bool.and_eq_true, decide_eq_true_eq]
  exact ⟨positive, listed⟩

theorem days_before_month_add_le {lengths : List Nat} {index day : Nat} (positive : 1 ≤ day)
    (listed : day ≤ (lengths[index]?).getD 0) :
    daysBeforeMonth index lengths + day ≤ lengths.sum := by
  induction lengths generalizing index with
  | nil =>
      rw [List.getElem?_nil] at listed
      exact absurd (Nat.le_trans positive listed) (by decide)
  | cons length rest induction =>
      rw [List.sum_cons]
      cases index with
      | zero =>
          have inside : day ≤ length := listed
          rw [daysBeforeMonth]
          omega
      | succ index =>
          have later := induction listed
          rw [daysBeforeMonth]
          omega

theorem day_number_in_year {date : Date} (valid : date.isValid = true) :
    daysBeforeYear date.year ≤ date.dayNumber ∧
      date.dayNumber < daysBeforeYear (date.year + 1) := by
  obtain ⟨firstMonth, -, -, -⟩ := bounds_of_is_valid valid
  simp only [Date.isValid, Bool.and_eq_true, decide_eq_true_eq] at valid
  obtain ⟨positive, listed⟩ := valid
  obtain ⟨index, month⟩ : ∃ index, date.month = index + 1 := ⟨date.month - 1, by omega⟩
  rw [month, month_length_succ] at listed
  have inYear := days_before_month_add_le positive listed
  have length := sum_month_lengths date.year
  rw [yearLength] at length
  simp only [Date.dayNumber, month, Nat.add_sub_cancel]
  omega

/-- A day from the start of one year to the end of another lies in a year between them. -/
theorem year_of_day_bounds {first last : Int} {dayNumber : Int}
    (notBefore : daysBeforeYear first ≤ dayNumber)
    (notAfter : dayNumber < daysBeforeYear (last + 1)) :
    first ≤ yearOfDay dayNumber ∧ yearOfDay dayNumber ≤ last := by
  obtain ⟨begun, notEnded⟩ := day_in_year_of_day dayNumber
  generalize yearOfDay dayNumber = year at *
  simp only [daysBeforeYear] at *
  omega

@[simp] theorem day_number_of_day_number (dayNumber : Int) :
    (Date.ofDayNumber dayNumber).dayNumber = dayNumber := by
  obtain ⟨index, day, ends, -, -, days⟩ := of_day_number_ends dayNumber
  simp only [ends, Date.dayNumber, Nat.add_sub_cancel]
  exact days

end DocumentQuery.Calendar
