import DocumentQuery.Calendar.Timestamp
import DocumentQuery.Proofs.Calendar.Moment
import DocumentQuery.Proofs.Number.Digits
import DocumentQuery.Proofs.Text.Cut

/-!
Timestamps that are written and read again. A moment in the years that have four digits is read
from its internet form to the nanosecond and with its offset.
-/

namespace DocumentQuery.Calendar

open DocumentQuery.Number DocumentQuery.Text

theorem take_number_digits {digits : List Char} (areDigits : AreDigits digits) (value : Nat)
    (rest : List Char) :
    takeNumber digits.length value (digits ++ rest) =
      some (Nat.ofDigitChars 10 digits value, rest) := by
  induction digits generalizing value with
  | nil => rfl
  | cons char others induction =>
      obtain ⟨first, later⟩ := List.forall_mem_cons.mp areDigits
      rw [List.length_cons, List.cons_append, takeNumber, if_pos first, induction later,
        Nat.ofDigitChars_cons]
      rfl

theorem take_number_write_padded {width : Nat} (positive : 0 < width) {value : Nat}
    (fits : value < 10 ^ width) (rest : List Char) :
    takeNumber width 0 (writePadded width value ++ rest) = some (value, rest) := by
  have taken := take_number_digits (are_digits_write_padded width value) 0 rest
  rw [length_write_padded positive fits, of_digit_chars_write_padded] at taken
  exact taken

@[simp] theorem take_char_cons (char : Char) (rest : List Char) :
    takeChar char (char :: rest) = some rest := if_pos rfl

@[simp] theorem take_separator_t (rest : List Char) : takeSeparator ('T' :: rest) = some rest := rfl

theorem fraction_digits_append_zeros (nanosecond : Nat) :
    ∃ zeros, writePadded 9 nanosecond =
      fractionDigits nanosecond ++ List.replicate zeros '0' :=
  (drop_end_mark '0' (writePadded 9 nanosecond)).1

theorem are_digits_fraction_digits (nanosecond : Nat) : AreDigits (fractionDigits nanosecond) := by
  obtain ⟨zeros, whole⟩ := fraction_digits_append_zeros nanosecond
  intro char member
  apply are_digits_write_padded 9 nanosecond
  rw [whole]
  exact List.mem_append_left _ member

theorem fraction_nanoseconds_fraction_digits {nanosecond : Nat} (below : nanosecond < 1000000000) :
    fractionNanoseconds (fractionDigits nanosecond) = nanosecond := by
  obtain ⟨zeros, whole⟩ := fraction_digits_append_zeros nanosecond
  have length := congrArg List.length whole
  rw [length_write_padded (by decide) below, List.length_append, List.length_replicate] at length
  have short : (fractionDigits nanosecond).length ≤ 9 := by omega
  have missing : 9 - (fractionDigits nanosecond).length = zeros := by omega
  have value : 10 ^ zeros * Nat.ofDigitChars 10 (fractionDigits nanosecond) 0 = nanosecond := by
    rw [← Nat.ofDigitChars_replicate_zero, ← Nat.ofDigitChars_append, ← whole,
      of_digit_chars_write_padded]
  rw [fractionNanoseconds, List.take_of_length_le short, missing, Nat.mul_comm]
  exact value

def writeFraction (nanosecond : Nat) : List Char :=
  if (fractionDigits nanosecond).isEmpty then [] else '.' :: fractionDigits nanosecond

def EndsFraction (rest : List Char) : Prop :=
  ∃ char others, rest = char :: others ∧ isAsciiDigit char = false ∧ char ≠ '.'

theorem take_fraction_written {nanosecond : Nat} (below : nanosecond < 1000000000)
    {rest : List Char} (ends : EndsFraction rest) :
    takeFraction (writeFraction nanosecond ++ rest) = some (nanosecond, rest) := by
  obtain ⟨char, others, rfl, noDigit, noPoint⟩ := ends
  have digits := are_digits_fraction_digits nanosecond
  have value := fraction_nanoseconds_fraction_digits below
  rw [writeFraction]
  cases fraction : fractionDigits nanosecond with
  | nil =>
      rw [fraction] at value
      have zero : nanosecond = 0 := value.symm
      rw [List.isEmpty_nil, if_pos rfl, List.nil_append, zero]
      unfold takeFraction
      split
      · next same => exact absurd (List.cons.inj same).1 noPoint
      · rfl
  | cons first more =>
      rw [fraction] at digits value
      have taken : (first :: more ++ char :: others).takeWhile isAsciiDigit = first :: more := by
        rw [List.takeWhile_append_of_pos digits, List.takeWhile_cons_of_neg, List.append_nil]
        rw [noDigit]
        exact Bool.false_ne_true
      have left : (first :: more ++ char :: others).dropWhile isAsciiDigit = char :: others := by
        rw [List.dropWhile_append_of_pos digits, List.dropWhile_cons_of_neg]
        rw [noDigit]
        exact Bool.false_ne_true
      rw [List.isEmpty_cons, if_neg Bool.false_ne_true, List.cons_append, takeFraction]
      simp only [taken, left, value, List.isEmpty_cons, Bool.false_eq_true, if_false]

theorem offset_sign_ne_letter (offset : Int) :
    ¬(offsetSign offset = 'Z' ∨ offsetSign offset = 'z') := by
  unfold offsetSign
  split <;> decide

theorem offset_sign_is_mark (offset : Int) : offsetSign offset = '+' ∨ offsetSign offset = '-' := by
  unfold offsetSign
  split
  · exact Or.inr rfl
  · exact Or.inl rfl

theorem signed_nat_abs (offset : Int) :
    (if offsetSign offset = '-' then -(offset.natAbs : Int) else (offset.natAbs : Int)) =
      offset := by
  unfold offsetSign
  by_cases west : offset < 0
  · rw [if_pos west, if_pos rfl]
    omega
  · rw [if_neg west, if_neg (by decide)]
    omega

theorem read_offset_write_offset_minutes {offset : Int} (hours : offset.natAbs / 3600 ≤ 23)
    (minutes : offset.natAbs % 60 = 0) :
    readOffset (writeOffsetMinutes offset) = some offset := by
  have hourFits : offset.natAbs / 3600 < 10 ^ 2 := by omega
  have minuteFits : offset.natAbs / 60 % 60 < 10 ^ 2 := by omega
  have hourTaken := take_number_write_padded (by decide) hourFits
    (':' :: writePadded 2 (offset.natAbs / 60 % 60))
  have minuteTaken := take_number_write_padded (by decide) minuteFits []
  rw [List.append_nil] at minuteTaken
  have inRange : offset.natAbs / 3600 < 24 ∧ offset.natAbs / 60 % 60 < 60 ∧
      ([] : List Char).isEmpty = true := ⟨by omega, by omega, rfl⟩
  have seconds : (offset.natAbs / 3600 * 60 + offset.natAbs / 60 % 60) * 60 = offset.natAbs := by
    omega
  rw [writeOffsetMinutes, List.cons_append, readOffset, if_neg (offset_sign_ne_letter offset),
    if_pos (offset_sign_is_mark offset)]
  simp only [hourTaken, take_char_cons, minuteTaken, Option.bind_eq_bind, Option.bind_some,
    if_pos inRange, seconds]
  exact congrArg some (signed_nat_abs offset)

def writeOffset (offset : Int) : List Char :=
  if offset = 0 then ['Z'] else writeOffsetMinutes offset

theorem read_offset_write_offset {offset : Int} (hours : offset.natAbs / 3600 ≤ 23)
    (minutes : offset.natAbs % 60 = 0) : readOffset (writeOffset offset) = some offset := by
  unfold writeOffset
  split
  · next utc =>
      rw [utc]
      rfl
  · exact read_offset_write_offset_minutes hours minutes

theorem write_offset_ends_fraction (offset : Int) : EndsFraction (writeOffset offset) := by
  unfold writeOffset
  split
  · exact ⟨'Z', [], rfl, by decide, by decide⟩
  · refine ⟨offsetSign offset, _, rfl, ?_⟩
    rcases offset_sign_is_mark offset with mark | mark
    · rw [mark]
      decide
    · rw [mark]
      decide

theorem assemble_local {moment : Moment} :
    assemble moment.localDate moment.localTime moment.offset = some moment := by
  have date := moment.is_valid_local_date
  have time := moment.is_valid_local_time
  have noLeap : moment.localTime.second ≠ 60 := by
    simp only [ClockTime.isValid, Bool.and_eq_true, decide_eq_true_eq] at time
    omega
  simp [assemble, noLeap]

theorem write_internet_form_eq {moment : Moment} (notBefore : 0 ≤ moment.localDate.year) :
    writeInternetForm moment =
      writePadded 4 moment.localDate.year.natAbs ++
        '-' :: (writePadded 2 moment.localDate.month ++
        '-' :: (writePadded 2 moment.localDate.day ++
        'T' :: (writePadded 2 moment.localTime.hour ++
        ':' :: (writePadded 2 moment.localTime.minute ++
        ':' :: (writePadded 2 moment.localTime.second ++
        (writeFraction moment.localTime.nanosecond ++ writeOffset moment.offset)))))) := by
  rw [writeInternetForm, writeDate, if_neg (Int.not_lt.mpr notBefore)]
  simp only [writeMinuteSecond, List.nil_append, List.append_assoc, List.cons_append]
  rfl

theorem read_timestamp_write_internet_form {moment : Moment} (form : hasInternetForm moment = true)
    (year : moment.localDate.year ≤ 9999) :
    readTimestamp (writeInternetForm moment) = some moment := by
  simp only [hasInternetForm, Bool.and_eq_true, decide_eq_true_eq] at form
  obtain ⟨⟨notBefore, hours⟩, minutes⟩ := form
  have date := bounds_of_is_valid moment.is_valid_local_date
  have time := moment.is_valid_local_time
  simp only [ClockTime.isValid, Bool.and_eq_true, decide_eq_true_eq] at time
  have yearFits : moment.localDate.year.natAbs < 10 ^ 4 := by omega
  have monthFits : moment.localDate.month < 10 ^ 2 := by omega
  have dayFits : moment.localDate.day < 10 ^ 2 := by omega
  have hourFits : moment.localTime.hour < 10 ^ 2 := by omega
  have minuteFits : moment.localTime.minute < 10 ^ 2 := by omega
  have secondFits : moment.localTime.second < 10 ^ 2 := by omega
  have sameYear : (moment.localDate.year.natAbs : Int) = moment.localDate.year := by omega
  have fraction := take_fraction_written time.2 (write_offset_ends_fraction moment.offset)
  have offset := read_offset_write_offset hours minutes
  rw [write_internet_form_eq notBefore, readTimestamp]
  simp [take_number_write_padded (by decide) yearFits,
    take_number_write_padded (by decide) monthFits, take_number_write_padded (by decide) dayFits,
    take_number_write_padded (by decide) hourFits, take_number_write_padded (by decide) minuteFits,
    take_number_write_padded (by decide) secondFits, fraction, offset, sameYear]
  exact assemble_local

theorem no_blank_write_internet_form {moment : Moment} (notBefore : 0 ≤ moment.localDate.year) :
    ∀ char ∈ writeInternetForm moment, isBlank char = false := by
  have padded : ∀ width value, ∀ char ∈ writePadded width value, isBlank char = false :=
    fun width value char member =>
      is_blank_of_is_ascii_digit (are_digits_write_padded width value char member)
  have fraction : ∀ char ∈ writeFraction moment.localTime.nanosecond, isBlank char = false := by
    rw [writeFraction]
    split
    · intro char member
      cases member
    · refine List.forall_mem_cons.mpr ⟨by decide, ?_⟩
      exact fun char member => is_blank_of_is_ascii_digit (are_digits_fraction_digits _ char member)
  have offset : ∀ char ∈ writeOffset moment.offset, isBlank char = false := by
    rw [writeOffset]
    split
    · exact List.forall_mem_singleton.mpr (by decide)
    · rw [writeOffsetMinutes, List.cons_append, List.forall_mem_cons, List.forall_mem_append,
        List.forall_mem_cons]
      refine ⟨?_, padded _ _, by decide, padded _ _⟩
      rcases offset_sign_is_mark moment.offset with mark | mark
      · rw [mark]
        decide
      · rw [mark]
        decide
  rw [write_internet_form_eq notBefore]
  simp only [List.forall_mem_append, List.forall_mem_cons]
  exact ⟨padded _ _, by decide, padded _ _, by decide, padded _ _, by decide, padded _ _, by decide,
    padded _ _, by decide, padded _ _, fraction, offset⟩

theorem take_number_lt {count value number : Nat} {chars rest : List Char}
    (taken : takeNumber count value chars = some (number, rest)) :
    number < (value + 1) * 10 ^ count := by
  induction count generalizing value chars with
  | zero =>
      obtain ⟨rfl, -⟩ := Prod.mk.inj (Option.some.inj taken)
      omega
  | succ count induction =>
      cases chars with
      | nil => cases taken
      | cons char others =>
          rw [takeNumber] at taken
          split at taken
          · next digit =>
              have value_le : digitValue char ≤ 9 := digit_value_le digit
              have below := induction taken
              have raised : (10 * value + digitValue char + 1) * 10 ^ count ≤
                  (10 * value + 10) * 10 ^ count := Nat.mul_le_mul_right _ (by omega)
              have power : (value + 1) * 10 ^ (count + 1) = (10 * value + 10) * 10 ^ count := by
                rw [Nat.pow_succ']
                grind
              omega
          · cases taken

theorem read_offset_eq_some {chars : List Char} {offset : Int}
    (read : readOffset chars = some offset) :
    offset.natAbs / 3600 ≤ 23 ∧ offset.natAbs % 60 = 0 := by
  cases chars with
  | nil => cases read
  | cons mark rest =>
      rw [readOffset] at read
      split at read
      · split at read
        · rw [← Option.some.inj read]
          decide
        · cases read
      · split at read
        · simp only [Option.bind_eq_bind, Option.bind_eq_some_iff] at read
          obtain ⟨⟨hour, afterHour⟩, -, colon, -, ⟨minute, last⟩, -, ended⟩ := read
          split at ended
          · next inRange =>
              rw [← Option.some.inj ended]
              split <;> omega
          · cases ended
        · cases read

theorem assemble_eq_some {date : Date} {time : ClockTime} {offset : Int} {moment : Moment}
    (assembled : assemble date time offset = some moment) :
    date.isValid = true ∧
      ∃ shown : ClockTime, shown.isValid = true ∧ moment = Moment.ofLocal date shown offset := by
  simp only [assemble] at assembled
  generalize (if time.second = 60 then _ else time) = shown at assembled
  split at assembled
  · next valid =>
      rw [Bool.and_eq_true] at valid
      split at assembled
      · cases assembled
      · exact ⟨valid.1, shown, valid.2, (Option.some.inj assembled).symm⟩
  · cases assembled

/-- What is read from a text is a moment whose clock shows a date and a time that exist. -/
theorem read_timestamp_eq_some {chars : List Char} {moment : Moment}
    (read : readTimestamp chars = some moment) :
    ∃ date time offset, moment = Moment.ofLocal date time offset ∧ date.isValid = true ∧
      time.isValid = true ∧ 0 ≤ date.year ∧ date.year ≤ 9999 ∧
        offset.natAbs / 3600 ≤ 23 ∧ offset.natAbs % 60 = 0 := by
  simp only [readTimestamp, Option.bind_eq_bind, Option.bind_eq_some_iff] at read
  obtain ⟨⟨year, _⟩, yearTaken, _, -, ⟨month, _⟩, -, _, -, ⟨day, _⟩, -, _, -, ⟨hour, _⟩, -, _, -,
    ⟨minute, _⟩, -, _, -, ⟨second, _⟩, -, ⟨nanosecond, _⟩, -, offset, offsetRead, assembled⟩ := read
  have fourDigits := take_number_lt yearTaken
  obtain ⟨dateValid, time, timeValid, rfl⟩ := assemble_eq_some assembled
  have notAfter : (year : Int) ≤ 9999 := by omega
  exact ⟨_, time, offset, rfl, dateValid, timeValid, Int.natCast_nonneg year, notAfter,
    read_offset_eq_some offsetRead⟩

/-- A moment that is read from any text has an internet form, whatever the clock in UTC shows. -/
theorem has_internet_form_of_read {chars : List Char} {moment : Moment}
    (read : readTimestamp chars = some moment) :
    hasInternetForm moment = true ∧ moment.localDate.year ≤ 9999 := by
  obtain ⟨date, time, offset, rfl, dateValid, timeValid, notBefore, notAfter, hours, minutes⟩ :=
    read_timestamp_eq_some read
  have year := Moment.year_local_date_of_local dateValid timeValid offset
  have sameOffset : (Moment.ofLocal date time offset).offset = offset := rfl
  constructor
  · simp only [hasInternetForm, Bool.and_eq_true, decide_eq_true_eq, year, sameOffset]
    exact ⟨⟨notBefore, hours⟩, minutes⟩
  · rw [year]
    exact notAfter

end DocumentQuery.Calendar
