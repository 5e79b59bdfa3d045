import DocumentQuery.Filter.Literal
import DocumentQuery.Proofs.Calendar.Timestamp

/-!
Literals that are read from texts, and read again from the texts that display them. A date that is
read keeps its own clock when it is displayed, so that nothing of it is lost even where the clock in
UTC shows a year without a text of its own.
-/

namespace DocumentQuery

open Calendar Text

@[simp] theorem LiteralType.read_name (type : LiteralType) : read type.name = .ok type := by
  cases type <;> rfl

namespace Literal

theorem parse_eq_ok_iff {typeName text : String} {literal : Literal} :
    parse typeName text = .ok literal ↔
      ∃ type, LiteralType.read typeName = .ok type ∧ ofText? type text = some literal := by
  unfold parse
  cases LiteralType.read typeName with
  | error fault => simp
  | ok type =>
      cases found : ofText? type text with
      | none => simp [found]
      | some other => simp [found]

theorem of_text_eq_date {type : LiteralType} {text : String} {moment : Moment}
    (read : ofText? type text = some (.date moment)) :
    readTimestamp (trimChars text.toList) = some moment := by
  cases type with
  | boolean =>
      simp only [ofText?] at read
      split at read
      · cases read
      · split at read <;> cases read
  | date =>
      simp only [ofText?, Option.map_eq_some_iff] at read
      rcases read with ⟨other, found, same⟩
      rw [found, Literal.date.inj same]
  | double | integer =>
      simp only [ofText?, Option.map_eq_some_iff, reduceCtorEq, and_false, exists_false] at read
  | string => cases read

/-- The text of a date in the years of four digits is read as the date itself. -/
theorem of_text_write_internet_form {moment : Moment} (form : hasInternetForm moment = true)
    (year : moment.localDate.year ≤ 9999) :
    ofText? .date (String.ofList (writeInternetForm moment)) = some (date moment) := by
  have inRange := form
  simp only [hasInternetForm, Bool.and_eq_true, decide_eq_true_eq] at inRange
  obtain ⟨⟨notBefore, -⟩, -⟩ := inRange
  simp only [ofText?, String.toList_ofList,
    trim_chars_of_no_blank (no_blank_write_internet_form notBefore),
    read_timestamp_write_internet_form form year, Option.map_some]

/-- What is read as a date is displayed as a time stamp in the internet form, and the text of this
time stamp is read as the very same date, to the nanosecond and with its offset. -/
theorem display_of_date_reads_back {text : String} {literal : Literal}
    (read : parse "date" text = .ok literal) :
    ∃ moment, literal = date moment ∧
      literal.display = "TIMESTAMP '" ++ String.ofList (writeInternetForm moment) ++ "'" ∧
      parse "date" (String.ofList (writeInternetForm moment)) = .ok literal := by
  have dateType : LiteralType.read "date" = .ok .date := LiteralType.read_name .date
  obtain ⟨type, typeRead, found⟩ := parse_eq_ok_iff.mp read
  obtain rfl : LiteralType.date = type := Except.ok.inj (dateType.symm.trans typeRead)
  obtain ⟨moment, momentRead, rfl⟩ : ∃ moment, readTimestamp (trimChars text.toList) = some moment ∧
      date moment = literal := Option.map_eq_some_iff.mp found
  obtain ⟨form, year⟩ := has_internet_form_of_read momentRead
  have written : writeTimestamp moment = writeInternetForm moment := if_pos form
  refine ⟨moment, rfl, ?_, ?_⟩
  · rw [display, written]
  · exact parse_eq_ok_iff.mpr ⟨.date, dateType, of_text_write_internet_form form year⟩

/-- Half an hour into the year zero on a clock in the east, which is the year before in UTC. -/
def yearZeroEast : Moment := ⟨-62167220999880000000, 3600⟩

/-- The last nanosecond of the year 9999 in UTC, which stands in for a leap second. -/
def leapSecondWest : Moment := ⟨253402300799999999999, -60⟩

theorem display_of_date_reads_back_edges :
    (parse "date" "\t0000-01-01x00:30:00.1200+01:00 " = .ok (date yearZeroEast) ∧
      (date yearZeroEast).display = "TIMESTAMP '0000-01-01T00:30:00.12+01:00'" ∧
      parse "date" "0000-01-01T00:30:00.12+01:00" = .ok (date yearZeroEast)) ∧
    parse "date" "9999-12-31 23:58:60.5-00:01" = .ok (date leapSecondWest) ∧
      (date leapSecondWest).display = "TIMESTAMP '9999-12-31T23:58:59.999999999-00:01'" ∧
      parse "date" "9999-12-31T23:58:59.999999999-00:01" = .ok (date leapSecondWest) := by
  have east : parse "date" "\t0000-01-01x00:30:00.1200+01:00 " = .ok (date yearZeroEast) := rfl
  have west : parse "date" "9999-12-31 23:58:60.5-00:01" = .ok (date leapSecondWest) := rfl
  obtain ⟨moment, sameEast, shownEast, againEast⟩ := display_of_date_reads_back east
  obtain ⟨other, sameWest, shownWest, againWest⟩ := display_of_date_reads_back west
  rw [← date.inj sameEast] at shownEast againEast
  rw [← date.inj sameWest] at shownWest againWest
  exact ⟨⟨east, shownEast, againEast⟩, west, shownWest, againWest⟩

end Literal

end DocumentQuery
