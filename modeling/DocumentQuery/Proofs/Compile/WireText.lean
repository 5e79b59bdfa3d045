import DocumentQuery.Proofs.Compile.Lowering
import DocumentQuery.Proofs.Filter.Literal

/-!
Literals as texts of the engine, read again as literals. Booleans, integers and strings come back as
they were, and dates in the years of four digits come back in UTC, to the nanosecond. Nothing is
said of doubles.
-/

namespace DocumentQuery

open Calendar Number Text

namespace Literal

def inUtc : Literal → Literal
  | date moment => date moment.toUtc
  | boolean value => boolean value
  | double value => double value
  | integer value => integer value
  | string value => string value

/-- No double, and no date outside of the years 0 to 9999 in UTC. -/
def IsReadable : Literal → Prop
  | date moment => 0 ≤ moment.toUtc.localDate.year ∧ moment.toUtc.localDate.year ≤ 9999
  | boolean _ | integer _ | string _ => True
  | double _ => False

end Literal

namespace WireValue

theorem has_internet_form_to_utc {moment : Moment} (notBefore : 0 ≤ moment.toUtc.localDate.year) :
    hasInternetForm moment.toUtc = true := by
  have utc : moment.toUtc.offset = 0 := rfl
  simp only [hasInternetForm, utc, Bool.and_eq_true, decide_eq_true_eq]
  exact ⟨⟨notBefore, by decide⟩, rfl⟩

theorem date_text_of_readable {moment : Moment} (readable : (Literal.date moment).IsReadable) :
    dateText? moment = some (String.ofList (writeInternetForm moment.toUtc)) := by
  obtain ⟨notBefore, notAfter⟩ := readable
  have inRange : moment.toUtc.localDate.year.natAbs ≤ greatestYear := by
    unfold greatestYear
    omega
  rw [dateText?, if_pos inRange, writeTimestamp, if_pos (has_internet_form_to_utc notBefore)]

theorem of_text_date_text {moment : Moment} (readable : (Literal.date moment).IsReadable) :
    Literal.ofText? .date (String.ofList (writeInternetForm moment.toUtc)) =
      some (.date moment.toUtc) := by
  obtain ⟨notBefore, notAfter⟩ := readable
  exact Literal.of_text_write_internet_form (has_internet_form_to_utc notBefore) notAfter

theorem of_text_wire_text {literal : Literal} (readable : literal.IsReadable) :
    ∃ text, (ofLiteral literal).wireText? = some text ∧
      Literal.ofText? literal.type text = some literal.inUtc := by
  cases literal with
  | boolean value =>
      refine ⟨_, rfl, ?_⟩
      cases value <;> rfl
  | date moment => exact ⟨_, date_text_of_readable readable, of_text_date_text readable⟩
  | double value => exact readable.elim
  | integer value =>
      refine ⟨_, rfl, ?_⟩
      simp [Literal.type, Literal.ofText?, trim_chars_of_no_blank (no_blank_write_int64 value),
        Literal.inUtc]
  | string value => exact ⟨value, rfl, rfl⟩

/-- Two dates have the same text exactly if they are the same instant. -/
theorem date_text_eq_iff {first second : Moment} (firstReadable : (Literal.date first).IsReadable)
    (secondReadable : (Literal.date second).IsReadable) :
    dateText? first = dateText? second ↔ first.instant = second.instant := by
  constructor
  · intro same
    rw [date_text_of_readable firstReadable, date_text_of_readable secondReadable,
      Option.some.injEq] at same
    have read := of_text_date_text firstReadable
    rw [same, of_text_date_text secondReadable, Option.some.injEq, Literal.date.injEq] at read
    exact (congrArg Moment.instant read).symm
  · intro same
    have utc : first.toUtc = second.toUtc := by
      simp only [Moment.toUtc, same]
    simp only [dateText?, utc]

end WireValue

namespace Lowering

theorem of_literal_of_not_boolean {property : Property}
    (noBoolean : property.declared.isBoolean = false) (literal : Literal) :
    Comparand.ofLiteral property literal = .ok (.value (WireValue.ofLiteral literal)) := by
  cases literal with
  | integer integer =>
      rw [Comparand.ofLiteral, noBoolean]
      rfl
  | boolean _ | date _ | double _ | string _ => rfl

/-- Beside a property that is no boolean, a literal has a text which is read, under the name of its
own type, as the literal itself or, for a date, as the same instant in UTC. Two dates therefore have
the same text exactly if they are the same instant. -/
theorem spelled_is_read_back :
    (∀ property literal, property.declared.isBoolean = false → literal.IsReadable →
      ∃ value text, Spelled property literal value text ∧
        Literal.parse literal.type.name text = .ok literal.inUtc) ∧
    ∀ first second : Moment, (Literal.date first).IsReadable → (Literal.date second).IsReadable →
      ((WireValue.date first).wireText? = (WireValue.date second).wireText? ↔
        first.instant = second.instant) := by
  constructor
  · intro property literal noBoolean readable
    obtain ⟨text, written, read⟩ := WireValue.of_text_wire_text readable
    exact ⟨_, text, ⟨of_literal_of_not_boolean noBoolean literal, written⟩,
      Literal.parse_eq_ok_iff.mpr ⟨literal.type, literal.type.read_name, read⟩⟩
  · intro first second firstReadable secondReadable
    exact WireValue.date_text_eq_iff firstReadable secondReadable

def titleProperty : Property :=
  ⟨"dc:title", "dc.title", .scalar .string, false, false, false, false⟩

/-- The last eighth of a second of a leap day in UTC, on a clock far in the east. -/
def leapDayEnd : Moment := ⟨1709251199875000000, 50400⟩

def leapDayEndWest : Moment := ⟨1709251199875000000, -16200⟩

theorem spelled_is_read_back_leap_day :
    (Literal.date leapDayEnd).IsReadable ∧ (Literal.date leapDayEndWest).IsReadable ∧
      Literal.parse "date" "2024-02-29T23:59:59.875Z" = .ok (.date ⟨1709251199875000000, 0⟩) ∧
      (WireValue.date leapDayEnd).wireText? = (WireValue.date leapDayEndWest).wireText? := by
  have east : (Literal.date leapDayEnd).IsReadable := by
    unfold Literal.IsReadable
    decide +kernel
  have west : (Literal.date leapDayEndWest).IsReadable := by
    unfold Literal.IsReadable
    decide +kernel
  have written : (WireValue.date leapDayEnd).wireText? = some "2024-02-29T23:59:59.875Z" := by
    decide +kernel
  obtain ⟨value, text, ⟨coerced, spelled⟩, read⟩ :=
    spelled_is_read_back.1 titleProperty (.date leapDayEnd) rfl east
  obtain rfl : WireValue.date leapDayEnd = value := Comparand.value.inj (Except.ok.inj coerced)
  obtain rfl := Option.some.inj (written.symm.trans spelled)
  exact ⟨east, west, read, (spelled_is_read_back.2 _ _ east west).mpr rfl⟩

end Lowering

end DocumentQuery
