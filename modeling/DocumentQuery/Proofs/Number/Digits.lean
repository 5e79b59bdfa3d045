import DocumentQuery.Number.Digits
import Mathlib.Algebra.GroupWithZero.Nat

/-!
Numbers that are written and read again. A whole number is read from its digits, with zeros in
front of them or without, and a signed integer of 64 bits from its text.
-/

namespace DocumentQuery.Number

open DocumentQuery.Text

def AreDigits (chars : List Char) : Prop := ∀ char ∈ chars, isAsciiDigit char = true

theorem is_blank_of_is_ascii_digit {char : Char} (digit : isAsciiDigit char = true) :
    isBlank char = false := by
  simp only [isAsciiDigit, Bool.and_eq_true, decide_eq_true_eq] at digit
  have lower : 48 ≤ char.toNat := digit.1
  have upper : char.toNat ≤ 57 := digit.2
  simp only [isBlank, blankRanges, inRanges]
  grind

theorem digit_value_le {char : Char} (digit : isAsciiDigit char = true) : digitValue char ≤ 9 := by
  simp only [isAsciiDigit, Bool.and_eq_true, decide_eq_true_eq] at digit
  have upper : char.toNat ≤ 57 := digit.2
  unfold digitValue
  omega

theorem are_digits_write_nat (value : Nat) : AreDigits (writeNat value) := by
  intro char member
  exact Nat.isDigit_of_mem_toDigits (by decide) (by decide) member

theorem are_digits_write_padded (width value : Nat) : AreDigits (writePadded width value) := by
  intro char member
  rcases List.mem_append.mp member with zero | digit
  · rw [List.eq_of_mem_replicate zero]
    rfl
  · exact are_digits_write_nat value char digit

/-- Zeros in front do not change a number. -/
@[simp] theorem of_digit_chars_write_padded (width value : Nat) :
    Nat.ofDigitChars 10 (writePadded width value) 0 = value := by
  rw [writePadded, Nat.ofDigitChars_append, Nat.ofDigitChars_replicate_zero, Nat.mul_zero]
  exact Nat.ofDigitChars_ten_toDigits

theorem length_write_padded {width value : Nat} (positive : 0 < width)
    (fits : value < 10 ^ width) : (writePadded width value).length = width := by
  have short : (writeNat value).length ≤ width :=
    (Nat.length_toDigits_le_iff (by decide) positive).mpr fits
  rw [writePadded, List.length_append, List.length_replicate]
  omega

theorem append_digits_of_digits {chars : List Char} (digits : AreDigits chars) (value : Nat) :
    appendDigits value chars = some (Nat.ofDigitChars 10 chars value) := by
  induction chars generalizing value with
  | nil => rfl
  | cons char rest induction =>
      obtain ⟨first, others⟩ := List.forall_mem_cons.mp digits
      rw [appendDigits, if_pos first, induction others, Nat.ofDigitChars_cons]
      rfl

@[simp] theorem read_nat_write_nat (value : Nat) : readNat (writeNat value) = some value := by
  have written : writeNat value ≠ [] := Nat.toDigits_ne_nil
  rw [readNat, if_neg (fun empty => written (List.isEmpty_iff.mp empty)),
    append_digits_of_digits (are_digits_write_nat value)]
  exact congrArg some Nat.ofDigitChars_ten_toDigits

theorem split_sign_of_digits {chars : List Char} (digits : AreDigits chars) :
    splitSign chars = (false, chars) := by
  unfold splitSign
  split
  · exact absurd (digits '-' List.mem_cons_self) (by decide)
  · exact absurd (digits '+' List.mem_cons_self) (by decide)
  · rfl

@[simp] theorem read_int_write_int (value : Int) : readInt (writeInt value) = some value := by
  rw [writeInt]
  split
  · next negative =>
      have same : -(value.natAbs : Int) = value := by omega
      simp only [readInt, splitSign, read_nat_write_nat]
      exact congrArg some same
  · next positive =>
      have same : (value.natAbs : Int) = value := by omega
      rw [readInt, split_sign_of_digits (are_digits_write_nat _)]
      simp only [read_nat_write_nat]
      exact congrArg some same

@[simp] theorem read_int64_write_int64 (value : Int64) :
    readInt64 (writeInt64 value) = some value := by
  have inRange : Int64.minValue.toInt ≤ value.toInt ∧ value.toInt ≤ Int64.maxValue.toInt :=
    ⟨Int64.le_toInt value, Int64.toInt_le value⟩
  rw [readInt64, writeInt64, read_int_write_int]
  simp only [Option.bind_eq_bind, Option.bind_some, if_pos inRange, Int64.ofInt_toInt]

theorem no_blank_write_int64 (value : Int64) :
    ∀ char ∈ writeInt64 value, isBlank char = false := by
  have digits : ∀ char ∈ writeNat value.toInt.natAbs, isBlank char = false :=
    fun char member => is_blank_of_is_ascii_digit (are_digits_write_nat _ char member)
  rw [writeInt64, writeInt]
  split
  · exact List.forall_mem_cons.mpr ⟨by decide, digits⟩
  · exact digits

theorem write_int64_eq_to_string (value : Int64) :
    String.ofList (writeInt64 value) = toString value := by
  have shown : toString value = value.toInt.repr := rfl
  rw [shown, writeInt64, writeInt]
  cases value.toInt with
  | ofNat digits => rfl
  | negSucc digits =>
      rw [if_pos (Int.negSucc_lt_zero digits), Int.repr]
      exact @String.ofList_append ['-'] (writeNat (digits + 1))

end DocumentQuery.Number
