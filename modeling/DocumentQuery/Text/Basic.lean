/-!
Classes of characters, and texts read by them: without white space at either end, and without
regard to case. White space is that of Unicode, without the zero width space and the byte order
mark; decimal digits are those of ASCII or those of every script (general category Nd of
Unicode 16); and only the letters of ASCII have a case.
-/

namespace DocumentQuery.Text

/-- Whether a code point lies in one of the ranges, which are ascending and disjoint: the search
stops at the first that begins after it. -/
def inRanges (code : Nat) : List (Nat × Nat) → Bool
  | [] => false
  | (first, last) :: rest =>
      if code < first then false else if code ≤ last then true else inRanges code rest

def blankRanges : List (Nat × Nat) :=
  [(0x9, 0xD), (0x20, 0x20), (0x85, 0x85), (0xA0, 0xA0), (0x1680, 0x1680), (0x2000, 0x200A),
   (0x2028, 0x2029), (0x202F, 0x202F), (0x205F, 0x205F), (0x3000, 0x3000)]

def isBlank (char : Char) : Bool := inRanges char.toNat blankRanges

def decimalDigitRanges : List (Nat × Nat) :=
  [(0x30, 0x39), (0x660, 0x669), (0x6F0, 0x6F9), (0x7C0, 0x7C9), (0x966, 0x96F), (0x9E6, 0x9EF),
   (0xA66, 0xA6F), (0xAE6, 0xAEF), (0xB66, 0xB6F), (0xBE6, 0xBEF), (0xC66, 0xC6F), (0xCE6, 0xCEF),
   (0xD66, 0xD6F), (0xDE6, 0xDEF), (0xE50, 0xE59), (0xED0, 0xED9), (0xF20, 0xF29),
   (0x1040, 0x1049), (0x1090, 0x1099), (0x17E0, 0x17E9), (0x1810, 0x1819), (0x1946, 0x194F),
   (0x19D0, 0x19D9), (0x1A80, 0x1A89), (0x1A90, 0x1A99), (0x1B50, 0x1B59), (0x1BB0, 0x1BB9),
   (0x1C40, 0x1C49), (0x1C50, 0x1C59), (0xA620, 0xA629), (0xA8D0, 0xA8D9), (0xA900, 0xA909),
   (0xA9D0, 0xA9D9), (0xA9F0, 0xA9F9), (0xAA50, 0xAA59), (0xABF0, 0xABF9), (0xFF10, 0xFF19),
   (0x104A0, 0x104A9), (0x10D30, 0x10D39), (0x10D40, 0x10D49), (0x11066, 0x1106F),
   (0x110F0, 0x110F9), (0x11136, 0x1113F), (0x111D0, 0x111D9), (0x112F0, 0x112F9),
   (0x11450, 0x11459), (0x114D0, 0x114D9), (0x11650, 0x11659), (0x116C0, 0x116C9),
   (0x116D0, 0x116E3), (0x11730, 0x11739), (0x118E0, 0x118E9), (0x11950, 0x11959),
   (0x11BF0, 0x11BF9), (0x11C50, 0x11C59), (0x11D50, 0x11D59), (0x11DA0, 0x11DA9),
   (0x11F50, 0x11F59), (0x16130, 0x16139), (0x16A60, 0x16A69), (0x16AC0, 0x16AC9),
   (0x16B50, 0x16B59), (0x16D70, 0x16D79), (0x1CCF0, 0x1CCF9), (0x1D7CE, 0x1D7FF),
   (0x1E140, 0x1E149), (0x1E2F0, 0x1E2F9), (0x1E4F0, 0x1E4F9), (0x1E5F1, 0x1E5FA),
   (0x1E950, 0x1E959), (0x1FBF0, 0x1FBF9)]

def isDecimalDigit (char : Char) : Bool := inRanges char.toNat decimalDigitRanges

def isAsciiDigit (char : Char) : Bool := '0' ≤ char && char ≤ '9'

theorem is_decimal_digit_of_is_ascii_digit (char : Char) (digit : isAsciiDigit char = true) :
    isDecimalDigit char = true := by
  have lower : 48 ≤ char.toNat := by
    simp only [isAsciiDigit, Bool.and_eq_true, decide_eq_true_eq] at digit
    exact digit.1
  have upper : char.toNat ≤ 57 := by
    simp only [isAsciiDigit, Bool.and_eq_true, decide_eq_true_eq] at digit
    exact digit.2
  simp [isDecimalDigit, decimalDigitRanges, inRanges, Nat.not_lt.mpr lower, upper]

def dropEnd (test : Char → Bool) (chars : List Char) : List Char :=
  (chars.reverse.dropWhile test).reverse

/-- Only copies of the mark are cut, from the end alone, and none is left there. -/
theorem drop_end_mark (mark : Char) (chars : List Char) :
    (∃ count, chars = dropEnd (· = mark) chars ++ List.replicate count mark) ∧
      (dropEnd (· = mark) chars).getLast? ≠ some mark := by
  constructor
  · have marks : ∀ char ∈ (chars.reverse.takeWhile (· = mark)).reverse, char = mark := by
      intro char member
      have tested := List.all_eq_true.mp List.all_takeWhile char (List.mem_reverse.mp member)
      exact of_decide_eq_true tested
    refine ⟨(chars.reverse.takeWhile (· = mark)).reverse.length, ?_⟩
    rw [← List.eq_replicate_of_mem marks, dropEnd, ← List.reverse_append,
      List.takeWhile_append_dropWhile, List.reverse_reverse]
  · intro last
    rw [dropEnd, List.getLast?_reverse] at last
    have tested := List.head?_dropWhile_not (· = mark) chars.reverse
    rw [last] at tested
    exact of_decide_eq_false tested rfl

def trimChars (chars : List Char) : List Char := dropEnd isBlank (chars.dropWhile isBlank)

def trim (text : String) : String := String.ofList (trimChars text.toList)

def lowerChar (char : Char) : Char :=
  if 'A' ≤ char ∧ char ≤ 'Z' then Char.ofNat (char.toNat + 32) else char

def lower (text : String) : String := String.ofList (text.toList.map lowerChar)

def sameCaseless (left right : String) : Bool :=
  decide (left.toList.map lowerChar = right.toList.map lowerChar)

end DocumentQuery.Text
