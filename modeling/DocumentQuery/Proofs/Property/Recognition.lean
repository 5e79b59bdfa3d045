import DocumentQuery.Proofs.Property.Canonical
import DocumentQuery.Proofs.Property.UserPath

/-!
Positions as they are recognized in brackets, as segments of a path and in a storage key. Brackets
and keys take the decimal digits of every script and segments those of ASCII, so that the three
agree exactly as far as no other digits come up.
-/

namespace DocumentQuery.Property

open Text

/-- A text whose decimal digits are all digits of ASCII. -/
def AsciiDigits (text : List Char) : Prop :=
  ∀ char ∈ text, isDecimalDigit char = true → isAsciiDigit char = true

theorem all_ascii_iff (digits : List Char) :
    (∀ char ∈ digits, isAsciiDigit char = true) ↔
      (∀ char ∈ digits, isDecimalDigit char = true) ∧ AsciiDigits digits := by
  constructor
  · intro ascii
    exact ⟨fun char member => is_decimal_digit_of_is_ascii_digit char (ascii char member),
      fun char member _ => ascii char member⟩
  · intro both char member
    exact both.2 char member (both.1 char member)

theorem ascii_digits_star (digits : List Char) :
    AsciiDigits ('*' :: digits) ↔ AsciiDigits digits := by
  have noDigit : isDecimalDigit '*' = false := by decide
  simp [AsciiDigits, noDigit]

theorem is_wildcard_iff_decimal (segment : List Char) :
    isWildcard segment = true ↔
      (∃ digits, segment = '*' :: digits ∧ ∀ char ∈ digits, isDecimalDigit char = true) ∧
        AsciiDigits segment := by
  rw [is_wildcard_iff]
  constructor
  · intro starred
    rcases starred with ⟨digits, rfl, all⟩
    rw [all_ascii_iff] at all
    exact ⟨⟨digits, rfl, all.1⟩, (ascii_digits_star digits).mpr all.2⟩
  · intro starred
    rcases starred with ⟨⟨digits, rfl, all⟩, ascii⟩
    exact ⟨digits, rfl, (all_ascii_iff digits).mpr ⟨all, (ascii_digits_star digits).mp ascii⟩⟩

theorem is_position_iff_decimal (segment : List Char) :
    isPosition segment = true ↔ IsPositionIn isDecimalDigit segment ∧ AsciiDigits segment := by
  have index : isIndex segment = true ↔
      (segment ≠ [] ∧ ∀ char ∈ segment, isDecimalDigit char = true) ∧ AsciiDigits segment := by
    rw [isIndex, Bool.and_eq_true, List.all_eq_true, all_ascii_iff, Bool.not_eq_true',
      List.isEmpty_eq_false_iff, and_assoc]
  rw [isPosition, Bool.or_eq_true, index, is_wildcard_iff_decimal, ← or_and_right]
  rfl

/-! ## In brackets -/

theorem settled_of_plain {path : List Char} (noBracket : '[' ∉ path) : Settled path :=
  settled_of_count_eq_zero (List.count_eq_zero.mpr noBracket)

theorem settled_of_no_position {text : List Char} (plain : ∀ char ∈ text, isNameChar char = true)
    (noPosition : ¬IsPositionIn isDecimalDigit text) :
    Settled ('a' :: '[' :: (text ++ [']'])) := by
  have noOpening : '[' ∉ text := not_mem_of_is_name_char plain rfl
  have noClosing : ']' ∉ text := not_mem_of_is_name_char plain rfl
  intro next step
  generalize whole : 'a' :: '[' :: (text ++ [']']) = path at step
  cases step with
  | @position before after last index named position =>
      rcases before with _ | ⟨_, _ | ⟨_, others⟩⟩
      · simp only [List.nil_append, List.cons.injEq, true_and] at whole
        have indexClosing : ']' ∉ index := not_mem_of_is_position_in position rfl
        obtain ⟨rfl, -⟩ := cut_unique noClosing indexClosing whole.2
        exact noPosition position
      · simp only [List.cons_append, List.nil_append, List.cons.injEq] at whole
        rw [← whole.2.1] at named
        cases named
      · simp only [List.cons_append, List.cons.injEq] at whole
        have opening : '[' ∈ text ++ [']'] := by simp [whole.2.2]
        simp [noOpening] at opening

@[simp] theorem to_list_bracketed (text : String) :
    ("a[" ++ text ++ "]").toList = 'a' :: '[' :: (text.toList ++ [']']) := by simp

@[simp] theorem to_list_slashed (text : String) :
    ("a/" ++ text).toList = 'a' :: '/' :: text.toList := by
  simp

theorem canonical_path_of_position {text : String}
    (plain : ∀ char ∈ text.toList, isNameChar char = true)
    (position : IsPositionIn isDecimalDigit text.toList) :
    canonicalPath ("a[" ++ text ++ "]") = "a/" ++ text := by
  have noOpening : '[' ∉ text.toList := not_mem_of_is_name_char plain rfl
  have settled : Settled ('a' :: '/' :: text.toList) := settled_of_plain (by simp [noOpening])
  have same := canonical_chars_of_brackets [] [] (List.cons_ne_nil 'a' [])
    (List.all_eq_true.mp rfl) position
  rw [List.nil_append, List.nil_append, List.append_nil, List.singleton_append,
    List.singleton_append] at same
  rw [canonicalPath, to_list_bracketed, same, canonical_chars_of_settled settled (by simp),
    ← to_list_slashed, String.ofList_toList]

theorem canonical_path_of_no_position {text : String}
    (plain : ∀ char ∈ text.toList, isNameChar char = true)
    (noPosition : ¬IsPositionIn isDecimalDigit text.toList) :
    canonicalPath ("a[" ++ text ++ "]") = "a[" ++ text ++ "]" := by
  have settled := settled_of_no_position plain noPosition
  rw [canonicalPath, to_list_bracketed, canonical_chars_of_settled settled (by simp),
    ← to_list_bracketed, String.ofList_toList]

theorem canonical_path_eq_slashed_iff {text : String}
    (plain : ∀ char ∈ text.toList, isNameChar char = true) :
    canonicalPath ("a[" ++ text ++ "]") = "a/" ++ text ↔
      IsPositionIn isDecimalDigit text.toList := by
  refine ⟨?_, canonical_path_of_position plain⟩
  intro slashed
  by_contra noPosition
  rw [canonical_path_of_no_position plain noPosition] at slashed
  have chars := congrArg String.toList slashed
  simp at chars

/-! ## In keys -/

theorem closes_wildcard_iff {chars : List Char} (noDot : '.' ∉ chars) :
    closesWildcard chars = true ↔ ∀ char ∈ chars, isDecimalDigit char = true := by
  rw [← List.dropWhile_eq_nil_iff, closesWildcard]
  split
  · next ended => exact ⟨fun _ => ended, fun _ => rfl⟩
  · next suffix found =>
      have member : '.' ∈ chars.dropWhile isDecimalDigit := by simp [found]
      exact absurd ((List.dropWhile_sublist _).subset member) noDot
  · next some _ =>
      constructor
      · intro closes
        cases closes
      · intro ended
        exact absurd ended some

theorem reaches_wildcard_iff (key : List Char) :
    reachesWildcard key = true ↔
      ∃ front rest, key = front ++ '.' :: '*' :: rest ∧ '*' ∉ front ∧
        closesWildcard rest = true := by
  constructor
  · intro reaches
    rw [reachesWildcard] at reaches
    split at reaches
    · cases reaches
    · next first rest found =>
        obtain ⟨dotted, closes⟩ := Bool.and_eq_true_iff.mp reaches
        obtain ⟨front, taken⟩ := List.getLast?_eq_some_iff.mp (of_decide_eq_true dotted)
        have star : first = '*' := by
          have fails := List.head?_dropWhile_not (fun char => decide (char ≠ '*')) key
          rw [found] at fails
          simpa using fails
        have whole := List.takeWhile_append_dropWhile (p := fun char => char ≠ '*') (l := key)
        rw [taken, found, star] at whole
        refine ⟨front, rest, by simpa using whole.symm, ?_, closes⟩
        intro member
        have inTaken : '*' ∈ key.takeWhile (fun char => char ≠ '*') := by
          rw [taken]
          exact List.mem_append_left _ member
        have noStar := List.mem_takeWhile_imp inTaken
        simp at noStar
  · intro cut
    obtain ⟨front, rest, rfl, noStar, closes⟩ := cut
    have passed : ∀ char ∈ front ++ ['.'], decide (char ≠ '*') = true := by
      intro char member
      rcases List.mem_append.mp member with inFront | dot
      · exact decide_eq_true fun star => noStar (star ▸ inFront)
      · rw [List.mem_singleton.mp dot]
        rfl
    have whole : front ++ '.' :: '*' :: rest = (front ++ ['.']) ++ '*' :: rest := by simp
    rw [whole, reachesWildcard, List.dropWhile_append_of_pos passed,
      List.takeWhile_append_of_pos passed]
    simp [closes]

/-- The second segment of a key is a wildcard exactly if it is a star with or without digits. -/
theorem reaches_wildcard_second_iff {text : List Char} (noDot : '.' ∉ text) :
    reachesWildcard ('a' :: '.' :: text) = true ↔
      ∃ digits, text = '*' :: digits ∧ ∀ char ∈ digits, isDecimalDigit char = true := by
  rw [reaches_wildcard_iff]
  constructor
  · intro reaches
    obtain ⟨front, rest, whole, -, closes⟩ := reaches
    rcases front with _ | ⟨_, _ | ⟨_, others⟩⟩
    · simp at whole
    · simp only [List.cons_append, List.nil_append, List.cons.injEq, true_and] at whole
      obtain ⟨-, rfl⟩ := whole
      have restNoDot : '.' ∉ rest := fun member => noDot (List.mem_cons_of_mem _ member)
      exact ⟨rest, rfl, (closes_wildcard_iff restNoDot).mp closes⟩
    · simp only [List.cons_append, List.cons.injEq] at whole
      exact absurd (by simp [whole.2.2]) noDot
  · intro starred
    obtain ⟨digits, rfl, all⟩ := starred
    have digitsNoDot : '.' ∉ digits := fun member => noDot (List.mem_cons_of_mem _ member)
    exact ⟨['a'], digits, rfl, by decide, (closes_wildcard_iff digitsNoDot).mpr all⟩

/-! ## Together -/

/-- A text is a position for the segments of a path exactly if brackets take it for one and all its
decimal digits are digits of ASCII, and a wildcard exactly if keys do and its digits are so. What
brackets take for a position is then a step into a list, and they leave any other text as it is. -/
theorem positions_recognized (text : String)
    (plain : ∀ char ∈ text.toList, isNameChar char = true) :
    (isIndex text.toList = true ∨ isWildcard text.toList = true ↔
      canonicalPath ("a[" ++ text ++ "]") = "a/" ++ text ∧ AsciiDigits text.toList) ∧
    ('.' ∉ text.toList → (isWildcard text.toList = true ↔
      reachesWildcard ("a." ++ text).toList = true ∧ AsciiDigits text.toList)) ∧
    (canonicalPath ("a[" ++ text ++ "]") = "a/" ++ text ↔
      IsPositionIn isDecimalDigit text.toList) ∧
    (canonicalPath ("a[" ++ text ++ "]") ≠ "a/" ++ text →
      canonicalPath ("a[" ++ text ++ "]") = "a[" ++ text ++ "]") ∧
    (canonicalPath ("a[" ++ text ++ "]") = "a/" ++ text → AsciiDigits text.toList →
      ∀ type : FieldType, type.step? text.toList = type.element?) := by
  have inBrackets := canonical_path_eq_slashed_iff plain
  have asSegment : isIndex text.toList = true ∨ isWildcard text.toList = true ↔
      IsPositionIn isDecimalDigit text.toList ∧ AsciiDigits text.toList := by
    rw [← is_position_iff_decimal, isPosition, Bool.or_eq_true]
  refine ⟨?_, ?_, inBrackets, ?_, ?_⟩
  · rw [inBrackets, asSegment]
  · intro noDot
    have inKey : ("a." ++ text).toList = 'a' :: '.' :: text.toList := by simp
    rw [is_wildcard_iff_decimal, inKey, reaches_wildcard_second_iff noDot]
  · intro unchanged
    exact canonical_path_of_no_position plain (fun position => unchanged (inBrackets.mpr position))
  · intro slashed ascii type
    have position : isPosition text.toList = true :=
      (is_position_iff_decimal _).mpr ⟨inBrackets.mp slashed, ascii⟩
    rw [FieldType.step?, if_pos position]

/-- A star and two digits of ASCII. -/
theorem positions_recognized_starred :
    (∀ char ∈ "*07".toList, isNameChar char = true) ∧ isWildcard "*07".toList = true ∧
      canonicalPath ("a[" ++ "*07" ++ "]") = "a/*07" ∧
      reachesWildcard ("a." ++ "*07").toList = true ∧
      (FieldType.list (.scalar .date)).step? "*07".toList = some (.scalar .date) := by
  have plain : ∀ char ∈ "*07".toList, isNameChar char = true := List.all_eq_true.mp rfl
  have wildcard : isWildcard "*07".toList = true := rfl
  obtain ⟨asSegment, inKey, -, -, walked⟩ := positions_recognized "*07" plain
  obtain ⟨rewritten, ascii⟩ := asSegment.mp (Or.inr wildcard)
  exact ⟨plain, wildcard, rewritten, ((inKey (by decide +kernel)).mp wildcard).1,
    walked rewritten ascii (.list (.scalar .date))⟩

/-- Brackets and keys take a digit of another script for a position. As a segment it is a name, and
leads to a part of that name instead of into a list. -/
theorem foreign_digit_recognized_apart :
    canonicalPath "a[٣]" = "a/٣" ∧ isIndex "٣".toList = false ∧ isWildcard "٣".toList = false ∧
      reachesWildcard "a.*٣".toList = true ∧ isWildcard "*٣".toList = false ∧
      (FieldType.list (.scalar .date)).step? "٣".toList = none ∧
      (FieldType.complex "c" [⟨⟨none, "٣"⟩, .scalar .date⟩]).step? "٣".toList =
        some (.scalar .date) := by
  have rewritten : canonicalPath "a[٣]" = "a/٣" := by decide +kernel
  exact ⟨rewritten, rfl, rfl, rfl, rfl, rfl, rfl⟩

end DocumentQuery.Property
