import DocumentQuery.Property.Spelling
import DocumentQuery.Proofs.Text.Cut
import Mathlib.Logic.Relation

/-!
Positions in brackets, rewritten into segments one at a time. A pass over a path rewrites some of
them, and changes nothing only when there are none. Positions in brackets never overlap, so that
the order in which they are rewritten makes no difference to what is left in the end.
-/

namespace DocumentQuery.Property

open Relation Text

/-- A position in digits of some kind: one digit or more, or a star and any number of digits. -/
def IsPositionIn (isDigit : Char → Bool) (segment : List Char) : Prop :=
  (segment ≠ [] ∧ ∀ char ∈ segment, isDigit char = true) ∨
    ∃ digits, segment = '*' :: digits ∧ ∀ char ∈ digits, isDigit char = true

theorem is_name_char_of_is_decimal_digit {char : Char} (digit : isDecimalDigit char = true) :
    isNameChar char = true := by
  have slash : char ≠ '/' := by
    rintro rfl
    revert digit
    decide
  have opening : char ≠ '[' := by
    rintro rfl
    revert digit
    decide
  have closing : char ≠ ']' := by
    rintro rfl
    revert digit
    decide
  simp [isNameChar, slash, opening, closing]

theorem is_name_char_of_is_position_in {index : List Char}
    (position : IsPositionIn isDecimalDigit index) : ∀ char ∈ index, isNameChar char = true := by
  intro char member
  rcases position with ⟨-, digits⟩ | ⟨digits, rfl, all⟩
  · exact is_name_char_of_is_decimal_digit (digits char member)
  · rcases List.mem_cons.mp member with rfl | later
    · rfl
    · exact is_name_char_of_is_decimal_digit (all char later)

theorem not_mem_of_is_name_char {name : List Char} (named : ∀ char ∈ name, isNameChar char = true)
    {char : Char} (other : isNameChar char = false) : char ∉ name := by
  intro member
  rw [named char member] at other
  cases other

theorem not_mem_of_is_position_in {index : List Char} (position : IsPositionIn isDecimalDigit index)
    {char : Char} (other : isNameChar char = false) : char ∉ index :=
  not_mem_of_is_name_char (is_name_char_of_is_position_in position) other

theorem drop_while_digits_iff (chars rest : List Char) :
    chars.dropWhile isDecimalDigit = ']' :: rest ↔
      ∃ digits, chars = digits ++ ']' :: rest ∧ ∀ char ∈ digits, isDecimalDigit char = true := by
  constructor
  · intro closes
    refine ⟨chars.takeWhile isDecimalDigit, ?_, fun char => List.mem_takeWhile_imp⟩
    rw [← closes, List.takeWhile_append_dropWhile]
  · intro run
    rcases run with ⟨digits, rfl, all⟩
    rw [List.dropWhile_append_of_pos all, List.dropWhile_cons_of_neg (by decide)]

theorem take_while_digits {digits rest : List Char}
    (all : ∀ char ∈ digits, isDecimalDigit char = true) :
    (digits ++ ']' :: rest).takeWhile isDecimalDigit = digits := by
  rw [List.takeWhile_append_of_pos all, List.takeWhile_cons_of_neg (by decide), List.append_nil]

theorem opens_position_star (chars : List Char) :
    opensPosition ('*' :: chars) = true ↔
      ∃ rest, chars.dropWhile isDecimalDigit = ']' :: rest := by
  simp only [opensPosition, if_true, List.drop_succ_cons, List.drop_zero]
  split
  · next rest closes => simp [closes]
  · next noneCloses => simpa using noneCloses

theorem opens_position_of_head_ne_star {chars : List Char} (unstarred : chars.head? ≠ some '*') :
    opensPosition chars = true ↔
      (∃ rest, chars.dropWhile isDecimalDigit = ']' :: rest) ∧
        chars.takeWhile isDecimalDigit ≠ [] := by
  unfold opensPosition
  split
  · exact absurd rfl unstarred
  · simp only [Bool.false_eq_true, if_false, Bool.false_or]
    split
    · next rest closes => simp [closes]
    · next noneCloses => simpa using fun rest closes => absurd closes (noneCloses rest)

theorem opens_position_iff (chars : List Char) :
    opensPosition chars = true ↔
      ∃ index rest, chars = index ++ ']' :: rest ∧ IsPositionIn isDecimalDigit index := by
  by_cases starred : chars.head? = some '*'
  · obtain ⟨tail, rfl⟩ := List.head?_eq_some_iff.mp starred
    simp only [opens_position_star, drop_while_digits_iff]
    constructor
    · intro closed
      obtain ⟨rest, digits, rfl, all⟩ := closed
      exact ⟨'*' :: digits, rest, rfl, Or.inr ⟨digits, rfl, all⟩⟩
    · intro opens
      obtain ⟨index, rest, whole, ⟨someDigit, all⟩ | ⟨digits, rfl, all⟩⟩ := opens
      · -- A star is no digit.
        cases index with
        | nil => exact absurd rfl someDigit
        | cons first others =>
            obtain ⟨rfl, -⟩ := List.cons.inj whole
            exact absurd (all '*' List.mem_cons_self) (by decide)
      · exact ⟨rest, digits, (List.cons.inj whole).2, all⟩
  · rw [opens_position_of_head_ne_star starred]
    constructor
    · intro closed
      obtain ⟨⟨rest, closes⟩, someDigit⟩ := closed
      obtain ⟨digits, rfl, all⟩ := (drop_while_digits_iff _ _).mp closes
      rw [take_while_digits all] at someDigit
      exact ⟨digits, rest, rfl, Or.inl ⟨someDigit, all⟩⟩
    · intro opens
      obtain ⟨index, rest, rfl, ⟨someDigit, all⟩ | ⟨digits, rfl, -⟩⟩ := opens
      · refine ⟨⟨rest, (drop_while_digits_iff _ _).mpr ⟨index, rfl, all⟩⟩, ?_⟩
        rw [take_while_digits all]
        exact someDigit
      · exact absurd rfl starred

/-- One position in brackets, right after a character of a name, becomes a segment. -/
inductive Unbrackets : List Char → List Char → Prop
  | position (before after : List Char) {last : Char} {index : List Char}
      (named : isNameChar last = true) (position : IsPositionIn isDecimalDigit index) :
      Unbrackets (before ++ last :: '[' :: (index ++ ']' :: after))
        (before ++ last :: '/' :: (index ++ after))

def Settled (path : List Char) : Prop := ∀ next, ¬Unbrackets path next

theorem eq_of_settled {path next : List Char} (settled : Settled path)
    (rewritten : ReflTransGen Unbrackets path next) : next = path := by
  rcases rewritten.cases_head with same | ⟨first, step, -⟩
  · exact same.symm
  · exact absurd step (settled first)

/-! ## One pass -/

/-- What a pass makes of a path from a place outside of brackets. -/
inductive Passes : PassState → List Char → List Char → Prop
  | done (state : PassState) : Passes state [] []
  | kept {state : PassState} {char : Char} {rest passed : List Char}
      (unopened : state = .afterName → char = '[' → opensPosition rest = false)
      (later : Passes (if isNameChar char then .afterName else .elsewhere) rest passed) :
      Passes state (char :: rest) (char :: passed)
  | rewritten {index rest passed : List Char} (position : IsPositionIn isDecimalDigit index)
      (later : Passes .elsewhere rest passed) :
      Passes .afterName ('[' :: (index ++ ']' :: rest)) ('/' :: (index ++ passed))

theorem unbracket_pass_inside {index : List Char} (named : ∀ char ∈ index, isNameChar char = true)
    (rest : List Char) : unbracketPass .insidePosition (index ++ ']' :: rest) =
      index ++ unbracketPass .elsewhere rest := by
  induction index with
  | nil => rw [List.nil_append, unbracketPass, if_pos rfl, List.nil_append]
  | cons char others induction =>
      obtain ⟨charNamed, othersNamed⟩ := List.forall_mem_cons.mp named
      have noBracket : char ≠ ']' := by
        rintro rfl
        cases charNamed
      rw [List.cons_append, unbracketPass, if_neg noBracket, induction othersNamed,
        List.cons_append]

theorem passes_unbracket_pass {state : PassState} (outside : state ≠ .insidePosition)
    (chars : List Char) : Passes state chars (unbracketPass state chars) := by
  induction size : chars.length using Nat.strong_induction_on generalizing state chars with
  | _ size induction =>
      subst size
      cases chars with
      | nil =>
          rw [unbracketPass]
          exact .done state
      | cons char rest =>
          have nextOutside : (if isNameChar char then PassState.afterName else .elsewhere) ≠
              .insidePosition := by split <;> simp
          have later := induction rest.length (Nat.lt_succ_self _) nextOutside rest rfl
          cases state with
          | insidePosition => exact absurd rfl outside
          | elsewhere => exact .kept (by simp) later
          | afterName =>
              rw [unbracketPass]
              split
              · next opens =>
                  obtain ⟨rfl, positionOpens⟩ := opens
                  obtain ⟨index, others, rfl, position⟩ := (opens_position_iff _).mp positionOpens
                  rw [unbracket_pass_inside (is_name_char_of_is_position_in position)]
                  refine .rewritten position (induction others.length ?_ (by simp) others rfl)
                  simp
                  omega
              · next closed =>
                  refine .kept ?_ later
                  intro _ bracket
                  exact Bool.eq_false_iff.mpr fun opens => closed ⟨bracket, opens⟩

/-- A pass rewrites positions in brackets one after another. What stands in front of its part of
the path ends with a character of a name if the pass takes it to. -/
theorem reaches_of_passes {state : PassState} {chars passed : List Char}
    (passes : Passes state chars passed) (before : List Char)
    (name : state = .afterName → ∃ front last, before = front ++ [last] ∧ isNameChar last = true) :
    ReflTransGen Unbrackets (before ++ chars) (before ++ passed) := by
  induction passes generalizing before with
  | done state => exact .refl
  | @kept state char rest passed _ _ induction =>
      have further := induction (before ++ [char]) (by
        intro after
        refine ⟨before, char, rfl, ?_⟩
        by_contra unnamed
        rw [if_neg unnamed] at after
        cases after)
      simpa using further
  | @rewritten index rest passed position _ induction =>
      obtain ⟨front, last, rfl, named⟩ := name rfl
      have step := Unbrackets.position front rest named position
      have further := induction (front ++ last :: '/' :: index) (by simp)
      refine .head ?_ (by simpa using further)
      simpa using step

theorem unopened_of_passes {state : PassState} {chars passed : List Char}
    (passes : Passes state chars passed) (same : passed = chars) {index after : List Char}
    (position : IsPositionIn isDecimalDigit index) :
    (state = .afterName → chars ≠ '[' :: (index ++ ']' :: after)) ∧
      ∀ before last, isNameChar last = true →
        chars ≠ before ++ last :: '[' :: (index ++ ']' :: after) := by
  induction passes with
  | done state => simp
  | @kept state char rest passed unopened _ induction =>
      obtain ⟨atRest, inRest⟩ := induction (List.cons.inj same).2
      constructor
      · intro afterName found
        obtain ⟨bracket, rfl⟩ := List.cons.inj found
        have opens := (opens_position_iff _).mpr ⟨index, after, rfl, position⟩
        rw [unopened afterName bracket] at opens
        cases opens
      · intro before last named found
        cases before with
        | nil =>
            obtain ⟨rfl, atBracket⟩ := List.cons.inj found
            exact atRest (if_pos named) atBracket
        | cons first others => exact inRest others last named (List.cons.inj found).2
  | rewritten _ _ _ => exact absurd (List.cons.inj same).1 (by decide)

theorem reaches_unbracket_pass (path : List Char) :
    ReflTransGen Unbrackets path (unbracketPass .elsewhere path) :=
  reaches_of_passes (passes_unbracket_pass (by simp) path) [] (by simp)

/-- A pass changes a path as long as there is a position in brackets. -/
theorem unbracket_pass_eq_iff_settled (path : List Char) :
    unbracketPass .elsewhere path = path ↔ Settled path := by
  constructor
  · intro same next step
    have passes : Passes .elsewhere path (unbracketPass .elsewhere path) :=
      passes_unbracket_pass (by simp) path
    cases step with
    | position before after named position =>
        exact (unopened_of_passes passes same position).2 before _ named rfl
  · intro settled
    exact eq_of_settled settled (reaches_unbracket_pass path)

/-! ## Any order -/

theorem position_behind {front after rest index number : List Char} {last first : Char}
    (firstNamed : isNameChar first = true) (position : IsPositionIn isDecimalDigit index)
    (same : last :: '[' :: (index ++ ']' :: after) =
      front ++ first :: '[' :: (number ++ ']' :: rest)) :
    front = [] ∨ ∃ between, front = last :: '[' :: (index ++ ']' :: between) ∧
      after = between ++ first :: '[' :: (number ++ ']' :: rest) := by
  have noBracket : '[' ∉ index := not_mem_of_is_position_in position rfl
  rcases front with _ | ⟨_, _ | ⟨_, tail⟩⟩
  · exact Or.inl rfl
  · -- The name does not begin with a bracket.
    simp only [List.cons_append, List.nil_append, List.cons.injEq] at same
    rw [← same.2.1] at firstNamed
    cases firstNamed
  · simp only [List.cons_append, List.cons.injEq] at same
    obtain ⟨rfl, rfl, later⟩ := same
    rcases List.append_eq_append_iff.mp later with
      ⟨between, rfl, closing⟩ | ⟨inside, whole, opening⟩
    · cases between with
      | nil =>
          rw [← (List.cons.inj closing).1] at firstNamed
          cases firstNamed
      | cons bracket between =>
          obtain ⟨rfl, rfl⟩ := List.cons.inj closing
          exact Or.inr ⟨between, rfl, rfl⟩
    · rcases inside with _ | ⟨_, _ | ⟨_, others⟩⟩
      · rw [(List.cons.inj opening).1] at firstNamed
        cases firstNamed
      · simp at opening
      · simp only [List.cons_append, List.cons.injEq] at opening
        obtain ⟨-, rfl, -⟩ := opening
        exact absurd (by simp [whole]) noBracket

theorem rewritings_commute (before between after : List Char) {last first : Char}
    {index number : List Char} (named : isNameChar last = true)
    (firstNamed : isNameChar first = true) (position : IsPositionIn isDecimalDigit index)
    (otherPosition : IsPositionIn isDecimalDigit number) :
    ∃ both,
      Unbrackets
        (before ++ last :: '/' :: (index ++ (between ++ first :: '[' :: (number ++ ']' :: after))))
        both ∧
      Unbrackets
        (before ++ last :: '[' :: (index ++ ']' :: (between ++ first :: '/' :: (number ++ after))))
        both := by
  refine ⟨before ++ last :: '/' :: (index ++ (between ++ first :: '/' :: (number ++ after))), ?_,
    .position before _ named position⟩
  have step := Unbrackets.position (before ++ last :: '/' :: (index ++ between)) after firstNamed
    otherPosition
  simpa using step

/-- Two rewritings of one path give the same, or each of them leaves the other to be made. -/
theorem rewritings_meet {path first second : List Char} (toFirst : Unbrackets path first)
    (toSecond : Unbrackets path second) :
    first = second ∨ ∃ both, Unbrackets first both ∧ Unbrackets second both := by
  cases toFirst with
  | @position before after last index named position =>
      generalize whole : before ++ last :: '[' :: (index ++ ']' :: after) = path at toSecond
      cases toSecond with
      | @position other rest first number firstNamed otherPosition =>
          have noBracket : ']' ∉ index := not_mem_of_is_position_in position rfl
          have otherNoBracket : ']' ∉ number := not_mem_of_is_position_in otherPosition rfl
          rcases List.append_eq_append_iff.mp whole with
            ⟨front, rfl, same⟩ | ⟨front, rfl, same⟩
          · rcases position_behind firstNamed position same with rfl | ⟨between, rfl, rfl⟩
            · simp only [List.nil_append, List.cons.injEq, true_and] at same
              obtain ⟨rfl, sameIndex⟩ := same
              obtain ⟨rfl, rfl⟩ := cut_unique noBracket otherNoBracket sameIndex
              simp
            · have both := rewritings_commute before between rest named firstNamed position
                otherPosition
              exact Or.inr (by simpa using both)
          · rcases position_behind named otherPosition same with rfl | ⟨between, rfl, rfl⟩
            · simp only [List.nil_append, List.cons.injEq, true_and] at same
              obtain ⟨rfl, sameIndex⟩ := same
              obtain ⟨rfl, rfl⟩ := cut_unique otherNoBracket noBracket sameIndex
              simp
            · obtain ⟨both, fromSecond, fromFirst⟩ := rewritings_commute other between after
                firstNamed named otherPosition position
              exact Or.inr ⟨both, by simpa using fromFirst, by simpa using fromSecond⟩

theorem settled_unique {path first second : List Char}
    (toFirst : ReflTransGen Unbrackets path first) (firstSettled : Settled first)
    (toSecond : ReflTransGen Unbrackets path second) (secondSettled : Settled second) :
    first = second := by
  have meet : ∀ path first second, Unbrackets path first → Unbrackets path second →
      ∃ both, ReflGen Unbrackets first both ∧ ReflTransGen Unbrackets second both := by
    intro path first second toFirst toSecond
    rcases rewritings_meet toFirst toSecond with rfl | ⟨both, fromFirst, fromSecond⟩
    · exact ⟨first, .refl, .refl⟩
    · exact ⟨both, .single fromFirst, .single fromSecond⟩
  obtain ⟨both, fromFirst, fromSecond⟩ := church_rosser meet toFirst toSecond
  rw [← eq_of_settled firstSettled fromFirst, eq_of_settled secondSettled fromSecond]

end DocumentQuery.Property
