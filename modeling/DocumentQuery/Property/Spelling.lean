import DocumentQuery.Text.Basic

/-!
Spellings of property paths. A position in a list may be written in brackets after a name or as a
segment of its own; the canonical spelling has segments only, and no slash in front. A position is
a number, a star, or a star and a number.
-/

namespace DocumentQuery.Property

open DocumentQuery.Text

def isNameChar (char : Char) : Bool := char ≠ '/' && char ≠ '[' && char ≠ ']'

def opensPosition (chars : List Char) : Bool :=
  let starred := match chars with
    | '*' :: _ => true
    | _ => false
  let number := if starred then chars.drop 1 else chars
  match number.dropWhile isDecimalDigit with
  | ']' :: _ => starred || !(number.takeWhile isDecimalDigit).isEmpty
  | _ => false

/-- Where a pass over a path stands: right after a character of a name, inside the brackets of a
position, or anywhere else. -/
inductive PassState where
  | elsewhere
  | afterName
  | insidePosition
  deriving DecidableEq, Repr

/-- One pass from left to right. The brackets of a position right after a name become a slash and
nothing; the name before the next bracket begins after them. -/
def unbracketPass : PassState → List Char → List Char
  | _, [] => []
  | .insidePosition, char :: rest =>
      if char = ']' then unbracketPass .elsewhere rest
      else char :: unbracketPass .insidePosition rest
  | .afterName, char :: rest =>
      if char = '[' ∧ opensPosition rest = true then '/' :: unbracketPass .insidePosition rest
      else char :: unbracketPass (if isNameChar char then .afterName else .elsewhere) rest
  | .elsewhere, char :: rest =>
      char :: unbracketPass (if isNameChar char then .afterName else .elsewhere) rest

theorem count_unbracket_pass_le (state : PassState) (chars : List Char) :
    (unbracketPass state chars).count '[' ≤ chars.count '[' := by
  induction chars generalizing state with
  | nil => simp [unbracketPass]
  | cons char rest induction =>
      cases state with
      | elsewhere =>
          simp only [unbracketPass, List.count_cons]
          exact Nat.add_le_add_right (induction _) _
      | afterName =>
          simp only [unbracketPass]
          split
          · next opens =>
              have restFewer := induction .insidePosition
              simp only [List.count_cons, opens.1]
              simp
              omega
          · simp only [List.count_cons]
            exact Nat.add_le_add_right (induction _) _
      | insidePosition =>
          simp only [unbracketPass]
          split
          · next closes =>
              have restFewer := induction .elsewhere
              simp only [List.count_cons, closes]
              simp
              omega
          · simp only [List.count_cons]
            exact Nat.add_le_add_right (induction _) _

/-- A pass that changes a path removes an opening bracket. -/
theorem unbracket_pass_eq_or_count_lt (state : PassState) (outside : state ≠ .insidePosition)
    (chars : List Char) :
    unbracketPass state chars = chars ∨
      (unbracketPass state chars).count '[' < chars.count '[' := by
  induction chars generalizing state with
  | nil => exact Or.inl (by simp [unbracketPass])
  | cons char rest induction =>
      have nextOutside : (if isNameChar char then PassState.afterName else .elsewhere) ≠
          .insidePosition := by split <;> simp
      have keep := induction _ nextOutside
      cases state with
      | insidePosition => exact absurd rfl outside
      | elsewhere =>
          simp only [unbracketPass, List.count_cons, List.cons.injEq, true_and]
          exact keep.imp id fun fewer => Nat.add_lt_add_right fewer _
      | afterName =>
          simp only [unbracketPass]
          split
          · next opens =>
              have fewer := count_unbracket_pass_le .insidePosition rest
              refine Or.inr ?_
              simp only [List.count_cons, opens.1]
              simp
              omega
          · simp only [List.count_cons, List.cons.injEq, true_and]
            exact keep.imp id fun fewer => Nat.add_lt_add_right fewer _

/-- Passes until nothing changes, at most the given number of times. -/
def settle : Nat → List Char → List Char
  | 0, chars => chars
  | passes + 1, chars =>
      let next := unbracketPass .elsewhere chars
      if next = chars then chars else settle passes next

def canonicalChars (chars : List Char) : List Char :=
  let path := chars.dropWhile (· = '/')
  settle (path.count '[') path

/-- The canonical spelling. No more passes than opening brackets are needed. -/
def canonicalPath (path : String) : String := String.ofList (canonicalChars path.toList)

end DocumentQuery.Property
