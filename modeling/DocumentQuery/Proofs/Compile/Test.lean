import DocumentQuery.Proofs.Compile.Quiet
import DocumentQuery.Proofs.Search.Leaves

/-!
Comparisons as a look-up and a test. A comparison first looks up the property on its left, and
what it does then depends on this property and on the right operand, but no more on the catalog.
The test finds nothing else, and gives a predicate with a single test on the storage key.
-/

namespace DocumentQuery

def Predicate.TestsElement (element : String) (predicate : Predicate) : Prop :=
  ∃ leaf, predicate.leaves = [leaf] ∧ leaf.element? = some element

theorem Predicate.tests_element_negation {element : String} {part : Predicate}
    (tests : part.TestsElement element) : (negation part).TestsElement element := by
  rw [TestsElement, leaves]
  exact tests

namespace Comparand

/-- A literal has no value only where it is an integer that stands for no truth value. -/
theorem of_literal_eq_error {property : Property} {literal : Literal} {rejection : Rejection}
    (rejected : ofLiteral property literal = .error rejection) :
    ∃ fault, rejection = .invalidTruthValue fault := by
  cases literal with
  | integer integer =>
      rw [ofLiteral, ofInteger] at rejected
      split at rejected
      · split at rejected
        · split at rejected <;> cases rejected
        · split at rejected
          · cases rejected
          · exact ⟨_, (Except.error.inj rejected).symm⟩
      · cases rejected
  | boolean _ | date _ | double _ | string _ => cases rejected

theorem present_eq_error {property : Property} {operation : String} {comparand : Comparand}
    {rejection : Rejection} (rejected : comparand.present property operation = .error rejection) :
    ∃ fault, rejection = .invalidTruthValue fault := by
  cases comparand with
  | value found => cases rejected
  | absent => exact ⟨_, (Except.error.inj rejected).symm⟩

theorem of_literal_fault {property : Property} {literal : Literal} {rejection : Rejection}
    (rejected : ofLiteral property literal = .error rejection) : LoweringFault rejection := by
  obtain ⟨fault, rfl⟩ := of_literal_eq_error rejected
  exact .invalidTruthValue fault

theorem present_fault {property : Property} {operation : String} {comparand : Comparand}
    {rejection : Rejection} (rejected : comparand.present property operation = .error rejection) :
    LoweringFault rejection := by
  obtain ⟨fault, rfl⟩ := present_eq_error rejected
  exact .invalidTruthValue fault

end Comparand

namespace Lowering

open Attempt

/-- What follows the look-up of a property. -/
def IsTest (test : Property → Attempt Predicate) : Prop :=
  ∀ property, Yields (Predicate.TestsElement property.storageKey) (test property)

theorem literal_of_yields (operator : Operator) (right : Option Operand) :
    Yields (fun _ => True) (literalOf operator right) := by
  unfold literalOf
  split
  · exact yields_done trivial
  · exact yields_reject (.invalidQuery _)
  · exact yields_reject (.invalidQuery _)

theorem literals_of_yields (operator : Operator) (right : Option Operand) :
    Yields (fun _ => True) (literalsOf operator right) := by
  unfold literalsOf
  split
  · exact yields_done trivial
  · exact yields_reject (.invalidQuery _)
  · exact yields_reject (.invalidQuery _)

theorem wire_text_yields (value : WireValue) : Yields (fun _ => True) (wireText value) := by
  unfold wireText
  split
  · exact yields_done trivial
  · exact yields_aborted

theorem of_literal_yields (property : Property) (literal : Literal) :
    Yields (fun _ => True) (ofExcept (Comparand.ofLiteral property literal)) :=
  yields_of_except (fun _ _ => trivial) fun _ => Comparand.of_literal_fault

theorem present_yields (property : Property) (operation : String) (comparand : Comparand) :
    Yields (fun _ => True) (ofExcept (comparand.present property operation)) :=
  yields_of_except (fun _ _ => trivial) fun _ => Comparand.present_fault

theorem reject_mixin_yields (good : Predicate → Prop) (property : Property)
    (right : Option Operand) : Yields good (rejectMixin property right) := by
  unfold rejectMixin
  split
  · exact yields_reject (.equality _)
  · exact yields_reject (.invalidQuery _)

theorem member_text_yields (property : Property) (literal : Literal) :
    Yields (fun _ => True) (memberText property literal) := by
  apply yields_bind (of_literal_yields property literal)
  intro comparand _
  apply yields_bind (present_yields property _ comparand)
  intro value _
  exact wire_text_yields value

theorem equality_test (operator : Operator) (right : Option Operand) :
    ∃ test, IsTest test ∧ ∀ catalog settings left,
      equality catalog settings operator left right =
        propertyOf catalog settings left >>= test := by
  refine ⟨_, ?_, fun _ _ _ => rfl⟩
  intro property
  beta_reduce
  split
  · exact reject_mixin_yields _ property right
  · apply yields_bind (literal_of_yields operator right)
    intro literal _
    apply yields_bind (of_literal_yields property literal)
    intro comparand _
    split
    · apply yields_bind (wire_text_yields _)
      intro text _
      exact yields_pure ⟨_, rfl, rfl⟩
    · exact yields_pure ⟨_, rfl, rfl⟩

theorem range_test (operator : Operator) (relation : RangeRelation) (right : Option Operand) :
    ∃ test, IsTest test ∧ ∀ catalog settings left,
      range catalog settings operator relation left right =
        propertyOf catalog settings left >>= test := by
  refine ⟨_, ?_, fun _ _ _ => rfl⟩
  intro property
  apply yields_bind (literal_of_yields operator right)
  intro literal _
  apply yields_bind (of_literal_yields property literal)
  intro comparand _
  apply yields_bind (present_yields property _ comparand)
  intro value _
  apply yields_bind (wire_text_yields value)
  intro text _
  exact yields_pure ⟨_, rfl, rfl⟩

theorem membership_test (operator : Operator) (right : Option Operand) :
    ∃ test, IsTest test ∧ ∀ catalog settings left,
      membership catalog settings operator left right =
        propertyOf catalog settings left >>= test := by
  refine ⟨_, ?_, fun _ _ _ => rfl⟩
  intro property
  apply yields_bind (literals_of_yields operator right)
  intro literals _
  split
  · exact yields_reject (.invalidQuery _)
  · apply yields_bind (yields_each (member_text_yields property) literals)
    intro texts _
    exact yields_pure ⟨_, rfl, rfl⟩

theorem existence_test :
    ∃ test, IsTest test ∧ ∀ catalog settings left,
      existence catalog settings left = propertyOf catalog settings left >>= test := by
  refine ⟨_, ?_, fun _ _ _ => rfl⟩
  intro property
  exact yields_pure ⟨_, rfl, rfl⟩

theorem negated_test {comparing : Catalog → Settings → Operand → Attempt Predicate}
    (tested : ∃ test, IsTest test ∧ ∀ catalog settings left,
      comparing catalog settings left = propertyOf catalog settings left >>= test) :
    ∃ test, IsTest test ∧ ∀ catalog settings left,
      negated (comparing catalog settings left) =
        propertyOf catalog settings left >>= test := by
  obtain ⟨test, isTest, looksUp⟩ := tested
  refine ⟨fun property => negated (test property), ?_, ?_⟩
  · intro property
    apply yields_bind (isTest property)
    intro part tests
    exact yields_pure (Predicate.tests_element_negation tests)
  · intro catalog settings left
    rw [looksUp, negated, bind_assoc]
    rfl

/-- Every comparison with a predicate is a look-up and a test. -/
theorem comparison_test {operator : Operator} (known : operator.lacksPredicate = false)
    (noConnective : ¬(operator = .and ∨ operator = .or)) (noNegation : operator ≠ .not)
    (right : Option Operand) :
    ∃ test, IsTest test ∧ ∀ catalog settings left,
      comparison catalog settings operator left right =
        propertyOf catalog settings left >>= test := by
  cases operator with
  | equal => exact equality_test .equal right
  | notEqual => exact negated_test (equality_test .notEqual right)
  | less => exact range_test .less .less right
  | greater => exact range_test .greater .greater right
  | lessEqual => exact range_test .lessEqual .lessEqual right
  | greaterEqual => exact range_test .greaterEqual .greaterEqual right
  | isIn => exact membership_test .isIn right
  | isNotIn => exact negated_test (membership_test .isNotIn right)
  | isNull => exact negated_test existence_test
  | isNotNull => exact existence_test
  | and => exact absurd (Or.inl rfl) noConnective
  | or => exact absurd (Or.inr rfl) noConnective
  | not => exact absurd rfl noNegation
  | sum | sub | mul | div | like | caselessLike | between | notLike | notCaselessLike
  | notBetween | startsWith => cases known

end Lowering

end DocumentQuery
