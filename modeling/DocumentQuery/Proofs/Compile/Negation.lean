import DocumentQuery.Proofs.Compile.Exchange
import DocumentQuery.Proofs.Compile.Spelling

/-!
Operators that ask for the contrary of what another operator asks for. Whatever stands beside them,
they are lowered to the negation of the other's predicate, or are rejected as the other is; only
some messages about the right operand name the operator.
-/

namespace DocumentQuery

/-- The first operator asks for the contrary of what the second one asks for. -/
inductive Operator.Negates : Operator → Operator → Prop
  | notEqual : Negates .notEqual .equal
  | isNotIn : Negates .isNotIn .isIn
  | isNull : Negates .isNull .isNotNull

theorem Operator.compares_of_negates {operator other : Operator}
    (negates : operator.Negates other) :
    (¬(operator = .and ∨ operator = .or) ∧ operator ≠ .not) ∧
      ¬(other = .and ∨ other = .or) ∧ other ≠ .not := by
  cases negates <;> decide

/-- The right operand that an operator expects, whatever its value. The tests for null do not look
at it. -/
inductive Operator.Expects : Operator → Option Operand → Prop
  | literal (value : Literal) : Expects .notEqual (some (.literal value))
  | literals (first : Literal) (rest : List Literal) :
      Expects .isNotIn (some (.literals (first :: rest)))
  | whatever (right : Option Operand) : Expects .isNull right

theorem Stop.same_kind_refl (reason : Stop) : reason.SameKind reason := rfl

namespace Lowering

open Attempt

theorem literal_of_same_kind (operator other : Operator) (right : Option Operand) :
    EndsAlike Stop.SameKind Eq (literalOf operator right).outcome
      (literalOf other right).outcome := by
  cases right with
  | none => exact .error rfl
  | some operand =>
      cases operand with
      | literal value => exact .ok rfl
      | property _ | literals _ | unary _ _ | binary _ _ _ | nary _ _ => exact .error rfl

theorem literals_of_same_kind (operator other : Operator) (right : Option Operand) :
    EndsAlike Stop.SameKind Eq (literalsOf operator right).outcome
      (literalsOf other right).outcome := by
  cases right with
  | none => exact .error rfl
  | some operand =>
      cases operand with
      | literals values => exact .ok rfl
      | property _ | literal _ | unary _ _ | binary _ _ _ | nary _ _ => exact .error rfl

variable (catalog : Catalog) (settings : Settings)

theorem equality_same_kind (operator other : Operator) (left : Operand) (right : Option Operand) :
    EndsAlike Stop.SameKind Eq (equality catalog settings operator left right).outcome
      (equality catalog settings other left right).outcome := by
  apply ends_alike_after Stop.same_kind_refl
  intro property
  cases property.mixin with
  | true => exact ends_alike_refl Stop.same_kind_refl _
  | false =>
      apply ends_alike_bind (literal_of_same_kind operator other right)
      intro literal _ same
      rw [← same]
      exact ends_alike_refl Stop.same_kind_refl _

theorem membership_same_kind (operator other : Operator) (left : Operand)
    (right : Option Operand) :
    EndsAlike Stop.SameKind Eq (membership catalog settings operator left right).outcome
      (membership catalog settings other left right).outcome := by
  apply ends_alike_after Stop.same_kind_refl
  intro property
  apply ends_alike_bind (literals_of_same_kind operator other right)
  intro literals _ same
  rw [← same]
  cases literals with
  | nil => exact .error rfl
  | cons first rest => exact ends_alike_refl Stop.same_kind_refl _

theorem ends_alike_negated {stops : Stop → Stop → Prop} {attempt other : Attempt Predicate}
    (ended : EndsAlike stops Eq attempt.outcome other.outcome) :
    EndsAlike stops (fun predicate otherPredicate => predicate = .negation otherPredicate)
      (negated attempt).outcome other.outcome := by
  obtain ⟨resolutions, outcome⟩ := attempt
  obtain ⟨otherResolutions, otherOutcome⟩ := other
  rw [negated, outcome_bind_pure]
  cases ended with
  | ok same => exact .ok (congrArg Predicate.negation same)
  | error related => exact .error related

variable {operator other : Operator} (negates : operator.Negates other) (left : Operand)
  (right : Option Operand)

include negates

theorem comparison_same_kind :
    EndsAlike Stop.SameKind (fun predicate otherPredicate => predicate = .negation otherPredicate)
      (comparison catalog settings operator left right).outcome
      (comparison catalog settings other left right).outcome := by
  cases negates with
  | notEqual => exact ends_alike_negated (equality_same_kind catalog settings _ _ left right)
  | isNotIn => exact ends_alike_negated (membership_same_kind catalog settings _ _ left right)
  | isNull => exact ends_alike_negated (ends_alike_refl Stop.same_kind_refl _)

theorem comparison_of_expected (expected : operator.Expects right) :
    EndsAlike Eq (fun predicate otherPredicate => predicate = .negation otherPredicate)
      (comparison catalog settings operator left right).outcome
      (comparison catalog settings other left right).outcome := by
  have ended (attempt : Attempt Predicate) : EndsAlike Eq
      (fun predicate otherPredicate => predicate = .negation otherPredicate)
      (negated attempt).outcome attempt.outcome :=
    ends_alike_negated (ends_alike_refl (fun _ => rfl) attempt.outcome)
  cases negates with
  | notEqual =>
      cases expected with
      | literal value => exact ended (equality catalog settings .equal left _)
  | isNotIn =>
      cases expected with
      | literals first rest =>
          rw [comparison, comparison, membership_of_literals, membership_of_literals]
          exact ended _
  | isNull => exact ended (existence catalog settings left)

theorem first_without_predicate_asking :
    (Operand.asking operator left right).firstWithoutPredicate =
      (Operand.asking other left right).firstWithoutPredicate := by
  cases negates <;> cases right <;> rfl

end Lowering

namespace Compiler

/-- Zero denies of a truth value of documents that it is missing, and missing is itself a
negation. -/
theorem compile_of_not_equal_zero {compiler : Compiler} {query : Query} {left : Operand}
    {property : Property} {properties : List Property}
    (named : Lowering.Names compiler.catalog compiler.settings left property)
    (boolean : property.isUserBoolean = true)
    (selected : (compiler.selection query.select).outcome = .ok properties) :
    (compiler.compile (query.withFilter
        (.asking .notEqual left (some (.literal (.integer 0)))))).outcome =
      .ok ⟨.negation (.negation (.valueIs property.storageKey "true")),
        properties.map (extractPath compiler.settings)⟩ := by
  obtain ⟨path, rfl, found⟩ := named
  have triState : property.triState = true := (Property.tri_state_of_resolve found).trans boolean
  obtain ⟨user, declared⟩ := Bool.and_eq_true_iff.mp boolean
  have noMixin : property.mixin = false :=
    Property.mixin_of_resolve found (by simpa using user)
  have absent : Comparand.ofLiteral property (.integer 0) = .ok .absent := by
    rw [Comparand.ofLiteral, if_pos declared, Comparand.of_integer_eq_absent_iff]
    exact ⟨rfl, triState⟩
  have equals : (Lowering.equality compiler.catalog compiler.settings .notEqual (.property path)
      (some (.literal (.integer 0)))).outcome =
        .ok (.negation (.valueIs property.storageKey "true")) :=
    (Lowering.equality_eq_ok_iff _ _ _ _ _ _).mpr
      ⟨property, .integer 0, ⟨path, rfl, found⟩, noMixin, rfl, Or.inr ⟨absent, rfl⟩⟩
  have lowered : (compiler.lower (.asking .notEqual (.property path)
      (some (.literal (.integer 0))))).outcome =
        .ok (.negation (.negation (.valueIs property.storageKey "true"))) := by
    rw [lower, Lowering.expression_asking (by decide)]
    exact (Lowering.negated_eq_ok_iff _ _).mpr ⟨_, equals, rfl⟩
  rw [compile_eq_lower selected (Operand.is_expression_asking _ _ _) rfl, lowered]
  rfl

/-- An operator that asks for the contrary of another one compiles beside the same operands exactly
if the other one does, to the negation of the other's predicate. Otherwise both are refused for the
same kind of reason, and for the same reason beside the right operand that they expect. -/
theorem compile_of_negates {operator other : Operator} (negates : operator.Negates other)
    (compiler : Compiler) (query : Query) (left : Operand) (right : Option Operand) :
    Attempt.EndsAlike Stop.SameKind
        (fun compiled otherCompiled => compiled.predicate = .negation otherCompiled.predicate ∧
          compiled.extractPaths = otherCompiled.extractPaths)
        (compiler.compile (query.withFilter (.asking operator left right))).outcome
        (compiler.compile (query.withFilter (.asking other left right))).outcome ∧
      (operator.Expects right → ∀ reason,
        (compiler.compile (query.withFilter (.asking operator left right))).outcome =
            .error reason ↔
          (compiler.compile (query.withFilter (.asking other left right))).outcome =
            .error reason) ∧
      ∀ property properties, operator = .notEqual → right = some (.literal (.integer 0)) →
        Lowering.Names compiler.catalog compiler.settings left property →
          property.isUserBoolean = true →
            (compiler.selection query.select).outcome = .ok properties →
              (compiler.compile (query.withFilter (.asking operator left right))).outcome =
                .ok ⟨.negation (.negation (.valueIs property.storageKey "true")),
                  properties.map (extractPath compiler.settings)⟩ := by
  have sameSearch := Lowering.first_without_predicate_asking negates left right
  obtain ⟨compares, otherCompares⟩ := Operator.compares_of_negates negates
  -- Both ways to compare reasons to stop come from one statement about the lowering.
  have whole {stops : Stop → Stop → Prop} (sameStop : ∀ reason, stops reason reason)
      (lowered : Attempt.EndsAlike stops
        (fun predicate otherPredicate => predicate = .negation otherPredicate)
        (compiler.lower (.asking operator left right)).outcome
        (compiler.lower (.asking other left right)).outcome) :=
    compile_ends_alike sameSearch sameStop (Operand.is_expression_asking operator left right)
      (Operand.is_expression_asking other left right) lowered query
  rw [lower, lower, Lowering.expression_asking compares, Lowering.expression_asking otherCompares]
    at whole
  refine ⟨whole Stop.same_kind_refl (Lowering.comparison_same_kind _ _ negates left right), ?_, ?_⟩
  · intro expected
    have compared := Lowering.comparison_of_expected compiler.catalog compiler.settings negates
      left right expected
    exact (whole (fun _ => rfl) compared).error_iff
  · intro property properties isNotEqual isZero named boolean selected
    subst isNotEqual isZero
    exact compile_of_not_equal_zero named boolean selected

/-- A doubly negated test, and a list with a zero that neither operator can test for. -/
theorem compile_of_negates_notes :
    Operator.Negates .notEqual .equal ∧
      (noteCompiler.compile (.plain (.compare "note/*" .notEqual (.integer 0)) [])).outcome =
        .ok ⟨.negation (.negation (.valueIs "note.*" "true")), []⟩ ∧
      (∃ compiled, (noteCompiler.compile
          (.plain (.compare "note/*" .equal (.integer 0)) [])).outcome = .ok compiled ∧
        Predicate.negation (.negation (.valueIs "note.*" "true")) =
          .negation compiled.predicate) ∧
      Operator.Negates .isNotIn .isIn ∧
      (noteCompiler.compile
          (.plain (.member "note/*" .isNotIn [.integer 1, .integer 0]) [])).outcome =
        .error (.rejected (.invalidTruthValue (.absenceTest "note/*" "IN"))) := by
  have doubled : (noteCompiler.compile
      (.plain (.compare "note/*" .notEqual (.integer 0)) [])).outcome =
        .ok ⟨.negation (.negation (.valueIs "note.*" "true")), []⟩ := rfl
  have alike := (compile_of_negates .notEqual noteCompiler (.plain noted []) (.property "note/*")
    (some (.literal (.integer 0)))).1
  obtain ⟨compiled, ended, related, -⟩ := Attempt.EndsAlike.of_ok (doubled ▸ alike)
  refine ⟨.notEqual, doubled, ⟨compiled, ended, related⟩, .isNotIn, ?_⟩
  exact ((compile_of_negates .isNotIn noteCompiler (.plain noted []) (.property "note/*")
    (some (.literals [.integer 1, .integer 0]))).2.1 (.literals _ _) _).mpr rfl

end Compiler

end DocumentQuery
