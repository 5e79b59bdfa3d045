import DocumentQuery.Proofs.Compile.Exchange
import DocumentQuery.Proofs.Compile.Spelling
import DocumentQuery.Proofs.Search.Assignment

/-!
One connective over several operands against a nest of connectives over two operands each. Both
lower the same operands in the same order, so that they find the same, stop at the same operand and
test the same; they only differ in how the tests are grouped.
-/

namespace DocumentQuery

/-- The first operand connected with the second, the outcome with the third, and so on. -/
def Operand.nest (operator : Operator) (first : Operand) (rest : List Operand) : Operand :=
  rest.foldl (Operand.binary operator) first

theorem Operand.is_expression_nest (operator : Operator) (first second : Operand)
    (rest : List Operand) : (nest operator first (second :: rest)).IsExpression := by
  induction rest generalizing first second with
  | nil => trivial
  | cons third others induction => exact induction (.binary operator first second) third

namespace Lowering

open Attempt Predicate

def nestSeveral (operator : Operator) : List Predicate → Predicate
  | [] => combine operator []
  | first :: rest => rest.foldl (fun left right => combine operator [left, right]) first

theorem nest_several_merge (operator : Operator) (first second : Predicate)
    (rest : List Predicate) :
    nestSeveral operator (first :: second :: rest) =
      nestSeveral operator (combine operator [first, second] :: rest) := rfl

/-! ## Grouped tests -/

def connect (operator : Operator) (truths : List Bool) : Bool :=
  if operator = .or then truths.any id else truths.all id

theorem connect_singleton (operator : Operator) (truth : Bool) :
    connect operator [truth] = truth := by
  unfold connect
  split <;> cases truth <;> rfl

theorem connect_merge (operator : Operator) (first second : Bool) (rest : List Bool) :
    connect operator (first :: second :: rest) =
      connect operator (connect operator [first, second] :: rest) := by
  unfold connect
  split
  · simp [Bool.or_assoc]
  · simp [Bool.and_assoc]

theorem decided_combine (answer : Predicate → Bool) (operator : Operator)
    (parts : List Predicate) :
    (combine operator parts).decided answer = connect operator (parts.map (decided answer)) := by
  unfold combine connect
  split
  · rw [decided, any_decided_eq]
  · rw [decided, all_decided_eq]

theorem decided_combine_several (answer : Predicate → Bool) (operator : Operator)
    (parts : List Predicate) :
    (combineSeveral operator parts).decided answer =
      connect operator (parts.map (decided answer)) := by
  unfold combineSeveral
  split
  · exact (connect_singleton operator _).symm
  · exact decided_combine answer operator parts

theorem decided_nest_several (answer : Predicate → Bool) (operator : Operator) (first : Predicate)
    (rest : List Predicate) :
    (nestSeveral operator (first :: rest)).decided answer =
      connect operator ((first :: rest).map (decided answer)) := by
  induction rest generalizing first with
  | nil => exact (connect_singleton operator _).symm
  | cons second others induction =>
      rw [nest_several_merge, induction, List.map_cons, decided_combine]
      exact (connect_merge operator _ _ _).symm

theorem leaves_nest_several (operator : Operator) (first : Predicate) (rest : List Predicate) :
    (nestSeveral operator (first :: rest)).leaves = leavesOf (first :: rest) := by
  induction rest generalizing first with
  | nil => exact (List.append_nil _).symm
  | cons second others induction =>
      rw [nest_several_merge, induction]
      simp only [leavesOf, leaves_combine, List.append_nil, List.append_assoc]

theorem regrouped_nest_several (operator : Operator) (first : Predicate) (rest : List Predicate) :
    (combineSeveral operator (first :: rest)).Regrouped (nestSeveral operator (first :: rest)) := by
  apply regrouped_of_decided
  · rw [leaves_combine_several, leaves_nest_several]
  · intro answer
    rw [decided_combine_several, decided_nest_several]

/-! ## Nested operands -/

variable {operator : Operator} (connective : operator = .and ∨ operator = .or)

include connective

theorem first_without_predicate_nest (first : Operand) (rest : List Operand) :
    (Operand.nest operator first rest).firstWithoutPredicate =
      Operand.firstWithoutPredicateOf (first :: rest) := by
  have supported : ¬operator.lacksPredicate = true := by
    rcases connective with rfl | rfl <;> decide
  induction rest generalizing first with
  | nil =>
      rw [Operand.firstWithoutPredicateOf, Operand.firstWithoutPredicateOf, Option.or_none]
      rfl
  | cons second others induction =>
      have step := induction (.binary operator first second)
      rw [Operand.firstWithoutPredicateOf, Operand.firstWithoutPredicate, if_neg supported,
        Option.or_assoc] at step
      exact step

variable (catalog : Catalog) (settings : Settings)

theorem expression_nest (first : Operand) (rest : List Operand) :
    expression catalog settings .notExpression (Operand.nest operator first rest) =
      expressions catalog settings (first :: rest) >>= fun parts =>
        pure (nestSeveral operator parts) := by
  induction rest generalizing first with
  | nil =>
      rw [expressions, expressions]
      change _ = (_ >>= fun predicate => pure [] >>= fun predicates => _) >>= _
      simp only [pure_bind, bind_assoc]
      exact (bind_pure _).symm
  | cons second others induction =>
      -- The first two operands are one operand of a shorter nest, and are lowered just before it.
      have step := induction (.binary operator first second)
      rw [expressions, expression, if_pos connective] at step
      refine step.trans ?_
      rw [expressions, expressions]
      simp only [bind_assoc, pure_bind, nest_several_merge]

theorem expression_several (first : Operand) (rest : List Operand) :
    expression catalog settings .notExpression (.nary operator (first :: rest)) =
      expressions catalog settings (first :: rest) >>= fun parts =>
        pure (combineSeveral operator parts) := by
  have connects : ¬(operator ≠ .and ∧ operator ≠ .or) := by
    rw [← not_or, not_not]
    exact connective
  rw [expression, if_neg connects, if_neg (by simp)]

/-- Nested or not, operands find the same, stop for the same reason and give the same tests. -/
theorem several_ends_alike_nest (first : Operand) (rest : List Operand) :
    (expression catalog settings .notExpression (.nary operator (first :: rest))).resolutions =
        (expression catalog settings .notExpression
          (Operand.nest operator first rest)).resolutions ∧
      EndsAlike Eq Predicate.Regrouped
        (expression catalog settings .notExpression (.nary operator (first :: rest))).outcome
        (expression catalog settings .notExpression
          (Operand.nest operator first rest)).outcome := by
  rw [expression_several connective, expression_nest connective, resolutions_bind_pure,
    resolutions_bind_pure, outcome_bind_pure, outcome_bind_pure]
  refine ⟨rfl, ?_⟩
  cases ended : (expressions catalog settings (first :: rest)).outcome with
  | error reason => exact .error rfl
  | ok parts =>
      rw [expressions_eq_each_operand] at ended
      obtain ⟨part, others, rfl⟩ := List.exists_cons_of_length_eq_add_one (length_of_each ended)
      exact .ok (regrouped_nest_several operator part others)

end Lowering

namespace Compiler

/-- A query for several operands under one connective against the query for their nest. Both find
the same, stop for the same reason or give the same tests under the same connective, and count
alike. -/
theorem compile_of_several_eq_nested {operator : Operator}
    (connective : operator = .and ∨ operator = .or) (compiler : Compiler) (query : Query)
    (first second : Operand) (rest : List Operand) :
    (compiler.compile (query.withFilter (.nary operator (first :: second :: rest)))).resolutions =
        (compiler.compile
          (query.withFilter (.nest operator first (second :: rest)))).resolutions ∧
      Attempt.EndsAlike Eq
        (fun compiled nested => compiled.predicate.Regrouped nested.predicate ∧
          compiled.extractPaths = nested.extractPaths)
        (compiler.compile (query.withFilter (.nary operator (first :: second :: rest)))).outcome
        (compiler.compile (query.withFilter (.nest operator first (second :: rest)))).outcome ∧
      ∀ tally : Tally,
        tally.after compiler
            (.compile (query.withFilter (.nary operator (first :: second :: rest)))) =
          tally.after compiler
            (.compile (query.withFilter (.nest operator first (second :: rest)))) := by
  obtain ⟨lowerFound, lowerEnded⟩ := Lowering.several_ends_alike_nest connective compiler.catalog
    compiler.settings first (second :: rest)
  have sameSearch : (Operand.nary operator (first :: second :: rest)).firstWithoutPredicate =
      (Operand.nest operator first (second :: rest)).firstWithoutPredicate := by
    rw [Lowering.first_without_predicate_nest connective, Operand.firstWithoutPredicate]
  have found := compile_resolutions_eq sameSearch lowerFound query
  have ended := compile_ends_alike sameSearch (fun _ => rfl) trivial
    (Operand.is_expression_nest operator first second rest) lowerEnded query
  refine ⟨found, ended, ?_⟩
  intro tally
  have sameTests := ended.imp fun _ _ related => related.1.leafCount_eq
  have sameKind := sameTests.imp_stops fun _ _ same => congrArg Stop.refusal same
  rw [Tally.after, Tally.after, Tally.noteCompile, Tally.noteCompile, found,
    Tally.note_outcome_of_ends_alike sameKind]

theorem compile_of_several_eq_nested_notes :
    (Operator.or = .and ∨ Operator.or = .or) ∧
      (noteCompiler.compile
          (.plain (.nary .or [noted, .unary .isNull (.property "dc:title"), noted]) [])).outcome =
        .ok ⟨.disjunction [.negation (.valueIs "note.*" "true"),
          .negation (.containerExists "dc.title"), .negation (.valueIs "note.*" "true")], []⟩ ∧
      Attempt.EndsAlike Eq
        (fun compiled nested => compiled.predicate.Regrouped nested.predicate ∧
          compiled.extractPaths = nested.extractPaths)
        (noteCompiler.compile
          (.plain (.nary .or [noted, .unary .isNull (.property "dc:title"), noted]) [])).outcome
        (noteCompiler.compile (.plain (.binary .or
          (.binary .or noted (.unary .isNull (.property "dc:title"))) noted) [])).outcome :=
  ⟨Or.inr rfl, rfl, (compile_of_several_eq_nested (Or.inr rfl) noteCompiler (.plain noted [])
    noted (.unary .isNull (.property "dc:title")) [noted]).2.1⟩

end Compiler

end DocumentQuery
