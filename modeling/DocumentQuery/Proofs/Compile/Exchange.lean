import DocumentQuery.Proofs.Compile.Correspondence
import DocumentQuery.Proofs.Compile.Locality

/-!
One filter in the place of another. Filters that lack the same predicate, if any, and are lowered in
related ways are compiled in related ways, under every selection.
-/

namespace DocumentQuery

namespace Operand

def asking (operator : Operator) (left : Operand) : Option Operand → Operand
  | none => unary operator left
  | some right => binary operator left right

theorem is_expression_asking (operator : Operator) (left : Operand) (right : Option Operand) :
    (asking operator left right).IsExpression := by
  cases right <;> trivial

end Operand

theorem Lowering.expression_asking {operator : Operator}
    (compares : ¬(operator = .and ∨ operator = .or) ∧ operator ≠ .not) (catalog : Catalog)
    (settings : Settings) (misfit : String → QueryFault) (left : Operand)
    (right : Option Operand) :
    expression catalog settings misfit (.asking operator left right) =
      comparison catalog settings operator left right := by
  cases right <;> rw [Operand.asking, expression, if_neg compares.1, if_neg compares.2]

namespace Attempt

variable {First Second Third Fourth : Type}

theorem ends_alike_bind {stops : Stop → Stop → Prop} {middles : First → Second → Prop}
    {results : Third → Fourth → Prop} {attempt : Attempt First} {other : Attempt Second}
    {next : First → Attempt Third} {otherNext : Second → Attempt Fourth}
    (first : EndsAlike stops middles attempt.outcome other.outcome)
    (later : ∀ middle otherMiddle, middles middle otherMiddle →
      EndsAlike stops results (next middle).outcome (otherNext otherMiddle).outcome) :
    EndsAlike stops results (attempt >>= next).outcome (other >>= otherNext).outcome := by
  obtain ⟨resolutions, outcome⟩ := attempt
  obtain ⟨otherResolutions, otherOutcome⟩ := other
  cases first with
  | ok related => simpa using later _ _ related
  | error related => simpa using .error related

theorem ends_alike_refl {stops : Stop → Stop → Prop} (sameStop : ∀ reason, stops reason reason)
    (outcome : Except Stop First) : EndsAlike stops Eq outcome outcome := by
  cases outcome with
  | ok result => exact .ok rfl
  | error reason => exact .error (sameStop reason)

theorem ends_alike_after {stops : Stop → Stop → Prop} (sameStop : ∀ reason, stops reason reason)
    {results : Third → Fourth → Prop} {attempt : Attempt First} {next : First → Attempt Third}
    {otherNext : First → Attempt Fourth}
    (later : ∀ middle, EndsAlike stops results (next middle).outcome (otherNext middle).outcome) :
    EndsAlike stops results (attempt >>= next).outcome (attempt >>= otherNext).outcome := by
  apply ends_alike_bind (ends_alike_refl sameStop attempt.outcome)
  intro middle _ same
  rw [← same]
  exact later middle

theorem resolutions_after {attempt : Attempt First} {next : First → Attempt Third}
    {otherNext : First → Attempt Fourth}
    (later : ∀ middle, (next middle).resolutions = (otherNext middle).resolutions) :
    (attempt >>= next).resolutions = (attempt >>= otherNext).resolutions := by
  cases ended : attempt.outcome with
  | ok result => simp [ended, later]
  | error reason => simp [ended]

end Attempt

namespace Compiler

open Attempt

theorem check_operators_congr {filter other : Operand}
    (sameSearch : filter.firstWithoutPredicate = other.firstWithoutPredicate) :
    checkOperators filter = checkOperators other := by
  rw [checkOperators, checkOperators, sameSearch]

variable {compiler : Compiler} {filter other : Operand}
  (sameSearch : filter.firstWithoutPredicate = other.firstWithoutPredicate)

include sameSearch

/-- Queries for two filters end as the filters do when they are lowered. -/
theorem compile_ends_alike {stops : Stop → Stop → Prop} (sameStop : ∀ reason, stops reason reason)
    {results : Predicate → Predicate → Prop} (isExpression : filter.IsExpression)
    (otherIsExpression : other.IsExpression)
    (lowered : EndsAlike stops results (compiler.lower filter).outcome
      (compiler.lower other).outcome) (query : Query) :
    EndsAlike stops
      (fun compiled otherCompiled => results compiled.predicate otherCompiled.predicate ∧
        compiled.extractPaths = otherCompiled.extractPaths)
      (compiler.compile (query.withFilter filter)).outcome
      (compiler.compile (query.withFilter other)).outcome := by
  apply ends_alike_after sameStop
  intro properties
  rw [Query.withFilter, Query.withFilter, check_operators_congr sameSearch]
  apply ends_alike_after sameStop
  intro checked
  rw [Lowering.filter, Lowering.filter, Lowering.expression_of_is_expression isExpression,
    Lowering.expression_of_is_expression otherIsExpression]
  apply ends_alike_bind lowered
  intro predicate otherPredicate related
  exact .ok ⟨related, rfl⟩

theorem compile_resolutions_eq
    (found : (compiler.lower filter).resolutions = (compiler.lower other).resolutions)
    (query : Query) :
    (compiler.compile (query.withFilter filter)).resolutions =
      (compiler.compile (query.withFilter other)).resolutions := by
  apply resolutions_after
  intro properties
  rw [Query.withFilter, Query.withFilter, check_operators_congr sameSearch]
  apply resolutions_after
  intro checked
  simp [resolutions_filter, found]

end Compiler

end DocumentQuery
