import DocumentQuery.Compile.Attempt
import DocumentQuery.Compile.Comparand
import DocumentQuery.Search.Predicate

/-!
Filters lowered to predicates of the engine. A comparison becomes one test on the storage key of
its property, and the connectives are carried over as they stand. The negated operators are
negations of the others.
-/

namespace DocumentQuery

namespace Lowering

variable (catalog : Catalog) (settings : Settings)

def propertyOf : Operand → Attempt Property
  | .property path => Attempt.resolve catalog settings path
  | other => Attempt.reject (.invalidQuery (.notProperty other.describe))

def literalOf (operator : Operator) : Option Operand → Attempt Literal
  | some (.literal value) => .done value
  | some other => Attempt.reject (.invalidQuery (.notLiteral operator other.describe))
  | none => Attempt.reject (.invalidQuery (.missingLiteral operator))

def literalsOf (operator : Operator) : Option Operand → Attempt (List Literal)
  | some (.literals values) => .done values
  | some other => Attempt.reject (.invalidQuery (.notLiteralList operator other.describe))
  | none => Attempt.reject (.invalidQuery (.missingLiteralList operator))

def wireText (value : WireValue) : Attempt String :=
  match value.wireText? with
  | some text => .done text
  | none => Attempt.stop .aborted

/-- There is no test for a single facet. -/
def rejectMixin (property : Property) (right : Option Operand) : Attempt Predicate :=
  match right with
  | some (.literal (.string _)) => Attempt.reject (.unsupported (.equality property.path))
  | _ => Attempt.reject (.invalidQuery (.stringRequired property.path))

def equality (operator : Operator) (left : Operand) (right : Option Operand) :
    Attempt Predicate := do
  let property ← propertyOf catalog settings left
  if property.mixin then rejectMixin property right
  else
    let literal ← literalOf operator right
    let comparand ← Attempt.ofExcept (Comparand.ofLiteral property literal)
    match comparand with
    | .value value =>
        let text ← wireText value
        return .valueIs property.storageKey text
    | .absent => return .negation (.valueIs property.storageKey "true")

def range (operator : Operator) (relation : RangeRelation) (left : Operand)
    (right : Option Operand) : Attempt Predicate := do
  let property ← propertyOf catalog settings left
  let literal ← literalOf operator right
  let comparand ← Attempt.ofExcept (Comparand.ofLiteral property literal)
  let value ← Attempt.ofExcept (comparand.present property relation.tag)
  let text ← wireText value
  return .range property.storageKey value.indexType relation text

def memberText (property : Property) (literal : Literal) : Attempt String := do
  let comparand ← Attempt.ofExcept (Comparand.ofLiteral property literal)
  let value ← Attempt.ofExcept (comparand.present property Operator.isIn.tag)
  wireText value

def membership (operator : Operator) (left : Operand) (right : Option Operand) :
    Attempt Predicate := do
  let property ← propertyOf catalog settings left
  let literals ← literalsOf operator right
  if literals.isEmpty then
    Attempt.reject (.invalidQuery (.emptyLiteralList operator property.path))
  else
    let texts ← Attempt.each (memberText property) literals
    return .value property.storageKey texts

def existence (left : Operand) : Attempt Predicate := do
  let property ← propertyOf catalog settings left
  return .containerExists property.storageKey

def negated (attempt : Attempt Predicate) : Attempt Predicate := do
  let predicate ← attempt
  return .negation predicate

/-- A comparison, by its operator. The right operand of the tests for null is not looked at. -/
def comparison (operator : Operator) (left : Operand) (right : Option Operand) :
    Attempt Predicate :=
  match operator with
  | .equal => equality catalog settings operator left right
  | .notEqual => negated (equality catalog settings operator left right)
  | .less => range catalog settings operator .less left right
  | .greater => range catalog settings operator .greater left right
  | .lessEqual => range catalog settings operator .lessEqual left right
  | .greaterEqual => range catalog settings operator .greaterEqual left right
  | .isIn => membership catalog settings operator left right
  | .isNotIn => negated (membership catalog settings operator left right)
  | .isNull => negated (existence catalog settings left)
  | .isNotNull => existence catalog settings left
  | other => Attempt.reject (.unsupported (.operator other))

def combine (operator : Operator) (parts : List Predicate) : Predicate :=
  if operator = .or then .disjunction parts else .conjunction parts

/-- A single part needs no connective around it. -/
def combineSeveral (operator : Operator) : List Predicate → Predicate
  | [part] => part
  | parts => combine operator parts

mutual

/-- A filter, as a whole or as an operand of a connective; an operand that is no expression is a
misfit in both places. -/
def expression (misfit : String → QueryFault) : Operand → Attempt Predicate
  | .unary operator left =>
      if operator = .and ∨ operator = .or then expression .notExpression left
      else if operator = .not then negated (expression .notExpression left)
      else comparison catalog settings operator left none
  | .binary operator left right =>
      if operator = .and ∨ operator = .or then do
        let first ← expression .notExpression left
        let second ← expression .notExpression right
        return combine operator [first, second]
      else if operator = .not then negated (expression .notExpression left)
      else comparison catalog settings operator left (some right)
  | .nary operator operands =>
      if operator ≠ .and ∧ operator ≠ .or then
        Attempt.reject (.invalidQuery (.notConnective operator))
      else if operands.isEmpty then Attempt.reject (.invalidQuery (.emptyConnective operator))
      else do
        let predicates ← expressions operands
        return combineSeveral operator predicates
  | .property path => Attempt.reject (.invalidQuery (misfit (Operand.property path).describe))
  | .literal value => Attempt.reject (.invalidQuery (misfit (Operand.literal value).describe))
  | .literals values => Attempt.reject (.invalidQuery (misfit (Operand.literals values).describe))

def expressions : List Operand → Attempt (List Predicate)
  | [] => .done []
  | first :: rest => do
      let predicate ← expression .notExpression first
      let predicates ← expressions rest
      return predicate :: predicates

end

def filter (operand : Operand) : Attempt Predicate :=
  expression catalog settings .notBoolean operand

end Lowering

end DocumentQuery
