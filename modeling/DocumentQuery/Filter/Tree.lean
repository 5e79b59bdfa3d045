import DocumentQuery.Filter.Literal
import DocumentQuery.Filter.Operator

/-!
Filters as trees of operands, before anything is known about the properties they name. Every
operator may stand in every form of node; which trees mean something is decided on compilation.
-/

namespace DocumentQuery

inductive Operand where
  | property (path : String)
  | literal (value : Literal)
  | literals (values : List Literal)
  | unary (operator : Operator) (operand : Operand)
  | binary (operator : Operator) (left right : Operand)
  | nary (operator : Operator) (operands : List Operand)

namespace Operand

def kind : Operand → String
  | property _ => "reference"
  | literal _ => "literal"
  | literals _ => "literal list"
  | unary _ _ => "expression"
  | binary _ _ _ => "expression"
  | nary _ _ => "multi-expression"

mutual

def display : Operand → String
  | property path => path
  | literal value => value.display
  | literals values => Literal.displayList values
  | unary operator operand =>
      if operator = .not then "NOT (" ++ display operand ++ ")"
      else display operand ++ " " ++ operator.tag
  | binary operator left right =>
      "(" ++ display left ++ " " ++ operator.tag ++ " " ++ display right ++ ")"
  | nary operator operands =>
      "(" ++ String.intercalate (" " ++ operator.tag ++ " ") (displayEach operands) ++ ")"

def displayEach : List Operand → List String
  | [] => []
  | operand :: rest => display operand :: displayEach rest

end

/-- The kind of an operand and its text, as messages show it. -/
def describe (operand : Operand) : String := operand.kind ++ " " ++ operand.display

mutual

/-- The first operator, from the root down and from left to right, that the engine has no
predicate for. -/
def firstWithoutPredicate : Operand → Option Operator
  | property _ | literal _ | literals _ => none
  | unary operator operand =>
      if operator.lacksPredicate then some operator else firstWithoutPredicate operand
  | binary operator left right =>
      if operator.lacksPredicate then some operator
      else (firstWithoutPredicate left).or (firstWithoutPredicate right)
  | nary _ operands => firstWithoutPredicateOf operands

def firstWithoutPredicateOf : List Operand → Option Operator
  | [] => none
  | operand :: rest => (firstWithoutPredicate operand).or (firstWithoutPredicateOf rest)

end

def compare (path : String) (operator : Operator) (value : Literal) : Operand :=
  binary operator (property path) (literal value)

def member (path : String) (operator : Operator) (values : List Literal) : Operand :=
  binary operator (property path) (literals values)

end Operand

end DocumentQuery
