import DocumentQuery.Filter.Tree

/-!
The causes for which a filter, a literal or a property path is rejected, with the wording of each
in one place. Operands in messages are given by their description.
-/

namespace DocumentQuery

inductive QueryFault where
  | selectsOperand (found : String)
  | notBoolean (found : String)
  | notExpression (found : String)
  | notProperty (found : String)
  | notConnective (operator : Operator)
  | emptyConnective (operator : Operator)
  | stringRequired (path : String)
  | notLiteral (operator : Operator) (found : String)
  | missingLiteral (operator : Operator)
  | notLiteralList (operator : Operator) (found : String)
  | missingLiteralList (operator : Operator)
  | emptyLiteralList (operator : Operator) (path : String)
  deriving DecidableEq, Repr

/-- Why an integer cannot stand for a truth value in its place. -/
inductive TruthFault where
  | absenceTest (path operation : String)
  | neitherZeroNorOne (path : String) (value : Int64)
  deriving DecidableEq

inductive Feature where
  | operator (unmatched : Operator)
  | equality (path : String)
  | systemProperty (name : String)
  deriving DecidableEq, Repr

inductive Rejection where
  | unknownProperty (path : String)
  | invalidQuery (fault : QueryFault)
  | invalidLiteral (fault : LiteralFault)
  | invalidTruthValue (fault : TruthFault)
  | unsupported (feature : Feature)
  | unknownOperator (tag : String)
  deriving DecidableEq

inductive RejectionKind where
  | unknownProperty
  | invalidQuery
  | invalidLiteral
  | unsupportedOperator
  | unknownOperator
  deriving DecidableEq, Repr

/-- Whether the caller asked for something wrong or for something that does not exist yet. -/
inductive RejectionClass where
  | invalidInput
  | unsupported
  deriving DecidableEq, Repr

def QueryFault.message : QueryFault → String
  | selectsOperand found => "only properties can be selected, found " ++ found
  | notBoolean found => "expected a boolean expression, found " ++ found
  | notExpression found => "boolean operand must be an expression, found " ++ found
  | notProperty found => "expected a property reference, found " ++ found
  | notConnective operator =>
      "multi-expression operator must be AND or OR, found " ++ operator.tag
  | emptyConnective operator => "empty " ++ operator.tag ++ " multi-expression"
  | stringRequired path => path ++ " must be compared with a string"
  | notLiteral operator found => operator.tag ++ " expects a literal, found " ++ found
  | missingLiteral operator => operator.tag ++ " is missing its right operand"
  | notLiteralList operator found => operator.tag ++ " expects a literal list, found " ++ found
  | missingLiteralList operator => operator.tag ++ " is missing its literal list"
  | emptyLiteralList operator path =>
      operator.tag ++ " on " ++ path ++ " needs at least one value"

def TruthFault.message : TruthFault → String
  | absenceTest path operation =>
      "0 on boolean field " ++ path ++ " is only valid with = or <>, not " ++ operation
  | neitherZeroNorOne path value =>
      "boolean field " ++ path ++ " compared with " ++ String.ofList (Number.writeInt64 value)
        ++ ", expected 0 or 1"

def Feature.name : Feature → String
  | operator unmatched => unmatched.tag
  | equality path => "equality on " ++ path
  | systemProperty name => name

def RejectionKind.name : RejectionKind → String
  | unknownProperty => "unknown_property"
  | invalidQuery => "invalid_query"
  | invalidLiteral => "invalid_literal"
  | unsupportedOperator => "unsupported_operator"
  | unknownOperator => "unknown_operator"

def RejectionClass.name : RejectionClass → String
  | invalidInput => "invalid_input"
  | unsupported => "unsupported"

namespace Rejection

def kind : Rejection → RejectionKind
  | unknownProperty _ => .unknownProperty
  | invalidQuery _ => .invalidQuery
  | invalidLiteral _ => .invalidLiteral
  | invalidTruthValue _ => .invalidLiteral
  | unsupported _ => .unsupportedOperator
  | unknownOperator _ => .unknownOperator

def classOf (rejection : Rejection) : RejectionClass :=
  if rejection.kind = .unsupportedOperator then .unsupported else .invalidInput

def message : Rejection → String
  | unknownProperty path => "no such property: " ++ path
  | invalidQuery fault => "invalid query: " ++ fault.message
  | invalidLiteral fault => "invalid literal: " ++ fault.message
  | invalidTruthValue fault => "invalid literal: " ++ fault.message
  | unsupported feature => "unsupported operator: " ++ feature.name
  | unknownOperator tag => "unknown operator: " ++ tag

end Rejection

/-- Reads an operator and reports an unknown tag without the white space around it. -/
def Operator.read (text : String) : Except Rejection Operator :=
  match Operator.ofTag? text with
  | some operator => .ok operator
  | none => .error (.unknownOperator (Text.trim text))

def Literal.read (typeName text : String) : Except Rejection Literal :=
  (Literal.parse typeName text).mapError Rejection.invalidLiteral

end DocumentQuery
