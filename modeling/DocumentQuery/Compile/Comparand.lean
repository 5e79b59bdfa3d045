import DocumentQuery.Property.Basic
import DocumentQuery.Rejection
import DocumentQuery.Search.WireValue

/-!
Literals as values of the property that they are compared with. On a boolean property the integers
one and zero stand for true and false. A property that is stored only when true has no value for
false, so that zero asks there for the absence of true.
-/

namespace DocumentQuery

inductive Comparand where
  | value (value : WireValue)
  | absent
  deriving DecidableEq

namespace Comparand

def ofInteger (property : Property) (integer : Int64) : Except Rejection Comparand :=
  if integer = 0 then
    if property.triState then .ok absent else .ok (value (.boolean false))
  else if integer = 1 then .ok (value (.boolean true))
  else .error (.invalidTruthValue (.neitherZeroNorOne property.path integer))

def ofLiteral (property : Property) : Literal → Except Rejection Comparand
  | .integer integer =>
      if property.declared.isBoolean then ofInteger property integer
      else .ok (value (.long integer))
  | other => .ok (value (WireValue.ofLiteral other))

/-- The value, for an operation that cannot test for absence. -/
def present (property : Property) (operation : String) : Comparand → Except Rejection WireValue
  | value found => .ok found
  | absent => .error (.invalidTruthValue (.absenceTest property.path operation))

end Comparand

end DocumentQuery
