import DocumentQuery.Search.WireValue

/-!
The engine's algebra of predicates. A value predicate holds when its element has one of some
texts, a range predicate when the element stands in a relation to a value, and a container
predicate when something holds inside of the element.
-/

namespace DocumentQuery

inductive RangeRelation where
  | less
  | lessEqual
  | greater
  | greaterEqual
  deriving DecidableEq, Repr

namespace RangeRelation

def all : List RangeRelation := [less, lessEqual, greater, greaterEqual]

def tag : RangeRelation → String
  | less => "LT"
  | lessEqual => "LE"
  | greater => "GT"
  | greaterEqual => "GE"

def ofTag? (tag : String) : Option RangeRelation :=
  all.find? fun relation => decide (relation.tag = tag)

end RangeRelation

inductive Predicate where
  | conjunction (parts : List Predicate)
  | disjunction (parts : List Predicate)
  | negation (part : Predicate)
  | value (element : String) (texts : List String)
  | range (element : String) (type : IndexType) (relation : RangeRelation) (text : String)
  | container (element : String) (inner : Predicate)

namespace Predicate

def valueIs (element text : String) : Predicate := value element [text]

/-- Holds of the documents that have the element at all. -/
def containerExists (element : String) : Predicate := container element (conjunction [])

mutual

/-- The number of tests on elements. What stands inside of a container is part of its test. -/
def leafCount : Predicate → Nat
  | conjunction parts => leafCountOf parts
  | disjunction parts => leafCountOf parts
  | negation part => leafCount part
  | value _ _ => 1
  | range _ _ _ _ => 1
  | container _ _ => 1

def leafCountOf : List Predicate → Nat
  | [] => 0
  | part :: rest => leafCount part + leafCountOf rest

end

end Predicate

end DocumentQuery
