import DocumentQuery.Filter.Literal

/-!
Values as the engine compares them, and their text on the wire. Every value but a date has a text;
a date has none when it falls outside of the years -9999 to 9999 in UTC.
-/

namespace DocumentQuery

open Calendar Number

inductive IndexType where
  | boolean
  | dateTime
  | double
  | long
  | string
  deriving DecidableEq, Repr

namespace IndexType

def all : List IndexType := [boolean, dateTime, double, long, string]

def key : IndexType → String
  | boolean => "xs:boolean"
  | dateTime => "xs:dateTime"
  | double => "xs:double"
  | long => "xs:long"
  | string => "xs:string"

def ofKey? (key : String) : Option IndexType := all.find? fun type => decide (type.key = key)

end IndexType

inductive WireValue where
  | boolean (value : Bool)
  | date (moment : Moment)
  | double (value : Binary64)
  | long (value : Int64)
  | string (value : String)
  deriving DecidableEq

namespace WireValue

def indexType : WireValue → IndexType
  | boolean _ => .boolean
  | date _ => .dateTime
  | double _ => .double
  | long _ => .long
  | string _ => .string

def ofLiteral : Literal → WireValue
  | .boolean value => boolean value
  | .date moment => date moment
  | .double value => double value
  | .integer value => long value
  | .string value => string value

def greatestYear : Nat := 9999

/-- The text of a moment, always in UTC. -/
def dateText? (moment : Moment) : Option String :=
  if moment.toUtc.localDate.year.natAbs ≤ greatestYear then
    some (String.ofList (writeTimestamp moment.toUtc))
  else none

def wireText? : WireValue → Option String
  | boolean value => some (Literal.boolText value)
  | date moment => dateText? moment
  | double value => some (String.ofList (writeBinary64 value))
  | long value => some (String.ofList (writeInt64 value))
  | string value => some value

end WireValue

end DocumentQuery
