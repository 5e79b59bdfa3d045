/-!
Values of JSON. An object is a list of members in order, and a member is looked up by its key; of
two members with one key the first is found. A number is a decimal mantissa and the number of its
digits after the point.
-/

namespace DocumentQuery

inductive Json where
  | null
  | bool (value : Bool)
  | number (mantissa : Int) (places : Nat)
  | text (value : String)
  | array (items : List Json)
  | object (members : List (String × Json))
  deriving Inhabited

namespace Json

def texts (values : List String) : Json := array (values.map text)

def lookup (key : String) : List (String × Json) → Option Json
  | [] => none
  | (name, value) :: rest => if name = key then some value else lookup key rest

def asText : Json → Option String
  | text value => some value
  | _ => none

/-- The members of a record with the given keys. A record is an object, or an array of the first
few of its members in order. -/
def asRecord (keys : List String) : Json → Option (List (String × Json))
  | object members => some members
  | array items => if items.length ≤ keys.length then some (keys.zip items) else none
  | _ => none

def textMember (key : String) (members : List (String × Json)) : Option String :=
  (lookup key members).bind asText

/-- The text of a member, or a given text where the member is absent. -/
def textMemberOr (key fallback : String) (members : List (String × Json)) : Option String :=
  match lookup key members with
  | none => some fallback
  | some value => asText value

end Json

end DocumentQuery
