import DocumentQuery.Schema.Basic

/-!
Properties of documents as queries use them: the canonical path, the key under which the engine
stores them, and what is known of their type.
-/

namespace DocumentQuery

inductive KnownType where
  | scalar (type : ScalarType)
  | list
  | complex
  | unresolved
  deriving DecidableEq, Repr

namespace KnownType

def ofFieldType : FieldType → KnownType
  | .scalar type => scalar type
  | .list _ => list
  | .complex _ _ => complex

def isBoolean : KnownType → Bool
  | scalar .boolean => true
  | _ => false

def name : KnownType → String
  | scalar type => type.name
  | list => "list"
  | complex => "complex"
  | unresolved => "unresolved"

end KnownType

structure Property where
  /-- The canonical spelling of the path. -/
  path : String
  /-- The key in the engine's index. -/
  storageKey : String
  declared : KnownType
  wildcard : Bool
  /-- A boolean of a document that is stored only when true. -/
  triState : Bool
  mixin : Bool
  system : Bool
  deriving DecidableEq, Repr

end DocumentQuery
