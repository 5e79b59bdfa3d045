import DocumentQuery.Text.Basic

/-!
Schemas of documents: named sets of typed fields. A field's name carries the qualifier of its
schema's namespace, if the namespace has one, in front of a colon.
-/

namespace DocumentQuery

inductive ScalarType where
  | binary
  | boolean
  | date
  | double
  | integer
  | string
  deriving DecidableEq, Repr

def ScalarType.name : ScalarType → String
  | binary => "binary"
  | boolean => "boolean"
  | date => "date"
  | double => "double"
  | integer => "integer"
  | string => "string"

structure QualifiedName where
  qualifier : Option String
  localName : String
  deriving DecidableEq, Repr

namespace QualifiedName

/-- An empty qualifier counts as none. -/
def qualified (qualifier localName : String) : QualifiedName :=
  ⟨if qualifier = "" then none else some qualifier, localName⟩

def full : QualifiedName → String
  | ⟨some qualifier, localName⟩ => qualifier ++ ":" ++ localName
  | ⟨none, localName⟩ => localName

end QualifiedName

structure Named (Target : Type) where
  name : QualifiedName
  type : Target

inductive FieldType where
  | scalar (type : ScalarType)
  | list (element : FieldType)
  | complex (name : String) (parts : List (Named FieldType))

abbrev Field := Named FieldType

namespace FieldType

def scalar? : FieldType → Option ScalarType
  | scalar type => some type
  | _ => none

def isBoolean : FieldType → Bool
  | scalar .boolean => true
  | _ => false

def element? : FieldType → Option FieldType
  | list element => some element
  | _ => none

/-- Whether a part is meant by a word, as its local name or as its full name. -/
def answersTo (part : Field) (word : String) : Bool :=
  decide (part.name.localName = word) || decide (part.name.full = word)

/-- The first part of a complex type that is meant by a word. -/
def part? (word : String) : FieldType → Option Field
  | complex _ parts => parts.find? fun part => answersTo part word
  | _ => none

def display : FieldType → String
  | scalar type => type.name
  | list element => "List<" ++ element.display ++ ">"
  | complex name _ => "Complex<" ++ name ++ ">"

end FieldType

structure Namespace where
  uri : String
  qualifier : String
  deriving DecidableEq, Repr

/-- A qualifier of white space alone is none. -/
def Namespace.hasQualifier (space : Namespace) : Bool :=
  !(Text.trimChars space.qualifier.toList).isEmpty

structure Schema where
  name : String
  space : Namespace
  fields : List Field

namespace Schema

/-- The qualifier that every field of the schema has to carry. -/
def expectedQualifier (schema : Schema) : Option String :=
  if schema.space.hasQualifier then some schema.space.qualifier else none

def empty (name : String) (space : Namespace) : Schema := ⟨name, space, []⟩

def withField (schema : Schema) (localName : String) (type : FieldType) : Schema :=
  let name :=
    if schema.space.hasQualifier then QualifiedName.qualified schema.space.qualifier localName
    else ⟨none, localName⟩
  { schema with fields := schema.fields ++ [⟨name, type⟩] }

def field? (schema : Schema) (localName : String) : Option Field :=
  schema.fields.find? fun field => decide (field.name.localName = localName)

end Schema

end DocumentQuery
