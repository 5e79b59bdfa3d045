import DocumentQuery.Schema.Catalog
import DocumentQuery.Text.Basic

/-!
Walks from the fields of a catalog into their types, one segment of a path after another. A segment
that stands for a position in a list is a number, or a wildcard with or without a number; only the
digits of ASCII count there.
-/

namespace DocumentQuery

open Text

namespace Property

def isIndex (segment : List Char) : Bool := !segment.isEmpty && segment.all isAsciiDigit

def isWildcard : List Char → Bool
  | '*' :: digits => digits.all isAsciiDigit
  | _ => false

def isPosition (segment : List Char) : Bool := isIndex segment || isWildcard segment

end Property

open Property

namespace Catalog

/-- The field that the head of a path names: by its full name, or, without a colon, by its local
name in the first schema without a qualifier that has one. -/
def topLevel? (catalog : Catalog) (name : String) : Option Field :=
  match catalog.field? name with
  | some field => some field
  | none =>
      if name.toList.contains ':' then none
      else catalog.unqualifiedSchemas.findSome? fun schema => schema.field? name

end Catalog

namespace FieldType

/-- One step into a type: a position enters a list, and any other word a part. -/
def step? (type : FieldType) (segment : List Char) : Option FieldType :=
  if isPosition segment then type.element?
  else (type.part? (String.ofList segment)).map Named.type

def walk? (type : FieldType) : List (List Char) → Option FieldType
  | [] => some type
  | segment :: rest =>
      match type.step? segment with
      | some next => walk? next rest
      | none => none

end FieldType

namespace Property

/-- The segments of a canonical path, slashes at its end left aside. -/
def segments (path : List Char) : List (List Char) := (dropEnd (· = '/') path).splitOn '/'

def locate? (catalog : Catalog) : List (List Char) → Option (Field × FieldType)
  | [] => none
  | head :: rest =>
      match catalog.topLevel? (String.ofList head) with
      | none => none
      | some field => (field.type.walk? rest).map fun type => (field, type)

end Property

end DocumentQuery
