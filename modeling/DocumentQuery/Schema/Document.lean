import DocumentQuery.Json
import DocumentQuery.Schema.Basic

/-!
Schemas, fields and field types as JSON. A field type is an object with one member, whose key
tells the kind of type. The qualifier of a name is left out when there is none, and the namespace,
the fields and the namespace's qualifier may be left out of what is read. Members with other keys
are passed over, except beside the one member of a field type. A record is also read from the
array of its members in order, though never written as one.
-/

namespace DocumentQuery

namespace ScalarType

def all : List ScalarType := [binary, boolean, date, double, integer, string]

def ofName? (name : String) : Option ScalarType := all.find? fun type => decide (type.name = name)

/-- A name alone, or as the key of an object with nothing in it. -/
def ofJson? : Json → Option ScalarType
  | .text name => ofName? name
  | .object [(name, .null)] => ofName? name
  | _ => none

end ScalarType

namespace QualifiedName

def toJson (name : QualifiedName) : Json :=
  .object <| match name.qualifier with
    | some qualifier => [("prefix", .text qualifier), ("local", .text name.localName)]
    | none => [("local", .text name.localName)]

def ofJson? (json : Json) : Option QualifiedName := do
  let members ← json.asRecord ["prefix", "local"]
  let qualifier ← match Json.lookup "prefix" members with
    | none => some none
    | some .null => some none
    | some (.text qualifier) => some (some qualifier)
    | some _ => none
  let localName ← Json.textMember "local" members
  some ⟨qualifier, localName⟩

end QualifiedName

namespace FieldType

mutual

def toJson : FieldType → Json
  | scalar type => .object [("scalar", .text type.name)]
  | list element => .object [("list", toJson element)]
  | complex name parts =>
      .object [("complex", .object [("name", .text name), ("fields", .array (partsToJson parts))])]

def partsToJson : List Field → List Json
  | [] => []
  | ⟨name, type⟩ :: rest =>
      .object [("name", name.toJson), ("type", toJson type)] :: partsToJson rest

end

end FieldType

def fieldToJson (field : Field) : Json :=
  .object [("name", field.name.toJson), ("type", field.type.toJson)]

namespace FieldType

mutual

def ofJson? : Json → Option FieldType
  | .object [(kind, body)] =>
      if kind = "scalar" then (ScalarType.ofJson? body).map scalar
      else if kind = "list" then (ofJson? body).map list
      else if kind = "complex" then complexOfJson? body
      else none
  | _ => none

def complexOfJson? : Json → Option FieldType
  | .object members => do
      let name ← Json.textMember "name" members
      let parts ← partsOfMembers? members
      some (complex name parts)
  | .array [.text name, parts] => (partsOfJson? parts).map (complex name)
  | _ => none

/-- The parts stand under the first member of their key. -/
def partsOfMembers? : List (String × Json) → Option (List Field)
  | [] => none
  | (key, value) :: rest => if key = "fields" then partsOfJson? value else partsOfMembers? rest

def partsOfJson? : Json → Option (List Field)
  | .array items => partsOfItems? items
  | _ => none

def partsOfItems? : List Json → Option (List Field)
  | [] => some []
  | item :: rest => do
      let field ← partOfJson? item
      let fields ← partsOfItems? rest
      some (field :: fields)

def partOfJson? : Json → Option Field
  | .object members => do
      let name ← (Json.lookup "name" members).bind QualifiedName.ofJson?
      let type ← typeOfMembers? members
      some ⟨name, type⟩
  | .array [name, type] => do
      let name ← QualifiedName.ofJson? name
      let type ← ofJson? type
      some ⟨name, type⟩
  | _ => none

def typeOfMembers? : List (String × Json) → Option FieldType
  | [] => none
  | (key, value) :: rest => if key = "type" then ofJson? value else typeOfMembers? rest

end

end FieldType

namespace Namespace

def empty : Namespace := ⟨"", ""⟩

def toJson (space : Namespace) : Json :=
  .object [("uri", .text space.uri), ("prefix", .text space.qualifier)]

def ofJson? (json : Json) : Option Namespace := do
  let members ← json.asRecord ["uri", "prefix"]
  let uri ← Json.textMember "uri" members
  let qualifier ← Json.textMemberOr "prefix" "" members
  some ⟨uri, qualifier⟩

end Namespace

namespace Schema

def toJson (schema : Schema) : Json :=
  .object [("name", .text schema.name), ("namespace", schema.space.toJson),
    ("fields", .array (schema.fields.map fieldToJson))]

def ofJson? (json : Json) : Option Schema := do
  let members ← json.asRecord ["name", "namespace", "fields"]
  let name ← Json.textMember "name" members
  let space ← match Json.lookup "namespace" members with
    | none => some Namespace.empty
    | some value => Namespace.ofJson? value
  let fields ← match Json.lookup "fields" members with
    | none => some []
    | some value => FieldType.partsOfJson? value
  some ⟨name, space, fields⟩

end Schema

end DocumentQuery
