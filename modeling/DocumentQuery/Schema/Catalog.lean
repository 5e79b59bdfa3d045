import DocumentQuery.Schema.Basic

/-!
Catalogs of schemas. A catalog is made only of schemas with different names, whose fields carry
the qualifier of their schema and have full names that no other field has. The checks go through
the schemas and their fields in order, and the first one that fails is reported.
-/

namespace DocumentQuery

inductive CatalogFault where
  | duplicateSchema (schema : String)
  | duplicateField (schema localName : String)
  | ambiguousField (field first second : String)
  | qualifierMismatch (schema field : String)
  deriving DecidableEq, Repr

def CatalogFault.message : CatalogFault → String
  | duplicateSchema schema => "duplicate schema '" ++ schema ++ "'"
  | duplicateField schema localName =>
      "schema '" ++ schema ++ "' declares field '" ++ localName ++ "' twice"
  | ambiguousField field first second =>
      "field '" ++ field ++ "' is declared by both '" ++ first ++ "' and '" ++ second ++ "'"
  | qualifierMismatch schema field =>
      "field '" ++ field ++ "' does not use the namespace prefix of schema '" ++ schema ++ "'"

structure CatalogEntry where
  name : String
  schema : String
  field : Field

structure Catalog where
  schemas : List Schema
  entries : List CatalogEntry

namespace Catalog

def findEntry (name : String) : List CatalogEntry → Option CatalogEntry
  | [] => none
  | entry :: rest => if entry.name = name then some entry else findEntry name rest

/-- Enters the fields of a schema after the entries so far. The list of local names holds those
that the schema has declared already. -/
def enterFields (schema : Schema) :
    List String → List CatalogEntry → List Field → Except CatalogFault (List CatalogEntry)
  | _, entries, [] => .ok entries
  | localNames, entries, field :: rest =>
      if field.name.qualifier ≠ schema.expectedQualifier then
        .error (.qualifierMismatch schema.name field.name.full)
      else if field.name.localName ∈ localNames then
        .error (.duplicateField schema.name field.name.localName)
      else
        match findEntry field.name.full entries with
        | some other => .error (.ambiguousField field.name.full other.schema schema.name)
        | none =>
            enterFields schema (field.name.localName :: localNames)
              (entries ++ [⟨field.name.full, schema.name, field⟩]) rest

def enterSchemas :
    List String → List CatalogEntry → List Schema → Except CatalogFault (List CatalogEntry)
  | _, entries, [] => .ok entries
  | names, entries, schema :: rest =>
      if schema.name ∈ names then .error (.duplicateSchema schema.name)
      else
        match enterFields schema [] entries schema.fields with
        | .error fault => .error fault
        | .ok entered => enterSchemas (schema.name :: names) entered rest

def ofSchemas (schemas : List Schema) : Except CatalogFault Catalog :=
  match enterSchemas [] [] schemas with
  | .error fault => .error fault
  | .ok entries => .ok ⟨schemas, entries⟩

def field? (catalog : Catalog) (name : String) : Option Field :=
  (findEntry name catalog.entries).map CatalogEntry.field

def schema? (catalog : Catalog) (name : String) : Option Schema :=
  catalog.schemas.find? fun schema => decide (schema.name = name)

/-- The schemas whose fields are addressed by their local names, in order. -/
def unqualifiedSchemas (catalog : Catalog) : List Schema :=
  catalog.schemas.filter fun schema => !schema.space.hasQualifier

end Catalog

end DocumentQuery
