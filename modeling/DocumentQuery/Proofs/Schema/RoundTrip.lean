import DocumentQuery.Proofs.Schema.Document

/-!
Schemas written as JSON and read again. What is written is a document of what was written, and a
document stands for one thing alone, so that nothing is lost on the way; and a document that is
read and written anew, whatever it had left out or put in, still stands for the same schema.
-/

namespace DocumentQuery

open Json

theorem QualifiedName.to_json_is_document (name : QualifiedName) : IsDocument name.toJson name := by
  obtain ⟨qualifier, localName⟩ := name
  cases qualifier with
  | none => exact .record (.object _) (.absent rfl) rfl
  | some qualifier => exact .record (.object _) (.present rfl (.text qualifier)) rfl

namespace FieldType

mutual

theorem to_json_is_document : ∀ type : FieldType, IsDocument type.toJson type
  | .scalar type => by
      rw [toJson]
      exact .scalar (.named type)
  | .list element => by
      rw [toJson]
      exact .list (to_json_is_document element)
  | .complex name parts => by
      rw [toJson]
      exact .complex (.object _) rfl rfl (parts_to_json_are_parts parts)

theorem parts_to_json_are_parts : ∀ parts : List Field, AreParts (partsToJson parts) parts
  | [] => by
      rw [partsToJson]
      exact .nil
  | ⟨name, type⟩ :: rest => by
      rw [partsToJson]
      have first : IsPart (.object [("name", name.toJson), ("type", type.toJson)]) ⟨name, type⟩ :=
        .record (.object _) rfl name.to_json_is_document rfl (to_json_is_document type)
      exact .cons first (parts_to_json_are_parts rest)

end

theorem field_to_json_is_part (field : Field) : IsPart (fieldToJson field) field :=
  .record (.object _) rfl field.name.to_json_is_document rfl (to_json_is_document field.type)

theorem map_field_to_json_are_parts (fields : List Field) :
    AreParts (fields.map fieldToJson) fields := by
  induction fields with
  | nil => exact .nil
  | cons field rest induction => exact .cons (field_to_json_is_part field) induction

end FieldType

theorem Namespace.to_json_is_document (space : Namespace) : IsDocument space.toJson space :=
  .record (.object _) rfl (.present rfl rfl)

theorem Schema.to_json_is_document (schema : Schema) : IsDocument schema.toJson schema :=
  .record (.object _) rfl (.present rfl schema.space.to_json_is_document)
    (.present rfl (.array (FieldType.map_field_to_json_are_parts schema.fields)))

namespace Schema

/-- Field types, fields and schemas are read as they were written. A schema is read from exactly its
documents, and from each of them it can be written and read again. -/
theorem json_round_trip :
    (∀ type : FieldType, FieldType.ofJson? type.toJson = some type) ∧
    (∀ field : Field, FieldType.partOfJson? (fieldToJson field) = some field) ∧
    (∀ schema : Schema, ofJson? schema.toJson = some schema) ∧
    ∀ (json : Json) (schema : Schema),
      (ofJson? json = some schema ↔ IsDocument json schema) ∧
        (ofJson? json = some schema → ofJson? schema.toJson = some schema) := by
  have schemas : ∀ schema : Schema, ofJson? schema.toJson = some schema := fun schema =>
    (of_json_iff_is_document _ _).mpr schema.to_json_is_document
  refine ⟨?_, ?_, schemas, fun json schema => ⟨of_json_iff_is_document json schema, ?_⟩⟩
  · intro type
    exact (FieldType.of_json_iff_is_document _ _).mpr type.to_json_is_document
  · intro field
    exact (FieldType.part_of_json_iff_is_part _ _).mpr (FieldType.field_to_json_is_part field)
  · intro _
    exact schemas schema

/-- A document without a namespace, with members of other keys and with a field in an array. -/
def looseDocument : Json :=
  .object
    [("comment", .texts ["of no account"]),
      ("fields", .array
        [.object
          [("type", .object
            [("complex", .object
              [("fields", .array
                [.array [.object [("local", .text "size"), ("prefix", .text "")],
                  .object [("list", .object [("scalar", .object [("integer", .null)])])]]]),
                ("order", .number 3 0), ("name", .text "content")])]),
            ("name", .object [("prefix", .null), ("local", .text "file")])]]),
      ("name", .text "files")]

def looseSchema : Schema :=
  ⟨"files", ⟨"", ""⟩,
    [⟨⟨none, "file"⟩, .complex "content" [⟨⟨some "", "size"⟩, .list (.scalar .integer)⟩]⟩]⟩

theorem json_round_trip_loose :
    ofJson? looseDocument = some looseSchema ∧ ofJson? looseSchema.toJson = some looseSchema ∧
      IsDocument looseDocument looseSchema := by
  have read : ofJson? looseDocument = some looseSchema := by
    rfl
  obtain ⟨isDocument, readAgain⟩ := json_round_trip.2.2.2 looseDocument looseSchema
  exact ⟨read, readAgain read, isDocument.mp read⟩

end Schema

end DocumentQuery
