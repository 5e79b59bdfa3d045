import DocumentQuery.Proofs.Schema.Declared
import DocumentQuery.Proofs.Schema.Parts

/-!
Schemas that differ in the order of parts. A catalog is made of what the schemas say of themselves
and of the names of their fields, whatever the types, so that schemas with the parts of their
complex types in other orders make a catalog too.
-/

namespace DocumentQuery

namespace FieldType

mutual

/-- The same type with the parts of its complex types in other orders, at every depth. -/
inductive Reordered : FieldType → FieldType → Prop
  | scalar (type : ScalarType) : Reordered (scalar type) (scalar type)
  | list {element other : FieldType} (inner : Reordered element other) :
      Reordered (list element) (list other)
  -- first within the parts, then among them
  | complex (name : String) {parts others reordered : List Field}
      (each : EachReordered parts others) (order : others.Perm reordered) :
      Reordered (complex name parts) (complex name reordered)

inductive EachReordered : List Field → List Field → Prop
  | nil : EachReordered [] []
  | cons {field other : Field} {rest others : List Field} (name : field.name = other.name)
      (first : Reordered field.type other.type) (later : EachReordered rest others) :
      EachReordered (field :: rest) (other :: others)

end

structure FieldReordered (field other : Field) : Prop where
  name : field.name = other.name
  type : Reordered field.type other.type

theorem names_of_each_reordered : ∀ {fields others : List Field}, EachReordered fields others →
    fields.map Named.name = others.map Named.name
  | _, _, .nil => rfl
  | _, _, .cons name _ later => by
      rw [List.map_cons, List.map_cons, name, names_of_each_reordered later]

theorem each_reordered_append : ∀ {fields others more moreOthers : List Field},
    EachReordered fields others → EachReordered more moreOthers →
      EachReordered (fields ++ more) (others ++ moreOthers)
  | _, _, _, _, .nil, each => each
  | _, _, _, _, .cons name first later, each =>
      .cons name first (each_reordered_append later each)

theorem find_of_each_reordered (means : QualifiedName → Bool) : ∀ {fields others : List Field},
    EachReordered fields others →
      Option.Rel FieldReordered (fields.find? fun field => means field.name)
        (others.find? fun field => means field.name)
  | _, _, .nil => .none
  | field :: _, _, .cons name first later => by
      rw [List.find?_cons, List.find?_cons, ← name]
      cases means field.name with
      | true => exact .some ⟨name, first⟩
      | false => exact find_of_each_reordered means later

theorem parts_apart_of_names {parts others : List Field}
    (names : parts.map Named.name = others.map Named.name) (apart : PartsApart parts) :
    PartsApart others := by
  have apartNames : (parts.map Named.name).Pairwise QualifiedName.Apart :=
    List.pairwise_map.mpr apart
  rw [names] at apartNames
  exact List.pairwise_map.mp apartNames

theorem part_of_reordered {type other : FieldType} (apart : ApartThroughout type)
    (reordered : Reordered type other) (word : String) :
    Option.Rel FieldReordered (type.part? word) (other.part? word) := by
  cases reordered with
  | scalar type => exact .none
  | list inner => exact .none
  | complex name each order =>
      have partsApart := apart name _ (.here _)
      -- the names alone tell whether parts are apart, so the order may change last
      have othersApart := parts_apart_of_names (names_of_each_reordered each) partsApart
      rw [part_of_perm order othersApart name word]
      exact find_of_each_reordered
        (fun name => decide (name.localName = word) || decide (name.full = word)) each

end FieldType

namespace Schema

/-- What a schema says of itself, and the names of its fields. -/
structure Outline where
  name : String
  space : Namespace
  fieldNames : List QualifiedName

def outline (schema : Schema) : Outline :=
  ⟨schema.name, schema.space, schema.fields.map Named.name⟩

theorem full_names_declared_fields (schemas : List Schema) :
    fullNames (declaredFields schemas) =
      ((schemas.map outline).flatMap Outline.fieldNames).map QualifiedName.full := by
  induction schemas with
  | nil => rfl
  | cons schema rest induction =>
      rw [full_names_declared_fields_cons, induction]
      simp [fullNames, outline]

theorem unambiguous_of_outlines {schemas others : List Schema}
    (outlines : schemas.map outline = others.map outline) (unambiguous : Unambiguous schemas) :
    Unambiguous others := by
  constructor
  · have names : others.map Schema.name = schemas.map Schema.name := by
      have mapped := congrArg (List.map Outline.name) outlines
      rw [List.map_map, List.map_map] at mapped
      exact mapped.symm
    rw [names]
    exact unambiguous.namesDistinct
  · intro other otherMember field fieldMember
    have listed : other.outline ∈ schemas.map outline := by
      rw [outlines]
      exact List.mem_map_of_mem otherMember
    obtain ⟨schema, member, same⟩ := List.mem_map.mp listed
    have space : schema.space = other.space := congrArg Outline.space same
    have names : schema.fields.map Named.name = other.fields.map Named.name :=
      congrArg Outline.fieldNames same
    have named : field.name ∈ schema.fields.map Named.name := by
      rw [names]
      exact List.mem_map_of_mem fieldMember
    obtain ⟨own, ownMember, ownName⟩ := List.mem_map.mp named
    rw [← ownName, ← space]
    exact unambiguous.qualified schema member own ownMember
  · rw [full_names_declared_fields, ← outlines, ← full_names_declared_fields]
    exact unambiguous.fullNamesDistinct

inductive EachReordered : List Schema → List Schema → Prop
  | nil : EachReordered [] []
  | cons {schema other : Schema} {rest others : List Schema} (name : schema.name = other.name)
      (space : schema.space = other.space)
      (fields : FieldType.EachReordered schema.fields other.fields)
      (later : EachReordered rest others) : EachReordered (schema :: rest) (other :: others)

theorem outlines_of_each_reordered : ∀ {schemas others : List Schema},
    EachReordered schemas others → schemas.map outline = others.map outline
  | _, _, .nil => rfl
  | _, _, .cons name space fields later => by
      rw [List.map_cons, List.map_cons, outlines_of_each_reordered later, outline, outline, name,
        space, FieldType.names_of_each_reordered fields]

theorem declared_fields_of_each_reordered : ∀ {schemas others : List Schema},
    EachReordered schemas others →
      FieldType.EachReordered (declaredFields schemas) (declaredFields others)
  | _, _, .nil => .nil
  | _, _, .cons _ _ fields later =>
      FieldType.each_reordered_append fields (declared_fields_of_each_reordered later)

end Schema

namespace Catalog

open Schema

/-- Schemas are accepted whatever the types of their fields. -/
theorem of_schemas_of_outlines {schemas others : List Schema}
    (outlines : schemas.map outline = others.map outline) {catalog : Catalog}
    (built : ofSchemas schemas = .ok catalog) :
    ofSchemas others = .ok ⟨others, declaredEntries others⟩ := by
  have unambiguous := ((of_schemas_eq_ok_iff _ _).mp built).1
  exact (of_schemas_eq_ok_iff _ _).mpr ⟨unambiguous_of_outlines outlines unambiguous, rfl⟩

end Catalog

end DocumentQuery
