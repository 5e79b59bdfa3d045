import DocumentQuery.Property.Lookup
import DocumentQuery.Proofs.Property.TopLevel

/-!
Properties in catalogs of more schemas. A path that names a property keeps naming it when schemas
are added, and the order of schemas makes no difference to what a path names.
-/

namespace DocumentQuery

namespace Schema

theorem declared_fields_subset {schemas larger : List Schema} (part : schemas ⊆ larger) :
    declaredFields schemas ⊆ declaredFields larger := by
  intro field declared
  obtain ⟨schema, present, member⟩ := List.mem_flatMap.mp declared
  exact List.mem_flatMap.mpr ⟨schema, part present, member⟩

theorem unambiguous_of_perm {schemas reordered : List Schema} (perm : schemas.Perm reordered)
    (unambiguous : Unambiguous schemas) : Unambiguous reordered := by
  have declared : (declaredFields schemas).Perm (declaredFields reordered) :=
    perm.flatMap_right Schema.fields
  constructor
  · exact (perm.map Schema.name).nodup_iff.mp unambiguous.namesDistinct
  · intro schema member
    exact unambiguous.qualified schema (perm.mem_iff.mpr member)
  · have names : (fullNames (declaredFields schemas)).Perm (fullNames (declaredFields reordered)) :=
      declared.map _
    exact names.nodup_iff.mp unambiguous.fullNamesDistinct

end Schema

namespace Catalog

theorem of_schemas_of_perm {schemas reordered : List Schema} (perm : schemas.Perm reordered)
    {catalog : Catalog} (built : ofSchemas schemas = .ok catalog) :
    ∃ other, ofSchemas reordered = .ok other := by
  have unambiguous := ((of_schemas_eq_ok_iff _ _).mp built).1
  exact ⟨_, (of_schemas_eq_ok_iff _ _).mpr ⟨Schema.unambiguous_of_perm perm unambiguous, rfl⟩⟩

end Catalog

namespace Property

variable {schemas larger : List Schema} {catalog grown : Catalog}

theorem top_level_of_larger (built : Catalog.ofSchemas schemas = .ok catalog)
    (grownBuilt : Catalog.ofSchemas larger = .ok grown) (part : schemas ⊆ larger)
    {name : String} {field : Field} (found : catalog.topLevel? name = some field) :
    grown.topLevel? name = some field := by
  rw [Catalog.top_level_eq_field built, Catalog.field_eq_some_iff built] at found
  rw [Catalog.top_level_eq_field grownBuilt, Catalog.field_eq_some_iff grownBuilt]
  exact ⟨Schema.declared_fields_subset part found.1, found.2⟩

theorem top_level_of_perm (built : Catalog.ofSchemas schemas = .ok catalog)
    (grownBuilt : Catalog.ofSchemas larger = .ok grown) (perm : schemas.Perm larger) :
    catalog.topLevel? = grown.topLevel? := by
  funext name
  apply Option.ext
  intro field
  constructor
  · exact top_level_of_larger built grownBuilt perm.subset
  · exact top_level_of_larger grownBuilt built perm.symm.subset

theorem locate_of_top_level
    (kept : ∀ name field, catalog.topLevel? name = some field → grown.topLevel? name = some field)
    {parts : List (List Char)} {place : Field × FieldType}
    (located : locate? catalog parts = some place) : locate? grown parts = some place := by
  cases parts with
  | nil => cases located
  | cons head rest =>
      rw [locate?] at located ⊢
      cases top : catalog.topLevel? (String.ofList head) with
      | none =>
          rw [top] at located
          cases located
      | some field =>
          rw [top] at located
          rw [kept _ field top]
          exact located

theorem resolve_of_larger (built : Catalog.ofSchemas schemas = .ok catalog)
    (grownBuilt : Catalog.ofSchemas larger = .ok grown) (part : schemas ⊆ larger)
    {separator path : String} {property : Property}
    (found : resolve catalog separator path = .ok property) :
    resolve grown separator path = .ok property := by
  rw [resolve] at found ⊢
  split at found
  · next marked =>
      rw [if_pos marked]
      exact found
  · next unmarked =>
      rw [if_neg unmarked]
      simp only [ofCatalog] at found ⊢
      cases located : locate? catalog (segments (canonicalPath path).toList) with
      | none =>
          rw [located] at found
          cases found
      | some place =>
          have kept := locate_of_top_level
            (fun _ _ => top_level_of_larger built grownBuilt part) located
          rw [located] at found
          rw [kept]
          exact found

/-- The order of the schemas makes no difference to a path, whether it names a property or not. -/
theorem resolve_of_perm (built : Catalog.ofSchemas schemas = .ok catalog)
    (grownBuilt : Catalog.ofSchemas larger = .ok grown) (perm : schemas.Perm larger)
    (separator path : String) : resolve catalog separator path = resolve grown separator path := by
  have located : ∀ parts, locate? catalog parts = locate? grown parts := by
    intro parts
    cases parts with
    | nil => rfl
    | cons head rest => rw [locate?, locate?, top_level_of_perm built grownBuilt perm]
  rw [resolve, resolve, ofCatalog, ofCatalog, located]

end Property

end DocumentQuery
