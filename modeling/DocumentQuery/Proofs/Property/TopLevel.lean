import DocumentQuery.Property.Walk
import DocumentQuery.Proofs.Schema.Declared

/-!
Top-level look-ups in a catalog that was made of schemas. The search through the schemas without a
qualifier finds nothing that the look-up by full name does not find, so that the order of schemas
and the search after a failed look-up make no difference.
-/

namespace DocumentQuery.Catalog

open Schema

theorem field_of_schema {schema : Schema} {name : String} {field : Field}
    (found : schema.field? name = some field) :
    field ∈ schema.fields ∧ field.name.localName = name := by
  rw [Schema.field?] at found
  exact ⟨List.mem_of_find?_eq_some found, by simpa using List.find?_some found⟩

theorem full_of_unqualified (name : QualifiedName) (unqualified : name.qualifier = none) :
    name.full = name.localName := by
  cases name
  cases unqualified
  rfl

theorem field_of_search {schemas : List Schema} {catalog : Catalog}
    (built : ofSchemas schemas = .ok catalog) {name : String} {field : Field}
    (found : (catalog.unqualifiedSchemas.findSome? fun schema => schema.field? name) =
      some field) :
    catalog.field? name = some field := by
  obtain ⟨unambiguous, same⟩ := (of_schemas_eq_ok_iff _ _).mp built
  obtain ⟨schema, searched, inSchema⟩ := List.exists_of_findSome?_eq_some found
  obtain ⟨fieldMember, named⟩ := field_of_schema inSchema
  rw [unqualifiedSchemas, same, List.mem_filter, Bool.not_eq_true',
    has_qualifier_eq_false_iff] at searched
  have unqualified := (unambiguous.qualified schema searched.1 field fieldMember).1 searched.2
  apply (field_eq_some_iff built name field).mpr
  constructor
  · exact List.mem_flatMap.mpr ⟨schema, searched.1, fieldMember⟩
  · rw [full_of_unqualified _ unqualified, named]

theorem top_level_eq_field {schemas : List Schema} {catalog : Catalog}
    (built : ofSchemas schemas = .ok catalog) (name : String) :
    catalog.topLevel? name = catalog.field? name := by
  rw [topLevel?]
  cases direct : catalog.field? name with
  | some field => rfl
  | none =>
      by_cases colon : name.toList.contains ':' = true
      · simp only [if_pos colon]
      · simp only [if_neg colon]
        cases found : catalog.unqualifiedSchemas.findSome? fun schema => schema.field? name with
        | none => rfl
        | some field =>
            rw [field_of_search built found] at direct
            cases direct

/-- Under distinct names a search finds an item exactly if it is the only one of its name. -/
theorem find_eq_some_iff_filter {Item : Type} (key : Item → String) (items : List Item)
    (distinct : (items.map key).Nodup) (name : String) (item : Item) :
    (items.find? fun other => decide (key other = name)) = some item ↔
      (items.filter fun other => decide (key other = name)) = [item] := by
  induction items with
  | nil => simp
  | cons head rest induction =>
      obtain ⟨absent, restDistinct⟩ := List.nodup_cons.mp distinct
      rw [List.find?_cons, List.filter_cons]
      by_cases same : key head = name
      · have noOther : (rest.filter fun other => decide (key other = name)) = [] := by
          rw [List.filter_eq_nil_iff]
          intro other member named
          apply absent
          rw [same, ← of_decide_eq_true named]
          exact List.mem_map_of_mem member
        simp [same, noOther]
      · simpa [same] using induction restDistinct

/-- A catalog is made exactly of unambiguous schemas. A look-up in it finds a field exactly if
this one field of all is declared under the name, and the top-level look-up of paths agrees
with it for every name. -/
theorem of_schemas_unambiguous_lookup (schemas : List Schema) :
    ((∃ catalog, ofSchemas schemas = .ok catalog) ↔ Unambiguous schemas) ∧
      ∀ catalog, ofSchemas schemas = .ok catalog → ∀ name,
        (∀ field, catalog.field? name = some field ↔
          ((declaredFields schemas).filter fun declared => decide (declared.name.full = name)) =
            [field]) ∧
        (∀ field, (catalog.unqualifiedSchemas.findSome? fun schema => schema.field? name) =
          some field → catalog.field? name = some field) ∧
        catalog.topLevel? name = catalog.field? name := by
  constructor
  · constructor
    · intro made
      rcases made with ⟨catalog, built⟩
      exact ((of_schemas_eq_ok_iff _ _).mp built).1
    · intro unambiguous
      exact ⟨_, (of_schemas_eq_ok_iff _ _).mpr ⟨unambiguous, rfl⟩⟩
  · intro catalog built name
    refine ⟨?_, fun field found => field_of_search built found, top_level_eq_field built name⟩
    intro field
    obtain ⟨unambiguous, rfl⟩ := (of_schemas_eq_ok_iff _ _).mp built
    rw [field_eq_find]
    exact find_eq_some_iff_filter (fun declared : Field => declared.name.full) _
      unambiguous.fullNamesDistinct name field

/-- Two schemas, one with a qualifier and one with a blank one. -/
def samplePair : List Schema :=
  [(Schema.empty "dublincore" ⟨"urn:dc", "dc"⟩).withField "title" (.scalar .string),
   (Schema.empty "note" ⟨"urn:note", " "⟩).withField "note" (.list (.scalar .boolean))]

theorem sample_pair_unambiguous_lookup :
    ofSchemas samplePair = .ok ⟨samplePair, declaredEntries samplePair⟩ ∧
      topLevel? ⟨samplePair, declaredEntries samplePair⟩ "note" =
        some ⟨⟨none, "note"⟩, .list (.scalar .boolean)⟩ := by
  have built : ofSchemas samplePair = .ok ⟨samplePair, declaredEntries samplePair⟩ := by
    cbv
  refine ⟨built, ?_⟩
  have lookup := (of_schemas_unambiguous_lookup samplePair).2 _ built "note"
  rw [lookup.2.2, lookup.1]
  cbv

end DocumentQuery.Catalog
