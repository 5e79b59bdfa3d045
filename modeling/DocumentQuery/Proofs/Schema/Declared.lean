import DocumentQuery.Proofs.Text.Cut
import DocumentQuery.Schema.Catalog
import Mathlib.Data.List.Nodup

/-!
What schemas declare, and what a catalog makes of it. A catalog is made exactly of unambiguous
schemas, its entries are the declared fields in order, and a look-up by full name finds the one
field that is declared under it.
-/

namespace DocumentQuery

namespace Schema

/-- A namespace of white space alone gives no qualifier. -/
def IsBlank (qualifier : String) : Prop := ∀ char ∈ qualifier.toList, Text.isBlank char = true

/-- The fields of all schemas, schema after schema. -/
def declaredFields (schemas : List Schema) : List Field := schemas.flatMap Schema.fields

def fullNames (fields : List Field) : List String := fields.map fun field => field.name.full

@[simp] theorem full_names_declared_fields_cons (schema : Schema) (rest : List Schema) :
    fullNames (declaredFields (schema :: rest)) =
      fullNames schema.fields ++ fullNames (declaredFields rest) := by
  rw [declaredFields, List.flatMap_cons, fullNames, List.map_append]
  rfl

theorem has_qualifier_eq_false_iff (space : Namespace) :
    space.hasQualifier = false ↔ IsBlank space.qualifier := by
  rw [Namespace.hasQualifier, Bool.not_eq_false', List.isEmpty_iff,
    Text.trim_chars_eq_nil_iff]
  rfl

theorem expected_qualifier_eq_iff (schema : Schema) (qualifier : Option String) :
    qualifier = schema.expectedQualifier ↔
      (IsBlank schema.space.qualifier → qualifier = none) ∧
        (¬IsBlank schema.space.qualifier → qualifier = some schema.space.qualifier) := by
  rw [← has_qualifier_eq_false_iff, expectedQualifier]
  cases schema.space.hasQualifier <;> simp

end Schema

namespace Catalog

open Schema

def entryOf (schema : Schema) (field : Field) : CatalogEntry :=
  ⟨field.name.full, schema.name, field⟩

def declaredEntries (schemas : List Schema) : List CatalogEntry :=
  schemas.flatMap fun schema => schema.fields.map (entryOf schema)

@[simp] theorem declared_entries_cons (schema : Schema) (rest : List Schema) :
    declaredEntries (schema :: rest) =
      schema.fields.map (entryOf schema) ++ declaredEntries rest := by
  rw [declaredEntries, List.flatMap_cons]
  rfl

def entryNames (entries : List CatalogEntry) : List String := entries.map CatalogEntry.name

@[simp] theorem entry_names_append (first second : List CatalogEntry) :
    entryNames (first ++ second) = entryNames first ++ entryNames second := List.map_append

@[simp] theorem entry_names_map_entry_of (schema : Schema) (fields : List Field) :
    entryNames (fields.map (entryOf schema)) = fullNames fields := by
  rw [entryNames, fullNames, List.map_map]
  rfl

theorem find_entry_eq_none_iff (name : String) (entries : List CatalogEntry) :
    findEntry name entries = none ↔ name ∉ entryNames entries := by
  induction entries with
  | nil => simp [findEntry, entryNames]
  | cons entry rest induction =>
      rw [findEntry]
      by_cases same : entry.name = name
      · simp [same, entryNames]
      · rw [if_neg same, induction]
        simp [entryNames, Ne.symm same]

/-- One field is entered when it passes the three checks. -/
theorem enter_fields_cons_ok_iff (schema : Schema) (localNames : List String)
    (entries entered : List CatalogEntry) (field : Field) (rest : List Field) :
    enterFields schema localNames entries (field :: rest) = .ok entered ↔
      field.name.qualifier = schema.expectedQualifier ∧ field.name.localName ∉ localNames ∧
        field.name.full ∉ entryNames entries ∧
          enterFields schema (field.name.localName :: localNames)
            (entries ++ [entryOf schema field]) rest = .ok entered := by
  rw [enterFields]
  by_cases qualified : field.name.qualifier = schema.expectedQualifier
  · by_cases repeated : field.name.localName ∈ localNames
    · simp [qualified, repeated]
    · rw [← find_entry_eq_none_iff]
      cases findEntry field.name.full entries with
      | none => simp [qualified, repeated, entryOf]
      | some other => simp [qualified, repeated]
  · simp [qualified]

/-- Names that a schema has declared already stand among the entries under its qualifier. -/
def Recorded (schema : Schema) (localNames : List String) (entries : List CatalogEntry) : Prop :=
  ∀ localName ∈ localNames,
    QualifiedName.full ⟨schema.expectedQualifier, localName⟩ ∈ entryNames entries

theorem recorded_step {schema : Schema} {localNames : List String} {entries : List CatalogEntry}
    (recorded : Recorded schema localNames entries) (field : Field)
    (qualified : field.name.qualifier = schema.expectedQualifier) :
    Recorded schema (field.name.localName :: localNames) (entries ++ [entryOf schema field]) := by
  intro localName member
  rw [entry_names_append, List.mem_append]
  rcases List.mem_cons.mp member with rfl | earlier
  · right
    rw [← qualified]
    exact List.mem_singleton.mpr rfl
  · exact Or.inl (recorded localName earlier)

/-- The check for a name declared twice in one schema never fails first: such a name is among
the entries too. -/
theorem local_name_fresh {schema : Schema} {localNames : List String} {entries : List CatalogEntry}
    (recorded : Recorded schema localNames entries) {field : Field}
    (qualified : field.name.qualifier = schema.expectedQualifier)
    (fresh : field.name.full ∉ entryNames entries) : field.name.localName ∉ localNames := by
  intro repeated
  apply fresh
  have known := recorded _ repeated
  rw [← qualified] at known
  exact known

theorem enter_fields_ok_iff (schema : Schema) (localNames : List String)
    (entries entered : List CatalogEntry) (fields : List Field)
    (distinct : (entryNames entries).Nodup) (recorded : Recorded schema localNames entries) :
    enterFields schema localNames entries fields = .ok entered ↔
      (∀ field ∈ fields, field.name.qualifier = schema.expectedQualifier) ∧
        (entryNames entries ++ fullNames fields).Nodup ∧
          entered = entries ++ fields.map (entryOf schema) := by
  induction fields generalizing localNames entries with
  | nil => simp [enterFields, fullNames, distinct, eq_comm]
  | cons field rest induction =>
      have shift : entryNames entries ++ fullNames (field :: rest) =
          entryNames (entries ++ [entryOf schema field]) ++ fullNames rest := by
        simp [entryNames, fullNames, entryOf]
      have shiftEntries : entries ++ (field :: rest).map (entryOf schema) =
          (entries ++ [entryOf schema field]) ++ rest.map (entryOf schema) := by
        rw [List.append_assoc]
        rfl
      rw [enter_fields_cons_ok_iff, shift, shiftEntries]
      constructor
      · intro accepted
        rcases accepted with ⟨qualified, -, fresh, later⟩
        have nextDistinct : (entryNames (entries ++ [entryOf schema field])).Nodup := by
          rw [entry_names_append]
          exact List.nodup_append_comm.mp (List.nodup_cons.mpr ⟨fresh, distinct⟩)
        have tail := (induction _ _ nextDistinct (recorded_step recorded field qualified)).mp later
        exact ⟨List.forall_mem_cons.mpr ⟨qualified, tail.1⟩, tail.2⟩
      · intro declared
        rcases declared with ⟨qualified, allDistinct, result⟩
        have headQualified := qualified field List.mem_cons_self
        have nextDistinct := (List.nodup_append.mp allDistinct).1
        have fresh : field.name.full ∉ entryNames entries := by
          rw [entry_names_append] at nextDistinct
          exact (List.nodup_cons.mp (List.nodup_append_comm.mp nextDistinct)).1
        refine ⟨headQualified, local_name_fresh recorded headQualified fresh, fresh, ?_⟩
        apply (induction _ _ nextDistinct (recorded_step recorded field headQualified)).mpr
        exact ⟨fun other member => qualified other (List.mem_cons_of_mem _ member),
          allDistinct, result⟩

theorem enter_schemas_cons_ok_iff (names : List String) (entries entered : List CatalogEntry)
    (distinct : (entryNames entries).Nodup) (schema : Schema) (rest : List Schema) :
    enterSchemas names entries (schema :: rest) = .ok entered ↔
      schema.name ∉ names ∧
        (∀ field ∈ schema.fields, field.name.qualifier = schema.expectedQualifier) ∧
          (entryNames entries ++ fullNames schema.fields).Nodup ∧
            enterSchemas (schema.name :: names)
              (entries ++ schema.fields.map (entryOf schema)) rest = .ok entered := by
  have fieldsEntered := fun result => enter_fields_ok_iff schema [] entries result schema.fields
    distinct (by intro localName member; cases member)
  rw [enterSchemas]
  by_cases repeated : schema.name ∈ names
  · simp [repeated]
  · rw [if_neg repeated]
    cases outcome : enterFields schema [] entries schema.fields with
    | error fault =>
        simp only [reduceCtorEq, false_iff]
        intro declared
        rcases declared with ⟨-, qualified, allDistinct, -⟩
        have succeeded := (fieldsEntered _).mpr ⟨qualified, allDistinct, rfl⟩
        rw [outcome] at succeeded
        cases succeeded
    | ok result =>
        obtain ⟨qualified, allDistinct, rfl⟩ := (fieldsEntered result).mp outcome
        simp only [repeated, not_false_eq_true, true_and]
        exact ⟨fun later => ⟨qualified, allDistinct, later⟩, fun parts => parts.2.2⟩

theorem enter_schemas_ok_iff (names : List String) (entries entered : List CatalogEntry)
    (distinct : (entryNames entries).Nodup) (schemas : List Schema) :
    enterSchemas names entries schemas = .ok entered ↔
      (∀ schema ∈ schemas, schema.name ∉ names) ∧ (schemas.map Schema.name).Nodup ∧
        (∀ schema ∈ schemas, ∀ field ∈ schema.fields,
          field.name.qualifier = schema.expectedQualifier) ∧
          (entryNames entries ++ fullNames (declaredFields schemas)).Nodup ∧
            entered = entries ++ declaredEntries schemas := by
  induction schemas generalizing names entries with
  | nil => simp [enterSchemas, declaredFields, declaredEntries, fullNames, distinct, eq_comm]
  | cons schema rest induction =>
      have names_append : entryNames (entries ++ schema.fields.map (entryOf schema)) =
          entryNames entries ++ fullNames schema.fields := by
        simp
      rw [enter_schemas_cons_ok_iff _ _ _ distinct, full_names_declared_fields_cons,
        declared_entries_cons, ← List.append_assoc, ← List.append_assoc, ← names_append,
        List.map_cons, List.nodup_cons]
      constructor
      · intro accepted
        rcases accepted with ⟨new, qualified, nextDistinct, later⟩
        obtain ⟨others, othersDistinct, othersQualified, allDistinct, result⟩ :=
          (induction _ _ nextDistinct).mp later
        have notSchema : schema.name ∉ rest.map Schema.name := by
          intro member
          obtain ⟨other, present, same⟩ := List.mem_map.mp member
          exact others other present (by rw [same]; exact List.mem_cons_self)
        exact ⟨List.forall_mem_cons.mpr ⟨new, fun other member known =>
            others other member (List.mem_cons_of_mem _ known)⟩,
          ⟨notSchema, othersDistinct⟩, List.forall_mem_cons.mpr ⟨qualified, othersQualified⟩,
          allDistinct, result⟩
      · intro declared
        rcases declared with ⟨new, ⟨notSchema, othersDistinct⟩, qualified, allDistinct, result⟩
        have nextDistinct := (List.nodup_append.mp allDistinct).1
        refine ⟨new schema List.mem_cons_self, qualified schema List.mem_cons_self,
          nextDistinct, (induction _ _ nextDistinct).mpr
            ⟨?_, othersDistinct, ?_, allDistinct, result⟩⟩
        · intro other member known
          rcases List.mem_cons.mp known with same | earlier
          · exact notSchema (List.mem_map.mpr ⟨other, member, same⟩)
          · exact new other (List.mem_cons_of_mem _ member) earlier
        · intro other member
          exact qualified other (List.mem_cons_of_mem _ member)

end Catalog

namespace Schema

/-- Schemas that make a catalog: no two have one name, every field carries the qualifier of its
schema's namespace, and no two fields have one full name. -/
structure Unambiguous (schemas : List Schema) : Prop where
  namesDistinct : (schemas.map Schema.name).Nodup
  qualified : ∀ schema ∈ schemas, ∀ field ∈ schema.fields,
    (IsBlank schema.space.qualifier → field.name.qualifier = none) ∧
      (¬IsBlank schema.space.qualifier → field.name.qualifier = some schema.space.qualifier)
  fullNamesDistinct : (fullNames (declaredFields schemas)).Nodup

end Schema

namespace Catalog

open Schema

theorem of_schemas_eq_ok_iff (schemas : List Schema) (catalog : Catalog) :
    ofSchemas schemas = .ok catalog ↔
      Unambiguous schemas ∧ catalog = ⟨schemas, declaredEntries schemas⟩ := by
  have entered := fun result => enter_schemas_ok_iff [] [] result List.nodup_nil schemas
  simp only [List.not_mem_nil, not_false_eq_true, implies_true, true_and, List.nil_append,
    expected_qualifier_eq_iff, entryNames, List.map_nil] at entered
  rw [ofSchemas]
  cases outcome : enterSchemas [] [] schemas with
  | error fault =>
      simp only [reduceCtorEq, false_iff]
      intro made
      rcases made with ⟨unambiguous, -⟩
      have succeeded := (entered _).mpr
        ⟨unambiguous.1, unambiguous.2, unambiguous.3, rfl⟩
      rw [outcome] at succeeded
      cases succeeded
  | ok entries =>
      obtain ⟨names, qualified, distinct, rfl⟩ := (entered entries).mp outcome
      constructor
      · intro built
        exact ⟨⟨names, qualified, distinct⟩, (Except.ok.inj built).symm⟩
      · intro made
        rcases made with ⟨-, rfl⟩
        rfl

theorem field_eq_find (schemas : List Schema) (name : String) :
    field? ⟨schemas, declaredEntries schemas⟩ name =
      (declaredFields schemas).find? fun field => decide (field.name.full = name) := by
  have search : ∀ entries : List CatalogEntry,
      (∀ entry ∈ entries, entry.name = entry.field.name.full) →
      (findEntry name entries).map CatalogEntry.field =
        (entries.map CatalogEntry.field).find? fun field => decide (field.name.full = name) := by
    intro entries named
    induction entries with
    | nil => rfl
    | cons entry rest induction =>
        have headNamed := named entry List.mem_cons_self
        rw [findEntry, List.map_cons, List.find?_cons, headNamed]
        by_cases same : entry.field.name.full = name
        · simp [same]
        · simpa [same] using induction fun other member =>
            named other (List.mem_cons_of_mem _ member)
  have fields : (declaredEntries schemas).map CatalogEntry.field = declaredFields schemas := by
    rw [declaredEntries, List.map_flatMap, declaredFields]
    congr 1
    funext schema
    rw [List.map_map]
    exact List.map_id _
  rw [field?, search, fields]
  intro entry member
  obtain ⟨schema, -, entryMember⟩ := List.mem_flatMap.mp member
  obtain ⟨field, -, rfl⟩ := List.mem_map.mp entryMember
  rfl

theorem field_eq_some_iff {schemas : List Schema} {catalog : Catalog}
    (built : ofSchemas schemas = .ok catalog) (name : String) (field : Field) :
    catalog.field? name = some field ↔
      field ∈ declaredFields schemas ∧ field.name.full = name := by
  obtain ⟨unambiguous, rfl⟩ := (of_schemas_eq_ok_iff _ _).mp built
  rw [field_eq_find]
  constructor
  · intro found
    have named := List.find?_some found
    exact ⟨List.mem_of_find?_eq_some found, of_decide_eq_true named⟩
  · intro known
    rcases known with ⟨declared, rfl⟩
    cases found : (declaredFields schemas).find? fun other =>
        decide (other.name.full = field.name.full) with
    | none =>
        have missing := List.find?_eq_none.mp found field declared
        simp at missing
    | some other =>
        have named : other.name.full = field.name.full := by simpa using List.find?_some found
        have same := List.inj_on_of_nodup_map unambiguous.fullNamesDistinct
          (List.mem_of_find?_eq_some found) declared named
        rw [same]

end Catalog

end DocumentQuery
