import DocumentQuery.Proofs.Schema.Declared

/-!
Why schemas make no catalog. The fault that is reported says what is wrong with the schemas up to
some field, so that it is true of them and does not depend on what comes later. Fields that are
added to a schema under its own qualifier never have a wrong one.
-/

namespace DocumentQuery

theorem QualifiedName.local_name_of_full {first second : QualifiedName}
    (qualifier : first.qualifier = second.qualifier) (same : first.full = second.full) :
    first.localName = second.localName := by
  obtain ⟨firstQualifier, firstLocal⟩ := first
  obtain ⟨secondQualifier, secondLocal⟩ := second
  obtain rfl : firstQualifier = secondQualifier := qualifier
  cases firstQualifier with
  | none => exact same
  | some text => exact (String.append_right_inj _).mp same

/-- What a fault says of the schemas that it is reported for. -/
inductive CatalogFault.HoldsOf (schemas : List Schema) : CatalogFault → Prop
  | duplicateSchema {first second : Schema} (inOrder : [first, second].Sublist schemas)
      (sameName : first.name = second.name) :
      HoldsOf schemas (.duplicateSchema second.name)
  | duplicateField {schema : Schema} {first second : Field} (member : schema ∈ schemas)
      (inOrder : [first, second].Sublist schema.fields)
      (sameName : first.name.localName = second.name.localName) :
      HoldsOf schemas (.duplicateField schema.name second.name.localName)
  | ambiguousField {first second : Schema} {field other : Field}
      (inOrder : [first, second].Sublist schemas) (namesDiffer : first.name ≠ second.name)
      (declared : field ∈ first.fields) (otherDeclared : other ∈ second.fields)
      (sameName : field.name.full = other.name.full) :
      HoldsOf schemas (.ambiguousField other.name.full first.name second.name)
  | qualifierMismatch {schema : Schema} {field : Field} (member : schema ∈ schemas)
      (declared : field ∈ schema.fields)
      (mismatch : field.name.qualifier ≠ schema.expectedQualifier) :
      HoldsOf schemas (.qualifierMismatch schema.name field.name.full)

namespace Schema

/-- Made without fields, and then given fields under its own qualifier only. -/
inductive Assembled : Schema → Prop
  | empty (name : String) (space : Namespace) : Assembled (Schema.empty name space)
  | withField {schema : Schema} (assembled : schema.Assembled) (localName : String)
      (type : FieldType) : Assembled (schema.withField localName type)

theorem qualified_of_has_qualifier {space : Namespace} (has : space.hasQualifier = true)
    (localName : String) :
    QualifiedName.qualified space.qualifier localName = ⟨some space.qualifier, localName⟩ := by
  have notEmpty : space.qualifier ≠ "" := by
    intro empty
    have blank : IsBlank space.qualifier := by
      rw [empty]
      intro char member
      cases member
    rw [(has_qualifier_eq_false_iff space).mpr blank] at has
    cases has
  rw [QualifiedName.qualified, if_neg notEmpty]

theorem qualifier_of_assembled {schema : Schema} (assembled : schema.Assembled) :
    ∀ field ∈ schema.fields, field.name.qualifier = schema.expectedQualifier := by
  induction assembled with
  | empty name space =>
      intro field member
      cases member
  | @withField schema assembled localName type induction =>
      have sameQualifier : (schema.withField localName type).expectedQualifier =
          schema.expectedQualifier := rfl
      rw [sameQualifier]
      intro field member
      rcases List.mem_append.mp member with earlier | added
      · exact induction field earlier
      · rw [List.mem_singleton.mp added, expectedQualifier]
        cases has : schema.space.hasQualifier with
        | true =>
            rw [if_pos rfl, if_pos rfl, qualified_of_has_qualifier has]
        | false =>
            rw [if_neg Bool.false_ne_true, if_neg Bool.false_ne_true]

end Schema

namespace Catalog

open Schema

theorem find_entry_eq_some {name : String} {entries : List CatalogEntry} {entry : CatalogEntry}
    (found : findEntry name entries = some entry) : entry ∈ entries ∧ entry.name = name := by
  induction entries with
  | nil => cases found
  | cons first rest induction =>
      rw [findEntry] at found
      split at found
      · next same =>
          rw [← Option.some.inj found]
          exact ⟨List.mem_cons_self, same⟩
      · obtain ⟨member, same⟩ := induction found
        exact ⟨List.mem_cons_of_mem _ member, same⟩

/-- Why a field cannot be entered after some fields of its schema and the entries of earlier
schemas. The checks are made in this order. -/
inductive RefusesField (schema : Schema) (entries : List CatalogEntry) (before : List Field)
    (field : Field) : CatalogFault → Prop
  | qualifier (mismatch : field.name.qualifier ≠ schema.expectedQualifier) :
      RefusesField schema entries before field (.qualifierMismatch schema.name field.name.full)
  | repeated (listed : field.name.localName ∈ before.map fun other => other.name.localName) :
      RefusesField schema entries before field
        (.duplicateField schema.name field.name.localName)
  | taken {other : CatalogEntry} (qualified : field.name.qualifier = schema.expectedQualifier)
      (unlisted : field.name.localName ∉ before.map fun other => other.name.localName)
      (found : findEntry field.name.full (entries ++ before.map (entryOf schema)) = some other) :
      RefusesField schema entries before field
        (.ambiguousField field.name.full other.schema schema.name)

/-- A pass over the fields of a schema stops at a field that cannot be entered after those before
it, all of which carry the qualifier of the schema. -/
theorem enter_fields_eq_error {schema : Schema} {entries : List CatalogEntry}
    {before rest : List Field} {fault : CatalogFault}
    (qualified : ∀ field ∈ before, field.name.qualifier = schema.expectedQualifier)
    (stopped : enterFields schema (before.map fun field => field.name.localName).reverse
      (entries ++ before.map (entryOf schema)) rest = .error fault) :
    ∃ front field back, before ++ rest = front ++ field :: back ∧
      (∀ other ∈ front, other.name.qualifier = schema.expectedQualifier) ∧
        RefusesField schema entries front field fault := by
  induction rest generalizing before with
  | nil => cases stopped
  | cons field others induction =>
      rw [enterFields] at stopped
      split at stopped
      · next mismatch =>
          rw [← Except.error.inj stopped]
          exact ⟨before, field, others, rfl, qualified, .qualifier mismatch⟩
      · next matching =>
          have headQualified := not_ne_iff.mp matching
          split at stopped
          · next listed =>
              rw [← Except.error.inj stopped]
              exact ⟨before, field, others, rfl, qualified,
                .repeated (List.mem_reverse.mp listed)⟩
          · next unlisted =>
              split at stopped
              · next other found =>
                  rw [← Except.error.inj stopped]
                  exact ⟨before, field, others, rfl, qualified,
                    .taken headQualified (mt List.mem_reverse.mpr unlisted) found⟩
              · have nextQualified : ∀ other ∈ before ++ [field],
                    other.name.qualifier = schema.expectedQualifier :=
                  List.forall_mem_append.mpr
                    ⟨qualified, List.forall_mem_singleton.mpr headQualified⟩
                rw [List.append_cons]
                apply induction nextQualified
                rw [List.map_append, List.map_append, List.reverse_append, ← List.append_assoc]
                exact stopped

theorem enter_fields_eq_ok {schema : Schema} {localNames : List String}
    {entries entered : List CatalogEntry} {fields : List Field}
    (ended : enterFields schema localNames entries fields = .ok entered) :
    entered = entries ++ fields.map (entryOf schema) := by
  induction fields generalizing localNames entries with
  | nil =>
      rw [List.map_nil, List.append_nil]
      exact (Except.ok.inj ended).symm
  | cons field rest induction =>
      obtain ⟨-, -, -, later⟩ := (enter_fields_cons_ok_iff _ _ _ _ _ _).mp ended
      rw [induction later, List.map_cons, List.append_assoc, List.singleton_append]

inductive RefusesSchema (before : List Schema) (schema : Schema) : CatalogFault → Prop
  | name (listed : schema.name ∈ before.map Schema.name) :
      RefusesSchema before schema (.duplicateSchema schema.name)
  | fields {fault : CatalogFault} (unlisted : schema.name ∉ before.map Schema.name)
      (stopped : enterFields schema [] (declaredEntries before) schema.fields = .error fault) :
      RefusesSchema before schema fault

theorem enter_schemas_eq_error {before rest : List Schema} {fault : CatalogFault}
    (stopped : enterSchemas (before.map Schema.name).reverse (declaredEntries before) rest =
      .error fault) :
    ∃ front schema back, before ++ rest = front ++ schema :: back ∧
      RefusesSchema front schema fault := by
  induction rest generalizing before with
  | nil => cases stopped
  | cons schema others induction =>
      rw [enterSchemas] at stopped
      split at stopped
      · next listed =>
          rw [← Except.error.inj stopped]
          exact ⟨before, schema, others, rfl, .name (List.mem_reverse.mp listed)⟩
      · next unlisted =>
          split at stopped
          · next other fieldsStopped =>
              rw [← Except.error.inj stopped]
              exact ⟨before, schema, others, rfl,
                .fields (mt List.mem_reverse.mpr unlisted) fieldsStopped⟩
          · next entered fieldsEnded =>
              have declared : declaredEntries (before ++ [schema]) = entered := by
                rw [enter_fields_eq_ok fieldsEnded, declaredEntries, List.flatMap_append,
                  List.flatMap_singleton, declaredEntries]
              rw [List.append_cons]
              apply induction
              rw [declared, List.map_append, List.reverse_append]
              exact stopped

theorem mem_entries_of_taken {schema : Schema} {entries : List CatalogEntry} {before : List Field}
    {field : Field} {other : CatalogEntry}
    (qualified : ∀ earlier ∈ before, earlier.name.qualifier = schema.expectedQualifier)
    (fieldQualified : field.name.qualifier = schema.expectedQualifier)
    (unlisted : field.name.localName ∉ before.map fun earlier => earlier.name.localName)
    (found : findEntry field.name.full (entries ++ before.map (entryOf schema)) = some other) :
    other ∈ entries ∧ other.name = field.name.full := by
  obtain ⟨member, named⟩ := find_entry_eq_some found
  refine ⟨?_, named⟩
  rcases List.mem_append.mp member with earlier | own
  · exact earlier
  · obtain ⟨repeated, declared, rfl⟩ := List.mem_map.mp own
    have sameQualifier : repeated.name.qualifier = field.name.qualifier :=
      (qualified repeated declared).trans fieldQualified.symm
    have sameLocal := QualifiedName.local_name_of_full sameQualifier named
    rw [← sameLocal] at unlisted
    exact absurd (List.mem_map_of_mem declared) unlisted

theorem sublist_pair {Item : Type} {items front back : List Item} {first second : Item}
    (whole : items = front ++ second :: back) (earlier : first ∈ front) :
    [first, second].Sublist items := by
  rw [whole]
  exact (List.singleton_sublist.mpr earlier).append
    (List.singleton_sublist.mpr List.mem_cons_self)

theorem holds_of_of_refuses_field {schemas front back : List Schema} {schema : Schema}
    (whole : schemas = front ++ schema :: back) (unlisted : schema.name ∉ front.map Schema.name)
    {before after : List Field} {field : Field} (fields : schema.fields = before ++ field :: after)
    (qualified : ∀ other ∈ before, other.name.qualifier = schema.expectedQualifier)
    {fault : CatalogFault}
    (refused : RefusesField schema (declaredEntries front) before field fault) :
    fault.HoldsOf schemas := by
  have member : schema ∈ schemas := by
    rw [whole]
    exact List.mem_append_cons_self
  have declared : field ∈ schema.fields := by
    rw [fields]
    exact List.mem_append_cons_self
  cases refused with
  | qualifier mismatch => exact .qualifierMismatch member declared mismatch
  | repeated listed =>
      obtain ⟨first, earlier, sameName⟩ := List.mem_map.mp listed
      exact .duplicateField member (sublist_pair fields earlier) sameName
  | taken fieldQualified fieldUnlisted found =>
      obtain ⟨entered, named⟩ :=
        mem_entries_of_taken qualified fieldQualified fieldUnlisted found
      obtain ⟨first, earlier, entryMember⟩ := List.mem_flatMap.mp entered
      obtain ⟨other, otherDeclared, rfl⟩ := List.mem_map.mp entryMember
      have namesDiffer : first.name ≠ schema.name := by
        intro same
        rw [← same] at unlisted
        exact unlisted (List.mem_map_of_mem earlier)
      exact .ambiguousField (sublist_pair whole earlier) namesDiffer otherDeclared declared named

theorem holds_of_of_refuses_schema {schemas front back : List Schema} {schema : Schema}
    (whole : schemas = front ++ schema :: back) {fault : CatalogFault}
    (refused : RefusesSchema front schema fault) : fault.HoldsOf schemas := by
  cases refused with
  | name listed =>
      obtain ⟨first, earlier, sameName⟩ := List.mem_map.mp listed
      exact .duplicateSchema (sublist_pair whole earlier) sameName
  | fields unlisted stopped =>
      have noneBefore : ∀ field ∈ ([] : List Field),
          field.name.qualifier = schema.expectedQualifier := by
        intro field member
        cases member
      have start : enterFields schema
          (([] : List Field).map fun field => field.name.localName).reverse
          (declaredEntries front ++ ([] : List Field).map (entryOf schema)) schema.fields =
            .error fault := by
        rw [List.map_nil, List.map_nil, List.append_nil]
        exact stopped
      obtain ⟨before, field, after, fields, qualified, refused⟩ :=
        enter_fields_eq_error noneBefore start
      exact holds_of_of_refuses_field whole unlisted fields qualified refused

theorem enter_schemas_append {names : List String} {entries : List CatalogEntry}
    {schemas : List Schema} {fault : CatalogFault}
    (stopped : enterSchemas names entries schemas = .error fault) (more : List Schema) :
    enterSchemas names entries (schemas ++ more) = .error fault := by
  induction schemas generalizing names entries with
  | nil => cases stopped
  | cons schema rest induction =>
      rw [List.cons_append, enterSchemas]
      rw [enterSchemas] at stopped
      split
      · next listed =>
          rw [if_pos listed] at stopped
          exact stopped
      · next unlisted =>
          rw [if_neg unlisted] at stopped
          split
          · next other fieldsStopped =>
              rw [fieldsStopped] at stopped
              exact stopped
          · next entered fieldsEnded =>
              rw [fieldsEnded] at stopped
              exact induction stopped

theorem of_schemas_eq_error_iff (schemas : List Schema) (fault : CatalogFault) :
    ofSchemas schemas = .error fault ↔ enterSchemas [] [] schemas = .error fault := by
  rw [ofSchemas]
  cases enterSchemas [] [] schemas <;> simp

/-- A fault that is reported is true of the schemas, and stays the same whatever schemas come after
them. Schemas that are assembled under their own qualifiers have no fault about qualifiers. -/
theorem of_schemas_fault_holds {schemas : List Schema} {fault : CatalogFault}
    (refused : ofSchemas schemas = .error fault) :
    fault.HoldsOf schemas ∧
      (∀ more, ofSchemas (schemas ++ more) = .error fault) ∧
      ((∀ schema ∈ schemas, schema.Assembled) →
        ∀ name field, fault ≠ .qualifierMismatch name field) := by
  have stopped := (of_schemas_eq_error_iff schemas fault).mp refused
  have start : enterSchemas (([] : List Schema).map Schema.name).reverse (declaredEntries [])
      ([] ++ schemas) = .error fault := stopped
  obtain ⟨front, schema, back, whole, schemaRefused⟩ := enter_schemas_eq_error start
  have holds := holds_of_of_refuses_schema whole schemaRefused
  refine ⟨holds, ?_, ?_⟩
  · intro more
    exact (of_schemas_eq_error_iff _ _).mpr (enter_schemas_append stopped more)
  · intro assembled name field isMismatch
    rw [isMismatch] at holds
    cases holds with
    | qualifierMismatch member declared mismatch =>
        exact mismatch (qualifier_of_assembled (assembled _ member) _ declared)

/-- The second schema has no qualifier of its own, but writes one into a local name. -/
def disputedPair : List Schema :=
  [(Schema.empty "dublincore" ⟨"urn:dc", "dc"⟩).withField "title" (.scalar .string),
   ((Schema.empty "note" ⟨"urn:note", " "⟩).withField "note" (.scalar .boolean)).withField
    "dc:title" (.scalar .string)]

theorem of_schemas_fault_holds_disputed :
    ofSchemas disputedPair = .error (.ambiguousField "dc:title" "dublincore" "note") ∧
      CatalogFault.HoldsOf disputedPair (.ambiguousField "dc:title" "dublincore" "note") ∧
      ofSchemas (disputedPair ++ disputedPair) =
        .error (.ambiguousField "dc:title" "dublincore" "note") ∧
      (∀ schema ∈ disputedPair, schema.Assembled) ∧
      ∀ name field, CatalogFault.ambiguousField "dc:title" "dublincore" "note" ≠
        .qualifierMismatch name field := by
  have refused : ofSchemas disputedPair =
      .error (.ambiguousField "dc:title" "dublincore" "note") := by
    cbv
  have assembled : ∀ schema ∈ disputedPair, schema.Assembled := by
    intro schema member
    rcases List.mem_cons.mp member with rfl | later
    · exact (Schema.Assembled.empty _ _).withField _ _
    · rw [List.mem_singleton.mp later]
      exact ((Schema.Assembled.empty _ _).withField _ _).withField _ _
  obtain ⟨holds, lasts, noMismatch⟩ := of_schemas_fault_holds refused
  exact ⟨refused, holds, lasts disputedPair, assembled, noMismatch assembled⟩

end Catalog

end DocumentQuery
