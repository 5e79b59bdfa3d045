import DocumentQuery.Property.Lookup
import DocumentQuery.Proofs.Property.TopLevel
import DocumentQuery.Settings.Basic

/-!
Properties that a catalog declares, found by their path. A path falls into segments; the first
names a declared field, and the others lead through the type of the field. A property is found
exactly when there is such a walk, and its key is a matter of the path and the separator alone.
-/

namespace DocumentQuery.Property

open Text Schema

/-- A segment for a position in a list: digits, or a star with or without digits. -/
def IsPosition (segment : List Char) : Prop :=
  (segment ≠ [] ∧ ∀ char ∈ segment, isAsciiDigit char = true) ∨
    ∃ digits, segment = '*' :: digits ∧ ∀ char ∈ digits, isAsciiDigit char = true

theorem is_wildcard_iff (segment : List Char) :
    isWildcard segment = true ↔
      ∃ digits, segment = '*' :: digits ∧ ∀ char ∈ digits, isAsciiDigit char = true := by
  constructor
  · intro wildcard
    unfold isWildcard at wildcard
    split at wildcard
    · next digits => exact ⟨digits, rfl, List.all_eq_true.mp wildcard⟩
    · cases wildcard
  · intro starred
    rcases starred with ⟨digits, rfl, all⟩
    exact List.all_eq_true.mpr all

theorem is_position_iff (segment : List Char) : isPosition segment = true ↔ IsPosition segment := by
  have index : isIndex segment = true ↔
      segment ≠ [] ∧ ∀ char ∈ segment, isAsciiDigit char = true := by
    rw [isIndex, Bool.and_eq_true, List.all_eq_true, Bool.not_eq_true', List.isEmpty_eq_false_iff]
  rw [isPosition, Bool.or_eq_true, index, is_wildcard_iff]
  rfl

/-- The segments of a path: texts without a slash that, with slashes between them, make up the
path up to the slashes at its end. -/
structure Segmented (path : List Char) (parts : List (List Char)) : Prop where
  whole : ∃ slashes, path = ['/'].intercalate parts ++ slashes ∧ ∀ char ∈ slashes, char = '/'
  someSegment : parts ≠ []
  slashFree : ∀ part ∈ parts, '/' ∉ part
  trimmed : (['/'].intercalate parts).getLast? ≠ some '/'

theorem segmented_iff (path : List Char) (parts : List (List Char)) :
    Segmented path parts ↔ segments path = parts := by
  constructor
  · intro segmented
    rcases segmented with ⟨⟨slashes, rfl, allSlashes⟩, someSegment, slashFree, trimmed⟩
    have kept : dropEnd (· = '/') (['/'].intercalate parts ++ slashes) =
        ['/'].intercalate parts := by
      apply drop_end_append
      · intro last isLast
        apply decide_eq_false
        intro slash
        rw [slash] at isLast
        exact trimmed isLast
      · intro char member
        exact decide_eq_true (allSlashes char member)
    rw [segments, kept, List.splitOn_intercalate '/' slashFree someSegment]
  · intro same
    subst same
    have joined : ['/'].intercalate (segments path) = dropEnd (· = '/') path :=
      List.intercalate_splitOn '/'
    obtain ⟨⟨count, whole⟩, trimmed⟩ := drop_end_mark '/' path
    rw [← joined] at whole trimmed
    exact ⟨⟨_, whole, fun char member => List.eq_of_mem_replicate member⟩,
      List.splitOn_ne_nil _ _, not_mem_of_mem_split_on '/' _, trimmed⟩

/-- The first part of a complex type that a word means, by its local or its full name. -/
def FirstPart (parts : List Field) (word : String) (part : Field) : Prop :=
  (part.name.localName = word ∨ part.name.full = word) ∧
    ∃ before after, parts = before ++ part :: after ∧
      ∀ other ∈ before, other.name.localName ≠ word ∧ other.name.full ≠ word

theorem part_eq_some_iff (type : FieldType) (word : String) (part : Field) :
    type.part? word = some part ↔
      ∃ name parts, type = .complex name parts ∧ FirstPart parts word part := by
  cases type with
  | scalar scalar => simp [FieldType.part?]
  | list element => simp [FieldType.part?]
  | complex name parts =>
      simp only [FieldType.part?, List.find?_eq_some_iff_append, FieldType.answersTo,
        Bool.or_eq_true, decide_eq_true_eq, Bool.not_eq_true', Bool.or_eq_false_iff,
        decide_eq_false_iff_not, FieldType.complex.injEq]
      constructor
      · intro first
        exact ⟨name, parts, ⟨rfl, rfl⟩, first⟩
      · intro means
        rcases means with ⟨_, _, ⟨rfl, rfl⟩, first⟩
        exact first

/-- A walk through types: a position goes from a list to its elements, and any other segment
from a complex type to the first part that it means. -/
inductive Walks : FieldType → List (List Char) → FieldType → Prop
  | here (type : FieldType) : Walks type [] type
  | position {element last : FieldType} {segment : List Char} {rest : List (List Char)}
      (isPosition : IsPosition segment) (later : Walks element rest last) :
      Walks (.list element) (segment :: rest) last
  | part {name : String} {parts : List Field} {part : Field} {last : FieldType}
      {segment : List Char} {rest : List (List Char)} (noPosition : ¬IsPosition segment)
      (first : FirstPart parts (String.ofList segment) part) (later : Walks part.type rest last) :
      Walks (.complex name parts) (segment :: rest) last

theorem element_eq_some_iff (type element : FieldType) :
    type.element? = some element ↔ type = .list element := by
  cases type <;> simp [FieldType.element?]

theorem step_eq_some_iff (type next : FieldType) (segment : List Char) :
    type.step? segment = some next ↔
      IsPosition segment ∧ type = .list next ∨
        ¬IsPosition segment ∧ ∃ name parts part, type = .complex name parts ∧
          FirstPart parts (String.ofList segment) part ∧ part.type = next := by
  rw [FieldType.step?, ← is_position_iff]
  by_cases position : isPosition segment = true
  · rw [if_pos position, element_eq_some_iff]
    constructor
    · intro list
      exact Or.inl ⟨position, list⟩
    · intro possible
      rcases possible with ⟨-, list⟩ | ⟨noPosition, -⟩
      · exact list
      · exact absurd position noPosition
  · rw [if_neg position, Option.map_eq_some_iff]
    constructor
    · intro named
      rcases named with ⟨part, found, same⟩
      obtain ⟨name, parts, complex, first⟩ := (part_eq_some_iff _ _ _).mp found
      exact Or.inr ⟨position, name, parts, part, complex, first, same⟩
    · intro possible
      rcases possible with ⟨isPosition, -⟩ | ⟨-, name, parts, part, complex, first, same⟩
      · exact absurd isPosition position
      · exact ⟨part, (part_eq_some_iff _ _ _).mpr ⟨name, parts, complex, first⟩, same⟩

theorem walk_eq_some_iff (type last : FieldType) (rest : List (List Char)) :
    type.walk? rest = some last ↔ Walks type rest last := by
  induction rest generalizing type with
  | nil =>
      constructor
      · intro ended
        rw [FieldType.walk?, Option.some.injEq] at ended
        rw [ended]
        exact .here last
      · intro ended
        cases ended
        rfl
  | cons segment others induction =>
      rw [FieldType.walk?]
      constructor
      · intro ended
        cases stepped : type.step? segment with
        | none => simp [stepped] at ended
        | some next =>
            simp only [stepped] at ended
            have later := (induction next).mp ended
            rcases (step_eq_some_iff _ _ _).mp stepped with
              ⟨position, rfl⟩ | ⟨noPosition, name, parts, part, rfl, first, rfl⟩
            · exact .position position later
            · exact .part noPosition first later
      · intro walk
        cases walk with
        | position position later =>
            rw [(step_eq_some_iff _ _ _).mpr (Or.inl ⟨position, rfl⟩)]
            exact (induction _).mpr later
        | part noPosition first later =>
            rw [(step_eq_some_iff _ _ _).mpr
              (Or.inr ⟨noPosition, _, _, _, rfl, first, rfl⟩)]
            exact (induction _).mpr later

/-- The field and the type that the segments of a path lead to. -/
def Leads (schemas : List Schema) (head : List Char) (rest : List (List Char)) (type : FieldType) :
    Prop :=
  ∃ field ∈ declaredFields schemas, field.name.full = String.ofList head ∧
    Walks field.type rest type

theorem locate_eq_some_iff {schemas : List Schema} {catalog : Catalog}
    (built : Catalog.ofSchemas schemas = .ok catalog) (head : List Char)
    (rest : List (List Char)) (field : Field) (type : FieldType) :
    locate? catalog (head :: rest) = some (field, type) ↔
      field ∈ declaredFields schemas ∧ field.name.full = String.ofList head ∧
        Walks field.type rest type := by
  rw [locate?, Catalog.top_level_eq_field built, ← and_assoc, ← Catalog.field_eq_some_iff built]
  cases found : catalog.field? (String.ofList head) with
  | none => simp
  | some declared =>
      simp only [Option.map_eq_some_iff, Prod.mk.injEq, Option.some.injEq, ← walk_eq_some_iff]
      constructor
      · intro located
        rcases located with ⟨ended, walked, rfl, rfl⟩
        exact ⟨rfl, walked⟩
      · intro walk
        rcases walk with ⟨rfl, walked⟩
        exact ⟨type, walked, rfl, rfl⟩

def pathKey (separator : String) (parts : List (List Char)) : List Char :=
  (['.'].intercalate parts).flatMap fun char => if char = ':' then separator.toList else [char]

/-- What is known of a property of a document that a path leads to. -/
structure Describes (separator path : String) (parts : List (List Char)) (type : FieldType)
    (property : Property) : Prop where
  path_eq : property.path = path
  storageKey_eq : property.storageKey = String.ofList (pathKey separator parts)
  declared_eq : property.declared = .ofFieldType type
  wildcard_eq : property.wildcard = reachesWildcard (pathKey separator parts)
  triState_iff : property.triState = true ↔ type = .scalar .boolean
  mixin_eq : property.mixin = false
  system_eq : property.system = false

theorem is_boolean_iff (type : FieldType) : type.isBoolean = true ↔ type = .scalar .boolean := by
  unfold FieldType.isBoolean
  split <;> simp_all

theorem describes_unique {separator path : String} {parts : List (List Char)} {type : FieldType}
    {first second : Property} (firstDescribed : Describes separator path parts type first)
    (secondDescribed : Describes separator path parts type second) : first = second := by
  have triState : first.triState = second.triState :=
    Bool.eq_iff_iff.mpr (firstDescribed.triState_iff.trans secondDescribed.triState_iff.symm)
  cases first
  cases second
  rw [Property.mk.injEq]
  exact ⟨firstDescribed.path_eq.trans secondDescribed.path_eq.symm,
    firstDescribed.storageKey_eq.trans secondDescribed.storageKey_eq.symm,
    firstDescribed.declared_eq.trans secondDescribed.declared_eq.symm,
    firstDescribed.wildcard_eq.trans secondDescribed.wildcard_eq.symm, triState,
    firstDescribed.mixin_eq.trans secondDescribed.mixin_eq.symm,
    firstDescribed.system_eq.trans secondDescribed.system_eq.symm⟩

theorem of_catalog_outcome {schemas : List Schema} {catalog : Catalog}
    (built : Catalog.ofSchemas schemas = .ok catalog) (separator path : String)
    (head : List Char) (rest : List (List Char)) (cut : segments path.toList = head :: rest) :
    (∃ type property, Leads schemas head rest type ∧
        Describes separator path (head :: rest) type property ∧
          ofCatalog catalog separator path = .ok property) ∨
      (¬∃ type, Leads schemas head rest type) ∧
        ofCatalog catalog separator path = .error (.unknownProperty path) := by
  cases located : locate? catalog (head :: rest) with
  | none =>
      right
      constructor
      · intro leads
        rcases leads with ⟨type, field, declared, named, walk⟩
        have found := (locate_eq_some_iff built head rest field type).mpr ⟨declared, named, walk⟩
        rw [located] at found
        cases found
      · simp only [ofCatalog, cut, located]
  | some target =>
      rcases target with ⟨field, type⟩
      obtain ⟨declared, named, walk⟩ := (locate_eq_some_iff built head rest field type).mp located
      have key : dottedKey field.name.full rest = ['.'].intercalate (head :: rest) := by
        rw [dottedKey, named, String.toList_ofList]
      left
      refine ⟨type, _, ⟨field, declared, named, walk⟩, ?_, by
        simp only [ofCatalog, cut, located, List.tail_cons]; rfl⟩
      constructor
      · rfl
      · rw [key]
        rfl
      · rfl
      · rw [key]
        rfl
      · exact is_boolean_iff type
      · rfl
      · rfl

theorem walks_unique {type first second : FieldType} {rest : List (List Char)}
    (firstWalk : Walks type rest first) (secondWalk : Walks type rest second) : first = second := by
  rw [← walk_eq_some_iff] at firstWalk secondWalk
  exact Option.some.inj (firstWalk.symm.trans secondWalk)

theorem leads_unique {schemas : List Schema} {catalog : Catalog}
    (built : Catalog.ofSchemas schemas = .ok catalog) {head : List Char}
    {rest : List (List Char)} {first second : FieldType}
    (firstLeads : Leads schemas head rest first) (secondLeads : Leads schemas head rest second) :
    first = second := by
  rcases firstLeads with ⟨field, declared, named, walk⟩
  rcases secondLeads with ⟨other, otherDeclared, otherNamed, otherWalk⟩
  have found := (Catalog.field_eq_some_iff built _ field).mpr ⟨declared, named⟩
  have otherFound := (Catalog.field_eq_some_iff built _ other).mpr ⟨otherDeclared, otherNamed⟩
  have same : field = other := Option.some.inj (found.symm.trans otherFound)
  rw [← same] at otherWalk
  exact walks_unique walk otherWalk

theorem of_catalog_eq_ok_iff {schemas : List Schema} {catalog : Catalog}
    (built : Catalog.ofSchemas schemas = .ok catalog) (separator path : String)
    {head : List Char} {rest : List (List Char)} (cut : segments path.toList = head :: rest)
    (property : Property) :
    ofCatalog catalog separator path = .ok property ↔
      ∃ type, Leads schemas head rest type ∧
        Describes separator path (head :: rest) type property := by
  rcases of_catalog_outcome built separator path head rest cut with
    ⟨type, found, leads, described, ended⟩ | ⟨nowhere, ended⟩
  · rw [ended, Except.ok.injEq]
    constructor
    · intro same
      rw [← same]
      exact ⟨type, leads, described⟩
    · intro otherFound
      rcases otherFound with ⟨other, otherLeads, otherDescribed⟩
      rw [leads_unique built otherLeads leads] at otherDescribed
      exact describes_unique described otherDescribed
  · rw [ended]
    constructor
    · intro impossible
      cases impossible
    · intro found
      rcases found with ⟨type, leads, -⟩
      exact absurd ⟨type, leads⟩ nowhere

theorem of_catalog_eq_error_iff {schemas : List Schema} {catalog : Catalog}
    (built : Catalog.ofSchemas schemas = .ok catalog) (separator path : String)
    {head : List Char} {rest : List (List Char)} (cut : segments path.toList = head :: rest)
    (rejection : Rejection) :
    ofCatalog catalog separator path = .error rejection ↔
      (¬∃ type, Leads schemas head rest type) ∧ rejection = .unknownProperty path := by
  rcases of_catalog_outcome built separator path head rest cut with
    ⟨type, found, leads, -, ended⟩ | ⟨nowhere, ended⟩
  · rw [ended]
    constructor
    · intro impossible
      cases impossible
    · intro rejected
      exact absurd ⟨type, leads⟩ rejected.1
  · rw [ended, Except.error.injEq]
    constructor
    · intro same
      exact ⟨nowhere, same.symm⟩
    · intro rejected
      exact rejected.2.symm

theorem resolve_of_user (catalog : Catalog) (separator path : String)
    (user : ¬SystemProperty.mark.toList <+: (canonicalPath path).toList) :
    resolve catalog separator path = ofCatalog catalog separator (canonicalPath path) := by
  rw [resolve, if_neg (fun system => user (List.isPrefixOf_iff_prefix.mp system))]

/-- A path outside of the system properties is found exactly if its segments lead from a declared
field to a type. What is found is described by the canonical path, the separator and that type,
and any other path is rejected as unknown. -/
theorem resolve_user_path {schemas : List Schema} {catalog : Catalog}
    (built : Catalog.ofSchemas schemas = .ok catalog) (settings : Settings) (path : String)
    (user : ¬"ecm:".toList <+: (canonicalPath path).toList) :
    ∃ head rest, Segmented (canonicalPath path).toList (head :: rest) ∧
      (∀ property, resolve catalog settings.namespaceSeparator path = .ok property ↔
        ∃ type, Leads schemas head rest type ∧
          Describes settings.namespaceSeparator (canonicalPath path) (head :: rest) type
            property) ∧
      ((∃ property, resolve catalog settings.namespaceSeparator path = .ok property) ↔
        ∃ type, Leads schemas head rest type) ∧
      ∀ rejection, resolve catalog settings.namespaceSeparator path = .error rejection ↔
        (¬∃ type, Leads schemas head rest type) ∧
          rejection = .unknownProperty (canonicalPath path) := by
  rw [resolve_of_user catalog _ path user]
  cases cut : segments (canonicalPath path).toList with
  | nil => exact absurd cut (List.splitOn_ne_nil _ _)
  | cons head rest =>
      have resolved := of_catalog_eq_ok_iff built settings.namespaceSeparator _ cut
      have rejected := of_catalog_eq_error_iff built settings.namespaceSeparator _ cut
      refine ⟨head, rest, (segmented_iff _ _).mpr cut, resolved, ?_, rejected⟩
      constructor
      · intro succeeds
        rcases succeeds with ⟨property, ended⟩
        rcases (resolved property).mp ended with ⟨type, leads, -⟩
        exact ⟨type, leads⟩
      · intro somewhere
        cases ended : ofCatalog catalog settings.namespaceSeparator (canonicalPath path) with
        | ok property => exact ⟨property, rfl⟩
        | error rejection => exact absurd somewhere ((rejected rejection).mp ended).1

/-- A list of booleans in a schema with a blank qualifier, reached by a wildcard in brackets. -/
theorem resolve_user_path_note :
    Catalog.ofSchemas Catalog.samplePair =
        .ok ⟨Catalog.samplePair, Catalog.declaredEntries Catalog.samplePair⟩ ∧
      ¬"ecm:".toList <+: (canonicalPath "/note[*2]").toList ∧
        ∃ property, resolve ⟨Catalog.samplePair, Catalog.declaredEntries Catalog.samplePair⟩ "__"
          "/note[*2]" = .ok property ∧ property.triState = true ∧
            property.storageKey = "note.*2" := by
  have built : Catalog.ofSchemas Catalog.samplePair =
      .ok ⟨Catalog.samplePair, Catalog.declaredEntries Catalog.samplePair⟩ := by
    cbv
  have user : ¬"ecm:".toList <+: (canonicalPath "/note[*2]").toList := by
    rw [← List.isPrefixOf_iff_prefix]
    cbv
    exact Bool.false_ne_true
  refine ⟨built, user, ?_⟩
  obtain ⟨head, rest, cut, found, resolves, -⟩ :=
    resolve_user_path built ⟨"/document", "__", false⟩ "/note[*2]" user
  have parts : head :: rest = [['n', 'o', 't', 'e'], ['*', '2']] := by
    rw [← (segmented_iff _ _).mp cut]
    cbv
  obtain ⟨rfl, rfl⟩ := List.cons.inj parts
  have declared : ⟨⟨none, "note"⟩, .list (.scalar .boolean)⟩ ∈
      declaredFields Catalog.samplePair := by
    rw [declaredFields, Catalog.samplePair, List.flatMap_cons, List.flatMap_cons]
    exact List.mem_append_right _ (List.mem_append_left _ (by cbv; exact .head _))
  have walk : Walks (.list (.scalar .boolean)) [['*', '2']] (.scalar .boolean) :=
    .position ((is_position_iff _).mp rfl) (.here _)
  obtain ⟨property, resolved⟩ := resolves.mpr ⟨_, _, declared, rfl, walk⟩
  obtain ⟨type, ⟨field, fieldDeclared, named, fieldWalk⟩, described⟩ := (found property).mp resolved
  have leads : Leads Catalog.samplePair ['n', 'o', 't', 'e'] [['*', '2']] type :=
    ⟨field, fieldDeclared, named, fieldWalk⟩
  have same := leads_unique built leads ⟨_, declared, rfl, walk⟩
  refine ⟨property, resolved, described.triState_iff.mpr same, ?_⟩
  rw [described.storageKey_eq]
  cbv

end DocumentQuery.Property
