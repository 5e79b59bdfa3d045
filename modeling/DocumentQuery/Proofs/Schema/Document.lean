import DocumentQuery.Proofs.Json.Members
import DocumentQuery.Schema.Document
import Mathlib.Tactic.Simproc.ExistsAndEq

/-!
The JSON documents of schemas. They are given by rules: a field type is an object with one member,
the other records have their members in any order and any other members beside them, and some
members may be left out. What is read is exactly such a document, and what is written is one of
them, so that schemas, fields and field types come back as they were.
-/

namespace DocumentQuery

open Json

inductive ScalarType.IsDocument : Json → ScalarType → Prop
  | named (type : ScalarType) : IsDocument (.text type.name) type
  | tagged (type : ScalarType) : IsDocument (.object [(type.name, .null)]) type

inductive QualifiedName.IsQualifier : Json → Option String → Prop
  | null : IsQualifier .null none
  | text (qualifier : String) : IsQualifier (.text qualifier) (some qualifier)

inductive QualifiedName.IsDocument : Json → QualifiedName → Prop
  | record {json : Json} {members : List (String × Json)} {qualifier : Option String}
      {localName : String} (isRecord : IsRecord ["prefix", "local"] json members)
      (qualified : MemberOr "prefix" none IsQualifier members qualifier)
      (isLocal : lookup "local" members = some (.text localName)) :
      IsDocument json ⟨qualifier, localName⟩

namespace FieldType

mutual

inductive IsDocument : Json → FieldType → Prop
  | scalar {body : Json} {type : ScalarType} (isScalar : ScalarType.IsDocument body type) :
      IsDocument (.object [("scalar", body)]) (.scalar type)
  | list {body : Json} {element : FieldType} (isElement : IsDocument body element) :
      IsDocument (.object [("list", body)]) (.list element)
  | complex {body : Json} {members : List (String × Json)} {name : String} {items : List Json}
      {parts : List Field} (isRecord : IsRecord ["name", "fields"] body members)
      (named : lookup "name" members = some (.text name))
      (listed : lookup "fields" members = some (.array items)) (areParts : AreParts items parts) :
      IsDocument (.object [("complex", body)]) (.complex name parts)

inductive IsPart : Json → Field → Prop
  | record {json nameBody typeBody : Json} {members : List (String × Json)} {field : Field}
      (isRecord : IsRecord ["name", "type"] json members)
      (named : lookup "name" members = some nameBody)
      (isName : QualifiedName.IsDocument nameBody field.name)
      (typed : lookup "type" members = some typeBody) (isType : IsDocument typeBody field.type) :
      IsPart json field

inductive AreParts : List Json → List Field → Prop
  | nil : AreParts [] []
  | cons {json : Json} {items : List Json} {field : Field} {fields : List Field}
      (first : IsPart json field) (later : AreParts items fields) :
      AreParts (json :: items) (field :: fields)

end

inductive IsList : Json → List Field → Prop
  | array {items : List Json} {fields : List Field} (areParts : AreParts items fields) :
      IsList (.array items) fields

end FieldType

/-- Where the qualifier is left out, it is blank. -/
inductive Namespace.IsDocument : Json → Namespace → Prop
  | record {json : Json} {members : List (String × Json)} {uri qualifier : String}
      (isRecord : IsRecord ["uri", "prefix"] json members)
      (located : lookup "uri" members = some (.text uri))
      (qualified : MemberOr "prefix" "" IsText members qualifier) :
      IsDocument json ⟨uri, qualifier⟩

/-- Where the namespace or the fields are left out, there are none. -/
inductive Schema.IsDocument : Json → Schema → Prop
  | record {json : Json} {members : List (String × Json)} {schema : Schema}
      (isRecord : IsRecord ["name", "namespace", "fields"] json members)
      (named : lookup "name" members = some (.text schema.name))
      (placed : MemberOr "namespace" Namespace.empty Namespace.IsDocument members schema.space)
      (listed : MemberOr "fields" [] FieldType.IsList members schema.fields) :
      IsDocument json schema

/-! Reading accepts exactly the documents. -/

theorem ScalarType.of_name_eq_some_iff (name : String) (type : ScalarType) :
    ofName? name = some type ↔ name = type.name := by
  constructor
  · intro found
    rw [ofName?] at found
    have named : type.name = name := by simpa using List.find?_some found
    exact named.symm
  · rintro rfl
    cases type <;> rfl

theorem ScalarType.of_json_eq_some_iff (json : Json) (type : ScalarType) :
    ofJson? json = some type ↔ IsDocument json type := by
  constructor
  · intro read
    unfold ofJson? at read
    split at read
    · rw [(of_name_eq_some_iff _ _).mp read]
      exact .named type
    · rw [(of_name_eq_some_iff _ _).mp read]
      exact .tagged type
    · cases read
  · intro document
    cases document with
    | named | tagged => exact (of_name_eq_some_iff _ _).mpr rfl

namespace QualifiedName

def readQualifier? : Json → Option (Option String)
  | .null => some none
  | .text qualifier => some (some qualifier)
  | _ => none

theorem read_qualifier_eq_some_iff (json : Json) (qualifier : Option String) :
    readQualifier? json = some qualifier ↔ IsQualifier json qualifier := by
  constructor
  · intro read
    unfold readQualifier? at read
    split at read
    · rw [← Option.some.inj read]
      exact .null
    · rw [← Option.some.inj read]
      exact .text _
    · cases read
  · intro written
    cases written with
    | null | text _ => rfl

theorem of_json_eq_bind (json : Json) :
    ofJson? json = (json.asRecord ["prefix", "local"]).bind fun members =>
      (memberOr? "prefix" none readQualifier? members).bind fun qualifier =>
        (textMember "local" members).bind fun localName => some ⟨qualifier, localName⟩ := by
  unfold ofJson? memberOr? readQualifier?
  apply congrArg
  funext members
  cases lookup "prefix" members with
  | none => rfl
  | some value => cases value <;> rfl

theorem of_json_eq_some_iff (json : Json) (name : QualifiedName) :
    ofJson? json = some name ↔ IsDocument json name := by
  simp only [of_json_eq_bind, Option.bind_eq_some_iff, as_record_eq_some_iff,
    member_or_eq_some_iff (fun json => read_qualifier_eq_some_iff json _), text_member_eq_some_iff]
  constructor
  · rintro ⟨members, isRecord, qualifier, qualified, localName, isLocal, same⟩
    rw [← Option.some.inj same]
    exact .record isRecord qualified isLocal
  · intro document
    cases document with
    | record isRecord qualified isLocal =>
        exact ⟨_, isRecord, _, qualified, _, isLocal, rfl⟩

end QualifiedName

namespace FieldType

theorem parts_of_members_eq_lookup (members : List (String × Json)) :
    partsOfMembers? members = (lookup "fields" members).bind partsOfJson? :=
  search_eq_lookup (by rw [partsOfMembers?]) (by intros; rw [partsOfMembers?]) members

theorem type_of_members_eq_lookup (members : List (String × Json)) :
    typeOfMembers? members = (lookup "type" members).bind ofJson? :=
  search_eq_lookup (by rw [typeOfMembers?]) (by intros; rw [typeOfMembers?]) members

theorem of_json_eq_some_iff (json : Json) (type : FieldType) :
    ofJson? json = some type ↔
      (∃ body scalarType, json = .object [("scalar", body)] ∧
        ScalarType.ofJson? body = some scalarType ∧ type = .scalar scalarType) ∨
      (∃ body element, json = .object [("list", body)] ∧ ofJson? body = some element ∧
        type = .list element) ∨
      ∃ body, json = .object [("complex", body)] ∧ complexOfJson? body = some type := by
  constructor
  · intro read
    unfold ofJson? at read
    split at read
    · next kind body =>
        split at read
        · next scalar =>
            obtain ⟨scalarType, isScalar, same⟩ := Option.map_eq_some_iff.mp read
            exact Or.inl ⟨body, scalarType, by rw [scalar], isScalar, same.symm⟩
        · split at read
          · next list =>
              obtain ⟨element, isElement, same⟩ := Option.map_eq_some_iff.mp read
              exact Or.inr (Or.inl ⟨body, element, by rw [list], isElement, same.symm⟩)
          · split at read
            · next complex => exact Or.inr (Or.inr ⟨body, by rw [complex], read⟩)
            · cases read
    · cases read
  · rintro (⟨body, scalarType, rfl, isScalar, rfl⟩ | ⟨body, element, rfl, isElement, rfl⟩ |
      ⟨body, rfl, isComplex⟩)
    · rw [ofJson?, if_pos rfl, isScalar, Option.map_some]
    · rw [ofJson?, if_neg (by decide), if_pos rfl, isElement, Option.map_some]
    · rw [ofJson?, if_neg (by decide), if_neg (by decide), if_pos rfl, isComplex]

theorem parts_of_json_eq_some_iff (json : Json) (fields : List Field) :
    partsOfJson? json = some fields ↔
      ∃ items, json = .array items ∧ partsOfItems? items = some fields := by
  cases json with
  | array items => simp [partsOfJson?]
  | null | bool _ | number _ _ | text _ | object _ => simp [partsOfJson?]

theorem complex_of_json_eq_some_iff (json : Json) (type : FieldType) :
    complexOfJson? json = some type ↔
      ∃ members name items parts, IsRecord ["name", "fields"] json members ∧
        lookup "name" members = some (.text name) ∧
          lookup "fields" members = some (.array items) ∧ partsOfItems? items = some parts ∧
            type = .complex name parts := by
  constructor
  · intro read
    unfold complexOfJson? at read
    split at read
    · next members =>
        obtain ⟨name, named, read⟩ := Option.bind_eq_some_iff.mp read
        obtain ⟨parts, listed, same⟩ := Option.bind_eq_some_iff.mp read
        rw [text_member_eq_some_iff] at named
        rw [parts_of_members_eq_lookup] at listed
        obtain ⟨value, found, areParts⟩ := Option.bind_eq_some_iff.mp listed
        obtain ⟨items, rfl, areParts⟩ := (parts_of_json_eq_some_iff _ _).mp areParts
        exact ⟨members, name, items, parts, .object members, named, found, areParts,
          (Option.some.inj same).symm⟩
    · next name value =>
        obtain ⟨parts, areParts, same⟩ := Option.map_eq_some_iff.mp read
        obtain ⟨items, rfl, areParts⟩ := (parts_of_json_eq_some_iff _ _).mp areParts
        exact ⟨_, name, items, parts, .array (Nat.le_refl 2), rfl, rfl, areParts, same.symm⟩
    · cases read
  · rintro ⟨members, name, items, parts, isRecord, named, listed, areParts, rfl⟩
    cases isRecord with
    | object members =>
        rw [← text_member_eq_some_iff] at named
        rw [complexOfJson?, named, parts_of_members_eq_lookup, listed, Option.bind_some,
          partsOfJson?, areParts]
        rfl
    | array short =>
        rw [items_of_pair (by decide) short named listed]
        rw [complexOfJson?, partsOfJson?, areParts, Option.map_some]

theorem of_json_scalar_iff (json : Json) (type : ScalarType) :
    ofJson? json = some (.scalar type) ↔
      ∃ body, json = .object [("scalar", body)] ∧ ScalarType.ofJson? body = some type := by
  rw [of_json_eq_some_iff]
  simp [complex_of_json_eq_some_iff]

theorem of_json_list_iff (json : Json) (element : FieldType) :
    ofJson? json = some (.list element) ↔
      ∃ body, json = .object [("list", body)] ∧ ofJson? body = some element := by
  rw [of_json_eq_some_iff]
  simp [complex_of_json_eq_some_iff]

theorem of_json_complex_iff (json : Json) (name : String) (parts : List Field) :
    ofJson? json = some (.complex name parts) ↔
      ∃ body members items, json = .object [("complex", body)] ∧
        IsRecord ["name", "fields"] body members ∧ lookup "name" members = some (.text name) ∧
          lookup "fields" members = some (.array items) ∧ partsOfItems? items = some parts := by
  rw [of_json_eq_some_iff]
  simp [complex_of_json_eq_some_iff]

theorem part_of_json_eq_some_iff (json : Json) (field : Field) :
    partOfJson? json = some field ↔
      ∃ members nameBody typeBody, IsRecord ["name", "type"] json members ∧
        lookup "name" members = some nameBody ∧ QualifiedName.IsDocument nameBody field.name ∧
          lookup "type" members = some typeBody ∧ ofJson? typeBody = some field.type := by
  simp only [← QualifiedName.of_json_eq_some_iff]
  constructor
  · intro read
    unfold partOfJson? at read
    split at read
    · next members =>
        obtain ⟨name, named, read⟩ := Option.bind_eq_some_iff.mp read
        obtain ⟨type, typed, same⟩ := Option.bind_eq_some_iff.mp read
        obtain ⟨nameBody, nameFound, isName⟩ := Option.bind_eq_some_iff.mp named
        rw [type_of_members_eq_lookup] at typed
        obtain ⟨typeBody, typeFound, isType⟩ := Option.bind_eq_some_iff.mp typed
        rw [← Option.some.inj same]
        exact ⟨members, nameBody, typeBody, .object members, nameFound, isName, typeFound, isType⟩
    · next nameBody typeBody =>
        obtain ⟨name, isName, read⟩ := Option.bind_eq_some_iff.mp read
        obtain ⟨type, isType, same⟩ := Option.bind_eq_some_iff.mp read
        rw [← Option.some.inj same]
        exact ⟨_, nameBody, typeBody, .array (Nat.le_refl 2), rfl, isName, rfl, isType⟩
    · cases read
  · rintro ⟨members, nameBody, typeBody, isRecord, nameFound, isName, typeFound, isType⟩
    cases isRecord with
    | object members =>
        rw [partOfJson?, nameFound, Option.bind_some, isName, type_of_members_eq_lookup, typeFound,
          Option.bind_some, isType]
        rfl
    | array short =>
        rw [items_of_pair (by decide) short nameFound typeFound]
        rw [partOfJson?, isName, isType]
        rfl

theorem parts_of_items_nil_iff (items : List Json) :
    partsOfItems? items = some [] ↔ items = [] := by
  cases items with
  | nil => simp [partsOfItems?]
  | cons item rest =>
      rw [partsOfItems?]
      simp [bind, Option.bind_eq_some_iff]

theorem parts_of_items_cons_iff (items : List Json) (field : Field) (fields : List Field) :
    partsOfItems? items = some (field :: fields) ↔
      ∃ item rest, items = item :: rest ∧ partOfJson? item = some field ∧
        partsOfItems? rest = some fields := by
  cases items with
  | nil => simp [partsOfItems?]
  | cons item rest =>
      rw [partsOfItems?]
      simp [bind, Option.bind_eq_some_iff]

mutual

/-- A field type is read from its documents and from nothing else. -/
theorem of_json_iff_is_document : ∀ (type : FieldType) (json : Json),
    ofJson? json = some type ↔ IsDocument json type
  | .scalar type, json => by
      rw [of_json_scalar_iff]
      constructor
      · rintro ⟨body, rfl, isScalar⟩
        exact .scalar ((ScalarType.of_json_eq_some_iff _ _).mp isScalar)
      · intro document
        cases document with
        | scalar isScalar => exact ⟨_, rfl, (ScalarType.of_json_eq_some_iff _ _).mpr isScalar⟩
  | .list element, json => by
      rw [of_json_list_iff]
      constructor
      · rintro ⟨body, rfl, isElement⟩
        exact .list ((of_json_iff_is_document element body).mp isElement)
      · intro document
        cases document with
        | list isElement => exact ⟨_, rfl, (of_json_iff_is_document element _).mpr isElement⟩
  | .complex name parts, json => by
      rw [of_json_complex_iff]
      constructor
      · rintro ⟨body, members, items, rfl, isRecord, named, listed, areParts⟩
        exact .complex isRecord named listed
          ((parts_of_items_iff_are_parts parts items).mp areParts)
      · intro document
        cases document with
        | complex isRecord named listed areParts =>
            exact ⟨_, _, _, rfl, isRecord, named, listed,
              (parts_of_items_iff_are_parts parts _).mpr areParts⟩

theorem parts_of_items_iff_are_parts : ∀ (fields : List Field) (items : List Json),
    partsOfItems? items = some fields ↔ AreParts items fields
  | [], items => by
      rw [parts_of_items_nil_iff]
      constructor
      · rintro rfl
        exact .nil
      · intro areParts
        cases areParts
        rfl
  | ⟨name, type⟩ :: rest, items => by
      rw [parts_of_items_cons_iff]
      constructor
      · rintro ⟨item, others, rfl, isPart, areParts⟩
        obtain ⟨members, nameBody, typeBody, isRecord, named, isName, typed, isType⟩ :=
          (part_of_json_eq_some_iff _ _).mp isPart
        have isDocument := (of_json_iff_is_document type typeBody).mp isType
        exact .cons (.record isRecord named isName typed isDocument)
          ((parts_of_items_iff_are_parts rest others).mp areParts)
      · intro areParts
        cases areParts with
        | cons first later =>
            cases first with
            | record isRecord named isName typed isDocument =>
                have isType := (of_json_iff_is_document type _).mpr isDocument
                exact ⟨_, _, rfl, (part_of_json_eq_some_iff _ _).mpr
                  ⟨_, _, _, isRecord, named, isName, typed, isType⟩,
                  (parts_of_items_iff_are_parts rest _).mpr later⟩

end

theorem part_of_json_iff_is_part (json : Json) (field : Field) :
    partOfJson? json = some field ↔ IsPart json field := by
  simp only [part_of_json_eq_some_iff, of_json_iff_is_document]
  constructor
  · rintro ⟨members, nameBody, typeBody, isRecord, named, isName, typed, isType⟩
    exact .record isRecord named isName typed isType
  · intro isPart
    cases isPart with
    | record isRecord named isName typed isType =>
        exact ⟨_, _, _, isRecord, named, isName, typed, isType⟩

theorem parts_of_json_iff_is_list (json : Json) (fields : List Field) :
    partsOfJson? json = some fields ↔ IsList json fields := by
  rw [parts_of_json_eq_some_iff]
  constructor
  · rintro ⟨items, rfl, areParts⟩
    exact .array ((parts_of_items_iff_are_parts _ _).mp areParts)
  · intro isList
    cases isList with
    | array areParts => exact ⟨_, rfl, (parts_of_items_iff_are_parts _ _).mpr areParts⟩

end FieldType

theorem Namespace.of_json_iff_is_document (json : Json) (space : Namespace) :
    ofJson? json = some space ↔ IsDocument json space := by
  have eq_bind : ofJson? json = (json.asRecord ["uri", "prefix"]).bind fun members =>
      (textMember "uri" members).bind fun uri =>
        (memberOr? "prefix" "" asText members).bind fun qualifier => some ⟨uri, qualifier⟩ := rfl
  simp only [eq_bind, Option.bind_eq_some_iff, as_record_eq_some_iff, text_member_eq_some_iff,
    member_or_eq_some_iff (fun json => as_text_eq_some_iff json _)]
  constructor
  · rintro ⟨members, isRecord, uri, located, qualifier, qualified, same⟩
    rw [← Option.some.inj same]
    exact .record isRecord located qualified
  · intro document
    cases document with
    | record isRecord located qualified =>
        exact ⟨_, isRecord, _, located, _, qualified, rfl⟩

namespace Schema

theorem of_json_eq_bind (json : Json) :
    ofJson? json = (json.asRecord ["name", "namespace", "fields"]).bind fun members =>
      (textMember "name" members).bind fun name =>
        (memberOr? "namespace" Namespace.empty Namespace.ofJson? members).bind fun space =>
          (memberOr? "fields" [] FieldType.partsOfJson? members).bind fun fields =>
            some ⟨name, space, fields⟩ := by
  unfold ofJson? memberOr?
  apply congrArg
  funext members
  apply congrArg
  funext name
  cases lookup "namespace" members <;> cases lookup "fields" members <;> rfl

/-- A schema is read from its documents and from nothing else. -/
theorem of_json_iff_is_document (json : Json) (schema : Schema) :
    ofJson? json = some schema ↔ IsDocument json schema := by
  simp only [of_json_eq_bind, Option.bind_eq_some_iff, as_record_eq_some_iff,
    text_member_eq_some_iff,
    member_or_eq_some_iff (fun json => Namespace.of_json_iff_is_document json _),
    member_or_eq_some_iff (fun json => FieldType.parts_of_json_iff_is_list json _)]
  constructor
  · rintro ⟨members, isRecord, name, named, space, placed, fields, listed, same⟩
    rw [← Option.some.inj same]
    exact .record isRecord named placed listed
  · intro document
    cases document with
    | record isRecord named placed listed =>
        exact ⟨_, isRecord, _, named, _, placed, _, listed, rfl⟩

end Schema

end DocumentQuery
