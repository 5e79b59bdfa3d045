import DocumentQuery.Proofs.Property.UserPath
import DocumentQuery.Proofs.Schema.Reordered

/-!
Paths through catalogs whose complex types have their parts in other orders. Where the parts of
every type below the fields are apart, every path is found as before. A catalog does not see to
that: whether it is made is a matter of its top-level names alone.
-/

namespace DocumentQuery

section Related

variable {First Second Next Other : Type} {Before : First → Second → Prop}
  {After : Next → Other → Prop} {first : Option First} {second : Option Second}

theorem rel_bind (related : Option.Rel Before first second) {f : First → Option Next}
    {g : Second → Option Other} (each : ∀ one other, first = some one → Before one other →
      Option.Rel After (f one) (g other)) : Option.Rel After (first.bind f) (second.bind g) := by
  cases related with
  | none => exact .none
  | some here => exact each _ _ rfl here

theorem rel_map (related : Option.Rel Before first second) {f : First → Next} {g : Second → Other}
    (each : ∀ one other, Before one other → After (f one) (g other)) :
    Option.Rel After (first.map f) (second.map g) := by
  cases related with
  | none => exact .none
  | some here => exact .some (each _ _ here)

end Related

namespace FieldType

theorem apart_throughout_step {type next : FieldType} {segment : List Char}
    (apart : ApartThroughout type) (stepped : type.step? segment = some next) :
    ApartThroughout next := by
  rcases (Property.step_eq_some_iff type next segment).mp stepped with
    ⟨-, rfl⟩ | ⟨-, name, parts, part, rfl, ⟨-, before, after, rfl, -⟩, rfl⟩
  · exact apart_throughout_element apart
  · exact apart_throughout_part apart (List.mem_append_right _ List.mem_cons_self)

theorem element_of_reordered {type other : FieldType} (reordered : Reordered type other) :
    Option.Rel Reordered type.element? other.element? := by
  cases reordered with
  | scalar type => exact .none
  | list inner => exact .some inner
  | complex name each order => exact .none

theorem step_of_reordered {type other : FieldType} (apart : ApartThroughout type)
    (reordered : Reordered type other) (segment : List Char) :
    Option.Rel Reordered (type.step? segment) (other.step? segment) := by
  rw [step?, step?]
  split
  · exact element_of_reordered reordered
  · exact rel_map (part_of_reordered apart reordered _) fun _ _ part => part.type

theorem walk_cons (type : FieldType) (segment : List Char) (rest : List (List Char)) :
    type.walk? (segment :: rest) = (type.step? segment).bind fun next => next.walk? rest := by
  rw [walk?]
  cases type.step? segment <;> rfl

/-- A walk meets only types whose parts are apart, and so takes corresponding steps. -/
theorem walk_of_reordered {type other : FieldType} (apart : ApartThroughout type)
    (reordered : Reordered type other) (segments : List (List Char)) :
    Option.Rel Reordered (type.walk? segments) (other.walk? segments) := by
  induction segments generalizing type other with
  | nil => exact .some reordered
  | cons segment rest induction =>
      rw [walk_cons, walk_cons]
      apply rel_bind (step_of_reordered apart reordered segment)
      intro next otherNext stepped nextReordered
      exact induction (apart_throughout_step apart stepped) nextReordered

theorem known_of_reordered {type other : FieldType} (reordered : Reordered type other) :
    KnownType.ofFieldType type = KnownType.ofFieldType other ∧
      type.isBoolean = other.isBoolean := by
  cases reordered with
  | scalar type => exact ⟨rfl, rfl⟩
  | list inner => exact ⟨rfl, rfl⟩
  | complex name each order => exact ⟨rfl, rfl⟩

end FieldType

namespace Property

open FieldType Schema

variable {schemas others : List Schema} {catalog other : Catalog}

theorem top_level_of_reordered (built : Catalog.ofSchemas schemas = .ok catalog)
    (otherBuilt : Catalog.ofSchemas others = .ok other)
    (reordered : Schema.EachReordered schemas others) (name : String) :
    Option.Rel FieldReordered (catalog.topLevel? name) (other.topLevel? name) := by
  rw [Catalog.top_level_eq_field built, Catalog.top_level_eq_field otherBuilt]
  obtain ⟨-, rfl⟩ := (Catalog.of_schemas_eq_ok_iff _ _).mp built
  obtain ⟨-, rfl⟩ := (Catalog.of_schemas_eq_ok_iff _ _).mp otherBuilt
  rw [Catalog.field_eq_find, Catalog.field_eq_find]
  exact find_of_each_reordered (fun full => decide (full.full = name))
    (declared_fields_of_each_reordered reordered)

/-- The types of the declared fields have parts that are apart, at every depth. -/
def DeclaresApart (schemas : List Schema) : Prop :=
  ∀ field ∈ declaredFields schemas, field.type.ApartThroughout

theorem locate_cons (catalog : Catalog) (head : List Char) (rest : List (List Char)) :
    locate? catalog (head :: rest) = (catalog.topLevel? (String.ofList head)).bind fun field =>
      (field.type.walk? rest).map fun type => (field, type) := by
  rw [locate?]
  cases catalog.topLevel? (String.ofList head) <;> rfl

theorem locate_of_reordered (built : Catalog.ofSchemas schemas = .ok catalog)
    (otherBuilt : Catalog.ofSchemas others = .ok other)
    (reordered : Schema.EachReordered schemas others) (apart : DeclaresApart schemas)
    (parts : List (List Char)) :
    Option.Rel (fun place otherPlace => place.1.name = otherPlace.1.name ∧
        FieldType.Reordered place.2 otherPlace.2)
      (locate? catalog parts) (locate? other parts) := by
  cases parts with
  | nil => exact .none
  | cons head rest =>
      rw [locate_cons, locate_cons]
      apply rel_bind (top_level_of_reordered built otherBuilt reordered _)
      intro field otherField found fieldReordered
      rw [Catalog.top_level_eq_field built, Catalog.field_eq_some_iff built] at found
      have walks := walk_of_reordered (apart field found.1) fieldReordered.type rest
      exact rel_map walks fun _ _ ends => ⟨fieldReordered.name, ends⟩

theorem of_catalog_of_reordered (built : Catalog.ofSchemas schemas = .ok catalog)
    (otherBuilt : Catalog.ofSchemas others = .ok other)
    (reordered : Schema.EachReordered schemas others) (apart : DeclaresApart schemas)
    (separator path : String) :
    ofCatalog other separator path = ofCatalog catalog separator path := by
  have places := locate_of_reordered built otherBuilt reordered apart (segments path.toList)
  rw [ofCatalog, ofCatalog]
  generalize locate? catalog (segments path.toList) = place at places ⊢
  generalize locate? other (segments path.toList) = otherPlace at places ⊢
  cases places with
  | none => rfl
  | some corresponds =>
      obtain ⟨name, type⟩ := corresponds
      obtain ⟨known, boolean⟩ := known_of_reordered type
      simp only [name, known, boolean]

/-- What a catalog leaves to its schemas: it is made whatever the types of the fields are. A word
means at most one part of every type below the fields exactly if the parts are apart, and then
their order makes no difference to any path; the order of one type's parts makes a difference to a
word exactly if the word means two different ones. -/
theorem resolve_of_parts_apart (built : Catalog.ofSchemas schemas = .ok catalog) :
    (∀ others : List Schema, schemas.map outline = others.map outline →
      ∃ other, Catalog.ofSchemas others = .ok other) ∧
    ((∀ field ∈ declaredFields schemas, ∀ name parts, field.type.Reaches (.complex name parts) →
      ∀ word, (meant parts word).length ≤ 1) ↔ DeclaresApart schemas) ∧
    (DeclaresApart schemas → ∀ others, Schema.EachReordered schemas others →
      ∃ other, Catalog.ofSchemas others = .ok other ∧
        ∀ separator path, resolve other separator path = resolve catalog separator path) ∧
    ∀ name parts word, (∀ reordered, parts.Perm reordered →
        (FieldType.complex name reordered).part? word =
          (FieldType.complex name parts).part? word) ↔
      ∀ first ∈ meant parts word, ∀ second ∈ meant parts word, first = second := by
  refine ⟨?_, ?_, ?_, part_of_every_order_iff⟩
  · intro others outlines
    exact ⟨_, Catalog.of_schemas_of_outlines outlines built⟩
  · constructor
    · intro atMostOne field declared name parts reached
      exact (parts_apart_iff parts).mpr (atMostOne field declared name parts reached)
    · intro apart field declared name parts reached
      exact (parts_apart_iff parts).mp (apart field declared name parts reached)
  · intro apart others reordered
    have otherBuilt := Catalog.of_schemas_of_outlines (outlines_of_each_reordered reordered) built
    refine ⟨_, otherBuilt, fun separator path => ?_⟩
    rw [resolve, resolve, of_catalog_of_reordered built otherBuilt reordered apart]

/-- A schema with one field, a list of complex values with the given parts. -/
def withContent (parts : List Field) : List Schema :=
  [⟨"file", ⟨"urn:file", ""⟩, [⟨⟨none, "content"⟩, .list (.complex "blob" parts)⟩]⟩]

def nameText : Field := ⟨⟨none, "name"⟩, .scalar .string⟩

def nameFlag : Field := ⟨⟨none, "name"⟩, .scalar .boolean⟩

def lengthNumber : Field := ⟨⟨some "blob", "length"⟩, .scalar .integer⟩

theorem resolve_of_parts_apart_swapped :
    let ordered := withContent [nameText, lengthNumber]
    let swapped := withContent [lengthNumber, nameText]
    let catalog : Catalog := ⟨ordered, Catalog.declaredEntries ordered⟩
    Catalog.ofSchemas ordered = .ok catalog ∧
      (∃ other, Catalog.ofSchemas (withContent [nameText, nameFlag]) = .ok other) ∧
      DeclaresApart ordered ∧ Schema.EachReordered ordered swapped ∧
      ∃ other, Catalog.ofSchemas swapped = .ok other ∧
        ∀ separator path, resolve other separator path = resolve catalog separator path := by
  intro ordered swapped catalog
  have built : Catalog.ofSchemas ordered = .ok catalog := by cbv
  have partsApart : PartsApart [nameText, lengthNumber] :=
    List.pairwise_pair.mpr ⟨by decide, by decide, by decide, by decide⟩
  have apart : DeclaresApart ordered := by
    intro field declared name parts reached
    obtain rfl := List.mem_singleton.mp declared
    cases reached with
    | element later =>
        cases later with
        | here => exact partsApart
        | part member deeper =>
            rcases List.mem_pair.mp member with rfl | rfl <;> cases deeper
  have parts : FieldType.EachReordered [nameText, lengthNumber] [nameText, lengthNumber] :=
    .cons rfl (.scalar _) (.cons rfl (.scalar _) .nil)
  have reordered : Schema.EachReordered ordered swapped :=
    .cons rfl rfl (.cons rfl (.list (.complex "blob" parts (.swap _ _ _))) .nil) .nil
  obtain ⟨accepts, -, orderFree, -⟩ := resolve_of_parts_apart built
  exact ⟨built, accepts _ rfl, apart, reordered, orderFree apart swapped reordered⟩

/-- A catalog takes a type with two parts of one name. The word means both, and the order of the
parts tells which of them a path names. -/
theorem ambiguous_parts_accepted :
    let first := withContent [nameText, nameFlag]
    let second := withContent [nameFlag, nameText]
    Catalog.ofSchemas first = .ok ⟨first, Catalog.declaredEntries first⟩ ∧
      Catalog.ofSchemas second = .ok ⟨second, Catalog.declaredEntries second⟩ ∧
      (∃ field ∈ declaredFields first, ∃ name parts,
        field.type.Reaches (.complex name parts) ∧ (meant parts "name").length = 2) ∧
      (resolve ⟨first, Catalog.declaredEntries first⟩ "__" "content/*/name").map
        Property.declared = .ok (.scalar .string) ∧
      (resolve ⟨second, Catalog.declaredEntries second⟩ "__" "content/*/name").map
        Property.declared = .ok (.scalar .boolean) := by
  intro first second
  have reaches : (FieldType.list (.complex "blob" [nameText, nameFlag])).Reaches
    (.complex "blob" [nameText, nameFlag]) := .element (.here _)
  have twice : (meant [nameText, nameFlag] "name").length = 2 := by cbv
  have canonical : canonicalPath "content/*/name" = "content/*/name" := by cbv
  have user : ¬SystemProperty.mark.toList <+: "content/*/name".toList := by decide
  have resolved : ∀ catalog, resolve catalog "__" "content/*/name" =
      ofCatalog catalog "__" "content/*/name" := by
    intro catalog
    have found := resolve_of_user catalog "__" "content/*/name"
    rw [canonical] at found
    exact found user
  refine ⟨by cbv, by cbv, ⟨_, List.mem_singleton_self _, "blob", _, reaches, twice⟩, ?_, ?_⟩
  · rw [resolved]
    rfl
  · rw [resolved]
    rfl

end Property

end DocumentQuery
