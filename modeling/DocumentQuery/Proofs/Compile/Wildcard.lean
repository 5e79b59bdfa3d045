import DocumentQuery.Proofs.Compile.Locality
import DocumentQuery.Proofs.Property.Wildcard

/-!
Wildcards in selections. Whether some selected property reaches a wildcard can be read off the
paths of the selection.
-/

namespace DocumentQuery

open Property

namespace Compiler

open Attempt

theorem selected_eq_ok_iff {compiler : Compiler} {operand : Operand} {property : Property} :
    (compiler.selected operand).outcome = .ok property ↔
      Lowering.Names compiler.catalog compiler.settings operand property := by
  cases operand with
  | property path => exact Lowering.property_of_eq_ok_iff _ _ (.property path) property
  | literal _ | literals _ | unary _ _ | binary _ _ _ | nary _ _ =>
      simp [selected, Lowering.Names]

theorem any_iff_of_forall₂ {Item Result : Type} {related : Item → Result → Prop}
    {items : List Item} {results : List Result} (each : List.Forall₂ related items results)
    {test : Result → Bool} {holds : Item → Prop}
    (agree : ∀ item ∈ items, ∀ result, related item result →
      (test result = true ↔ holds item)) :
    results.any test = true ↔ ∃ item ∈ items, holds item := by
  induction each with
  | nil => simp
  | cons first _ induction =>
      obtain ⟨headAgrees, restAgrees⟩ := List.forall_mem_cons.mp agree
      rw [List.any_cons, Bool.or_eq_true, List.exists_mem_cons_iff, headAgrees _ first,
        induction restAgrees]

/-- Under a separator on one line, no system property reaches a wildcard, and a property of
documents on a path with its stars apart does so exactly if the path passes a wildcard. A selection
of such properties is found to reach a wildcard exactly if one of its paths passes one. -/
theorem selects_wildcard_iff_passes {schemas : List Schema} {catalog : Catalog}
    (built : Catalog.ofSchemas schemas = .ok catalog) {settings : Settings}
    (valid : settings.validate = .ok settings)
    (oneLine : '\n' ∉ settings.namespaceSeparator.toList) :
    (∀ path property, Property.resolve catalog settings.namespaceSeparator path = .ok property →
      (property.system = true → property.wildcard = false) ∧
      (property.system = false → StarsApart path →
        (property.wildcard = true ↔ PassesWildcard path))) ∧
    ∀ select : List Operand,
      (∀ operand ∈ select, ∃ property, Lowering.Names catalog settings operand property) →
      (∀ path, .property path ∈ select → ∀ property,
        Property.resolve catalog settings.namespaceSeparator path = .ok property →
          property.system = true ∨ StarsApart path) →
      ∃ answer, (selectsWildcard ⟨catalog, settings⟩ select).outcome = .ok answer ∧
        (answer = true ↔ ∃ path, .property path ∈ select ∧ PassesWildcard path) := by
  have noStar := (separator_of_valid valid).2
  have single : ∀ path property,
      Property.resolve catalog settings.namespaceSeparator path = .ok property →
        property.system = true ∨ StarsApart path →
          (property.wildcard = true ↔ PassesWildcard path) := by
    intro path property found kind
    cases system : property.system with
    | true =>
        obtain ⟨noWildcard, noPass⟩ := wildcard_of_system noStar found system
        exact iff_of_false (by rw [noWildcard]; exact Bool.false_ne_true) noPass
    | false =>
        apply wildcard_iff_of_user built noStar oneLine found system
        exact kind.resolve_left (by rw [system]; exact Bool.false_ne_true)
  constructor
  · intro path property found
    exact ⟨fun system => (wildcard_of_system noStar found system).1,
      fun _ apart => single path property found (Or.inr apart)⟩
  · intro select selects kinds
    have succeeds : ∃ properties, (selection ⟨catalog, settings⟩ select).outcome = .ok properties :=
      selection_of_names selects
    obtain ⟨properties, ended⟩ := succeeds
    refine ⟨properties.any fun property => property.wildcard, ?_, ?_⟩
    · simp [selectsWildcard, ended]
    · have each := (each_eq_ok_iff _ _ _).mp ended
      have agree : ∀ operand ∈ select, ∀ property,
          (selected ⟨catalog, settings⟩ operand).outcome = .ok property →
            (property.wildcard = true ↔
              ∃ path, operand = .property path ∧ PassesWildcard path) := by
        intro operand member property named
        obtain ⟨path, rfl, found⟩ := selected_eq_ok_iff.mp named
        rw [single path property found (kinds path member property found)]
        simp
      rw [any_iff_of_forall₂ each agree]
      simp

def archive : List Schema :=
  [(Schema.empty "dublincore" ⟨"urn:dc", "dc"⟩).withField "files"
    (.list (.list (.complex "file" [⟨⟨none, "ma.rks"⟩, .list (.scalar .string)⟩])))]

def archiveCatalog : Catalog := ⟨archive, Catalog.declaredEntries archive⟩

/-- A separator that looks like the end of a segment and the number of a position. -/
def numberedSettings : Settings := ⟨"/document", ".0", false⟩

theorem selects_wildcard_iff_passes_archive :
    Catalog.ofSchemas archive = .ok archiveCatalog ∧
      numberedSettings.validate = .ok numberedSettings ∧
      StarsApart "dc:files[12][*]/ma.rks[*3]" ∧
      (∃ property,
        Property.resolve archiveCatalog ".0" "dc:files[12][*]/ma.rks[*3]" = .ok property ∧
        property.storageKey = "dc.0files.12.*.ma.rks.*3" ∧ property.wildcard = true) ∧
      (selectsWildcard ⟨archiveCatalog, numberedSettings⟩
        [.property "ecm:uuid", .property "dc:files[12][*]/ma.rks[*3]"]).outcome = .ok true := by
  have built : Catalog.ofSchemas archive = .ok archiveCatalog := by cbv
  have valid : numberedSettings.validate = .ok numberedSettings := by cbv
  have segmented : Segmented (canonicalPath "dc:files[12][*]/ma.rks[*3]").toList
      ["dc:files".toList, "12".toList, "*".toList, "ma.rks".toList, "*3".toList] :=
    (segmented_iff _ _).mpr (by decide +kernel)
  have star : IsWildcard "*".toList := ⟨[], rfl, List.forall_mem_nil _⟩
  have numbered : IsWildcard "*3".toList := ⟨['3'], rfl, List.all_eq_true.mp rfl⟩
  have apart : StarsApart "dc:files[12][*]/ma.rks[*3]" := by
    refine ⟨_, _, segmented, by unfold IsPlain; decide, ?_⟩
    simp only [List.forall_mem_cons]
    exact ⟨Or.inr (by unfold IsPlain; decide), Or.inl star, Or.inr (by unfold IsPlain; decide),
      Or.inl numbered, List.forall_mem_nil _⟩
  have passes : PassesWildcard "dc:files[12][*]/ma.rks[*3]" :=
    ⟨_, _, segmented, "*".toList, by simp, star⟩
  have whole := selects_wildcard_iff_passes built valid (by decide)
  have found : Property.resolve archiveCatalog ".0" "dc:files[12][*]/ma.rks[*3]" =
      .ok ⟨"dc:files/12/*/ma.rks/*3", "dc.0files.12.*.ma.rks.*3", .scalar .string, true, false,
        false, false⟩ := rfl
  have systemFound : Property.resolve archiveCatalog ".0" "ecm:uuid" =
      .ok ⟨"ecm:uuid", "ecm.0id", .unresolved, false, false, false, true⟩ := rfl
  have selects : ∀ operand ∈ [.property "ecm:uuid", .property "dc:files[12][*]/ma.rks[*3]"],
      ∃ property, Lowering.Names archiveCatalog numberedSettings operand property := by
    simp only [List.forall_mem_cons]
    exact ⟨⟨_, _, rfl, systemFound⟩, ⟨_, _, rfl, found⟩, List.forall_mem_nil _⟩
  have kinds : ∀ path, .property path ∈
      [.property "ecm:uuid", Operand.property "dc:files[12][*]/ma.rks[*3]"] → ∀ property,
        Property.resolve archiveCatalog ".0" path = .ok property →
          property.system = true ∨ StarsApart path := by
    intro path member property resolved
    simp only [List.mem_cons, Operand.property.injEq, List.not_mem_nil, or_false] at member
    rcases member with rfl | rfl
    · rw [← Except.ok.inj (systemFound.symm.trans resolved)]
      exact Or.inl rfl
    · exact Or.inr apart
  obtain ⟨answer, ended, decided⟩ := whole.2 _ selects kinds
  have yes : answer = true := decided.mpr ⟨_, by simp, passes⟩
  refine ⟨built, valid, apart, ⟨_, found, rfl, ?_⟩, ?_⟩
  · exact ((whole.1 _ _ found).2 rfl apart).mpr passes
  · rw [ended, yes]

end Compiler

end DocumentQuery
