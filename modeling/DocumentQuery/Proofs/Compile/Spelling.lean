import DocumentQuery.Monitor.Session
import DocumentQuery.Proofs.Compile.Correspondence
import DocumentQuery.Proofs.Compile.Meaning

/-!
One query in different spellings. A path counts in its canonical spelling alone, in a filter and in
a selection alike. Another spelling only shows in messages about operands that are out of place, so
that a compilation comes to the same end and is counted in the same way.
-/

namespace DocumentQuery

open Attempt

def Stop.SameKind (reason other : Stop) : Prop := reason.refusal = other.refusal

namespace Property

def SamePath (path other : String) : Prop := canonicalPath path = canonicalPath other

theorem resolve_of_same_path {path other : String} (same : SamePath path other)
    (catalog : Catalog) (separator : String) :
    resolve catalog separator path = resolve catalog separator other := by
  have canonical : canonicalPath path = canonicalPath other := same
  rw [resolve, resolve, canonical]

end Property

open Property

namespace Tally

theorem note_resolutions_of_same_properties {resolutions others : List Resolution}
    (same : List.Forall₂ (fun resolution other => resolution.property = other.property)
      resolutions others) (tally : Tally) :
    tally.noteResolutions resolutions = tally.noteResolutions others := by
  induction same generalizing tally with
  | nil => rfl
  | @cons resolution other _ _ first _ induction =>
      have step : tally.noteResolution resolution = tally.noteResolution other := by
        rw [noteResolution, noteResolution, first]
      change (tally.noteResolution resolution).noteResolutions _ =
        (tally.noteResolution other).noteResolutions _
      rw [step, induction]

/-- Of a result, its tests are counted, and of a reason to stop, its kind. -/
theorem note_outcome_of_ends_alike {outcome other : Except Stop CompiledQuery}
    (alike : EndsAlike Stop.SameKind (fun compiled otherCompiled =>
      compiled.predicate.leafCount = otherCompiled.predicate.leafCount) outcome other)
    (tally : Tally) : tally.noteOutcome outcome = tally.noteOutcome other := by
  cases alike with
  | ok same => exact congrArg tally.noteFinish same
  | error same => exact congrArg tally.noteRefusal same

theorem note_compile_of_alike {attempt other : Attempt CompiledQuery}
    (alike : Alike Stop.SameKind Eq Eq attempt other) (tally : Tally) :
    tally.noteCompile attempt = tally.noteCompile other := by
  have sameTests := alike.ended.imp fun _ _ same =>
    congrArg (fun compiled => compiled.predicate.leafCount) same
  rw [noteCompile, noteCompile, note_resolutions_of_same_properties alike.found,
    note_outcome_of_ends_alike sameTests]

end Tally

namespace Compiler

theorem resolve_of_same_path (compiler : Compiler) {path other : String}
    (same : SamePath path other) :
    Alike Stop.SameKind Eq Eq (compiler.resolve path) (compiler.resolve other) := by
  simp only [resolve, Attempt.resolve,
    Property.resolve_of_same_path same compiler.catalog compiler.settings.namespaceSeparator]
  cases Property.resolve compiler.catalog compiler.settings.namespaceSeparator other with
  | error rejection => exact alike_reject rfl
  | ok property => exact ⟨.cons rfl .nil, .ok rfl⟩

/-- A compiler beside itself, at work on other spellings of the same paths. -/
def besideRespelled (compiler : Compiler) : Correspondence compiler compiler where
  paths := SamePath
  properties := Eq
  stops := Stop.SameKind
  key := id
  extract := id
  resolves := compiler.resolve_of_same_path
  tested := by
    intro property _ same
    cases same
    exact ⟨rfl, rfl, rfl, rfl, rfl⟩
  extracts := by
    intro property _ same
    cases same
    rfl
  sameStop _ := rfl
  misfit _ _ _ _ := rfl

theorem compile_alike_of_respelled (compiler : Compiler) {query other : Query}
    (respelled : query.Respelled SamePath other) :
    Alike Stop.SameKind Eq Eq (compiler.compile query) (compiler.compile other) := by
  obtain ⟨found, ended⟩ := compile_alike compiler.besideRespelled respelled
  refine ⟨found, ended.imp ?_⟩
  intro compiled _ same
  rw [same]
  change compiled = ⟨compiled.predicate.mapElements id, compiled.extractPaths.map id⟩
  rw [Predicate.map_elements_id, List.map_id]

theorem selects_wildcard_alike_of_respelled (compiler : Compiler) {select other : List Operand}
    (respelled : List.Forall₂ (Operand.Respelled SamePath) select other) :
    Alike Stop.SameKind Eq Eq (compiler.selectsWildcard select)
      (compiler.selectsWildcard other) := by
  apply alike_bind (selection_alike compiler.besideRespelled respelled)
  intro properties others related
  have same : properties = others := List.forall₂_eq_eq_eq ▸ related
  rw [same]
  exact alike_pure rfl

/-- A query in another spelling of its paths comes to the same end, up to the wording of a
rejection: the same compiled query or a stop of the same kind, and the same answer about wildcards.
It adds the same to all counts. -/
theorem compile_of_respelled (compiler : Compiler) (query other : Query)
    (respelled : query.Respelled SamePath other) :
    EndsAlike Stop.SameKind Eq (compiler.compile query).outcome
        (compiler.compile other).outcome ∧
      EndsAlike Stop.SameKind Eq (compiler.selectsWildcard query.select).outcome
        (compiler.selectsWildcard other.select).outcome ∧
      ∀ tally : Tally,
        tally.after compiler (.compile query) = tally.after compiler (.compile other) ∧
        tally.after compiler (.selectsWildcard query.select) =
          tally.after compiler (.selectsWildcard other.select) := by
  have compiles := compiler.compile_alike_of_respelled respelled
  have selects := compiler.selects_wildcard_alike_of_respelled respelled.select
  refine ⟨compiles.ended, selects.ended, ?_⟩
  intro tally
  exact ⟨tally.note_compile_of_alike compiles,
    tally.note_resolutions_of_same_properties selects.found⟩

/-- The note and the title again, with brackets and with slashes in front. -/
def bracketFilter : Operand :=
  .nary .and
    [.unary .not (.binary .equal (.property "/note[*]") (.literal (.integer 0))),
      .unary .isNull (.property "//dc:title")]

theorem compile_of_respelled_note :
    (Query.plain noteFilter [.property "note/*"]).Respelled SamePath
        (.plain bracketFilter [.property "note[*]"]) ∧
      (noteCompiler.compile (.plain bracketFilter [.property "note[*]"])).outcome =
        .ok ⟨notePredicate, ["/document/note.*"]⟩ := by
  have note : SamePath "note/*" "/note[*]" := by
    unfold SamePath
    decide +kernel
  have title : SamePath "dc:title" "//dc:title" := by
    unfold SamePath
    decide +kernel
  have selected : SamePath "note/*" "note[*]" := by
    unfold SamePath
    decide +kernel
  have filter : Operand.Respelled SamePath noteFilter bracketFilter :=
    .nary .and (.cons (.unary .not (.binary .equal (.property note) (.literal (.integer 0))))
      (.cons (.unary .isNull (.property title)) .nil))
  have respelled : (Query.plain noteFilter [.property "note/*"]).Respelled SamePath
      (.plain bracketFilter [.property "note[*]"]) :=
    ⟨filter, .cons (.property selected) .nil⟩
  have compiles : (noteCompiler.compile (.plain noteFilter [.property "note/*"])).outcome =
      .ok ⟨notePredicate, ["/document/note.*"]⟩ := rfl
  have alike := (compile_of_respelled noteCompiler _ _ respelled).1
  rw [compiles] at alike
  obtain ⟨other, ended, rfl⟩ := alike.of_ok
  exact ⟨respelled, ended⟩

end Compiler

end DocumentQuery
