import DocumentQuery.Proofs.Compile.Found
import DocumentQuery.Proofs.Compile.Meaning
import DocumentQuery.Proofs.Property.Growth

/-!
Compilation with catalogs of more schemas. A query is compiled by looking up paths, and nothing
else in it asks the catalog. A query that compiles therefore keeps doing so when schemas are added,
and the order of schemas makes no difference to any query.
-/

namespace DocumentQuery

namespace Attempt

/-- Relates attempts to each other in such a way that steps in a row are related when each step
is. -/
structure Congruent
    (related : ∀ {Result : Type}, Attempt Result → Attempt Result → Prop) : Prop where
  refl : ∀ {Result : Type} (attempt : Attempt Result), related attempt attempt
  bind : ∀ {First Second : Type} {attempt other : Attempt First}
    {next otherNext : First → Attempt Second}, related attempt other →
      (∀ result, related (next result) (otherNext result)) →
        related (attempt >>= next) (other >>= otherNext)

/-- An attempt that gives a result is kept as it is. -/
def KeptBy {Result : Type} (attempt other : Attempt Result) : Prop :=
  ∀ result, attempt.outcome = .ok result → attempt = other

theorem congruent_kept_by : Congruent KeptBy where
  refl _ _ _ := rfl
  bind := by
    intro First Second attempt other next otherNext kept keptNext result ended
    obtain ⟨middle, first, later⟩ := (bind_eq_ok_iff _ _ _).mp ended
    rw [← kept middle first, bind_of_ok first, bind_of_ok first, keptNext middle result later]

theorem congruent_eq : Congruent fun attempt other => attempt = other where
  refl _ := rfl
  bind := by
    intro First Second attempt other next otherNext same sameNext
    rw [same, funext sameNext]

variable {related : ∀ {Result : Type}, Attempt Result → Attempt Result → Prop}

theorem each_related (congruent : Congruent related) {First Second : Type}
    {step otherStep : First → Attempt Second} {items : List First}
    (steps : ∀ item ∈ items, related (step item) (otherStep item)) :
    related (each step items) (each otherStep items) := by
  induction items with
  | nil => exact congruent.refl _
  | cons item rest induction =>
      obtain ⟨first, later⟩ := List.forall_mem_cons.mp steps
      apply congruent.bind first
      intro result
      apply congruent.bind (induction later)
      intro results
      exact congruent.refl _

end Attempt

section

open Attempt

variable {related : ∀ {Result : Type}, Attempt Result → Attempt Result → Prop}
  (congruent : Congruent related) {catalog grown : Catalog} {settings : Settings}
  (resolves : ∀ path,
    related (Attempt.resolve catalog settings path) (Attempt.resolve grown settings path))

include congruent resolves

namespace Lowering

theorem property_of_related (operand : Operand) :
    related (propertyOf catalog settings operand) (propertyOf grown settings operand) := by
  cases operand with
  | property path => exact resolves path
  | literal _ | literals _ | unary _ _ | binary _ _ _ | nary _ _ => exact congruent.refl _

theorem terminal_related {terminal : Operand} (isTerminal : terminal.IsTerminal) :
    related (expression catalog settings .notExpression terminal)
      (expression grown settings .notExpression terminal) := by
  rcases terminal_lowers isTerminal with ⟨left, test, looksUp⟩ | ⟨rejection, outright⟩
  · rw [looksUp.lowers, looksUp.lowers]
    apply congruent.bind (property_of_related congruent resolves left)
    intro property
    exact congruent.refl _
  · rw [outright.lowers, outright.lowers]
    exact congruent.refl _

theorem filter_related (operand : Operand) :
    related (filter catalog settings operand) (filter grown settings operand) := by
  by_cases isExpression : operand.IsExpression
  · obtain ⟨assemble, -, lowers⟩ := assembled_from_terminals operand
    have whole : ∀ other, filter other settings operand =
        each (expression other settings .notExpression) operand.terminals >>= fun parts =>
          pure (assemble parts) := by
      intro other
      rw [filter, expression_of_is_expression isExpression, lowers]
    rw [whole, whole]
    have terminals := each_related congruent fun terminal (member : terminal ∈ operand.terminals) =>
      terminal_related congruent resolves (Operand.is_terminal_of_mem member)
    apply congruent.bind terminals
    intro parts
    exact congruent.refl _
  · rw [filter, filter, expression_of_misfit isExpression, expression_of_misfit isExpression]
    exact congruent.refl _

end Lowering

namespace Compiler

theorem selected_related (operand : Operand) :
    related (selected ⟨catalog, settings⟩ operand) (selected ⟨grown, settings⟩ operand) := by
  cases operand with
  | property path => exact resolves path
  | literal _ | literals _ | unary _ _ | binary _ _ _ | nary _ _ => exact congruent.refl _

theorem compile_related (query : Query) :
    related (compile ⟨catalog, settings⟩ query) (compile ⟨grown, settings⟩ query) := by
  apply congruent.bind
  · exact each_related congruent fun operand _ => selected_related congruent resolves operand
  · intro properties
    apply congruent.bind (congruent.refl _)
    intro checked
    apply congruent.bind (Lowering.filter_related congruent resolves query.filter)
    intro predicate
    exact congruent.refl _

end Compiler

end

namespace Compiler

variable {schemas larger : List Schema} {catalog grown : Catalog} {settings : Settings}

theorem resolve_kept_by (built : Catalog.ofSchemas schemas = .ok catalog)
    (grownBuilt : Catalog.ofSchemas larger = .ok grown) (part : schemas ⊆ larger) (path : String) :
    (Attempt.resolve catalog settings path).KeptBy (Attempt.resolve grown settings path) := by
  intro property ended
  have found := (Attempt.resolve_eq_ok_iff _ _ _ _).mp ended
  rw [Attempt.resolve, Attempt.resolve, found,
    Property.resolve_of_larger built grownBuilt part found]

/-- What is found or compiled with some schemas stays so when schemas are added, whatever their
order. With the same schemas in another order, every path and every query has the same outcome. -/
theorem compile_of_larger_catalog (schemas : List Schema) (catalog : Catalog)
    (built : Catalog.ofSchemas schemas = .ok catalog) :
    (∀ larger grown, Catalog.ofSchemas larger = .ok grown → schemas ⊆ larger → ∀ settings,
      (∀ path property, (resolve ⟨catalog, settings⟩ path).outcome = .ok property →
        (resolve ⟨grown, settings⟩ path).outcome = .ok property) ∧
      ∀ query compiled, (compile ⟨catalog, settings⟩ query).outcome = .ok compiled →
        (compile ⟨grown, settings⟩ query).outcome = .ok compiled) ∧
    ∀ reordered, schemas.Perm reordered → ∃ other, Catalog.ofSchemas reordered = .ok other ∧
      ∀ settings, (∀ path, resolve ⟨catalog, settings⟩ path = resolve ⟨other, settings⟩ path) ∧
        ∀ query, compile ⟨catalog, settings⟩ query = compile ⟨other, settings⟩ query := by
  constructor
  · intro larger grown grownBuilt part settings
    have kept : ∀ path, (Attempt.resolve catalog settings path).KeptBy
        (Attempt.resolve grown settings path) := resolve_kept_by built grownBuilt part
    constructor
    · intro path property ended
      have same : resolve ⟨catalog, settings⟩ path = resolve ⟨grown, settings⟩ path :=
        kept path property ended
      rw [← same]
      exact ended
    · intro query compiled ended
      rw [← compile_related Attempt.congruent_kept_by kept query compiled ended]
      exact ended
  · intro reordered perm
    obtain ⟨other, otherBuilt⟩ := Catalog.of_schemas_of_perm perm built
    refine ⟨other, otherBuilt, ?_⟩
    intro settings
    have same : ∀ path, Attempt.resolve catalog settings path =
        Attempt.resolve other settings path := by
      intro path
      rw [Attempt.resolve, Attempt.resolve, Property.resolve_of_perm built otherBuilt perm]
    exact ⟨same, compile_related Attempt.congruent_eq same⟩

/-- The two sample schemas in the other order, after a third one. -/
def sampleTriple : List Schema :=
  (Schema.empty "file" ⟨"urn:file", "file"⟩).withField "name" (.scalar .string) ::
    Catalog.samplePair.reverse

theorem compile_of_larger_catalog_triple :
    (compile ⟨⟨sampleTriple, Catalog.declaredEntries sampleTriple⟩, Settings.standard⟩
        (.plain noteFilter [])).outcome = .ok ⟨notePredicate, []⟩ ∧
      ∃ other, Catalog.ofSchemas Catalog.samplePair.reverse = .ok other ∧
        ∀ query, noteCompiler.compile query = compile ⟨other, Settings.standard⟩ query := by
  have built : Catalog.ofSchemas Catalog.samplePair =
      .ok ⟨Catalog.samplePair, Catalog.declaredEntries Catalog.samplePair⟩ := by
    cbv
  have grownBuilt : Catalog.ofSchemas sampleTriple =
      .ok ⟨sampleTriple, Catalog.declaredEntries sampleTriple⟩ := by
    cbv
  have part : Catalog.samplePair ⊆ sampleTriple := by
    intro schema member
    exact List.mem_cons_of_mem _ (List.mem_reverse.mpr member)
  have growth := compile_of_larger_catalog Catalog.samplePair _ built
  have larger := (growth.1 sampleTriple _ grownBuilt part Settings.standard).2
  obtain ⟨other, otherBuilt, same⟩ := growth.2 _ (List.reverse_perm _).symm
  exact ⟨larger (.plain noteFilter []) _ rfl, other, otherBuilt, (same Settings.standard).2⟩

end Compiler

end DocumentQuery
