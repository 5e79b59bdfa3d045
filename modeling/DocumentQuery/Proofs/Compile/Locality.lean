import DocumentQuery.Proofs.Compile.Meaning
import DocumentQuery.Proofs.Compile.Precedence

/-!
Compilation is a matter of the comparisons in a filter. A filter that is built from comparisons by
connectives and negations compiles exactly if each of the comparisons does when it is the whole
filter. Its tests are then those of the comparisons in order, and otherwise the first comparison
that fails decides how it fails.
-/

namespace DocumentQuery

namespace Operand

/-- An expression with neither a connective nor a negation, whatever it compares. -/
def IsComparison : Operand → Prop
  | unary operator _ | binary operator _ _ =>
      operator ≠ .and ∧ operator ≠ .or ∧ operator ≠ .not
  | property _ | literal _ | literals _ | nary _ _ => False

mutual

/-- A filter is built from some comparisons, in the order in which they stand in it. -/
inductive BuiltFrom : List Operand → Operand → Prop
  | comparison {operand : Operand} (isComparison : operand.IsComparison) :
      BuiltFrom [operand] operand
  | single {operator : Operator} {operand : Operand} {leaves : List Operand}
      (connective : operator = .and ∨ operator = .or) (built : BuiltFrom leaves operand) :
      BuiltFrom leaves (unary operator operand)
  | pair {operator : Operator} {left right : Operand} {leaves others : List Operand}
      (connective : operator = .and ∨ operator = .or) (leftBuilt : BuiltFrom leaves left)
      (rightBuilt : BuiltFrom others right) :
      BuiltFrom (leaves ++ others) (binary operator left right)
  | negation {operand : Operand} {leaves : List Operand} (built : BuiltFrom leaves operand) :
      BuiltFrom leaves (unary .not operand)
  | several {operator : Operator} {operands leaves : List Operand}
      (connective : operator = .and ∨ operator = .or) (nonempty : operands ≠ [])
      (built : EachBuiltFrom leaves operands) : BuiltFrom leaves (nary operator operands)

inductive EachBuiltFrom : List Operand → List Operand → Prop
  | nil : EachBuiltFrom [] []
  | cons {operand : Operand} {rest leaves others : List Operand}
      (built : BuiltFrom leaves operand) (restBuilt : EachBuiltFrom others rest) :
      EachBuiltFrom (leaves ++ others) (operand :: rest)

end

theorem terminals_of_is_comparison {operand : Operand} (isComparison : operand.IsComparison) :
    operand.terminals = [operand] := by
  cases operand with
  | property _ | literal _ | literals _ | nary _ _ => exact isComparison.elim
  | unary operator _ | binary operator _ _ =>
      rcases isComparison with ⟨noAnd, noOr, noNot⟩
      rw [terminals, if_neg (not_or.mpr ⟨noAnd, noOr⟩), if_neg noNot]

mutual

theorem terminals_of_built_from : ∀ {leaves : List Operand} {operand : Operand},
    BuiltFrom leaves operand → operand.terminals = leaves
  | _, _, .comparison isComparison => terminals_of_is_comparison isComparison
  | _, _, .single connective built => by
      rw [terminals, if_pos connective, terminals_of_built_from built]
  | _, _, .pair connective leftBuilt rightBuilt => by
      rw [terminals, if_pos connective, terminals_of_built_from leftBuilt,
        terminals_of_built_from rightBuilt]
  | _, _, .negation built => by
      rw [terminals, if_neg (by decide), if_pos rfl, terminals_of_built_from built]
  | _, _, .several connective nonempty built => by
      rw [terminals, if_neg, if_neg, terminals_of_of_each_built_from built]
      · rw [List.isEmpty_iff]
        exact nonempty
      · rw [← not_or, not_not]
        exact connective

theorem terminals_of_of_each_built_from : ∀ {leaves operands : List Operand},
    EachBuiltFrom leaves operands → terminalsOf operands = leaves
  | _, _, .nil => rfl
  | _, _, .cons built restBuilt => by
      rw [terminalsOf, terminals_of_built_from built, terminals_of_of_each_built_from restBuilt]

end

mutual

theorem is_comparison_of_built_from : ∀ {leaves : List Operand} {operand : Operand},
    BuiltFrom leaves operand → ∀ leaf ∈ leaves, leaf.IsComparison
  | _, _, .comparison isComparison => by
      intro leaf member
      rw [List.mem_singleton.mp member]
      exact isComparison
  | _, _, .single _ built => is_comparison_of_built_from built
  | _, _, .pair _ leftBuilt rightBuilt => List.forall_mem_append.mpr
      ⟨is_comparison_of_built_from leftBuilt, is_comparison_of_built_from rightBuilt⟩
  | _, _, .negation built => is_comparison_of_built_from built
  | _, _, .several _ _ built => is_comparison_of_each_built_from built

theorem is_comparison_of_each_built_from : ∀ {leaves operands : List Operand},
    EachBuiltFrom leaves operands → ∀ leaf ∈ leaves, leaf.IsComparison
  | _, _, .nil => by
      intro leaf member
      cases member
  | _, _, .cons built restBuilt => List.forall_mem_append.mpr
      ⟨is_comparison_of_built_from built, is_comparison_of_each_built_from restBuilt⟩

end

theorem is_expression_of_is_comparison {operand : Operand} (isComparison : operand.IsComparison) :
    operand.IsExpression := by
  cases operand with
  | property _ | literal _ | literals _ | nary _ _ => exact isComparison.elim
  | unary _ _ | binary _ _ _ => trivial

theorem is_expression_of_built_from {leaves : List Operand} {operand : Operand}
    (built : BuiltFrom leaves operand) : operand.IsExpression := by
  cases built with
  | comparison isComparison => exact is_expression_of_is_comparison isComparison
  | single _ _ | pair _ _ _ | negation _ | several _ _ _ => trivial

end Operand

def Query.withFilter (query : Query) (filter : Operand) : Query := { query with filter }

namespace Compiler

theorem selection_of_names {compiler : Compiler} {select : List Operand}
    (named : ∀ operand ∈ select, ∃ property,
      Lowering.Names compiler.catalog compiler.settings operand property) :
    ∃ properties, (compiler.selection select).outcome = .ok properties := by
  apply selection_succeeds_iff.mpr
  intro operand member
  obtain ⟨property, path, rfl, found⟩ := named operand member
  rw [find?, found]
  rfl

theorem compile_eq_lower {compiler : Compiler} {query : Query} {properties : List Property}
    (selected : (compiler.selection query.select).outcome = .ok properties) {filter : Operand}
    (isExpression : filter.IsExpression) (supported : filter.firstWithoutPredicate = none) :
    (compiler.compile (query.withFilter filter)).outcome =
      (compiler.lower filter).outcome.map fun predicate =>
        ⟨predicate, properties.map (extractPath compiler.settings)⟩ := by
  have lowered : (compiler.compile (query.withFilter filter)).outcome = _ :=
    compile_of_lowering selected supported
  rw [lowered, Lowering.filter, Query.withFilter, Lowering.expression_of_is_expression isExpression]
  rfl

theorem compile_eq_each {compiler : Compiler} {query : Query} {properties : List Property}
    (selected : (compiler.selection query.select).outcome = .ok properties)
    (isExpression : query.filter.IsExpression)
    (supported : query.filter.firstWithoutPredicate = none) :
    ∃ assemble, Lowering.Assembles query.filter.terminals.length assemble ∧
      (compiler.compile query).outcome =
        (Attempt.each compiler.lower query.filter.terminals).outcome.map fun parts =>
          ⟨assemble parts, properties.map (extractPath compiler.settings)⟩ := by
  obtain ⟨assemble, assembles, lowers⟩ := compiler.lower_eq_each query.filter
  have compiles := compile_eq_lower selected isExpression supported
  refine ⟨assemble, assembles, compiles.trans ?_⟩
  rw [lowers, Attempt.outcome_bind_pure]
  cases (Attempt.each compiler.lower query.filter.terminals).outcome <;> rfl

/-- A comparison compiles in the place of the filter as it is lowered within the filter. -/
theorem compile_eq_lower_of_built_from {compiler : Compiler} {query : Query}
    {properties : List Property}
    (selected : (compiler.selection query.select).outcome = .ok properties) {leaves : List Operand}
    (built : Operand.BuiltFrom leaves query.filter)
    (known : query.filter.firstWithoutPredicate = none) : ∀ leaf ∈ leaves,
    (compiler.compile (query.withFilter leaf)).outcome =
      (compiler.lower leaf).outcome.map fun predicate =>
        ⟨predicate, properties.map (extractPath compiler.settings)⟩ := by
  intro leaf member
  apply compile_eq_lower selected
  · exact Operand.is_expression_of_is_comparison
      (Operand.is_comparison_of_built_from built leaf member)
  · rw [← Operand.terminals_of_built_from built] at member
    exact Operand.first_without_predicate_terminal known leaf member

/-- A query compiles exactly if each comparison of its filter compiles in the place of the filter.
The tests of the compiled predicate are then those of the comparisons in order, and the first
comparison that does not compile gives the reason why the query does not. -/
theorem compile_of_comparisons (compiler : Compiler) (query : Query) (leaves : List Operand)
    (built : Operand.BuiltFrom leaves query.filter)
    (selects : ∀ operand ∈ query.select, ∃ property,
      Lowering.Names compiler.catalog compiler.settings operand property)
    (supported : ∀ operator ∈ query.filter.expressionOperators,
      operator ∉ operatorsWithoutPredicate) :
    ((∃ compiled, (compiler.compile query).outcome = .ok compiled) ↔
      ∀ leaf ∈ leaves, ∃ compiled,
        (compiler.compile (query.withFilter leaf)).outcome = .ok compiled) ∧
    (∀ compiled, (compiler.compile query).outcome = .ok compiled →
      ∃ parts : List CompiledQuery,
        List.Forall₂ (fun leaf part =>
          (compiler.compile (query.withFilter leaf)).outcome = .ok part) leaves parts ∧
        compiled.predicate.leaves = parts.flatMap fun part => part.predicate.leaves) ∧
    ∀ reason, (compiler.compile query).outcome = .error reason ↔
      ∃ before leaf after, leaves = before ++ leaf :: after ∧
        (∀ other ∈ before, ∃ compiled,
          (compiler.compile (query.withFilter other)).outcome = .ok compiled) ∧
        (compiler.compile (query.withFilter leaf)).outcome = .error reason := by
  obtain ⟨properties, selected⟩ := selection_of_names selects
  have known := (Operand.first_without_predicate_eq_none_iff query.filter).mpr supported
  have whole : query.filter.terminals = leaves := Operand.terminals_of_built_from built
  obtain ⟨assemble, assembles, compiles⟩ :=
    compile_eq_each selected (Operand.is_expression_of_built_from built) known
  rw [whole] at assembles compiles
  have alone := compile_eq_lower_of_built_from selected built known
  have aloneSucceeds : ∀ leaf ∈ leaves, (∃ compiled,
      (compiler.compile (query.withFilter leaf)).outcome = .ok compiled) ↔
        ∃ predicate, (compiler.lower leaf).outcome = .ok predicate := by
    intro leaf member
    rw [alone leaf member, Attempt.map_succeeds_iff]
  refine ⟨?_, ?_, ?_⟩
  · rw [compiles, Attempt.map_succeeds_iff, Attempt.each_succeeds_iff]
    exact forall₂_congr fun leaf member => (aloneSucceeds leaf member).symm
  · intro compiled ended
    rw [compiles, Attempt.map_eq_ok_iff] at ended
    rcases ended with ⟨predicates, ended, rfl⟩
    have lowered := (Attempt.each_eq_ok_iff _ _ _).mp ended
    refine ⟨predicates.map fun predicate =>
      ⟨predicate, properties.map (extractPath compiler.settings)⟩, ?_, ?_⟩
    · rw [List.forall₂_map_right_iff]
      have within := (List.forall₂_and_left leaves predicates).mpr ⟨fun _ member => member, lowered⟩
      apply within.imp
      intro leaf predicate both
      rw [alone leaf both.1, both.2]
      rfl
    · rw [assembles predicates lowered.length_eq.symm, Predicate.leaves_of_eq_flat_map,
        List.flatMap_map]
  · intro reason
    rw [compiles, Attempt.map_eq_error_iff, Attempt.each_eq_error_iff]
    constructor
    · intro found
      rcases found with ⟨before, leaf, after, rfl, stopped, earlier⟩
      refine ⟨before, leaf, after, rfl, ?_, ?_⟩
      · intro other member
        exact (aloneSucceeds other (List.mem_append_left _ member)).mpr (earlier other member)
      · rw [alone leaf (List.mem_append_right _ List.mem_cons_self), Attempt.map_eq_error_iff]
        exact stopped
    · intro found
      rcases found with ⟨before, leaf, after, rfl, earlier, stopped⟩
      rw [alone leaf (List.mem_append_right _ List.mem_cons_self),
        Attempt.map_eq_error_iff] at stopped
      refine ⟨before, leaf, after, rfl, stopped, ?_⟩
      intro other member
      exact (aloneSucceeds other (List.mem_append_left _ member)).mp (earlier other member)

def noted : Operand := .binary .equal (.property "note/*") (.literal (.integer 0))

def misspelled : Operand := .unary .isNull (.property "dc:titel")

def misspelledFilter : Operand :=
  .nary .and [.unary .not noted, .binary .or misspelled (.unary .isNull (.property "dc:title"))]

theorem compile_of_comparisons_misspelled :
    Operand.BuiltFrom [noted, misspelled, .unary .isNull (.property "dc:title")]
        misspelledFilter ∧
      (noteCompiler.compile (.plain misspelledFilter [])).outcome =
        .error (.rejected (.unknownProperty "dc:titel")) := by
  have notedBuilt : Operand.BuiltFrom [noted] (.unary .not noted) :=
    .negation (.comparison (by unfold noted Operand.IsComparison; decide))
  have otherBuilt : Operand.BuiltFrom ([misspelled] ++ [.unary .isNull (.property "dc:title")])
      (.binary .or misspelled (.unary .isNull (.property "dc:title"))) :=
    .pair (Or.inr rfl) (.comparison (by unfold misspelled Operand.IsComparison; decide))
      (.comparison (by unfold Operand.IsComparison; decide))
  have built := Operand.BuiltFrom.several (Or.inl rfl) (List.cons_ne_nil _ _)
    (.cons notedBuilt (.cons otherBuilt .nil))
  have selects : ∀ operand ∈ ([] : List Operand), ∃ property,
      Lowering.Names noteCompiler.catalog noteCompiler.settings operand property := by
    intro operand member
    cases member
  have supported : ∀ operator ∈ misspelledFilter.expressionOperators,
      operator ∉ operatorsWithoutPredicate := by
    decide
  refine ⟨built, ?_⟩
  apply ((compile_of_comparisons noteCompiler (.plain misspelledFilter []) _ built selects
    supported).2.2 _).mpr
  refine ⟨[noted], misspelled, [.unary .isNull (.property "dc:title")], rfl, ?_, rfl⟩
  intro other member
  rw [List.mem_singleton.mp member]
  exact ⟨⟨.negation (.valueIs "note.*" "true"), []⟩, rfl⟩

end Compiler

end DocumentQuery
