import DocumentQuery.Proofs.Compile.Found

/-!
The stages of a compilation and the properties that it finds in each. A compilation that succeeds
finds one property for each selected operand and then one for each test of its predicate. One that
stops has found what the operands name that it has looked up until then.
-/

namespace DocumentQuery

open Attempt

namespace Compiler

variable {compiler : Compiler}

theorem resolutions_filter (operand : Operand) :
    (Lowering.filter compiler.catalog compiler.settings operand).resolutions =
      (compiler.lower operand).resolutions := by
  rw [Lowering.filter, lower]
  by_cases isExpression : operand.IsExpression
  · rw [Lowering.expression_of_is_expression isExpression]
  · rw [Lowering.expression_of_misfit isExpression, Lowering.expression_of_misfit isExpression]
    rfl

theorem filter_eq_ok_iff (operand : Operand) (predicate : Predicate) :
    (Lowering.filter compiler.catalog compiler.settings operand).outcome = .ok predicate ↔
      (compiler.lower operand).outcome = .ok predicate := by
  rw [Lowering.filter, lower]
  by_cases isExpression : operand.IsExpression
  · rw [Lowering.expression_of_is_expression isExpression]
  · rw [Lowering.expression_of_misfit isExpression, Lowering.expression_of_misfit isExpression]
    constructor <;> intro impossible <;> cases impossible

theorem compile_of_selection {query : Query} {reason : Stop}
    (stopped : (compiler.selection query.select).outcome = .error reason) :
    compiler.compile query = ⟨(compiler.selection query.select).resolutions, .error reason⟩ :=
  bind_of_error stopped _

theorem compile_of_lacking {query : Query} {properties : List Property}
    (selected : (compiler.selection query.select).outcome = .ok properties) {operator : Operator}
    (lacking : query.filter.firstWithoutPredicate = some operator) :
    compiler.compile query = ⟨(compiler.selection query.select).resolutions,
      .error (.rejected (.unsupported (.operator operator)))⟩ := by
  have checked : checkOperators query.filter = reject (.unsupported (.operator operator)) := by
    rw [checkOperators, lacking]
  simp [compile, selected, checked]

theorem compile_of_supported {query : Query} {properties : List Property}
    (selected : (compiler.selection query.select).outcome = .ok properties)
    (supported : query.filter.firstWithoutPredicate = none) :
    compiler.compile query =
      ⟨(compiler.selection query.select).resolutions ++ (compiler.lower query.filter).resolutions,
        (Lowering.filter compiler.catalog compiler.settings query.filter).outcome.map
          fun predicate => ⟨predicate, properties.map (extractPath compiler.settings)⟩⟩ := by
  have checked : checkOperators query.filter = pure () := by
    rw [checkOperators, supported]
    rfl
  simp [compile, selected, checked, resolutions_filter]

/-- The three stages at which a compilation can end. -/
theorem compile_stages (compiler : Compiler) (query : Query) :
    (∃ reason, (compiler.selection query.select).outcome = .error reason ∧
      compiler.compile query = ⟨(compiler.selection query.select).resolutions, .error reason⟩) ∨
    ∃ properties, (compiler.selection query.select).outcome = .ok properties ∧
      ((∃ operator, query.filter.firstWithoutPredicate = some operator ∧
        compiler.compile query = ⟨(compiler.selection query.select).resolutions,
          .error (.rejected (.unsupported (.operator operator)))⟩) ∨
      (query.filter.firstWithoutPredicate = none ∧
        compiler.compile query =
          ⟨(compiler.selection query.select).resolutions ++
              (compiler.lower query.filter).resolutions,
            (Lowering.filter compiler.catalog compiler.settings query.filter).outcome.map
              fun predicate => ⟨predicate, properties.map (extractPath compiler.settings)⟩⟩)) := by
  cases selected : (compiler.selection query.select).outcome with
  | error reason => exact Or.inl ⟨reason, rfl, compile_of_selection selected⟩
  | ok properties =>
      refine Or.inr ⟨properties, rfl, ?_⟩
      cases searched : query.filter.firstWithoutPredicate with
      | some operator => exact Or.inl ⟨operator, rfl, compile_of_lacking selected searched⟩
      | none => exact Or.inr ⟨rfl, compile_of_supported selected searched⟩

theorem forall₂_filter_map {Item Result : Type} {find : Item → Option Result} {items : List Item}
    (found : ∀ item ∈ items, (find item).isSome = true) :
    List.Forall₂ (fun item result => find item = some result) items (items.filterMap find) := by
  induction items with
  | nil => exact .nil
  | cons item rest induction =>
      obtain ⟨head, others⟩ := List.forall_mem_cons.mp found
      obtain ⟨result, looked⟩ := Option.isSome_iff_exists.mp head
      rw [List.filterMap_cons, looked]
      exact .cons looked (induction others)

theorem selection_succeeds_iff {select : List Operand} :
    (∃ properties, (compiler.selection select).outcome = .ok properties) ↔
      ∀ operand ∈ select, (compiler.find? operand).isSome = true := by
  rw [selection, each_succeeds_iff]
  exact forall₂_congr fun operand _ => (selected_looks_for operand).succeeds_iff

theorem resolutions_selection {select : List Operand}
    (selected : ∀ operand ∈ select, (compiler.find? operand).isSome = true) :
    (compiler.selection select).resolutions = select.filterMap compiler.find? := by
  rw [selection, resolutions_each_of_ok ((each_succeeds_iff _ _).mp
    (selection_succeeds_iff.mpr selected)), flat_map_selected]

theorem stages_of_compiled {query : Query} {compiled : CompiledQuery}
    (ended : (compiler.compile query).outcome = .ok compiled) :
    (∀ operand ∈ query.select, (compiler.find? operand).isSome = true) ∧
      (compiler.lower query.filter).outcome = .ok compiled.predicate ∧
      (compiler.compile query).resolutions =
        query.select.filterMap compiler.find? ++ (compiler.lower query.filter).resolutions := by
  rcases compiler.compile_stages query with ⟨reason, -, whole⟩ |
    ⟨properties, selectionEnded, ⟨operator, -, whole⟩ | ⟨-, whole⟩⟩
  · rw [whole] at ended
    cases ended
  · rw [whole] at ended
    cases ended
  · rw [whole] at ended
    simp at ended
    obtain ⟨predicate, filterEnded, rfl⟩ := ended
    have selected := selection_succeeds_iff.mp ⟨properties, selectionEnded⟩
    refine ⟨selected, (filter_eq_ok_iff _ _).mp filterEnded, ?_⟩
    rw [whole, resolutions_selection selected]

/-- A compilation that succeeds has found one property for each selected operand and then one for
each test of its predicate, both in order. -/
theorem found_of_compiled {query : Query} {compiled : CompiledQuery}
    (ended : (compiler.compile query).outcome = .ok compiled) :
    ∃ selected filtered, (compiler.compile query).resolutions = selected ++ filtered ∧
      List.Forall₂ (fun operand resolution => compiler.find? operand = some resolution)
        query.select selected ∧
      List.Forall₂ (TestsFound compiler) compiled.predicate.leaves filtered := by
  obtain ⟨selected, lowered, found⟩ := stages_of_compiled ended
  exact ⟨_, _, found, forall₂_filter_map selected, found_of_lowered lowered⟩

/-- Where a compilation stops, with the operands that it has looked up until then. -/
inductive StopsAfter (compiler : Compiler) (query : Query) : List Operand → Prop
  | inSelection {before after : List Operand} {operand : Operand}
      (whole : query.select = before ++ operand :: after)
      (earlier : ∀ other ∈ before, (compiler.find? other).isSome = true)
      (missed : compiler.find? operand = none) : StopsAfter compiler query (before ++ [operand])
  | atOperators (selected : ∀ operand ∈ query.select, (compiler.find? operand).isSome = true)
      (lacking : (query.filter.firstWithoutPredicate).isSome = true) :
      StopsAfter compiler query query.select
  | inFilter {before after : List Operand} {terminal : Operand} {reason : Stop}
      (selected : ∀ operand ∈ query.select, (compiler.find? operand).isSome = true)
      (supported : query.filter.firstWithoutPredicate = none)
      (whole : query.filter.terminals = before ++ terminal :: after)
      (earlier : ∀ other ∈ before, ∃ part, (compiler.lower other).outcome = .ok part)
      (stopped : (compiler.lower terminal).outcome = .error reason) :
      StopsAfter compiler query
        (query.select ++ (before ++ [terminal]).filterMap Operand.lookedUp?)

/-- A compilation that stops has found what the operands name that it has looked up until
then. -/
theorem found_of_failed {query : Query} {reason : Stop}
    (ended : (compiler.compile query).outcome = .error reason) :
    ∃ tried, StopsAfter compiler query tried ∧
      (compiler.compile query).resolutions = tried.filterMap compiler.find? := by
  rcases compiler.compile_stages query with ⟨other, selectionStopped, whole⟩ |
    ⟨properties, selectionEnded, ⟨operator, lacking, whole⟩ | ⟨supported, whole⟩⟩
  · obtain ⟨before, operand, after, selects, stopped, earlier⟩ :=
      (each_eq_error_iff _ _ _).mp selectionStopped
    have missed : compiler.find? operand = none := by
      rw [Option.eq_none_iff_forall_not_mem]
      intro resolution looked
      rw [(selected_looks_for operand).found resolution looked] at stopped
      cases stopped
    refine ⟨before ++ [operand], .inSelection selects ?_ missed, ?_⟩
    · intro item member
      exact (selected_looks_for item).succeeds_iff.mp (earlier item member)
    · rw [whole, selection, selects, resolutions_each_of_error earlier stopped, flat_map_selected]
  · have selected := selection_succeeds_iff.mp ⟨properties, selectionEnded⟩
    refine ⟨query.select, .atOperators selected (by rw [lacking]; rfl), ?_⟩
    rw [whole, resolutions_selection selected]
  · have selected := selection_succeeds_iff.mp ⟨properties, selectionEnded⟩
    rw [whole] at ended
    simp at ended
    -- A root that is no expression stops for a reason of its own, but in the same place.
    cases lowered : (compiler.lower query.filter).outcome with
    | ok predicate =>
        rw [(filter_eq_ok_iff _ _).mpr lowered] at ended
        cases ended
    | error other =>
        obtain ⟨before, terminal, after, terminals, stopped, earlier, found⟩ :=
          found_of_stopped lowered
        refine ⟨_, .inFilter selected supported terminals earlier stopped, ?_⟩
        rw [whole, List.filterMap_append, filter_map_looked_up, ← found,
          resolutions_selection selected]

theorem compile_fault {query : Query} {rejection : Rejection}
    (rejected : (compiler.compile query).outcome = .error (.rejected rejection)) :
    LoweringFault rejection ∨ ∃ operator, rejection = .unsupported (.operator operator) := by
  rcases compiler.compile_stages query with ⟨other, selectionStopped, whole⟩ |
    ⟨properties, selectionEnded, ⟨operator, lacking, whole⟩ | ⟨supported, whole⟩⟩
  · rw [whole] at rejected
    obtain rfl : other = .rejected rejection := Except.error.inj rejected
    obtain ⟨before, operand, after, -, stopped, -⟩ := (each_eq_error_iff _ _ _).mp selectionStopped
    left
    cases operand with
    | property path =>
        have rejected : (Lowering.propertyOf compiler.catalog compiler.settings
            (.property path)).outcome = .error (.rejected rejection) := stopped
        exact Lowering.property_of_fault rejected
    | literal _ | literals _ | unary _ _ | binary _ _ _ | nary _ _ =>
        rw [← Stop.rejected.inj (Except.error.inj stopped)]
        exact .invalidQuery _
  · rw [whole] at rejected
    exact Or.inr ⟨operator, (Stop.rejected.inj (Except.error.inj rejected)).symm⟩
  · rw [whole] at rejected
    exact Or.inl (Lowering.expression_fault supported ((map_eq_error_iff _ _ _).mp rejected))

theorem leaf_count_pos {query : Query} {compiled : CompiledQuery}
    (ended : (compiler.compile query).outcome = .ok compiled) :
    0 < compiled.predicate.leafCount := by
  rw [leaf_count_of_lowered (stages_of_compiled ended).2.1]
  exact List.length_pos_iff.mpr (Operand.terminals_ne_nil query.filter)

end Compiler

end DocumentQuery
