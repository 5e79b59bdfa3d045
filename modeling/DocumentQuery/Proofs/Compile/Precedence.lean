import DocumentQuery.Proofs.Compile.Stages

/-!
Which of several faults of a query is reported. A fault of the selection goes before an operator
without a predicate, and that before every fault of the lowering. Once the operators are known to
have predicates, the lowering never meets one that has none.
-/

namespace DocumentQuery

def operatorsWithoutPredicate : List Operator :=
  [.sum, .sub, .mul, .div, .startsWith, .like, .caselessLike, .notLike, .notCaselessLike,
   .between, .notBetween]

theorem lacks_predicate_iff (operator : Operator) :
    operator.lacksPredicate = true ↔ operator ∈ operatorsWithoutPredicate := by
  cases operator <;> decide

namespace Operand

mutual

/-- The operators of all expressions in a tree, from the root down and from left to right. An
operator in front of a list of operands belongs to no expression. -/
def expressionOperators : Operand → List Operator
  | property _ | literal _ | literals _ => []
  | unary operator operand => operator :: expressionOperators operand
  | binary operator left right =>
      operator :: (expressionOperators left ++ expressionOperators right)
  | nary _ operands => expressionOperatorsOf operands

def expressionOperatorsOf : List Operand → List Operator
  | [] => []
  | operand :: rest => expressionOperators operand ++ expressionOperatorsOf rest

end

theorem find_cons_lacking (operator : Operator) (others : List Operator) :
    (operator :: others).find? Operator.lacksPredicate =
      if operator.lacksPredicate then some operator
      else others.find? Operator.lacksPredicate := by
  rw [List.find?_cons]
  cases operator.lacksPredicate <;> rfl

mutual

theorem first_without_predicate_eq_find : ∀ operand : Operand,
    operand.firstWithoutPredicate =
      operand.expressionOperators.find? Operator.lacksPredicate
  | property _ => rfl
  | literal _ => rfl
  | literals _ => rfl
  | unary operator operand => by
      rw [firstWithoutPredicate, expressionOperators, find_cons_lacking,
        first_without_predicate_eq_find operand]
  | binary operator left right => by
      rw [firstWithoutPredicate, expressionOperators, find_cons_lacking, List.find?_append,
        first_without_predicate_eq_find left, first_without_predicate_eq_find right]
  | nary _ operands => by
      rw [firstWithoutPredicate, expressionOperators, first_without_predicate_of_eq_find operands]

theorem first_without_predicate_of_eq_find : ∀ operands : List Operand,
    firstWithoutPredicateOf operands =
      (expressionOperatorsOf operands).find? Operator.lacksPredicate
  | [] => rfl
  | operand :: rest => by
      rw [firstWithoutPredicateOf, expressionOperatorsOf, List.find?_append,
        first_without_predicate_eq_find operand, first_without_predicate_of_eq_find rest]

end

theorem first_without_predicate_eq_none_iff (operand : Operand) :
    operand.firstWithoutPredicate = none ↔
      ∀ operator ∈ operand.expressionOperators, operator ∉ operatorsWithoutPredicate := by
  rw [first_without_predicate_eq_find, List.find?_eq_none]
  simp only [lacks_predicate_iff]

end Operand

namespace Compiler

def selectFault? (compiler : Compiler) : Operand → Option Rejection
  | .property path =>
      match Property.resolve compiler.catalog compiler.settings.namespaceSeparator path with
      | .ok _ => none
      | .error rejection => some rejection
  | other => some (.invalidQuery (.selectsOperand other.describe))

theorem selected_of_fault {compiler : Compiler} {operand : Operand} {rejection : Rejection}
    (fault : compiler.selectFault? operand = some rejection) :
    (compiler.selected operand).outcome = .error (.rejected rejection) := by
  cases operand with
  | property path =>
      rw [selected, Attempt.resolve_eq_error_iff]
      unfold selectFault? at fault
      cases found : Property.resolve compiler.catalog compiler.settings.namespaceSeparator path with
      | ok property => simp [found] at fault
      | error other => simpa [found] using fault
  | literal _ | literals _ | unary _ _ | binary _ _ _ | nary _ _ =>
      obtain rfl := Option.some.inj fault
      rfl

theorem selected_of_no_fault {compiler : Compiler} {operand : Operand}
    (sound : compiler.selectFault? operand = none) :
    ∃ property, (compiler.selected operand).outcome = .ok property := by
  cases operand with
  | property path =>
      unfold selectFault? at sound
      cases found : Property.resolve compiler.catalog compiler.settings.namespaceSeparator path with
      | ok property =>
          refine ⟨property, ?_⟩
          rw [selected, Attempt.resolve_eq_ok_iff]
          exact found
      | error rejection => simp [found] at sound
  | literal _ | literals _ | unary _ _ | binary _ _ _ | nary _ _ => cases sound

theorem selection_of_fault {compiler : Compiler} {select : List Operand} {rejection : Rejection}
    (fault : select.findSome? compiler.selectFault? = some rejection) :
    (compiler.selection select).outcome = .error (.rejected rejection) := by
  obtain ⟨before, operand, after, whole, faulty, earlier⟩ := List.findSome?_eq_some_iff.mp fault
  apply (Attempt.each_eq_error_iff _ _ _).mpr
  refine ⟨before, operand, after, whole, selected_of_fault faulty, ?_⟩
  intro other member
  exact selected_of_no_fault (earlier other member)

theorem selection_of_no_fault {compiler : Compiler} {select : List Operand}
    (sound : select.findSome? compiler.selectFault? = none) :
    ∃ properties, (compiler.selection select).outcome = .ok properties := by
  rw [List.findSome?_eq_none_iff] at sound
  cases ended : (compiler.selection select).outcome with
  | ok properties => exact ⟨properties, rfl⟩
  | error reason =>
      obtain ⟨before, operand, after, rfl, stopped, -⟩ :=
        (Attempt.each_eq_error_iff _ _ _).mp ended
      have member : operand ∈ before ++ operand :: after :=
        List.mem_append_right _ List.mem_cons_self
      obtain ⟨property, found⟩ := selected_of_no_fault (sound operand member)
      rw [found] at stopped
      cases stopped

end Compiler

namespace Attempt

variable {First : Type}

def PassesOperators (attempt : Attempt First) : Prop :=
  ∀ operator, attempt.outcome ≠ .error (.rejected (.unsupported (.operator operator)))

end Attempt

namespace Lowering

open Attempt

/-- A tree without such operators is lowered without meeting one. -/
theorem expression_passes (catalog : Catalog) (settings : Settings)
    (misfit : String → QueryFault) (operand : Operand)
    (known : ∀ operator ∈ operand.expressionOperators, operator.lacksPredicate = false) :
    PassesOperators (expression catalog settings misfit operand) := by
  have supported : operand.firstWithoutPredicate = none := by
    rw [Operand.first_without_predicate_eq_none_iff]
    intro operator member lacking
    rw [← lacks_predicate_iff, known operator member] at lacking
    cases lacking
  intro operator stopped
  cases expression_fault supported stopped

end Lowering

namespace Compiler

theorem selects_wildcard_of_selection_error {compiler : Compiler} {select : List Operand}
    {reason : Stop} (stopped : (compiler.selection select).outcome = .error reason) :
    (compiler.selectsWildcard select).outcome = .error reason :=
  (Attempt.bind_eq_error_iff _ _ _).mpr (Or.inl stopped)

theorem compile_of_selection_error {compiler : Compiler} {query : Query} {reason : Stop}
    (stopped : (compiler.selection query.select).outcome = .error reason) :
    (compiler.compile query).outcome = .error reason :=
  congrArg Attempt.outcome (compile_of_selection stopped)

theorem compile_of_operator {compiler : Compiler} {query : Query} {properties : List Property}
    (selected : (compiler.selection query.select).outcome = .ok properties) {operator : Operator}
    (lacking : query.filter.firstWithoutPredicate = some operator) :
    (compiler.compile query).outcome = .error (.rejected (.unsupported (.operator operator))) :=
  congrArg Attempt.outcome (compile_of_lacking selected lacking)

theorem compile_of_lowering {compiler : Compiler} {query : Query} {properties : List Property}
    (selected : (compiler.selection query.select).outcome = .ok properties)
    (supported : query.filter.firstWithoutPredicate = none) :
    (compiler.compile query).outcome =
      (Lowering.filter compiler.catalog compiler.settings query.filter).outcome.map fun predicate =>
        ⟨predicate, properties.map (extractPath compiler.settings)⟩ :=
  congrArg Attempt.outcome (compile_of_supported selected supported)

/-- The first faulty operand of the selection decides for every filter, and for the question for
wildcards too. Otherwise the first operator without a predicate decides, wherever it stands.
Otherwise the outcome is that of the lowering, which meets no such operator. -/
theorem compile_precedence (compiler : Compiler) (query : Query) :
    (∀ rejection, query.select.findSome? compiler.selectFault? = some rejection →
      (compiler.compile query).outcome = .error (.rejected rejection) ∧
        (compiler.selectsWildcard query.select).outcome = .error (.rejected rejection)) ∧
    (query.select.findSome? compiler.selectFault? = none →
      (∀ operator, (query.filter.expressionOperators.find? fun other =>
          decide (other ∈ operatorsWithoutPredicate)) = some operator →
        (compiler.compile query).outcome =
          .error (.rejected (.unsupported (.operator operator)))) ∧
      ((∀ operator ∈ query.filter.expressionOperators, operator ∉ operatorsWithoutPredicate) →
        ∃ properties, (compiler.selection query.select).outcome = .ok properties ∧
          (compiler.compile query).outcome =
            (Lowering.filter compiler.catalog compiler.settings query.filter).outcome.map
              (fun predicate => ⟨predicate, properties.map (extractPath compiler.settings)⟩) ∧
          ∀ operator, (Lowering.filter compiler.catalog compiler.settings query.filter).outcome ≠
            .error (.rejected (.unsupported (.operator operator))))) := by
  have test : (fun other => decide (other ∈ operatorsWithoutPredicate)) =
      Operator.lacksPredicate := by
    funext other
    exact Bool.eq_iff_iff.mpr (decide_eq_true_iff.trans (lacks_predicate_iff other).symm)
  constructor
  · intro rejection fault
    have stopped := selection_of_fault fault
    exact ⟨compile_of_selection_error stopped, selects_wildcard_of_selection_error stopped⟩
  · intro sound
    obtain ⟨properties, selected⟩ := selection_of_no_fault sound
    constructor
    · intro operator first
      rw [test, ← Operand.first_without_predicate_eq_find] at first
      exact compile_of_operator selected first
    · intro known
      have supported : ∀ operator ∈ query.filter.expressionOperators,
          operator.lacksPredicate = false := by
        intro operator member
        rw [Bool.eq_false_iff, ne_eq, lacks_predicate_iff]
        exact known operator member
      have none : query.filter.firstWithoutPredicate = none := by
        rw [Operand.first_without_predicate_eq_find, List.find?_eq_none]
        intro operator member lacking
        rw [supported operator member] at lacking
        cases lacking
      refine ⟨properties, selected, compile_of_lowering selected none, ?_⟩
      exact Lowering.expression_passes _ _ _ query.filter supported

def emptyCompiler : Compiler := ⟨⟨[], []⟩, Settings.standard⟩

def titleStored : Operand := .unary .isNotNull (.property "dc:title")

/-- An operator without a predicate, in an operand that no lowering looks at. -/
def hiddenLike : Operand := .binary .isNull (.property "dc:title") (.unary .like titleStored)

/-- A selected literal goes before everything in a filter, and a hidden operator before a property
that is not known. -/
theorem compile_precedence_of_faults :
    (emptyCompiler.compile
        (.plain hiddenLike [.property "ecm:uuid", .literal (.boolean true)])).outcome =
      .error (.rejected (.invalidQuery (.selectsOperand "literal true"))) ∧
    (emptyCompiler.compile (.plain hiddenLike [])).outcome =
      .error (.rejected (.unsupported (.operator .like))) ∧
    (emptyCompiler.compile (.plain titleStored [])).outcome =
      .error (.rejected (.unknownProperty "dc:title")) := by
  have literalSelected : [.property "ecm:uuid", .literal (.boolean true)].findSome?
      emptyCompiler.selectFault? = some (.invalidQuery (.selectsOperand "literal true")) := by
    decide +kernel
  have likeFound : hiddenLike.expressionOperators.find?
      (fun other => decide (other ∈ operatorsWithoutPredicate)) = some .like := by
    decide
  have titleSupported : ∀ operator ∈ titleStored.expressionOperators,
      operator ∉ operatorsWithoutPredicate := by
    decide
  have selection := (compile_precedence emptyCompiler
    (.plain hiddenLike [.property "ecm:uuid", .literal (.boolean true)])).1
  have operators := (compile_precedence emptyCompiler (.plain hiddenLike [])).2 rfl
  have lowering := (compile_precedence emptyCompiler (.plain titleStored [])).2 rfl
  obtain ⟨properties, -, compiled, -⟩ := lowering.2 titleSupported
  have unknown : (Lowering.filter emptyCompiler.catalog emptyCompiler.settings
      titleStored).outcome = .error (.rejected (.unknownProperty "dc:title")) := rfl
  refine ⟨(selection _ literalSelected).1, operators.1 _ likeFound, ?_⟩
  rw [compiled]
  exact congrArg _ unknown

end Compiler

end DocumentQuery
