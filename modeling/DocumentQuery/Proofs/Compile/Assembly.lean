import DocumentQuery.Proofs.Compile.Test
import DocumentQuery.Proofs.Filter.Terminals
import DocumentQuery.Proofs.Property.Lookup

/-!
Lowering a filter lowers its terminals from left to right and puts their predicates together, by a
rule that depends on the filter alone and keeps the order of their tests. A terminal in turn is
looked up and tested, or rejected outright.
-/

namespace DocumentQuery

namespace Lowering

open Attempt

theorem leaves_combine (operator : Operator) (parts : List Predicate) :
    (combine operator parts).leaves = Predicate.leavesOf parts := by
  unfold combine
  split
  · rfl
  · rfl

theorem leaves_combine_several (operator : Operator) (parts : List Predicate) :
    (combineSeveral operator parts).leaves = Predicate.leavesOf parts := by
  unfold combineSeveral
  split
  · exact (List.append_nil _).symm
  · exact leaves_combine operator parts

/-- Puts the predicates of some terminals together and keeps their tests in order. -/
def Assembles (count : Nat) (assemble : List Predicate → Predicate) : Prop :=
  ∀ parts, parts.length = count → (assemble parts).leaves = Predicate.leavesOf parts

def AssemblesEach (count : Nat) (assemble : List Predicate → List Predicate) : Prop :=
  ∀ parts, parts.length = count →
    Predicate.leavesOf (assemble parts) = Predicate.leavesOf parts

variable {Item First Second Third : Type}

theorem each_append_form (step : Item → Attempt Predicate) (front back : List Item)
    (form : List Predicate → First) (otherForm : List Predicate → Second)
    (join : First → Second → Third) :
    (do
      let first ← each step front >>= fun parts => pure (form parts)
      let second ← each step back >>= fun parts => pure (otherForm parts)
      return join first second) =
    each step (front ++ back) >>= fun parts => pure (join (form (parts.take front.length))
      (otherForm (parts.drop front.length))) := by
  simp only [each_append, bind_assoc, pure_bind]
  apply bind_congr_of_ok
  intro first ended
  have count := length_of_each ended
  simp only [← count, List.take_left, List.drop_left]

theorem leaves_of_take_drop {parts : List Predicate} {first second : Nat}
    (length : parts.length = first + second) {assemble : List Predicate → Predicate}
    (assembles : Assembles first assemble) {assembleRest : List Predicate → List Predicate}
    (assemblesRest : AssemblesEach second assembleRest) :
    Predicate.leavesOf (assemble (parts.take first) :: assembleRest (parts.drop first)) =
      Predicate.leavesOf parts := by
  have frontLength : (parts.take first).length = first := by
    rw [List.length_take]
    omega
  have backLength : (parts.drop first).length = second := by
    rw [List.length_drop]
    omega
  rw [Predicate.leavesOf, assembles _ frontLength, assemblesRest _ backLength,
    ← Predicate.leaves_of_append, List.take_append_drop]

theorem each_singleton (step : Item → Attempt First) (item : Item) :
    each step [item] = step item >>= fun result => pure [result] := rfl

/-- The operand is lowered by lowering the given operands from left to right and putting their
predicates together, by one rule for all catalogs. -/
def AssembledFrom (operands : List Operand) (operand : Operand) : Prop :=
  ∃ assemble, Assembles operands.length assemble ∧ ∀ catalog settings,
    expression catalog settings .notExpression operand =
      each (expression catalog settings .notExpression) operands >>= fun parts =>
        pure (assemble parts)

theorem assembled_from_self (operand : Operand) : AssembledFrom [operand] operand := by
  refine ⟨combineSeveral .and, fun parts _ => leaves_combine_several .and parts, ?_⟩
  intro catalog settings
  rw [each_singleton, bind_assoc]
  simp only [pure_bind, combineSeveral, bind_pure]

theorem assembled_from_of_negated {operands : List Operand} {operand negation : Operand}
    (assembled : AssembledFrom operands operand)
    (lowers : ∀ catalog settings, expression catalog settings .notExpression negation =
      negated (expression catalog settings .notExpression operand)) :
    AssembledFrom operands negation := by
  obtain ⟨assemble, assembles, lowersOperand⟩ := assembled
  refine ⟨fun parts => .negation (assemble parts), assembles, ?_⟩
  intro catalog settings
  rw [lowers, lowersOperand, negated, bind_assoc]
  simp only [pure_bind]

mutual

theorem assembled_from_terminals : ∀ operand : Operand, AssembledFrom operand.terminals operand
  | .property path => assembled_from_self (.property path)
  | .literal value => assembled_from_self (.literal value)
  | .literals values => assembled_from_self (.literals values)
  | .unary operator left => by
      have assembled := assembled_from_terminals left
      rw [Operand.terminals]
      split
      · next connective =>
          obtain ⟨assemble, assembles, lowers⟩ := assembled
          refine ⟨assemble, assembles, ?_⟩
          intro catalog settings
          rw [expression, if_pos connective]
          exact lowers catalog settings
      · next noConnective =>
          split
          · next negation =>
              apply assembled_from_of_negated assembled
              intro catalog settings
              rw [expression, if_neg noConnective, if_pos negation]
          · exact assembled_from_self (.unary operator left)
  | .binary operator left right => by
      have assembled := assembled_from_terminals left
      obtain ⟨assembleRight, assemblesRight, lowersRight⟩ := assembled_from_terminals right
      rw [Operand.terminals]
      split
      · next connective =>
          obtain ⟨assemble, assembles, lowers⟩ := assembled
          refine ⟨fun parts => combine operator [assemble (parts.take left.terminals.length),
            assembleRight (parts.drop left.terminals.length)], ?_, ?_⟩
          · intro parts length
            rw [List.length_append] at length
            have assemblesRest : AssemblesEach right.terminals.length
                fun rest => [assembleRight rest] := by
              intro rest restLength
              rw [Predicate.leavesOf, assemblesRight rest restLength]
              exact List.append_nil _
            rw [leaves_combine]
            exact leaves_of_take_drop length assembles assemblesRest
          · intro catalog settings
            rw [expression, if_pos connective, lowers, lowersRight]
            exact each_append_form _ _ _ _ _ fun first second => combine operator [first, second]
      · next noConnective =>
          split
          · next negation =>
              apply assembled_from_of_negated assembled
              intro catalog settings
              rw [expression, if_neg noConnective, if_pos negation]
          · exact assembled_from_self (.binary operator left right)
  | .nary operator operands => by
      obtain ⟨assemble, assembles, lower⟩ := expressions_eq_each operands
      rw [Operand.terminals]
      split
      · exact assembled_from_self (.nary operator operands)
      · next connective =>
          split
          · exact assembled_from_self (.nary operator operands)
          · next nonempty =>
              refine ⟨fun parts => combineSeveral operator (assemble parts), ?_, ?_⟩
              · intro parts length
                rw [leaves_combine_several, assembles parts length]
              · intro catalog settings
                rw [expression, if_neg connective, if_neg nonempty, lower, bind_assoc]
                simp only [pure_bind]

theorem expressions_eq_each : ∀ operands : List Operand, ∃ assemble,
    AssemblesEach (Operand.terminalsOf operands).length assemble ∧ ∀ catalog settings,
      expressions catalog settings operands =
        each (expression catalog settings .notExpression) (Operand.terminalsOf operands) >>=
          fun parts => pure (assemble parts)
  | [] => by
      refine ⟨id, fun _ _ => rfl, ?_⟩
      intro catalog settings
      rw [expressions]
      rfl
  | operand :: rest => by
      obtain ⟨assemble, assembles, lowers⟩ := assembled_from_terminals operand
      obtain ⟨assembleRest, assemblesRest, lowersRest⟩ := expressions_eq_each rest
      rw [Operand.terminalsOf]
      refine ⟨fun parts => assemble (parts.take operand.terminals.length) ::
        assembleRest (parts.drop operand.terminals.length), ?_, ?_⟩
      · intro parts length
        rw [List.length_append] at length
        exact leaves_of_take_drop length assembles assemblesRest
      · intro catalog settings
        rw [expressions, lowers, lowersRest]
        exact each_append_form _ _ _ _ _ List.cons

end

theorem comparison_of_lacking {operator : Operator} (lacking : operator.lacksPredicate = true)
    (catalog : Catalog) (settings : Settings) (left : Operand) (right : Option Operand) :
    comparison catalog settings operator left right =
      reject (.unsupported (.operator operator)) := by
  cases operator with
  | sum | sub | mul | div | like | caselessLike | between | notLike | notCaselessLike
  | notBetween | startsWith => rfl
  | equal | notEqual | less | greater | lessEqual | greaterEqual | isIn | isNotIn | isNull
  | isNotNull | and | or | not => cases lacking

/-- The way to say that an operand does not fit matters only for operands that are no
expressions. -/
theorem expression_of_is_expression {catalog : Catalog} {settings : Settings} {operand : Operand}
    (isExpression : operand.IsExpression) (misfit : String → QueryFault) :
    expression catalog settings misfit operand =
      expression catalog settings .notExpression operand := by
  cases operand with
  | property _ | literal _ | literals _ => exact isExpression.elim
  | unary _ _ | binary _ _ _ | nary _ _ => rw [expression, expression]

theorem expression_of_misfit {catalog : Catalog} {settings : Settings} {operand : Operand}
    (noExpression : ¬operand.IsExpression) (misfit : String → QueryFault) :
    expression catalog settings misfit operand =
      reject (.invalidQuery (misfit operand.describe)) := by
  cases operand with
  | property _ | literal _ | literals _ => rw [expression]
  | unary _ _ | binary _ _ _ | nary _ _ => exact absurd trivial noExpression

/-- What a terminal is lowered by, for all catalogs: a look-up with a test after it, or a
rejection. -/
structure LooksUp (terminal left : Operand) (test : Property → Attempt Predicate) : Prop where
  lookedUp : terminal.lookedUp? = some left
  isTest : IsTest test
  lowers : ∀ catalog settings, expression catalog settings .notExpression terminal =
    propertyOf catalog settings left >>= test

structure RejectedOutright (terminal : Operand) (rejection : Rejection) : Prop where
  lookedUp : terminal.lookedUp? = none
  fault : terminal.firstWithoutPredicate = none → LoweringFault rejection
  lowers : ∀ catalog settings,
    expression catalog settings .notExpression terminal = reject rejection

theorem invalid_query_outright {terminal : Operand} {fault : QueryFault}
    (lookedUp : terminal.lookedUp? = none)
    (lowers : ∀ catalog settings,
      expression catalog settings .notExpression terminal = reject (.invalidQuery fault)) :
    RejectedOutright terminal (.invalidQuery fault) :=
  ⟨lookedUp, fun _ => .invalidQuery fault, lowers⟩

theorem comparison_lowers {terminal : Operand} {operator : Operator} {left : Operand}
    {right : Option Operand}
    (isTerminal : ¬(operator = .and ∨ operator = .or) ∧ operator ≠ .not)
    (lookedUp : terminal.lookedUp? = if operator.lacksPredicate then none else some left)
    (known : terminal.firstWithoutPredicate = none → operator.lacksPredicate = false)
    (lowers : ∀ catalog settings, expression catalog settings .notExpression terminal =
      comparison catalog settings operator left right) :
    (∃ left test, LooksUp terminal left test) ∨
      ∃ rejection, RejectedOutright terminal rejection := by
  cases lacking : operator.lacksPredicate with
  | false =>
      obtain ⟨test, isTest, looksUp⟩ := comparison_test lacking isTerminal.1 isTerminal.2 right
      rw [lacking] at lookedUp
      refine Or.inl ⟨left, test, lookedUp, isTest, ?_⟩
      intro catalog settings
      rw [lowers, looksUp]
  | true =>
      rw [lacking] at lookedUp
      refine Or.inr ⟨.unsupported (.operator operator), lookedUp, ?_, ?_⟩
      · intro supported
        rw [known supported] at lacking
        cases lacking
      · intro catalog settings
        rw [lowers, comparison_of_lacking lacking]

theorem terminal_lowers {terminal : Operand} (isTerminal : terminal.IsTerminal) :
    (∃ left test, LooksUp terminal left test) ∨
      ∃ rejection, RejectedOutright terminal rejection := by
  cases terminal with
  | property _ | literal _ | literals _ =>
      exact Or.inr ⟨_, invalid_query_outright rfl fun _ _ => expression_of_misfit id _⟩
  | unary operator left =>
      apply comparison_lowers isTerminal rfl (fun known =>
        (Operand.first_without_predicate_unary known).1)
      intro catalog settings
      rw [expression, if_neg isTerminal.1, if_neg isTerminal.2]
  | binary operator left right =>
      apply comparison_lowers isTerminal rfl (fun known =>
        (Operand.first_without_predicate_binary known).1)
      intro catalog settings
      rw [expression, if_neg isTerminal.1, if_neg isTerminal.2]
  | nary operator operands =>
      by_cases other : operator ≠ .and ∧ operator ≠ .or
      · refine Or.inr ⟨.invalidQuery (.notConnective operator), invalid_query_outright rfl ?_⟩
        intro catalog settings
        rw [expression, if_pos other]
      · refine Or.inr ⟨.invalidQuery (.emptyConnective operator), invalid_query_outright rfl ?_⟩
        intro catalog settings
        rw [expression, if_neg other, if_pos (isTerminal.resolve_left other)]

variable {catalog : Catalog} {settings : Settings}

theorem property_of_fault {operand : Operand} {rejection : Rejection}
    (rejected : (propertyOf catalog settings operand).outcome = .error (.rejected rejection)) :
    LoweringFault rejection := by
  cases operand with
  | property path =>
      rw [propertyOf, resolve_eq_error_iff] at rejected
      rcases Property.resolve_error_cases rejected with rfl | rfl
      · exact .unknownProperty _
      · exact .systemProperty _
  | literal _ | literals _ | unary _ _ | binary _ _ _ | nary _ _ =>
      rw [← Stop.rejected.inj (Except.error.inj rejected)]
      exact .invalidQuery _

theorem terminal_fault {terminal : Operand} (isTerminal : terminal.IsTerminal)
    (known : terminal.firstWithoutPredicate = none) {rejection : Rejection}
    (rejected : (expression catalog settings .notExpression terminal).outcome =
      .error (.rejected rejection)) : LoweringFault rejection := by
  rcases terminal_lowers isTerminal with ⟨left, test, looksUp⟩ | ⟨other, outright⟩
  · rw [looksUp.lowers] at rejected
    rcases (bind_eq_error_iff _ _ _).mp rejected with early | ⟨property, -, late⟩
    · exact property_of_fault early
    · exact (looksUp.isTest property).fault_of_error rejection late
  · rw [outright.lowers] at rejected
    rw [← Stop.rejected.inj (Except.error.inj rejected)]
    exact outright.fault known

theorem operand_fault {operand : Operand} (known : operand.firstWithoutPredicate = none)
    {rejection : Rejection}
    (rejected : (expression catalog settings .notExpression operand).outcome =
      .error (.rejected rejection)) : LoweringFault rejection := by
  obtain ⟨assemble, -, lowers⟩ := assembled_from_terminals operand
  rw [lowers] at rejected
  rcases (bind_eq_error_iff _ _ _).mp rejected with stopped | ⟨parts, -, impossible⟩
  · obtain ⟨before, terminal, after, whole, itemStopped, -⟩ := (each_eq_error_iff _ _ _).mp stopped
    have member : terminal ∈ operand.terminals := by
      rw [whole]
      exact List.mem_append_right _ List.mem_cons_self
    exact terminal_fault (Operand.is_terminal_of_mem member)
      (Operand.first_without_predicate_terminal known terminal member) itemStopped
  · cases impossible

theorem expression_fault {operand : Operand} (known : operand.firstWithoutPredicate = none)
    {misfit : String → QueryFault} {rejection : Rejection}
    (rejected : (expression catalog settings misfit operand).outcome =
      .error (.rejected rejection)) : LoweringFault rejection := by
  by_cases isExpression : operand.IsExpression
  · rw [expression_of_is_expression isExpression] at rejected
    exact operand_fault known rejected
  · rw [expression_of_misfit isExpression] at rejected
    rw [← Stop.rejected.inj (Except.error.inj rejected)]
    exact .invalidQuery _

end Lowering

end DocumentQuery
