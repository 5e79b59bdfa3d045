import DocumentQuery.Proofs.Compile.Found
import DocumentQuery.Proofs.Compile.Lowering
import Mathlib.Algebra.GroupWithZero.Nat

/-!
The paths that a filter mentions. Unless a negation or a test for null has a right operand, which
no lowering looks at, a filter that is lowered mentions one path for each test of its predicate.
-/

namespace DocumentQuery

open Attempt

namespace Operand

mutual

def nodes : Operand → List Operand
  | property path => [property path]
  | literal value => [literal value]
  | literals values => [literals values]
  | unary operator operand => unary operator operand :: nodes operand
  | binary operator left right => binary operator left right :: (nodes left ++ nodes right)
  | nary operator operands => nary operator operands :: nodesOf operands

def nodesOf : List Operand → List Operand
  | [] => []
  | operand :: rest => nodes operand ++ nodesOf rest

end

def isReference : Operand → Bool
  | property _ => true
  | literal _ | literals _ | unary _ _ | binary _ _ _ | nary _ _ => false

/-- The number of paths that are mentioned in a tree. -/
def references (operand : Operand) : Nat := operand.nodes.countP isReference

/-- A negation or a test for null with a right operand all the same. -/
def HasIdleRight : Operand → Prop
  | binary operator _ _ => operator = .not ∨ operator = .isNull ∨ operator = .isNotNull
  | property _ | literal _ | literals _ | unary _ _ | nary _ _ => False

instance : DecidablePred HasIdleRight
  | binary operator _ _ =>
      inferInstanceAs (Decidable (operator = .not ∨ operator = .isNull ∨ operator = .isNotNull))
  | property _ | literal _ | literals _ | unary _ _ | nary _ _ => inferInstanceAs (Decidable False)

/-- No right operand in a tree is left aside. -/
def EveryRightCounts (operand : Operand) : Prop := ∀ node ∈ operand.nodes, ¬node.HasIdleRight

instance (operand : Operand) : Decidable operand.EveryRightCounts :=
  inferInstanceAs (Decidable (∀ node ∈ operand.nodes, ¬node.HasIdleRight))

@[simp] theorem references_unary (operator : Operator) (operand : Operand) :
    (unary operator operand).references = operand.references := by
  rw [references, nodes, List.countP_cons_of_neg Bool.false_ne_true]
  rfl

@[simp] theorem references_binary (operator : Operator) (left right : Operand) :
    (binary operator left right).references = left.references + right.references := by
  rw [references, nodes, List.countP_cons_of_neg Bool.false_ne_true, List.countP_append]
  rfl

@[simp] theorem references_nary (operator : Operator) (operands : List Operand) :
    (nary operator operands).references = (nodesOf operands).countP isReference := by
  rw [references, nodes, List.countP_cons_of_neg Bool.false_ne_true]

theorem self_mem_nodes (operand : Operand) : operand ∈ operand.nodes := by
  cases operand <;> exact List.mem_cons_self

theorem nodes_of_mem {operands : List Operand} {operand node : Operand}
    (member : operand ∈ operands) (below : node ∈ operand.nodes) : node ∈ nodesOf operands := by
  induction operands with
  | nil => cases member
  | cons first rest induction =>
      rw [nodesOf]
      rcases List.mem_cons.mp member with rfl | later
      · exact List.mem_append_left _ below
      · exact List.mem_append_right _ (induction later)

theorem every_right_counts_passes_on : PassesOn EveryRightCounts := by
  constructor
  · intro operator operand counts node member
    exact counts node (List.mem_cons_of_mem _ member)
  · intro operator left right counts
    constructor
    · intro node member
      exact counts node (List.mem_cons_of_mem _ (List.mem_append_left _ member))
    · intro node member
      exact counts node (List.mem_cons_of_mem _ (List.mem_append_right _ member))
  · intro operator operands counts operand present node member
    exact counts node (List.mem_cons_of_mem _ (nodes_of_mem present member))

mutual

/-- The paths that a tree mentions are those of its terminals. -/
theorem references_eq_sum : ∀ operand : Operand, operand.EveryRightCounts →
    operand.references = (operand.terminals.map references).sum
  | property _, _ => rfl
  | literal _, _ => rfl
  | literals _, _ => rfl
  | unary operator left, counts => by
      have below := references_eq_sum left (every_right_counts_passes_on.unary _ _ counts)
      rw [terminals]
      split
      · simp [below]
      · split
        · simp [below]
        · exact List.sum_singleton.symm
  | binary operator left right, counts => by
      obtain ⟨leftCounts, rightCounts⟩ := every_right_counts_passes_on.binary _ _ _ counts
      have belowLeft := references_eq_sum left leftCounts
      have belowRight := references_eq_sum right rightCounts
      rw [terminals]
      split
      · simp [belowLeft, belowRight]
      · split
        · next negation =>
            -- The paths on the right of a negation would be mentioned and never looked up.
            exact absurd (Or.inl negation) (counts _ (self_mem_nodes _))
        · exact List.sum_singleton.symm
  | nary operator operands, counts => by
      have below := count_p_nodes_of_eq_sum operands (every_right_counts_passes_on.nary _ _ counts)
      rw [terminals]
      split
      · exact List.sum_singleton.symm
      · split
        · exact List.sum_singleton.symm
        · simp [below]

theorem count_p_nodes_of_eq_sum : ∀ operands : List Operand,
    (∀ operand ∈ operands, operand.EveryRightCounts) →
      (nodesOf operands).countP isReference = ((terminalsOf operands).map references).sum
  | [], _ => rfl
  | operand :: rest, counts => by
      obtain ⟨first, later⟩ := List.forall_mem_cons.mp counts
      rw [nodesOf, terminalsOf, List.countP_append, List.map_append, List.sum_append,
        ← references_eq_sum operand first, count_p_nodes_of_eq_sum rest later]
      rfl

end

end Operand

namespace Lowering

variable {catalog : Catalog} {settings : Settings} {left right : Operand} {predicate : Predicate}

theorem right_of_equality {operator : Operator}
    (ended : (equality catalog settings operator left (some right)).outcome = .ok predicate) :
    right.references = 0 := by
  obtain ⟨property, literal, -, -, written, -⟩ := (equality_eq_ok_iff _ _ _ _ _ _).mp ended
  rw [Option.some.inj written]
  rfl

theorem right_of_range {operator : Operator} {relation : RangeRelation}
    (ended : (range catalog settings operator relation left (some right)).outcome =
      .ok predicate) : right.references = 0 := by
  obtain ⟨property, literal, value, text, -, written, -⟩ := (range_eq_ok_iff _ _ _ _ _ _ _).mp ended
  rw [Option.some.inj written]
  rfl

theorem right_of_membership {operator : Operator}
    (ended : (membership catalog settings operator left (some right)).outcome = .ok predicate) :
    right.references = 0 := by
  obtain ⟨property, literals, texts, -, written, -⟩ := (membership_eq_ok_iff _ _ _ _ _ _).mp ended
  rw [Option.some.inj written]
  rfl

theorem right_of_comparison {operator : Operator} (noNull : operator ≠ .isNull)
    (noNotNull : operator ≠ .isNotNull)
    (ended : (comparison catalog settings operator left (some right)).outcome = .ok predicate) :
    right.references = 0 := by
  cases operator with
  | equal => exact right_of_equality ended
  | notEqual =>
      obtain ⟨part, partEnded, -⟩ := (negated_eq_ok_iff _ _).mp ended
      exact right_of_equality partEnded
  | less | greater | lessEqual | greaterEqual => exact right_of_range ended
  | isIn => exact right_of_membership ended
  | isNotIn =>
      obtain ⟨part, partEnded, -⟩ := (negated_eq_ok_iff _ _).mp ended
      exact right_of_membership partEnded
  | isNull => exact absurd rfl noNull
  | isNotNull => exact absurd rfl noNotNull
  | and | or | not | sum | sub | mul | div | like | caselessLike | between | notLike
  | notCaselessLike | notBetween | startsWith => cases ended

end Lowering

namespace Compiler

variable {compiler : Compiler}

theorem references_of_found {operand : Operand} {resolution : Resolution}
    (looked : compiler.find? operand = some resolution) : operand.references = 1 := by
  rw [(find_eq_some_iff.mp looked).1]
  rfl

theorem references_of_lowered_terminal {terminal : Operand} (isTerminal : terminal.IsTerminal)
    (counts : ¬terminal.HasIdleRight) {predicate : Predicate}
    (ended : (compiler.lower terminal).outcome = .ok predicate) : terminal.references = 1 := by
  obtain ⟨left, resolution, lookedUp, looked, -⟩ := test_of_lower isTerminal ended
  have single := references_of_found looked
  cases terminal with
  | property _ | literal _ | literals _ | nary _ _ => cases lookedUp
  | unary operator operand =>
      rw [Operand.lookedUp?] at lookedUp
      split at lookedUp
      · cases lookedUp
      · rw [Operand.references_unary, Option.some.inj lookedUp, single]
  | binary operator operand right =>
      rw [Operand.lookedUp?] at lookedUp
      split at lookedUp
      · cases lookedUp
      · rw [lower, Lowering.expression, if_neg isTerminal.1, if_neg isTerminal.2] at ended
        have noNull : operator ≠ .isNull := fun isNull => counts (Or.inr (Or.inl isNull))
        have noNotNull : operator ≠ .isNotNull := fun isNotNull =>
          counts (Or.inr (Or.inr isNotNull))
        rw [Operand.references_binary, Option.some.inj lookedUp, single,
          Lowering.right_of_comparison noNull noNotNull ended]

/-- A filter that is lowered mentions one path for each test of its predicate. -/
theorem references_of_lowered {operand : Operand} (counts : operand.EveryRightCounts)
    {predicate : Predicate} (ended : (compiler.lower operand).outcome = .ok predicate) :
    predicate.leafCount = operand.references := by
  obtain ⟨parts, lowered, -, -⟩ := lowered_parts ended
  have succeeds := (each_succeeds_iff compiler.lower operand.terminals).mp
    ⟨parts, (each_eq_ok_iff _ _ _).mpr lowered⟩
  have single : ∀ terminal ∈ operand.terminals, terminal.references = 1 := by
    intro terminal member
    obtain ⟨isTerminal, terminalCounts⟩ :=
      Operand.held_terminals Operand.every_right_counts_passes_on operand counts terminal member
    obtain ⟨part, partEnded⟩ := succeeds terminal member
    exact references_of_lowered_terminal isTerminal
      (terminalCounts terminal terminal.self_mem_nodes) partEnded
  rw [leaf_count_of_lowered ended, Operand.references_eq_sum operand counts,
    List.map_congr_left single]
  simp

end Compiler

end DocumentQuery
