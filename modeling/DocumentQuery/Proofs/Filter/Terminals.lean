import DocumentQuery.Filter.Tree

/-!
The operands that the connectives and negations of a filter end in, from left to right. What all
parts of an operand have in common with it, its terminals have too.
-/

namespace DocumentQuery.Operand

mutual

/-- The operands below the connectives and negations, from left to right. A connective of a list
that is malformed stands for itself. -/
def terminals : Operand → List Operand
  | property path => [property path]
  | literal value => [literal value]
  | literals values => [literals values]
  | unary operator left =>
      if operator = .and ∨ operator = .or then terminals left
      else if operator = .not then terminals left
      else [unary operator left]
  | binary operator left right =>
      if operator = .and ∨ operator = .or then terminals left ++ terminals right
      else if operator = .not then terminals left
      else [binary operator left right]
  | nary operator operands =>
      if operator ≠ .and ∧ operator ≠ .or then [nary operator operands]
      else if operands.isEmpty then [nary operator operands]
      else terminalsOf operands

def terminalsOf : List Operand → List Operand
  | [] => []
  | operand :: rest => terminals operand ++ terminalsOf rest

end

/-- An operand that no connective or negation is carried over from. -/
def IsTerminal : Operand → Prop
  | property _ | literal _ | literals _ => True
  | unary operator _ | binary operator _ _ =>
      ¬(operator = .and ∨ operator = .or) ∧ operator ≠ .not
  | nary operator operands => (operator ≠ .and ∧ operator ≠ .or) ∨ operands.isEmpty = true

def IsExpression : Operand → Prop
  | property _ | literal _ | literals _ => False
  | unary _ _ | binary _ _ _ | nary _ _ => True

def lookedUp? : Operand → Option Operand
  | unary operator left | binary operator left _ =>
      if operator.lacksPredicate then none else some left
  | property _ | literal _ | literals _ | nary _ _ => none

/-- A property of operands that their parts have too. -/
structure PassesOn (Held : Operand → Prop) : Prop where
  unary : ∀ operator operand, Held (.unary operator operand) → Held operand
  binary : ∀ operator left right, Held (.binary operator left right) → Held left ∧ Held right
  nary : ∀ operator operands, Held (.nary operator operands) → ∀ operand ∈ operands, Held operand

mutual

theorem held_terminals {Held : Operand → Prop} (passes : PassesOn Held) : ∀ operand : Operand,
    Held operand → ∀ terminal ∈ operand.terminals, terminal.IsTerminal ∧ Held terminal
  | property _, held, _, member => by
      rw [List.mem_singleton.mp member]
      exact ⟨trivial, held⟩
  | literal _, held, _, member => by
      rw [List.mem_singleton.mp member]
      exact ⟨trivial, held⟩
  | literals _, held, _, member => by
      rw [List.mem_singleton.mp member]
      exact ⟨trivial, held⟩
  | unary operator left, held, terminal, member => by
      have below := held_terminals passes left (passes.unary _ _ held) terminal
      rw [terminals] at member
      split at member
      · exact below member
      · next noConnective =>
          split at member
          · exact below member
          · next noNegation =>
              rw [List.mem_singleton.mp member]
              exact ⟨⟨noConnective, noNegation⟩, held⟩
  | binary operator left right, held, terminal, member => by
      have belowLeft := held_terminals passes left (passes.binary _ _ _ held).1 terminal
      have belowRight := held_terminals passes right (passes.binary _ _ _ held).2 terminal
      rw [terminals] at member
      split at member
      · exact (List.mem_append.mp member).elim belowLeft belowRight
      · next noConnective =>
          split at member
          · exact belowLeft member
          · next noNegation =>
              rw [List.mem_singleton.mp member]
              exact ⟨⟨noConnective, noNegation⟩, held⟩
  | nary operator operands, held, terminal, member => by
      have below := held_terminals_of passes operands (passes.nary _ _ held) terminal
      rw [terminals] at member
      split at member
      · next other =>
          rw [List.mem_singleton.mp member]
          exact ⟨Or.inl other, held⟩
      · split at member
        · next empty =>
            rw [List.mem_singleton.mp member]
            exact ⟨Or.inr empty, held⟩
        · exact below member

theorem held_terminals_of {Held : Operand → Prop} (passes : PassesOn Held) :
    ∀ operands : List Operand, (∀ operand ∈ operands, Held operand) →
      ∀ terminal ∈ terminalsOf operands, terminal.IsTerminal ∧ Held terminal
  | [], _, _, member => by cases member
  | operand :: rest, held, terminal, member => by
      obtain ⟨operandHeld, restHeld⟩ := List.forall_mem_cons.mp held
      rw [terminalsOf] at member
      rcases List.mem_append.mp member with first | later
      · exact held_terminals passes operand operandHeld terminal first
      · exact held_terminals_of passes rest restHeld terminal later

end

theorem is_terminal_of_mem {operand terminal : Operand} (member : terminal ∈ operand.terminals) :
    terminal.IsTerminal := by
  have passes : PassesOn fun _ => True :=
    ⟨fun _ _ _ => trivial, fun _ _ _ _ => ⟨trivial, trivial⟩, fun _ _ _ _ _ => trivial⟩
  exact (held_terminals passes operand trivial terminal member).1

theorem first_without_predicate_unary {operator : Operator} {operand : Operand}
    (known : (unary operator operand).firstWithoutPredicate = none) :
    operator.lacksPredicate = false ∧ operand.firstWithoutPredicate = none := by
  rw [firstWithoutPredicate] at known
  split at known
  · cases known
  · next supported => exact ⟨Bool.eq_false_iff.mpr supported, known⟩

theorem first_without_predicate_binary {operator : Operator} {left right : Operand}
    (known : (binary operator left right).firstWithoutPredicate = none) :
    operator.lacksPredicate = false ∧ left.firstWithoutPredicate = none ∧
      right.firstWithoutPredicate = none := by
  rw [firstWithoutPredicate] at known
  split at known
  · cases known
  · next supported => exact ⟨Bool.eq_false_iff.mpr supported, Option.or_eq_none_iff.mp known⟩

theorem first_without_predicate_of_mem {operands : List Operand}
    (known : firstWithoutPredicateOf operands = none) :
    ∀ operand ∈ operands, operand.firstWithoutPredicate = none := by
  induction operands with
  | nil =>
      intro operand member
      cases member
  | cons first rest induction =>
      rw [firstWithoutPredicateOf, Option.or_eq_none_iff] at known
      exact List.forall_mem_cons.mpr ⟨known.1, induction known.2⟩

/-- Below operators with predicates stand no others. -/
theorem first_without_predicate_terminal {operand : Operand}
    (known : operand.firstWithoutPredicate = none) :
    ∀ terminal ∈ operand.terminals, terminal.firstWithoutPredicate = none := by
  have passes : PassesOn fun operand => operand.firstWithoutPredicate = none :=
    ⟨fun _ _ supported => (first_without_predicate_unary supported).2,
      fun _ _ _ supported => (first_without_predicate_binary supported).2,
      fun _ _ supported => first_without_predicate_of_mem supported⟩
  intro terminal member
  exact (held_terminals passes operand known terminal member).2

mutual

theorem terminals_ne_nil : ∀ operand : Operand, operand.terminals ≠ []
  | property _ => List.cons_ne_nil _ _
  | literal _ => List.cons_ne_nil _ _
  | literals _ => List.cons_ne_nil _ _
  | unary operator left => by
      rw [terminals]
      split
      · exact terminals_ne_nil left
      · split
        · exact terminals_ne_nil left
        · exact List.cons_ne_nil _ _
  | binary operator left right => by
      rw [terminals]
      split
      · exact List.append_ne_nil_of_left_ne_nil (terminals_ne_nil left) _
      · split
        · exact terminals_ne_nil left
        · exact List.cons_ne_nil _ _
  | nary operator operands => by
      rw [terminals]
      split
      · exact List.cons_ne_nil _ _
      · split
        · exact List.cons_ne_nil _ _
        · next nonempty => exact terminals_of_ne_nil operands nonempty

theorem terminals_of_ne_nil : ∀ operands : List Operand, ¬operands.isEmpty = true →
    terminalsOf operands ≠ []
  | [], nonempty => absurd rfl nonempty
  | operand :: rest, _ => by
      rw [terminalsOf]
      exact List.append_ne_nil_of_left_ne_nil (terminals_ne_nil operand) _

end

end DocumentQuery.Operand
