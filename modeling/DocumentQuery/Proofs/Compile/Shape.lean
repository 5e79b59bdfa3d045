import DocumentQuery.Proofs.Compile.Meaning
import DocumentQuery.Proofs.Search.Shape

/-!
The shape of compiled predicates. Every comparison gives a test that is fit for the engine, and
every connective of a filter gives a connective of at least two parts or no connective at all.
-/

namespace DocumentQuery

namespace Lowering

open Attempt Predicate

variable (catalog : Catalog) (settings : Settings)

theorem well_shaped_combine (operator : Operator) {parts : List Predicate}
    (several : 2 ≤ parts.length) (each : ∀ part ∈ parts, part.WellShaped) :
    (combine operator parts).WellShaped := by
  unfold combine
  split
  · exact .disjunction several each
  · exact .conjunction several each

theorem well_shaped_combine_several (operator : Operator) {parts : List Predicate}
    (nonempty : parts ≠ []) (each : ∀ part ∈ parts, part.WellShaped) :
    (combineSeveral operator parts).WellShaped := by
  match parts with
  | [] => exact absurd rfl nonempty
  | [part] => exact each part List.mem_cons_self
  | first :: second :: rest =>
      exact well_shaped_combine operator (Nat.le_add_left 2 rest.length) each

theorem equality_well_shaped {operator : Operator} {left : Operand} {right : Option Operand}
    {predicate : Predicate}
    (ended : (equality catalog settings operator left right).outcome = .ok predicate) :
    predicate.WellShaped := by
  obtain ⟨property, literal, -, -, -, outcome⟩ := (equality_eq_ok_iff _ _ _ _ _ _).mp ended
  rcases outcome with ⟨value, text, -, rfl⟩ | ⟨-, rfl⟩
  · exact .value property.storageKey (List.cons_ne_nil text [])
  · exact .negation (.value property.storageKey (List.cons_ne_nil "true" []))

theorem range_well_shaped {operator : Operator} {relation : RangeRelation} {left : Operand}
    {right : Option Operand} {predicate : Predicate}
    (ended : (range catalog settings operator relation left right).outcome = .ok predicate) :
    predicate.WellShaped := by
  obtain ⟨property, literal, value, text, -, -, spelled, rfl⟩ :=
    (range_eq_ok_iff _ _ _ _ _ _ _).mp ended
  exact .range property.storageKey relation spelled.2

theorem membership_well_shaped {operator : Operator} {left : Operand} {right : Option Operand}
    {predicate : Predicate}
    (ended : (membership catalog settings operator left right).outcome = .ok predicate) :
    predicate.WellShaped := by
  obtain ⟨property, literals, texts, -, -, nonempty, spelled, rfl⟩ :=
    (membership_eq_ok_iff _ _ _ _ _ _).mp ended
  apply WellShaped.value
  rintro rfl
  exact nonempty (List.forall₂_nil_right_iff.mp spelled)

theorem existence_well_shaped {left : Operand} {predicate : Predicate}
    (ended : (existence catalog settings left).outcome = .ok predicate) :
    predicate.WellShaped := by
  obtain ⟨property, -, rfl⟩ := (existence_eq_ok_iff _ _ _ _).mp ended
  exact .containerExists property.storageKey

theorem negated_well_shaped {attempt : Attempt Predicate}
    (shaped : ∀ part, attempt.outcome = .ok part → part.WellShaped) {predicate : Predicate}
    (ended : (negated attempt).outcome = .ok predicate) : predicate.WellShaped := by
  obtain ⟨part, partEnded, rfl⟩ := (negated_eq_ok_iff _ _).mp ended
  exact .negation (shaped part partEnded)

theorem comparison_well_shaped {operator : Operator} {left : Operand} {right : Option Operand}
    {predicate : Predicate}
    (ended : (comparison catalog settings operator left right).outcome = .ok predicate) :
    predicate.WellShaped := by
  cases operator with
  | equal => exact equality_well_shaped catalog settings ended
  | notEqual => exact negated_well_shaped (fun _ => equality_well_shaped catalog settings) ended
  | less | greater | lessEqual | greaterEqual => exact range_well_shaped catalog settings ended
  | isIn => exact membership_well_shaped catalog settings ended
  | isNotIn => exact negated_well_shaped (fun _ => membership_well_shaped catalog settings) ended
  | isNotNull => exact existence_well_shaped catalog settings ended
  | isNull => exact negated_well_shaped (fun _ => existence_well_shaped catalog settings) ended
  | sum | sub | mul | div | like | caselessLike | between | notLike | notCaselessLike
  | notBetween | startsWith | and | or | not => cases ended

theorem unconnected_well_shaped {operator : Operator} {left : Operand} {right : Option Operand}
    {attempt : Attempt Predicate}
    (shaped : ∀ part, attempt.outcome = .ok part → part.WellShaped) {predicate : Predicate}
    (ended : (if operator = .not then negated attempt
      else comparison catalog settings operator left right).outcome = .ok predicate) :
    predicate.WellShaped := by
  split at ended
  · exact negated_well_shaped shaped ended
  · exact comparison_well_shaped catalog settings ended

mutual

/-- A lowered filter is fit for the engine. -/
theorem expression_well_shaped (misfit : String → QueryFault) : ∀ (operand : Operand)
    (predicate : Predicate),
    (expression catalog settings misfit operand).outcome = .ok predicate → predicate.WellShaped
  | .property _, _, ended | .literal _, _, ended | .literals _, _, ended => by
      rw [expression] at ended
      cases ended
  | .unary operator left, predicate, ended => by
      rw [expression] at ended
      split at ended
      · exact expression_well_shaped .notExpression left predicate ended
      · exact unconnected_well_shaped catalog settings
          (expression_well_shaped .notExpression left) ended
  | .binary operator left right, predicate, ended => by
      rw [expression] at ended
      split at ended
      · obtain ⟨first, second, firstEnded, secondEnded, rfl⟩ :=
          (connected_eq_ok_iff _ _ _ _).mp ended
        have firstShaped := expression_well_shaped .notExpression left first firstEnded
        have secondShaped := expression_well_shaped .notExpression right second secondEnded
        have two : 2 ≤ [first, second].length := Nat.le_refl 2
        apply well_shaped_combine operator two
        exact List.forall_mem_cons.mpr ⟨firstShaped, List.forall_mem_singleton.mpr secondShaped⟩
      · exact unconnected_well_shaped catalog settings
          (expression_well_shaped .notExpression left) ended
  | .nary operator operands, predicate, ended => by
      rw [expression] at ended
      split at ended
      · cases ended
      · split at ended
        · cases ended
        · next nonempty =>
            obtain ⟨parts, partsEnded, rfl⟩ := (connected_several_eq_ok_iff _ _ _).mp ended
            have lowered := (expressions_eq_ok_iff _ _ _ _).mp partsEnded
            apply well_shaped_combine_several operator
            · rintro rfl
              exact nonempty (List.isEmpty_iff.mpr (List.forall₂_nil_right_iff.mp lowered))
            · exact expressions_well_shaped operands parts lowered

theorem expressions_well_shaped : ∀ (operands : List Operand) (parts : List Predicate),
    List.Forall₂ (fun operand part =>
      (expression catalog settings .notExpression operand).outcome = .ok part) operands parts →
      ∀ part ∈ parts, part.WellShaped
  | [], _, .nil => List.forall_mem_nil _
  | operand :: rest, _, .cons partEnded othersEnded =>
      List.forall_mem_cons.mpr
        ⟨expression_well_shaped .notExpression operand _ partEnded,
          expressions_well_shaped rest _ othersEnded⟩

end

end Lowering

namespace Compiler

/-- The predicate of a compiled query is fit for the engine: it tests something, and none of its
connectives is without parts. -/
theorem compile_well_shaped (compiler : Compiler) (query : Query) (compiled : CompiledQuery)
    (compiles : (compiler.compile query).outcome = .ok compiled) :
    compiled.predicate.WellShaped ∧ 1 ≤ compiled.predicate.leafCount ∧
      ∀ node ∈ compiled.predicate.nodes,
        node ≠ .conjunction [] ∧ node ≠ .disjunction [] := by
  have shaped : compiled.predicate.WellShaped :=
    Lowering.expression_well_shaped compiler.catalog compiler.settings _ query.filter _
      (filter_of_compile compiles)
  refine ⟨shaped, Predicate.leaf_count_pos_of_well_shaped shaped, ?_⟩
  intro node below
  exact Predicate.ne_empty_of_well_shaped (Predicate.well_shaped_of_mem_nodes shaped node below)

/-- Connectives around a single operand, a list of literals and a range. -/
def titleFilter : Operand :=
  .binary .or
    (.nary .or [.nary .and [.member "dc:title" .isIn [.string "first", .integer 7]]])
    (.nary .and
      [.unary .and (.unary .not (.unary .isNotNull (.property "dc:title"))),
        .compare "note/3" .notEqual (.integer 0),
        .compare "dc:title" .lessEqual (.integer (-1))])

def titlePredicate : Predicate :=
  .disjunction
    [.value "dc.title" ["first", "7"],
      .conjunction
        [.negation (.containerExists "dc.title"),
          .negation (.negation (.valueIs "note.3" "true")),
          .range "dc.title" .long .lessEqual "-1"]]

theorem compile_well_shaped_title :
    (noteCompiler.compile (.plain titleFilter [])).outcome = .ok ⟨titlePredicate, []⟩ ∧
      titlePredicate.WellShaped := by
  have compiles : (noteCompiler.compile (.plain titleFilter [])).outcome =
      .ok ⟨titlePredicate, []⟩ := by
    rfl
  exact ⟨compiles, (compile_well_shaped noteCompiler _ _ compiles).1⟩

end Compiler

end DocumentQuery
