import DocumentQuery.Proofs.Compile.Meaning
import DocumentQuery.Proofs.Compile.Stages
import DocumentQuery.Proofs.Compile.WireText
import DocumentQuery.Proofs.Monitor.Counts

/-!
Compilations that are cut short. Every value has a text but a date far from our time, and a
compilation is cut short exactly if it comes to write such a date; every other one gives a query or
a rejection. Of the dates that are read from texts, only those are far that stand in the last hours
of the year 9999 on a clock in the west.
-/

namespace DocumentQuery

open Calendar

namespace WireValue

/-- A date outside of the years -9999 to 9999 in UTC. -/
def IsFarDate (moment : Moment) : Prop := greatestYear < moment.toUtc.localDate.year.natAbs

theorem wire_text_eq_none_iff (value : WireValue) :
    value.wireText? = none ↔ ∃ moment, value = .date moment ∧ IsFarDate moment := by
  cases value with
  | date moment =>
      rw [wireText?, dateText?, ite_eq_right_iff]
      constructor
      · intro noText
        refine ⟨moment, rfl, Nat.lt_of_not_le ?_⟩
        intro near
        cases noText near
      · intro far near
        obtain ⟨other, same, far⟩ := far
        rw [← date.inj same] at far
        exact absurd near (Nat.not_le_of_lt far)
  | boolean _ | double _ | long _ | string _ => simp [wireText?]

end WireValue

open WireValue

namespace Literal

/-- A date that is read from a text is far only in the first hours of the year 10000 in UTC. -/
theorem is_far_date_of_parse {typeName text : String} {moment : Moment}
    (read : parse typeName text = .ok (.date moment)) :
    IsFarDate moment ↔ moment.toUtc.localDate.year = 10000 := by
  obtain ⟨type, -, found⟩ := parse_eq_ok_iff.mp read
  obtain ⟨date, time, offset, rfl, dateValid, timeValid, notBefore, notAfter, hours, minutes⟩ :=
    read_timestamp_eq_some (of_text_eq_date found)
  have west : -86400 < offset := by omega
  have east : offset < 86400 := by omega
  obtain ⟨yearNotBefore, yearNotAfter⟩ :=
    Moment.utc_year_of_local dateValid timeValid west east notBefore notAfter
  unfold IsFarDate greatestYear
  omega

end Literal

namespace Attempt

/-- Gives a result or a rejection. -/
def NeverAborts {Result : Type} (attempt : Attempt Result) : Prop :=
  attempt.outcome ≠ .error .aborted

theorem answers_iff {Result : Type} (attempt : Attempt Result) :
    ((∃ result, attempt.outcome = .ok result) ∨
      ∃ rejection, attempt.outcome = .error (.rejected rejection)) ↔ attempt.NeverAborts := by
  rw [NeverAborts]
  rcases attempt.outcome with (_ | rejection) | result <;> simp

theorem of_except_never_aborts {Result : Type} (outcome : Except Rejection Result) :
    (ofExcept outcome).NeverAborts := by
  intro aborts
  cases outcome <;> cases aborts

theorem resolve_never_aborts (catalog : Catalog) (settings : Settings) (path : String) :
    (resolve catalog settings path).NeverAborts := by
  intro aborts
  rw [resolve] at aborts
  split at aborts <;> cases aborts

theorem bind_aborts_iff {First Second : Type} {attempt : Attempt First}
    (never : attempt.NeverAborts) (next : First → Attempt Second) :
    (attempt >>= next).outcome = .error .aborted ↔
      ∃ middle, attempt.outcome = .ok middle ∧ (next middle).outcome = .error .aborted := by
  rw [bind_eq_error_iff]
  exact or_iff_right never

theorem bind_pure_aborts_iff {First Second : Type} (attempt : Attempt First)
    (form : First → Second) :
    (attempt >>= fun result => pure (form result)).outcome = .error .aborted ↔
      attempt.outcome = .error .aborted := by
  simp

end Attempt

namespace Lowering

open Attempt

variable (catalog : Catalog) (settings : Settings)

theorem property_of_never_aborts (operand : Operand) :
    (propertyOf catalog settings operand).NeverAborts := by
  cases operand with
  | property path => exact resolve_never_aborts catalog settings path
  | literal _ | literals _ | unary _ _ | binary _ _ _ | nary _ _ =>
      intro aborts
      cases aborts

theorem literal_of_never_aborts (operator : Operator) (right : Option Operand) :
    (literalOf operator right).NeverAborts := by
  intro aborts
  unfold literalOf at aborts
  split at aborts <;> cases aborts

theorem literals_of_never_aborts (operator : Operator) (right : Option Operand) :
    (literalsOf operator right).NeverAborts := by
  intro aborts
  unfold literalsOf at aborts
  split at aborts <;> cases aborts

theorem reject_mixin_never_aborts (property : Property) (right : Option Operand) :
    (rejectMixin property right).NeverAborts := by
  intro aborts
  unfold rejectMixin at aborts
  split at aborts <;> cases aborts

theorem wire_text_aborts_iff (value : WireValue) :
    (wireText value).outcome = .error .aborted ↔
      ∃ moment, value = .date moment ∧ IsFarDate moment := by
  rw [← wire_text_eq_none_iff, wireText]
  cases value.wireText? with
  | none => simp
  | some text => simp

theorem of_literal_eq_date_iff (property : Property) (literal : Literal) (moment : Moment) :
    Comparand.ofLiteral property literal = .ok (.value (.date moment)) ↔
      literal = .date moment := by
  cases literal with
  | integer integer =>
      rw [Comparand.ofLiteral]
      split
      · rw [Comparand.of_integer_eq_value_iff]
        simp
      · simp
  | boolean _ | date _ | double _ | string _ => simp [Comparand.ofLiteral, WireValue.ofLiteral]

theorem coerced_aborts_iff {Result : Type} {property : Property} {literal : Literal}
    {next : Comparand → Attempt Result}
    (writes : ∀ value, (next (.value value)).outcome = .error .aborted ↔
      (wireText value).outcome = .error .aborted)
    (absent : (next .absent).NeverAborts) :
    (ofExcept (Comparand.ofLiteral property literal) >>= next).outcome = .error .aborted ↔
      ∃ moment, literal = .date moment ∧ IsFarDate moment := by
  rw [bind_aborts_iff (of_except_never_aborts _)]
  constructor
  · intro aborts
    rcases aborts with ⟨comparand, coerced, aborts⟩
    simp at coerced
    cases comparand with
    | value value =>
        obtain ⟨moment, rfl, far⟩ := (wire_text_aborts_iff value).mp ((writes value).mp aborts)
        exact ⟨moment, (of_literal_eq_date_iff _ _ _).mp coerced, far⟩
    | absent => exact absurd aborts absent
  · intro comes
    rcases comes with ⟨moment, rfl, far⟩
    refine ⟨.value (.date moment), rfl, (writes _).mpr ?_⟩
    exact (wire_text_aborts_iff _).mpr ⟨moment, rfl, far⟩

theorem literal_aborts_iff (operator : Operator) (right : Option Operand)
    {next : Literal → Attempt Predicate}
    (writes : ∀ literal, (next literal).outcome = .error .aborted ↔
      ∃ moment, literal = .date moment ∧ IsFarDate moment) :
    (literalOf operator right >>= next).outcome = .error .aborted ↔
      ∃ moment, right = some (.literal (.date moment)) ∧ IsFarDate moment := by
  rw [bind_aborts_iff (literal_of_never_aborts operator right)]
  simp only [literal_of_eq_ok_iff, writes]
  constructor
  · intro aborts
    rcases aborts with ⟨literal, whole, moment, rfl, far⟩
    exact ⟨moment, whole, far⟩
  · intro comes
    rcases comes with ⟨moment, whole, far⟩
    exact ⟨.date moment, whole, moment, rfl, far⟩

theorem named_aborts_iff (left : Operand) {test : Property → Attempt Predicate}
    {writes : Property → Prop}
    (tests : ∀ property, (test property).outcome = .error .aborted ↔ writes property) :
    (propertyOf catalog settings left >>= test).outcome = .error .aborted ↔
      ∃ property, Names catalog settings left property ∧ writes property := by
  rw [bind_aborts_iff (property_of_never_aborts catalog settings left)]
  simp only [property_of_eq_ok_iff, tests]

theorem equality_aborts_iff (operator : Operator) (left : Operand) (right : Option Operand) :
    (equality catalog settings operator left right).outcome = .error .aborted ↔
      ∃ property, Names catalog settings left property ∧ property.mixin = false ∧
        ∃ moment, right = some (.literal (.date moment)) ∧ IsFarDate moment := by
  apply named_aborts_iff
  intro property
  cases mixin : property.mixin with
  | true =>
      -- A facet is rejected before its literal is looked at.
      rw [if_pos rfl]
      simp only [Bool.true_eq_false, false_and, iff_false]
      exact reject_mixin_never_aborts property right
  | false =>
      rw [if_neg Bool.false_ne_true, literal_aborts_iff operator right]
      · simp only [true_and]
      · intro literal
        apply coerced_aborts_iff
        · intro value
          exact bind_pure_aborts_iff (wireText value) _
        · intro aborts
          cases aborts

theorem range_aborts_iff (operator : Operator) (relation : RangeRelation) (left : Operand)
    (right : Option Operand) :
    (range catalog settings operator relation left right).outcome = .error .aborted ↔
      ∃ property, Names catalog settings left property ∧
        ∃ moment, right = some (.literal (.date moment)) ∧ IsFarDate moment := by
  apply named_aborts_iff
  intro property
  apply literal_aborts_iff
  intro literal
  apply coerced_aborts_iff
  · intro value
    exact bind_pure_aborts_iff (wireText value) _
  · intro aborts
    cases aborts

theorem member_text_aborts_iff (property : Property) (literal : Literal) :
    (memberText property literal).outcome = .error .aborted ↔
      ∃ moment, literal = .date moment ∧ IsFarDate moment := by
  apply coerced_aborts_iff
  · intro value
    rfl
  · intro aborts
    cases aborts

theorem membership_aborts_iff (operator : Operator) (left : Operand) (right : Option Operand) :
    (membership catalog settings operator left right).outcome = .error .aborted ↔
      ∃ property, Names catalog settings left property ∧
        ∃ before moment after, right = some (.literals (before ++ .date moment :: after)) ∧
          IsFarDate moment ∧ ∀ literal ∈ before, ∃ value text,
            Spelled property literal value text := by
  apply named_aborts_iff
  intro property
  have spelled : ∀ literal, (∃ text, (memberText property literal).outcome = .ok text) ↔
      ∃ value text, Spelled property literal value text := by
    intro literal
    simp only [member_text_eq_ok_iff]
    exact exists_comm
  rw [bind_aborts_iff (literals_of_never_aborts operator right)]
  constructor
  · intro aborts
    rcases aborts with ⟨literals, whole, aborts⟩
    rw [literals_of_eq_ok_iff] at whole
    split at aborts
    · cases aborts
    · rw [bind_pure_aborts_iff, each_eq_error_iff] at aborts
      rcases aborts with ⟨before, literal, after, rfl, stopped, earlier⟩
      obtain ⟨moment, rfl, far⟩ := (member_text_aborts_iff property literal).mp stopped
      exact ⟨before, moment, after, whole, far,
        fun other member => (spelled other).mp (earlier other member)⟩
  · intro comes
    rcases comes with ⟨before, moment, after, whole, far, earlier⟩
    refine ⟨_, (literals_of_eq_ok_iff _ _ _).mpr whole, ?_⟩
    rw [if_neg (by simp), bind_pure_aborts_iff, each_eq_error_iff]
    refine ⟨before, .date moment, after, rfl, ?_, ?_⟩
    · exact (member_text_aborts_iff property _).mpr ⟨moment, rfl, far⟩
    · intro other member
      exact (spelled other).mpr (earlier other member)

theorem existence_never_aborts (left : Operand) :
    (existence catalog settings left).NeverAborts := by
  intro aborts
  rw [existence, bind_pure_aborts_iff] at aborts
  exact property_of_never_aborts catalog settings left aborts

/-- Whether a comparison of a property comes to write a far date. -/
def WritesFarDate (property : Property) (operator : Operator) (right : Option Operand) : Prop :=
  match operator with
  | .equal | .notEqual => property.mixin = false ∧
      ∃ moment, right = some (.literal (.date moment)) ∧ IsFarDate moment
  | .less | .greater | .lessEqual | .greaterEqual =>
      ∃ moment, right = some (.literal (.date moment)) ∧ IsFarDate moment
  | .isIn | .isNotIn => ∃ before moment after,
      right = some (.literals (before ++ .date moment :: after)) ∧ IsFarDate moment ∧
        ∀ literal ∈ before, ∃ value text, Spelled property literal value text
  | _ => False

theorem comparison_aborts_iff (operator : Operator) (left : Operand) (right : Option Operand) :
    (comparison catalog settings operator left right).outcome = .error .aborted ↔
      ∃ property, Names catalog settings left property ∧
        WritesFarDate property operator right := by
  cases operator with
  | equal => exact equality_aborts_iff catalog settings .equal left right
  | notEqual =>
      exact (bind_pure_aborts_iff _ _).trans
        (equality_aborts_iff catalog settings .notEqual left right)
  | less => exact range_aborts_iff catalog settings .less .less left right
  | greater => exact range_aborts_iff catalog settings .greater .greater left right
  | lessEqual => exact range_aborts_iff catalog settings .lessEqual .lessEqual left right
  | greaterEqual =>
      exact range_aborts_iff catalog settings .greaterEqual .greaterEqual left right
  | isIn => exact membership_aborts_iff catalog settings .isIn left right
  | isNotIn =>
      exact (bind_pure_aborts_iff _ _).trans
        (membership_aborts_iff catalog settings .isNotIn left right)
  | isNull =>
      have never := existence_never_aborts catalog settings left
      simp only [WritesFarDate, and_false, exists_false, iff_false]
      exact fun aborts => never ((bind_pure_aborts_iff _ _).mp aborts)
  | isNotNull =>
      simp only [WritesFarDate, and_false, exists_false, iff_false]
      exact existence_never_aborts catalog settings left
  | sum | sub | mul | div | like | caselessLike | between | notLike | notCaselessLike
  | notBetween | startsWith | and | or | not =>
      simp [comparison, WritesFarDate]

end Lowering

namespace Compiler

open Attempt

variable (compiler : Compiler)

def WritesFarDate (terminal : Operand) : Prop :=
  ∃ operator left right property, terminal = .binary operator left right ∧
    Lowering.Names compiler.catalog compiler.settings left property ∧
      Lowering.WritesFarDate property operator (some right)

theorem lower_aborts_iff {terminal : Operand} (isTerminal : terminal.IsTerminal) :
    (compiler.lower terminal).outcome = .error .aborted ↔ compiler.WritesFarDate terminal := by
  unfold WritesFarDate
  cases terminal with
  | property _ | literal _ | literals _ => simp [lower, Lowering.expression]
  | unary operator left =>
      rw [lower, Lowering.expression, if_neg isTerminal.1, if_neg isTerminal.2,
        Lowering.comparison_aborts_iff]
      simp only [reduceCtorEq, false_and, exists_false, iff_false]
      intro comes
      rcases comes with ⟨property, -, writes⟩
      cases operator <;> simp [Lowering.WritesFarDate] at writes
  | binary operator left right =>
      rw [lower, Lowering.expression, if_neg isTerminal.1, if_neg isTerminal.2,
        Lowering.comparison_aborts_iff]
      constructor
      · intro comes
        rcases comes with ⟨property, named, writes⟩
        exact ⟨operator, left, right, property, rfl, named, writes⟩
      · intro comes
        rcases comes with ⟨_, _, _, property, same, named, writes⟩
        cases same
        exact ⟨property, named, writes⟩
  | nary operator operands =>
      rw [lower, Lowering.expression]
      rcases isTerminal with other | empty
      · rw [if_pos other]
        simp
      · rw [if_pos empty]
        split <;> simp

/-- A filter is cut short at the first comparison that is not lowered, if this one comes to write a
far date. -/
theorem filter_aborts_iff (operand : Operand) :
    (Lowering.filter compiler.catalog compiler.settings operand).outcome = .error .aborted ↔
      ∃ before terminal after, operand.terminals = before ++ terminal :: after ∧
        (∀ other ∈ before, ∃ part, (compiler.lower other).outcome = .ok part) ∧
          compiler.WritesFarDate terminal := by
  have lowered : (compiler.lower operand).outcome = .error .aborted ↔
      ∃ before terminal after, operand.terminals = before ++ terminal :: after ∧
        (∀ other ∈ before, ∃ part, (compiler.lower other).outcome = .ok part) ∧
          compiler.WritesFarDate terminal := by
    obtain ⟨assemble, -, lowers⟩ := compiler.lower_eq_each operand
    rw [lowers, bind_pure_aborts_iff, each_eq_error_iff]
    apply exists_congr
    intro before
    apply exists_congr
    intro terminal
    apply exists_congr
    intro after
    apply and_congr_right
    intro whole
    have member : terminal ∈ operand.terminals := by
      rw [whole]
      exact List.mem_append_cons_self
    rw [compiler.lower_aborts_iff (Operand.is_terminal_of_mem member), and_comm]
  rw [← lowered, Lowering.filter, lower]
  by_cases isExpression : operand.IsExpression
  · rw [Lowering.expression_of_is_expression isExpression]
  · rw [Lowering.expression_of_misfit isExpression, Lowering.expression_of_misfit isExpression]
    simp

theorem selected_never_aborts (operand : Operand) : (compiler.selected operand).NeverAborts := by
  cases operand with
  | property path => exact resolve_never_aborts compiler.catalog compiler.settings path
  | literal _ | literals _ | unary _ _ | binary _ _ _ | nary _ _ =>
      intro aborts
      cases aborts

theorem selection_never_aborts (select : List Operand) :
    (compiler.selection select).NeverAborts := by
  intro aborts
  obtain ⟨_, operand, _, -, stopped, -⟩ := (each_eq_error_iff _ _ _).mp aborts
  exact compiler.selected_never_aborts operand stopped

theorem check_operators_never_aborts (filter : Operand) : (checkOperators filter).NeverAborts := by
  intro aborts
  unfold checkOperators at aborts
  split at aborts <;> cases aborts

/-- Whether a compilation comes to write a far date: the selection is found, every operator has a
predicate, and the comparisons before the one with the date are lowered. -/
def ComesToFarDate (query : Query) : Prop :=
  (∃ properties, (compiler.selection query.select).outcome = .ok properties) ∧
    query.filter.firstWithoutPredicate = none ∧
      ∃ before terminal after, query.filter.terminals = before ++ terminal :: after ∧
        (∀ other ∈ before, ∃ part, (compiler.lower other).outcome = .ok part) ∧
          compiler.WritesFarDate terminal

theorem check_operators_eq_ok_iff (filter : Operand) :
    (∃ checked, (checkOperators filter).outcome = .ok checked) ↔
      filter.firstWithoutPredicate = none := by
  unfold checkOperators
  cases filter.firstWithoutPredicate with
  | none => simp
  | some operator => simp

theorem compile_aborts_iff (query : Query) :
    (compiler.compile query).outcome = .error .aborted ↔ compiler.ComesToFarDate query := by
  rw [compile, bind_aborts_iff (compiler.selection_never_aborts query.select), ComesToFarDate,
    ← filter_aborts_iff, ← check_operators_eq_ok_iff]
  simp only [bind_aborts_iff (check_operators_never_aborts query.filter), bind_pure_aborts_iff,
    exists_and_right]

/-- A compilation gives a query or a rejection unless it comes to write a far date, and is counted
as cut short exactly then. Every other value has a text, and a date that is read from a text is far
only in the year 10000. -/
theorem compile_answers_unless_far_date (compiler : Compiler) (query : Query) :
    (((∃ compiled, (compiler.compile query).outcome = .ok compiled) ∨
        ∃ rejection, (compiler.compile query).outcome = .error (.rejected rejection)) ↔
      ¬compiler.ComesToFarDate query) ∧
    (∀ tally : Tally,
      (compiler.ComesToFarDate query →
        (tally.after compiler (.compile query)).rejections =
          Tally.countRefusal .aborted tally.rejections) ∧
      (¬compiler.ComesToFarDate query →
        Tally.countOf .aborted (tally.after compiler (.compile query)).rejections =
          Tally.countOf .aborted tally.rejections)) ∧
    (∀ value : WireValue, value.wireText? = none ↔ ∃ moment, value = .date moment ∧
      IsFarDate moment) ∧
    ∀ typeName text moment, Literal.parse typeName text = .ok (.date moment) →
      (IsFarDate moment ↔ moment.toUtc.localDate.year = 10000) := by
  rw [answers_iff, NeverAborts, ← compile_aborts_iff]
  refine ⟨Iff.rfl, ?_, wire_text_eq_none_iff, fun _ _ _ => Literal.is_far_date_of_parse⟩
  intro tally
  constructor
  · intro aborts
    exact Tally.rejections_note_compile_of_error aborts
  · intro answers
    rw [Tally.after]
    cases ended : (compiler.compile query).outcome with
    | ok compiled => rw [Tally.rejections_note_compile_of_ok ended]
    | error reason =>
        rw [Tally.rejections_note_compile_of_error ended]
        apply Tally.count_of_count_refusal_of_ne
        cases reason with
        | rejected rejection => exact Refusal.noConfusion
        | aborted => exact absurd ended answers

/-- The last half hour of the year 9999 in UTC. -/
def lastHalfHour : Moment := ⟨253402299000000000000, 0⟩

/-- The same time on a clock one hour in the west, which is in the year 10000 in UTC. -/
def lastHalfHourWest : Moment := ⟨253402302600000000000, -3600⟩

def titledAt (moment : Moment) : Query :=
  .plain (.compare "dc:title" .equal (.date moment)) []

theorem comes_to_far_date_titled_at (moment : Moment) :
    noteCompiler.ComesToFarDate (titledAt moment) ↔ IsFarDate moment := by
  constructor
  · intro comes
    obtain ⟨-, -, before, terminal, after, whole, -, writes⟩ := comes
    have member : terminal ∈ (titledAt moment).filter.terminals := by
      rw [whole]
      exact List.mem_append_cons_self
    obtain rfl := List.mem_singleton.mp member
    obtain ⟨_, _, _, property, same, -, writes⟩ := writes
    cases same
    obtain ⟨-, other, sameDate, far⟩ := writes
    cases sameDate
    exact far
  · intro far
    have named : Lowering.Names noteCompiler.catalog noteCompiler.settings (.property "dc:title")
        Lowering.titleProperty := ⟨"dc:title", rfl, by decide +kernel⟩
    refine ⟨⟨[], rfl⟩, rfl, [], _, [], rfl, ?_, _, _, _, _, rfl, named, rfl, moment, rfl, far⟩
    intro other member
    cases member

theorem compile_answers_unless_far_date_last :
    Literal.parse "date" "9999-12-31T23:30:00Z" = .ok (.date lastHalfHour) ∧
      ((∃ compiled, (noteCompiler.compile (titledAt lastHalfHour)).outcome = .ok compiled) ∨
        ∃ rejection, (noteCompiler.compile (titledAt lastHalfHour)).outcome =
          .error (.rejected rejection)) := by
  have read : Literal.parse "date" "9999-12-31T23:30:00Z" = .ok (.date lastHalfHour) := by
    decide +kernel
  have year : lastHalfHour.toUtc.localDate.year = 9999 := by decide +kernel
  obtain ⟨answers, -, -, far⟩ :=
    compile_answers_unless_far_date noteCompiler (titledAt lastHalfHour)
  have near : ¬IsFarDate lastHalfHour := by
    rw [far _ _ _ read, year]
    decide
  rw [← comes_to_far_date_titled_at, ← answers] at near
  exact ⟨read, near⟩

/-- A date can be read for which a compilation gives neither a query nor a rejection. -/
theorem compile_aborts_in_last_half_hour :
    Literal.parse "date" "9999-12-31T23:30:00-01:00" = .ok (.date lastHalfHourWest) ∧
      (noteCompiler.compile (titledAt lastHalfHourWest)).outcome = .error .aborted ∧
      (Tally.zero.after noteCompiler (.compile (titledAt lastHalfHourWest))).rejections =
        [(.aborted, 1)] := by
  have read : Literal.parse "date" "9999-12-31T23:30:00-01:00" =
      .ok (.date lastHalfHourWest) := by
    decide +kernel
  have far : IsFarDate lastHalfHourWest := by
    unfold IsFarDate
    decide +kernel
  have aborts := (noteCompiler.compile_aborts_iff _).mpr ((comes_to_far_date_titled_at _).mpr far)
  refine ⟨read, aborts, ?_⟩
  rw [Tally.after, Tally.rejections_note_compile_of_error aborts]
  rfl

end Compiler

end DocumentQuery
