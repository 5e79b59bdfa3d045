import DocumentQuery.Proofs.Compile.Lowering
import DocumentQuery.Proofs.Compile.Reading
import DocumentQuery.Proofs.Property.Lookup
import DocumentQuery.Proofs.Property.TopLevel

/-!
Compilation preserves meaning. Whatever a document answers to the engine's tests, the predicate of
a compiled filter holds of it exactly if the reading of the filter says so, and a filter that
compiles has a reading.
-/

namespace DocumentQuery

namespace Comparand

theorem coerced_of_value {property : Property} {literal : Literal} {value : WireValue}
    (coerced : ofLiteral property literal = .ok (.value value))
    (triState : property.triState = property.isUserBoolean) :
    Reading.coerced? property literal = some value ∧
      ¬(property.isUserBoolean = true ∧ literal = .integer 0) := by
  cases literal with
  | integer integer =>
      rw [ofLiteral] at coerced
      rw [Reading.coerced?]
      by_cases boolean : property.declared.isBoolean = true
      · rw [if_pos boolean, of_integer_eq_value_iff, triState] at coerced
        rw [if_pos boolean]
        rcases coerced with ⟨rfl, rfl⟩ | ⟨rfl, system, rfl⟩
        · simp
        · simp [system]
      · have noUser : property.isUserBoolean = false := by
          simp [Property.isUserBoolean, boolean]
        rw [if_neg boolean] at coerced
        cases coerced
        simp [boolean, noUser]
  | boolean _ | date _ | double _ | string _ =>
      cases coerced
      simp [Reading.coerced?, WireValue.ofLiteral]

theorem zero_of_absent {property : Property} {literal : Literal}
    (coerced : ofLiteral property literal = .ok .absent)
    (triState : property.triState = property.isUserBoolean) :
    property.isUserBoolean = true ∧ literal = .integer 0 := by
  cases literal with
  | integer integer =>
      rw [ofLiteral] at coerced
      by_cases boolean : property.declared.isBoolean = true
      · rw [if_pos boolean, of_integer_eq_absent_iff, triState] at coerced
        rcases coerced with ⟨zero, user⟩
        rw [zero]
        exact ⟨user, rfl⟩
      · rw [if_neg boolean] at coerced
        cases coerced
  | boolean _ | date _ | double _ | string _ => cases coerced

end Comparand

namespace Reading

open Lowering

variable (facts : DocumentFacts) {property : Property} {literal : Literal} {value : WireValue}
  {text : String}

theorem equals_of_spelled (spelled : Spelled property literal value text)
    (triState : property.triState = property.isUserBoolean) :
    equals? facts property literal = some (facts.hasText property.storageKey text) := by
  obtain ⟨coerced, noZero⟩ := Comparand.coerced_of_value spelled.1 triState
  rw [equals?, if_neg noZero, coerced]
  change (value.wireText?.bind fun found => some (facts.hasText property.storageKey found)) = _
  rw [spelled.2]
  rfl

theorem relates_of_spelled (relation : RangeRelation)
    (spelled : Spelled property literal value text)
    (triState : property.triState = property.isUserBoolean) :
    relates? facts relation property literal =
      some (facts.inRange property.storageKey value.indexType relation text) := by
  rw [relates?, (Comparand.coerced_of_value spelled.1 triState).1]
  change (value.wireText?.bind fun found =>
    some (facts.inRange property.storageKey value.indexType relation found)) = _
  rw [spelled.2]
  rfl

theorem is_among_of_spelled {literals : List Literal} {texts : List String}
    (spelled : List.Forall₂ (fun literal text => ∃ value, Spelled property literal value text)
      literals texts) (triState : property.triState = property.isUserBoolean) :
    isAmong? facts property literals =
      some (texts.any (facts.hasText property.storageKey)) := by
  induction spelled with
  | nil => rfl
  | cons first _ induction =>
      rcases first with ⟨value, firstSpelled⟩
      rw [isAmong?, equals_of_spelled facts firstSpelled triState, induction, List.any_cons]
      rfl

theorem connected_combine {operator : Operator} (connective : operator = .and ∨ operator = .or)
    (parts : List Predicate) :
    connected? operator (parts.map (Predicate.holds facts)) =
      some ((combine operator parts).holds facts) := by
  rcases connective with rfl | rfl
  · simp [combine, connected?]
  · simp [combine, connected?]

theorem connected_combine_several {operator : Operator}
    (connective : operator = .and ∨ operator = .or) (parts : List Predicate) :
    connected? operator (parts.map (Predicate.holds facts)) =
      some ((combineSeveral operator parts).holds facts) := by
  unfold combineSeveral
  split
  · next part =>
      rcases connective with rfl | rfl
      · exact congrArg some (Bool.and_true _)
      · exact congrArg some (Bool.or_false _)
  · exact connected_combine facts connective parts

theorem denied_holds (part : Predicate) :
    denied (some (part.holds facts)) = some ((Predicate.negation part).holds facts) := by
  simp [denied]

end Reading

namespace Lowering

open Attempt Reading

variable (facts : DocumentFacts) (catalog : Catalog) (settings : Settings)

theorem comparison_of_names {left : Operand} {property : Property}
    (named : Names catalog settings left property) (operator : Operator)
    (right : Option Operand) :
    comparison? facts catalog settings operator left right =
        test? facts property operator right ∧
      property.triState = property.isUserBoolean := by
  rcases named with ⟨path, rfl, found⟩
  refine ⟨?_, Property.tri_state_of_resolve found⟩
  simp only [comparison?, found]

theorem equality_reads {operator : Operator} {left : Operand} {right : Option Operand}
    {predicate : Predicate}
    (ended : (equality catalog settings operator left right).outcome = .ok predicate) :
    comparison? facts catalog settings .equal left right = some (predicate.holds facts) := by
  obtain ⟨property, literal, named, -, rfl, outcome⟩ := (equality_eq_ok_iff _ _ _ _ _ _).mp ended
  obtain ⟨read, triState⟩ :=
    comparison_of_names facts catalog settings named .equal (some (.literal literal))
  rw [read]
  change equals? facts property literal = _
  rcases outcome with ⟨value, text, spelled, rfl⟩ | ⟨absent, rfl⟩
  · simp [equals_of_spelled facts spelled triState]
  · simp [equals?, Comparand.zero_of_absent absent triState]

theorem range_reads {operator : Operator} {relation : RangeRelation} {left : Operand}
    {right : Option Operand} {predicate : Predicate}
    (ended : (range catalog settings operator relation left right).outcome = .ok predicate)
    (tests : ∀ property, test? facts property operator right =
      onLiteral (relates? facts relation property) right) :
    comparison? facts catalog settings operator left right = some (predicate.holds facts) := by
  obtain ⟨property, literal, value, text, named, rfl, spelled, rfl⟩ :=
    (range_eq_ok_iff _ _ _ _ _ _ _).mp ended
  obtain ⟨read, triState⟩ :=
    comparison_of_names facts catalog settings named operator (some (.literal literal))
  rw [read, tests property, onLiteral, relates_of_spelled facts relation spelled triState,
    Predicate.holds]

theorem membership_reads {operator : Operator} {left : Operand} {right : Option Operand}
    {predicate : Predicate}
    (ended : (membership catalog settings operator left right).outcome = .ok predicate) :
    comparison? facts catalog settings .isIn left right = some (predicate.holds facts) := by
  obtain ⟨property, literals, texts, named, rfl, -, spelled, rfl⟩ :=
    (membership_eq_ok_iff _ _ _ _ _ _).mp ended
  obtain ⟨read, triState⟩ :=
    comparison_of_names facts catalog settings named .isIn (some (.literals literals))
  rw [read]
  change isAmong? facts property literals = _
  simp [is_among_of_spelled facts spelled triState]

theorem existence_reads {left : Operand} {predicate : Predicate}
    (ended : (existence catalog settings left).outcome = .ok predicate)
    (right : Option Operand) :
    comparison? facts catalog settings .isNotNull left right =
      some (predicate.holds facts) := by
  obtain ⟨property, named, rfl⟩ := (existence_eq_ok_iff _ _ _ _).mp ended
  rw [(comparison_of_names facts catalog settings named .isNotNull right).1]
  simp [test?]

theorem comparison_denied (operator opposite : Operator)
    (tests : ∀ property right, test? facts property opposite right =
      denied (test? facts property operator right)) (left : Operand) (right : Option Operand) :
    comparison? facts catalog settings opposite left right =
      denied (comparison? facts catalog settings operator left right) := by
  unfold comparison?
  split
  · split
    · exact tests _ right
    · rfl
  · rfl

theorem negated_reads {attempt : Attempt Predicate} {reading : Option Bool}
    (reads : ∀ part, attempt.outcome = .ok part → reading = some (part.holds facts))
    {predicate : Predicate} (ended : (negated attempt).outcome = .ok predicate) :
    denied reading = some (predicate.holds facts) := by
  obtain ⟨part, partEnded, rfl⟩ := (negated_eq_ok_iff _ _).mp ended
  rw [reads part partEnded, denied_holds]

theorem comparison_reads {operator : Operator} {left : Operand} {right : Option Operand}
    {predicate : Predicate}
    (ended : (comparison catalog settings operator left right).outcome = .ok predicate) :
    comparison? facts catalog settings operator left right = some (predicate.holds facts) := by
  cases operator with
  | equal => exact equality_reads facts catalog settings ended
  | notEqual =>
      rw [comparison_denied facts catalog settings .equal .notEqual (fun _ _ => rfl)]
      exact negated_reads facts
        (fun part partEnded => equality_reads facts catalog settings partEnded) ended
  | less | greater | lessEqual | greaterEqual =>
      exact range_reads facts catalog settings ended fun _ => rfl
  | isIn => exact membership_reads facts catalog settings ended
  | isNotIn =>
      rw [comparison_denied facts catalog settings .isIn .isNotIn (fun _ _ => rfl)]
      exact negated_reads facts
        (fun part partEnded => membership_reads facts catalog settings partEnded) ended
  | isNotNull => exact existence_reads facts catalog settings ended right
  | isNull =>
      rw [comparison_denied facts catalog settings .isNotNull .isNull (fun _ _ => rfl)]
      exact negated_reads facts
        (fun part partEnded => existence_reads facts catalog settings partEnded right) ended
  | sum | sub | mul | div | like | caselessLike | between | notLike | notCaselessLike
  | notBetween | startsWith | and | or | not => cases ended

theorem unconnected_reads {operator : Operator} {left : Operand} {right : Option Operand}
    {attempt : Attempt Predicate} {reading : Option Bool}
    (reads : ∀ part, attempt.outcome = .ok part → reading = some (part.holds facts))
    {predicate : Predicate}
    (ended : (if operator = .not then negated attempt
      else comparison catalog settings operator left right).outcome = .ok predicate) :
    (if operator = .not then denied reading
      else comparison? facts catalog settings operator left right) =
        some (predicate.holds facts) := by
  by_cases negation : operator = .not
  · rw [if_pos negation] at ended
    rw [if_pos negation]
    exact negated_reads facts reads ended
  · rw [if_neg negation] at ended
    rw [if_neg negation]
    exact comparison_reads facts catalog settings ended

mutual

/-- A lowered filter says what the filter says. The misfit plays no part, since it only names what
is wrong with an operand that is no expression. -/
theorem expression_reads (misfit : String → QueryFault) : ∀ (operand : Operand)
    (predicate : Predicate),
    (expression catalog settings misfit operand).outcome = .ok predicate →
      filter? facts catalog settings operand = some (predicate.holds facts)
  | .property _, _, ended | .literal _, _, ended | .literals _, _, ended => by
      rw [expression] at ended
      cases ended
  | .unary operator left, predicate, ended => by
      rw [expression] at ended
      rw [filter?]
      split at ended
      · next connective =>
          rw [if_pos connective]
          exact expression_reads .notExpression left predicate ended
      · next noConnective =>
          rw [if_neg noConnective]
          exact unconnected_reads facts catalog settings
            (expression_reads .notExpression left) ended
  | .binary operator left right, predicate, ended => by
      rw [expression] at ended
      rw [filter?]
      split at ended
      · next connective =>
          obtain ⟨first, second, firstEnded, secondEnded, rfl⟩ :=
            (connected_eq_ok_iff _ _ _ _).mp ended
          rw [if_pos connective, expression_reads .notExpression left first firstEnded,
            expression_reads .notExpression right second secondEnded]
          exact connected_combine facts connective [first, second]
      · next noConnective =>
          rw [if_neg noConnective]
          exact unconnected_reads facts catalog settings
            (expression_reads .notExpression left) ended
  | .nary operator operands, predicate, ended => by
      rw [expression] at ended
      rw [filter?]
      split at ended
      · cases ended
      · next noOther =>
          split at ended
          · cases ended
          · have connective : operator = .and ∨ operator = .or := by
              rw [← not_or, not_not] at noOther
              exact noOther
            obtain ⟨parts, partsEnded, rfl⟩ := (connected_several_eq_ok_iff _ _ _).mp ended
            rw [expressions_read operands parts partsEnded]
            exact connected_combine_several facts connective parts

theorem expressions_read : ∀ (operands : List Operand) (parts : List Predicate),
    (expressions catalog settings operands).outcome = .ok parts →
      filters? facts catalog settings operands = some (parts.map (Predicate.holds facts))
  | [], parts, ended => by
      rw [expressions] at ended
      cases ended
      rfl
  | operand :: rest, parts, ended => by
      rw [expressions] at ended
      obtain ⟨part, partEnded, later⟩ := (bind_eq_ok_iff _ _ _).mp ended
      obtain ⟨others, othersEnded, same⟩ := (bind_eq_ok_iff _ _ _).mp later
      have joined : part :: others = parts := by simpa using same
      rw [filters?, expression_reads .notExpression operand part partEnded,
        expressions_read rest others othersEnded, ← joined]
      rfl

end

end Lowering

namespace Compiler

theorem filter_of_compile {compiler : Compiler} {query : Query} {compiled : CompiledQuery}
    (compiles : (compiler.compile query).outcome = .ok compiled) :
    (Lowering.filter compiler.catalog compiler.settings query.filter).outcome =
      .ok compiled.predicate := by
  obtain ⟨properties, -, later⟩ := (Attempt.bind_eq_ok_iff _ _ _).mp compiles
  obtain ⟨checked, -, later⟩ := (Attempt.bind_eq_ok_iff _ _ _).mp later
  obtain ⟨predicate, lowered, same⟩ := (Attempt.bind_eq_ok_iff _ _ _).mp later
  rw [lowered, ← Except.ok.inj same]

/-- The predicate of a compiled query holds of a document exactly if the filter, read as it
stands, says so of it. -/
theorem compile_preserves_meaning (compiler : Compiler) (query : Query)
    (compiled : CompiledQuery) (compiles : (compiler.compile query).outcome = .ok compiled)
    (facts : DocumentFacts) :
    Reading.filter? facts compiler.catalog compiler.settings query.filter =
      some (compiled.predicate.holds facts) :=
  Lowering.expression_reads facts compiler.catalog compiler.settings _ query.filter
    compiled.predicate (filter_of_compile compiles)

def noteCompiler : Compiler :=
  ⟨⟨Catalog.samplePair, Catalog.declaredEntries Catalog.samplePair⟩, Settings.standard⟩

/-- Denies that nothing is noted, and asks for a missing title. -/
def noteFilter : Operand :=
  .nary .and
    [.unary .not (.binary .equal (.property "note/*") (.literal (.integer 0))),
      .unary .isNull (.property "dc:title")]

def notePredicate : Predicate :=
  .conjunction
    [.negation (.negation (.valueIs "note.*" "true")),
      .negation (.containerExists "dc.title")]

def noteFacts : DocumentFacts where
  hasText element text := element == "note.*" && text == "true"
  inRange _ _ _ _ := false
  hasElement element := element == "note"

theorem compile_preserves_meaning_note :
    (noteCompiler.compile (.plain noteFilter [])).outcome = .ok ⟨notePredicate, []⟩ ∧
      Reading.filter? noteFacts noteCompiler.catalog noteCompiler.settings noteFilter =
        some true := by
  have compiles : (noteCompiler.compile (.plain noteFilter [])).outcome =
      .ok ⟨notePredicate, []⟩ := rfl
  have holds : notePredicate.holds noteFacts = true := rfl
  have meaning := compile_preserves_meaning noteCompiler _ _ compiles noteFacts
  rw [holds] at meaning
  exact ⟨compiles, meaning⟩

end Compiler

end DocumentQuery
