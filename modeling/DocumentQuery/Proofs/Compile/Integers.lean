import DocumentQuery.Proofs.Compile.CutShort
import DocumentQuery.Proofs.Compile.Place
import DocumentQuery.Proofs.Number.Digits

/-!
Integers in filters. Beside a boolean property, one and zero are truth values and no other integer
is anything; a zero that asks for the absence of true can only be tested for by an equality.
Beside any other property an integer is a number.
-/

namespace DocumentQuery

namespace Comparand

variable {property : Property}

section

variable (boolean : property.declared.isBoolean = true)

include boolean

theorem of_literal_of_boolean (integer : Int64) :
    ofLiteral property (.integer integer) = ofInteger property integer := if_pos boolean

theorem of_literal_one :
    ofLiteral property (.integer 1) = ofLiteral property (.boolean true) := by
  rw [of_literal_of_boolean boolean]
  exact (of_integer_eq_value_iff _ _ _).mpr (.inl ⟨rfl, rfl⟩)

theorem of_literal_zero_of_stored (stored : property.triState = false) :
    ofLiteral property (.integer 0) = ofLiteral property (.boolean false) := by
  rw [of_literal_of_boolean boolean]
  exact (of_integer_eq_value_iff _ _ _).mpr (.inr ⟨rfl, stored, rfl⟩)

theorem of_literal_zero_of_tri_state (triState : property.triState = true) :
    ofLiteral property (.integer 0) = .ok .absent := by
  rw [of_literal_of_boolean boolean]
  exact (of_integer_eq_absent_iff _ _).mpr ⟨rfl, triState⟩

theorem of_literal_of_neither {integer : Int64} (notZero : integer ≠ 0) (notOne : integer ≠ 1) :
    ofLiteral property (.integer integer) =
      .error (.invalidTruthValue (.neitherZeroNorOne property.path integer)) := by
  rw [of_literal_of_boolean boolean, ofInteger, if_neg notZero, if_neg notOne]

end

end Comparand

namespace LiteralPlace

open Attempt Lowering

variable {property : Property} {literal : Literal}

/-! ## Literals without a text -/

theorem member_text_eq_error {reason : Stop}
    (stopped : (memberText property literal).outcome = .error reason) :
    reason.refusal = .rejection .invalidLiteral ∨
      (reason = .aborted ∧ ∃ moment, literal = .date moment ∧ WireValue.IsFarDate moment) := by
  cases reason with
  | aborted => exact .inr ⟨rfl, (member_text_aborts_iff property literal).mp stopped⟩
  | rejected rejection =>
      left
      rw [memberText, bind_eq_error_iff] at stopped
      rcases stopped with noValue | ⟨comparand, -, later⟩
      · obtain ⟨fault, rfl⟩ := Comparand.of_literal_eq_error (by simpa using noValue)
        rfl
      · rcases (bind_eq_error_iff _ _ _).mp later with noTest | ⟨value, -, noText⟩
        · obtain ⟨fault, rfl⟩ := Comparand.present_eq_error (by simpa using noTest)
          rfl
        · unfold wireText at noText
          split at noText <;> cases noText

theorem membership_test_of_stopped {before : List Literal} {reason : Stop}
    (earlier : ∀ other ∈ before, ∃ text, (memberText property other).outcome = .ok text)
    (stopped : (memberText property literal).outcome = .error reason) (after : List Literal) :
    (membershipTest property (before ++ literal :: after)).outcome = .error reason := by
  rw [membershipTest, outcome_bind_pure, map_eq_error_iff, each_eq_error_iff]
  exact ⟨before, literal, after, rfl, stopped, earlier⟩

theorem membership_test_of_rejected {rejection : Rejection}
    (rejected : Comparand.ofLiteral property literal = .error rejection)
    (before after : List Literal) :
    ∃ reason, (membershipTest property (before ++ literal :: after)).outcome = .error reason ∧
      (reason.refusal = .rejection .invalidLiteral ∨
        (reason = .aborted ∧ ∃ moment, .date moment ∈ before ∧ WireValue.IsFarDate moment)) := by
  cases ended : (each (memberText property) before).outcome with
  | ok texts =>
      have earlier := (each_succeeds_iff _ _).mp ⟨texts, ended⟩
      have stopped : (memberText property literal).outcome = .error (.rejected rejection) := by
        rw [memberText, rejected]
        rfl
      obtain ⟨fault, rfl⟩ := Comparand.of_literal_eq_error rejected
      exact ⟨_, membership_test_of_stopped earlier stopped after, .inl rfl⟩
  | error reason =>
      -- Something before the literal stops the test, for whatever reason.
      refine ⟨reason, ?_, ?_⟩
      · simp [membershipTest, each_append, ended]
      · obtain ⟨front, other, back, rfl, stopped, -⟩ := (each_eq_error_iff _ _ _).mp ended
        rcases member_text_eq_error stopped with invalid | ⟨aborted, moment, rfl, far⟩
        · exact .inl invalid
        · exact .inr ⟨aborted, moment, List.mem_append_cons_self, far⟩

theorem negated_eq_error_iff (attempt : Attempt Predicate) (reason : Stop) :
    (negated attempt).outcome = .error reason ↔ attempt.outcome = .error reason := by
  simp [negated]

variable (place : LiteralPlace)

def needsValue : LiteralPlace → Option String
  | equal | notEqual => none
  | range relation => some relation.tag
  | isIn _ _ | isNotIn _ _ => some Operator.isIn.tag

/-- All literals but the one in the place have texts. -/
def OthersSpelled (property : Property) : Prop :=
  ∀ other ∈ place.others, ∃ text value, Spelled property other value text

variable {place}

theorem others_spelled_of_none (alone : place.others = []) : place.OthersSpelled property := by
  rw [OthersSpelled, alone]
  intro other member
  cases member

theorem earlier_spelled (spelled : place.OthersSpelled property) :
    ∀ other ∈ place.earlier, ∃ text, (memberText property other).outcome = .ok text := by
  intro other member
  have listed : other ∈ place.others := by
    cases place with
    | equal | notEqual | range _ => cases member
    | isIn before after | isNotIn before after => exact List.mem_append_left after member
  obtain ⟨text, found⟩ := spelled other listed
  exact ⟨text, by simpa using found⟩

section

variable {value : WireValue} {text : String} (spelled : Spelled property literal value text)

include spelled

theorem membership_test_succeeds_iff (before after : List Literal) :
    (∃ predicate, (membershipTest property (before ++ literal :: after)).outcome =
        .ok predicate) ↔
      ∀ other ∈ before ++ after, ∃ text value, Spelled property other value text := by
  have literalSpelled : ∃ text value, Spelled property literal value text :=
    ⟨text, value, spelled⟩
  rw [membershipTest, outcome_bind_pure, map_succeeds_iff, each_succeeds_iff]
  simp only [member_text_eq_ok_iff, List.forall_mem_append, List.forall_mem_cons, literalSpelled,
    true_and]

theorem equality_test_of_spelled (noMixin : property.mixin = false) :
    (equalityTest property literal).outcome = .ok (.valueIs property.storageKey text) := by
  have written : (wireText value).outcome = .ok text := by simpa using spelled.2
  have tested : equalityTest property literal =
      wireText value >>= fun text => pure (.valueIs property.storageKey text) := by
    rw [equality_test_of_no_facet noMixin, spelled.1]
    exact pure_bind _ _
  simp [tested, written]

theorem range_test_of_spelled (relation : RangeRelation) :
    (rangeTest relation property literal).outcome =
      .ok (.range property.storageKey value.indexType relation text) := by
  have written : (wireText value).outcome = .ok text := by simpa using spelled.2
  have tested : rangeTest relation property literal = wireText value >>= fun text =>
      pure (.range property.storageKey value.indexType relation text) := by
    rw [rangeTest, spelled.1]
    exact (pure_bind _ _).trans (pure_bind _ _)
  simp [tested, written]

/-- A literal with a text can stand in every place beside literals with texts. -/
theorem test_succeeds_iff (noMixin : property.mixin = false) :
    (∃ predicate, (place.test property literal).outcome = .ok predicate) ↔
      place.OthersSpelled property := by
  have equality := equality_test_of_spelled spelled noMixin
  cases place with
  | equal => exact iff_of_true ⟨_, equality⟩ (others_spelled_of_none rfl)
  | notEqual =>
      have inequality := (negated_eq_ok_iff _ _).mpr ⟨_, equality, rfl⟩
      exact iff_of_true ⟨_, inequality⟩ (others_spelled_of_none rfl)
  | range relation =>
      have related := range_test_of_spelled spelled relation
      exact iff_of_true ⟨_, related⟩ (others_spelled_of_none rfl)
  | isIn before after => exact membership_test_succeeds_iff spelled before after
  | isNotIn before after =>
      rw [test, negated, outcome_bind_pure, map_succeeds_iff]
      exact membership_test_succeeds_iff spelled before after

end

theorem test_of_rejected (noMixin : property.mixin = false) {rejection : Rejection}
    (rejected : Comparand.ofLiteral property literal = .error rejection)
    (spelled : place.OthersSpelled property) :
    (place.test property literal).outcome = .error (.rejected rejection) := by
  have equality : (equalityTest property literal).outcome = .error (.rejected rejection) := by
    rw [equality_test_of_no_facet noMixin, rejected]
    rfl
  have stopped : (memberText property literal).outcome = .error (.rejected rejection) := by
    rw [memberText, rejected]
    rfl
  have earlier := earlier_spelled spelled
  cases place with
  | equal => exact equality
  | notEqual => exact (negated_eq_error_iff _ _).mpr equality
  | range relation =>
      rw [test, rangeTest, rejected]
      rfl
  | isIn before after => exact membership_test_of_stopped earlier stopped after
  | isNotIn before after =>
      exact (negated_eq_error_iff _ _).mpr (membership_test_of_stopped earlier stopped after)

theorem test_of_absent {operation : String} (needs : place.needsValue = some operation)
    (absent : Comparand.ofLiteral property literal = .ok .absent)
    (spelled : place.OthersSpelled property) :
    (place.test property literal).outcome =
      .error (.rejected (.invalidTruthValue (.absenceTest property.path operation))) := by
  have stopped : (memberText property literal).outcome = .error (.rejected
      (.invalidTruthValue (.absenceTest property.path Operator.isIn.tag))) := by
    rw [memberText, absent]
    rfl
  have earlier := earlier_spelled spelled
  cases place with
  | equal | notEqual => cases needs
  | range relation =>
      rw [← Option.some.inj needs, test, rangeTest, absent]
      rfl
  | isIn before after =>
      rw [← Option.some.inj needs]
      exact membership_test_of_stopped earlier stopped after
  | isNotIn before after =>
      rw [← Option.some.inj needs]
      exact (negated_eq_error_iff _ _).mpr (membership_test_of_stopped earlier stopped after)

/-- Whatever the other literals are, a literal without a value lets no test succeed. -/
theorem test_of_rejected_anywhere (noMixin : property.mixin = false) {rejection : Rejection}
    (rejected : Comparand.ofLiteral property literal = .error rejection) :
    ∃ reason, (place.test property literal).outcome = .error reason ∧
      (reason.refusal = .rejection .invalidLiteral ∨
        (reason = .aborted ∧
          ∃ moment, .date moment ∈ place.earlier ∧ WireValue.IsFarDate moment)) := by
  cases place with
  | equal | notEqual | range _ =>
      obtain ⟨fault, rfl⟩ := Comparand.of_literal_eq_error rejected
      exact ⟨_, test_of_rejected noMixin rejected (others_spelled_of_none rfl), .inl rfl⟩
  | isIn before after => exact membership_test_of_rejected rejected before after
  | isNotIn before after =>
      obtain ⟨reason, stopped, why⟩ := membership_test_of_rejected rejected before after
      exact ⟨reason, (negated_eq_error_iff _ _).mpr stopped, why⟩

/-! ## Integers with a text -/

def Spells (property : Property) : List Literal → List String → Prop :=
  List.Forall₂ fun literal text => ∃ value, Spelled property literal value text

/-- What is sent for a number in a place: its text, for a range as an integer of 64 bits, and in a
list between the texts of the other literals. -/
inductive SendsNumber (property : Property) (text : String) : LiteralPlace → Predicate → Prop
  | equal : SendsNumber property text .equal (.valueIs property.storageKey text)
  | notEqual : SendsNumber property text .notEqual (.negation (.valueIs property.storageKey text))
  | range (relation : RangeRelation) :
      SendsNumber property text (.range relation) (.range property.storageKey .long relation text)
  | isIn {before after : List Literal} {front back : List String}
      (beforeSpelled : Spells property before front) (afterSpelled : Spells property after back) :
      SendsNumber property text (.isIn before after)
        (.value property.storageKey (front ++ text :: back))
  | isNotIn {before after : List Literal} {front back : List String}
      (beforeSpelled : Spells property before front) (afterSpelled : Spells property after back) :
      SendsNumber property text (.isNotIn before after)
        (.negation (.value property.storageKey (front ++ text :: back)))

theorem each_member_text_eq_ok_iff (literals : List Literal) (texts : List String) :
    (each (memberText property) literals).outcome = .ok texts ↔ Spells property literals texts := by
  simp [each_eq_ok_iff, Spells]

theorem membership_test_eq_ok {text : String} {predicate : Predicate} {before after : List Literal}
    (written : (memberText property literal).outcome = .ok text)
    (ended : (membershipTest property (before ++ literal :: after)).outcome = .ok predicate) :
    ∃ front back, Spells property before front ∧ Spells property after back ∧
      predicate = .value property.storageKey (front ++ text :: back) := by
  rw [membershipTest, outcome_bind_pure, each_append, map_eq_ok_iff] at ended
  obtain ⟨texts, wholeEnded, rfl⟩ := ended
  obtain ⟨front, frontEnded, later⟩ := (bind_eq_ok_iff _ _ _).mp wholeEnded
  obtain ⟨others, othersEnded, joined⟩ := (bind_eq_ok_iff _ _ _).mp later
  obtain ⟨first, firstEnded, afterFirst⟩ := (bind_eq_ok_iff _ _ _).mp othersEnded
  obtain ⟨back, backEnded, consed⟩ := (bind_eq_ok_iff _ _ _).mp afterFirst
  obtain rfl : text = first := Except.ok.inj (written.symm.trans firstEnded)
  simp at consed joined
  subst consed joined
  exact ⟨front, back, (each_member_text_eq_ok_iff _ _).mp frontEnded,
    (each_member_text_eq_ok_iff _ _).mp backEnded, rfl⟩

theorem spelled_integer (noBoolean : property.declared.isBoolean = false) (integer : Int64) :
    Spelled property (.integer integer) (.long integer) (toString integer) :=
  ⟨of_literal_of_not_boolean noBoolean _,
    congrArg some (Number.write_int64_eq_to_string integer)⟩

theorem sends_number_of_test (noBoolean : property.declared.isBoolean = false) {integer : Int64}
    {predicate : Predicate}
    (ended : (place.test property (.integer integer)).outcome = .ok predicate) :
    SendsNumber property (toString integer) place predicate := by
  have spelled := spelled_integer noBoolean integer
  have written := (member_text_eq_ok_iff _ _ _).mpr ⟨_, spelled⟩
  have equality {predicate : Predicate}
      (ended : (equalityTest property (.integer integer)).outcome = .ok predicate) :
      .valueIs property.storageKey (toString integer) = predicate := by
    cases mixin : property.mixin with
    | true =>
        rw [equalityTest, if_pos mixin] at ended
        cases ended
    | false => exact Except.ok.inj ((equality_test_of_spelled spelled mixin).symm.trans ended)
  cases place with
  | equal =>
      rw [← equality ended]
      exact .equal
  | notEqual =>
      obtain ⟨part, partEnded, rfl⟩ := (negated_eq_ok_iff _ _).mp ended
      rw [← equality partEnded]
      exact .notEqual
  | range relation =>
      rw [← Except.ok.inj ((range_test_of_spelled spelled relation).symm.trans ended)]
      exact .range relation
  | isIn before after =>
      obtain ⟨front, back, frontSpelled, backSpelled, rfl⟩ := membership_test_eq_ok written ended
      exact .isIn frontSpelled backSpelled
  | isNotIn before after =>
      obtain ⟨part, partEnded, rfl⟩ := (negated_eq_ok_iff _ _).mp ended
      obtain ⟨front, back, frontSpelled, backSpelled, rfl⟩ :=
        membership_test_eq_ok written partEnded
      exact .isNotIn frontSpelled backSpelled

end LiteralPlace

def CompiledQuery.denied (compiled : CompiledQuery) : CompiledQuery :=
  { compiled with predicate := .negation compiled.predicate }

namespace Compiler

open Attempt Lowering LiteralPlace

variable (compiler : Compiler) (query : Query) (path : String)

def Selects : Prop := ∃ properties, (compiler.selection query.select).outcome = .ok properties

/-- Nothing but the literal in the place can be wrong: with true there the query compiles. -/
def OtherwiseValid (place : LiteralPlace) : Prop :=
  ∃ compiled, (compiler.compileAt query path place (.boolean true)).outcome = .ok compiled

/-- Zero asks for the absence of true, which only the two equalities can ask for. -/
structure ZeroAsksForAbsence (property : Property) : Prop where
  equalities : compiler.Selects query → ∃ one,
    (compiler.compileAt query path .equal (.integer 1)).outcome = .ok one ∧
      (compiler.compileAt query path .equal (.integer 0)).outcome = .ok one.denied ∧
      (compiler.compileAt query path .notEqual (.integer 0)).outcome = .ok one.denied.denied
  apart : ∀ one zero, (compiler.compileAt query path .equal (.integer 1)).outcome = .ok one →
    (compiler.compileAt query path .equal (.integer 0)).outcome = .ok zero →
      ∀ facts, zero.predicate.holds facts = !one.predicate.holds facts
  refused : ∀ place operation, needsValue place = some operation →
    compiler.OtherwiseValid query path place →
      (compiler.compileAt query path place (.integer 0)).outcome =
        .error (.rejected (.invalidTruthValue (.absenceTest property.path operation)))

/-- An integer is no truth value in any place. What is wrong before it in a list is met first, and
that is another such integer or a far date. -/
structure NoTruthValue (property : Property) (integer : Int64) : Prop where
  refused : ∀ place, compiler.OtherwiseValid query path place →
    (compiler.compileAt query path place (.integer integer)).outcome =
      .error (.rejected (.invalidTruthValue (.neitherZeroNorOne property.path integer)))
  stopped : compiler.Selects query → ∀ place : LiteralPlace, ∃ reason,
    (compiler.compileAt query path place (.integer integer)).outcome = .error reason ∧
      (reason.refusal = .rejection .invalidLiteral ∨
        (reason = .aborted ∧
          ∃ moment, .date moment ∈ place.earlier ∧ WireValue.IsFarDate moment))

/-- What integers are beside a boolean property. -/
structure IntegersAreTruthValues (property : Property) : Prop where
  valid : compiler.Selects query → ∀ place : LiteralPlace,
    (compiler.OtherwiseValid query path place ↔ place.OthersSpelled property)
  one : ∀ place, compiler.compileAt query path place (.integer 1) =
    compiler.compileAt query path place (.boolean true)
  zero_of_system : property.system = true → ∀ place,
    compiler.compileAt query path place (.integer 0) =
      compiler.compileAt query path place (.boolean false)
  zero_of_user : property.system = false → compiler.ZeroAsksForAbsence query path property
  others : ∀ integer, integer ≠ 0 → integer ≠ 1 →
    compiler.NoTruthValue query path property integer

/-- What integers are beside any other property. -/
structure IntegersAreNumbers (property : Property) : Prop where
  compiles : property.mixin = false → compiler.Selects query → ∀ integer (place : LiteralPlace),
    ((∃ compiled, (compiler.compileAt query path place (.integer integer)).outcome =
      .ok compiled) ↔ place.OthersSpelled property)
  sent : ∀ integer place compiled,
    (compiler.compileAt query path place (.integer integer)).outcome = .ok compiled →
      SendsNumber property (toString integer) place compiled.predicate

section

variable {compiler query path} {property : Property}
  (found : Property.resolve compiler.catalog compiler.settings.namespaceSeparator path =
    .ok property)

theorem selects_of_compiled {place : LiteralPlace} {literal : Literal} {compiled : CompiledQuery}
    (ended : (compiler.compileAt query path place literal).outcome = .ok compiled) :
    compiler.Selects query := by
  rw [compile_at_eq_test, bind_eq_ok_iff] at ended
  obtain ⟨properties, selected, -⟩ := ended
  exact ⟨properties, selected⟩

include found

theorem compile_at_eq_ok {properties : List Property}
    (selected : (compiler.selection query.select).outcome = .ok properties) {place : LiteralPlace}
    {literal : Literal} {predicate : Predicate}
    (tested : (place.test property literal).outcome = .ok predicate) :
    (compiler.compileAt query path place literal).outcome =
      .ok ⟨predicate, properties.map (extractPath compiler.settings)⟩ := by
  simp [compile_at_of_found found selected, tested, Except.map]

theorem compile_at_succeeds_iff (selects : compiler.Selects query) (place : LiteralPlace)
    (literal : Literal) :
    (∃ compiled, (compiler.compileAt query path place literal).outcome = .ok compiled) ↔
      ∃ predicate, (place.test property literal).outcome = .ok predicate := by
  obtain ⟨properties, selected⟩ := selects
  simp [compile_at_of_found found selected]

theorem compile_at_eq_error_iff (selects : compiler.Selects query) (place : LiteralPlace)
    (literal : Literal) (reason : Stop) :
    (compiler.compileAt query path place literal).outcome = .error reason ↔
      (place.test property literal).outcome = .error reason := by
  obtain ⟨properties, selected⟩ := selects
  simp [compile_at_of_found found selected]

section

variable (boolean : property.declared.isBoolean = true)

include boolean

theorem otherwise_valid_iff (selects : compiler.Selects query) (place : LiteralPlace) :
    compiler.OtherwiseValid query path place ↔ place.OthersSpelled property := by
  have noMixin := Property.mixin_of_boolean found boolean
  have spelledTrue : Spelled property (.boolean true) (.boolean true) "true" := ⟨rfl, rfl⟩
  rw [OtherwiseValid, compile_at_succeeds_iff found selects, test_succeeds_iff spelledTrue noMixin]

theorem others_spelled_of_valid {place : LiteralPlace}
    (valid : compiler.OtherwiseValid query path place) :
    compiler.Selects query ∧ place.OthersSpelled property := by
  obtain ⟨compiled, ended⟩ := valid
  have selects := selects_of_compiled ended
  exact ⟨selects, (otherwise_valid_iff found boolean selects place).mp ⟨compiled, ended⟩⟩

theorem zero_asks_for_absence (user : property.system = false) :
    compiler.ZeroAsksForAbsence query path property := by
  have noMixin := Property.mixin_of_boolean found boolean
  have triState : property.triState = true := by
    rw [Property.tri_state_of_resolve found, user, boolean]
    rfl
  have spelledOne : Spelled property (.integer 1) (.boolean true) "true" :=
    ⟨Comparand.of_literal_one boolean, rfl⟩
  have absent := Comparand.of_literal_zero_of_tri_state boolean triState
  have equalOne := equality_test_of_spelled spelledOne noMixin
  have equalZero : (equalityTest property (.integer 0)).outcome =
      .ok (.negation (.valueIs property.storageKey "true")) := by
    rw [equality_test_of_no_facet noMixin, absent]
    rfl
  have notEqualZero := (negated_eq_ok_iff _ _).mpr ⟨_, equalZero, rfl⟩
  have equalities : compiler.Selects query → ∃ one,
      (compiler.compileAt query path .equal (.integer 1)).outcome = .ok one ∧
        (compiler.compileAt query path .equal (.integer 0)).outcome = .ok one.denied ∧
        (compiler.compileAt query path .notEqual (.integer 0)).outcome =
          .ok one.denied.denied := by
    intro selects
    obtain ⟨properties, selected⟩ := selects
    exact ⟨_, compile_at_eq_ok found selected equalOne, compile_at_eq_ok found selected equalZero,
      compile_at_eq_ok found selected notEqualZero⟩
  constructor
  case equalities => exact equalities
  case apart =>
    intro one zero oneEnded zeroEnded facts
    obtain ⟨other, otherEnded, deniedEnded, -⟩ := equalities (selects_of_compiled oneEnded)
    obtain rfl : other = one := Except.ok.inj (otherEnded.symm.trans oneEnded)
    obtain rfl : other.denied = zero := Except.ok.inj (deniedEnded.symm.trans zeroEnded)
    exact Predicate.holds_negation facts other.predicate
  case refused =>
    intro place operation needs valid
    obtain ⟨selects, spelled⟩ := others_spelled_of_valid found boolean valid
    rw [compile_at_eq_error_iff found selects]
    exact test_of_absent needs absent spelled

theorem no_truth_value {integer : Int64} (notZero : integer ≠ 0) (notOne : integer ≠ 1) :
    compiler.NoTruthValue query path property integer := by
  have noMixin := Property.mixin_of_boolean found boolean
  have rejected := Comparand.of_literal_of_neither boolean notZero notOne
  constructor
  · intro place valid
    obtain ⟨selects, spelled⟩ := others_spelled_of_valid found boolean valid
    rw [compile_at_eq_error_iff found selects]
    exact test_of_rejected noMixin rejected spelled
  · intro selects place
    obtain ⟨reason, stopped, why⟩ := test_of_rejected_anywhere noMixin rejected
    exact ⟨reason, (compile_at_eq_error_iff found selects _ _ _).mpr stopped, why⟩

theorem integers_are_truth_values : compiler.IntegersAreTruthValues query path property := by
  have noMixin := Property.mixin_of_boolean found boolean
  constructor
  case valid => exact otherwise_valid_iff found boolean
  case one => exact compile_at_congr found noMixin (Comparand.of_literal_one boolean)
  case zero_of_system =>
    intro system
    have stored : property.triState = false := by
      rw [Property.tri_state_of_resolve found, system]
      rfl
    exact compile_at_congr found noMixin (Comparand.of_literal_zero_of_stored boolean stored)
  case zero_of_user => exact zero_asks_for_absence found boolean
  case others =>
    intro integer notZero notOne
    exact no_truth_value found boolean notZero notOne

end

theorem integers_are_numbers (noBoolean : property.declared.isBoolean = false) :
    compiler.IntegersAreNumbers query path property := by
  constructor
  · intro noMixin selects integer place
    rw [compile_at_succeeds_iff found selects,
      test_succeeds_iff (spelled_integer noBoolean integer) noMixin]
  · intro integer place compiled ended
    obtain ⟨properties, selected⟩ := selects_of_compiled ended
    rw [compile_at_of_found found selected] at ended
    simp at ended
    obtain ⟨predicate, tested, rfl⟩ := ended
    exact sends_number_of_test noBoolean tested

end

/-- On a property that is declared to be boolean, the integers one and zero are truth values in
every place of a comparison, and no other integer has a meaning. On any other property an integer
is sent as the number that it is. -/
theorem compile_of_integer (compiler : Compiler) (query : Query) {path : String}
    {property : Property}
    (found : Property.resolve compiler.catalog compiler.settings.namespaceSeparator path =
      .ok property) :
    (property.declared.isBoolean = true → compiler.IntegersAreTruthValues query path property) ∧
      (property.declared.isBoolean = false →
        compiler.IntegersAreNumbers query path property) :=
  ⟨integers_are_truth_values found, integers_are_numbers found⟩

def proxyProperty : Property :=
  ⟨"ecm:isProxy", "ecm.isProxy", .scalar .boolean, false, false, false, true⟩

/-- A flag of documents, one of the system, and a property that is no flag. -/
theorem compile_of_integer_notes :
    (noteCompiler.compileAt (.plain noted []) "note/*" (.isIn [.boolean false] [.string "a"])
        (.integer 1) =
      noteCompiler.compileAt (.plain noted []) "note/*" (.isIn [.boolean false] [.string "a"])
        (.boolean true)) ∧
      (noteCompiler.compileAt (.plain noted []) "note/*" (.range .less) (.integer 0)).outcome =
        .error (.rejected (.invalidTruthValue (.absenceTest "note/*" "LT"))) ∧
      (noteCompiler.compileAt (.plain noted []) "note/*" (.isNotIn [.integer 1] [])
          (.integer 2)).outcome =
        .error (.rejected (.invalidTruthValue (.neitherZeroNorOne "note/*" 2))) ∧
      (noteCompiler.compileAt (.plain noted []) "ecm:isProxy" .notEqual (.integer 0) =
        noteCompiler.compileAt (.plain noted []) "ecm:isProxy" .notEqual (.boolean false)) ∧
      SendsNumber titleProperty "-5" (.range .greater)
        (.range "dc.title" .long .greater "-5") := by
  have noteFound : Property.resolve noteCompiler.catalog noteCompiler.settings.namespaceSeparator
      "note/*" = .ok noteProperty := rfl
  have proxyFound : Property.resolve noteCompiler.catalog noteCompiler.settings.namespaceSeparator
      "ecm:isProxy" = .ok proxyProperty := rfl
  have titleFound : Property.resolve noteCompiler.catalog noteCompiler.settings.namespaceSeparator
      "dc:title" = .ok titleProperty := rfl
  have note := (compile_of_integer noteCompiler (.plain noted []) noteFound).1 rfl
  have proxy := (compile_of_integer noteCompiler (.plain noted []) proxyFound).1 rfl
  have title := (compile_of_integer noteCompiler (.plain noted []) titleFound).2 rfl
  refine ⟨note.one _, ?_, ?_, proxy.zero_of_system rfl _, ?_⟩
  · exact (note.zero_of_user rfl).refused (.range .less) "LT" rfl ⟨_, rfl⟩
  · exact (note.others 2 (by decide) (by decide)).refused (.isNotIn [.integer 1] []) ⟨_, rfl⟩
  · exact title.sent (-5) (.range .greater) ⟨_, []⟩ rfl

end Compiler

end DocumentQuery
