import DocumentQuery.Compile.Query
import DocumentQuery.Proofs.Compile.Test
import DocumentQuery.Proofs.Search.Elements

/-!
Two compilers side by side, at work on filters and selections that name corresponding paths. If
looking up corresponding paths finds corresponding properties or fails in corresponding ways, then
so does everything that compilation makes of them: nothing else in it asks for the catalog, the
settings or the spelling of a path, and a property counts only by its type, its canonical path and
the place of its storage key in the result.
-/

namespace DocumentQuery

namespace Operand

variable (paths : String → String → Prop)

mutual

/-- Operands that differ in the paths of their properties alone. -/
inductive Respelled : Operand → Operand → Prop
  | property {path other : String} (same : paths path other) :
      Respelled (.property path) (.property other)
  | literal (value : Literal) : Respelled (.literal value) (.literal value)
  | literals (values : List Literal) : Respelled (.literals values) (.literals values)
  | unary (operator : Operator) {operand other : Operand} (below : Respelled operand other) :
      Respelled (.unary operator operand) (.unary operator other)
  | binary (operator : Operator) {left right otherLeft otherRight : Operand}
      (leftBelow : Respelled left otherLeft) (rightBelow : Respelled right otherRight) :
      Respelled (.binary operator left right) (.binary operator otherLeft otherRight)
  | nary (operator : Operator) {operands others : List Operand}
      (below : EachRespelled operands others) :
      Respelled (.nary operator operands) (.nary operator others)

inductive EachRespelled : List Operand → List Operand → Prop
  | nil : EachRespelled [] []
  | cons {operand other : Operand} {rest others : List Operand}
      (first : Respelled operand other) (later : EachRespelled rest others) :
      EachRespelled (operand :: rest) (other :: others)

end

variable {paths}

mutual

theorem respelled_refl (same : ∀ path, paths path path) : ∀ operand : Operand,
    Respelled paths operand operand
  | property path => .property (same path)
  | literal value => .literal value
  | literals values => .literals values
  | unary operator operand => .unary operator (respelled_refl same operand)
  | binary operator left right =>
      .binary operator (respelled_refl same left) (respelled_refl same right)
  | nary operator operands => .nary operator (each_respelled_refl same operands)

theorem each_respelled_refl (same : ∀ path, paths path path) : ∀ operands : List Operand,
    EachRespelled paths operands operands
  | [] => .nil
  | operand :: rest => .cons (respelled_refl same operand) (each_respelled_refl same rest)

end

mutual

theorem eq_of_respelled : ∀ {operand other : Operand}, Respelled Eq operand other →
    operand = other
  | _, _, .property same => congrArg property same
  | _, _, .literal _ => rfl
  | _, _, .literals _ => rfl
  | _, _, .unary operator below => congrArg (unary operator) (eq_of_respelled below)
  | _, _, .binary operator leftBelow rightBelow =>
      congrArg₂ (binary operator) (eq_of_respelled leftBelow) (eq_of_respelled rightBelow)
  | _, _, .nary operator below => congrArg (nary operator) (eq_of_each_respelled below)

theorem eq_of_each_respelled : ∀ {operands others : List Operand},
    EachRespelled Eq operands others → operands = others
  | _, _, .nil => rfl
  | _, _, .cons first later =>
      congrArg₂ List.cons (eq_of_respelled first) (eq_of_each_respelled later)

end

mutual

theorem first_without_predicate_of_respelled : ∀ {operand other : Operand},
    Respelled paths operand other → operand.firstWithoutPredicate = other.firstWithoutPredicate
  | _, _, .property _ => rfl
  | _, _, .literal _ => rfl
  | _, _, .literals _ => rfl
  | _, _, .unary _ below => by
      rw [firstWithoutPredicate, firstWithoutPredicate, first_without_predicate_of_respelled below]
  | _, _, .binary _ leftBelow rightBelow => by
      rw [firstWithoutPredicate, firstWithoutPredicate,
        first_without_predicate_of_respelled leftBelow,
        first_without_predicate_of_respelled rightBelow]
  | _, _, .nary _ below => by
      rw [firstWithoutPredicate, firstWithoutPredicate,
        first_without_predicate_of_of_respelled below]

theorem first_without_predicate_of_of_respelled : ∀ {operands others : List Operand},
    EachRespelled paths operands others →
      firstWithoutPredicateOf operands = firstWithoutPredicateOf others
  | _, _, .nil => rfl
  | _, _, .cons first later => by
      rw [firstWithoutPredicateOf, firstWithoutPredicateOf,
        first_without_predicate_of_respelled first, first_without_predicate_of_of_respelled later]

end

theorem is_empty_of_each_respelled {operands others : List Operand}
    (below : EachRespelled paths operands others) : operands.isEmpty = others.isEmpty := by
  cases below with
  | nil => rfl
  | cons _ _ => rfl

end Operand

/-- The same question, of corresponding paths. -/
structure Query.Respelled (paths : String → String → Prop) (query other : Query) : Prop where
  filter : Operand.Respelled paths query.filter other.filter
  select : List.Forall₂ (Operand.Respelled paths) query.select other.select

theorem Query.respelled_refl {paths : String → String → Prop} (same : ∀ path, paths path path)
    (query : Query) : query.Respelled paths query where
  filter := Operand.respelled_refl same query.filter
  select := List.forall₂_same.mpr fun operand _ => Operand.respelled_refl same operand

namespace Attempt

inductive EndsAlike {First Second : Type} (stops : Stop → Stop → Prop)
    (results : First → Second → Prop) : Except Stop First → Except Stop Second → Prop
  | ok {result : First} {other : Second} (related : results result other) :
      EndsAlike stops results (.ok result) (.ok other)
  | error {reason other : Stop} (related : stops reason other) :
      EndsAlike stops results (.error reason) (.error other)

namespace EndsAlike

variable {First Second : Type} {stops : Stop → Stop → Prop} {results : First → Second → Prop}

theorem of_ok {result : First} {outcome : Except Stop Second}
    (alike : EndsAlike stops results (.ok result) outcome) :
    ∃ other, outcome = .ok other ∧ results result other := by
  cases alike with
  | ok related => exact ⟨_, rfl, related⟩

theorem error_iff {outcome : Except Stop First} {otherOutcome : Except Stop Second}
    (alike : EndsAlike Eq results outcome otherOutcome) (reason : Stop) :
    outcome = .error reason ↔ otherOutcome = .error reason := by
  cases alike with
  | ok related => simp
  | error same => simp [same]

theorem imp_stops {weaker : Stop → Stop → Prop} {outcome : Except Stop First}
    {otherOutcome : Except Stop Second} (alike : EndsAlike stops results outcome otherOutcome)
    (weaken : ∀ reason other, stops reason other → weaker reason other) :
    EndsAlike weaker results outcome otherOutcome := by
  cases alike with
  | ok related => exact .ok related
  | error related => exact .error (weaken _ _ related)

theorem imp {weaker : First → Second → Prop} {outcome : Except Stop First}
    {otherOutcome : Except Stop Second} (alike : EndsAlike stops results outcome otherOutcome)
    (weaken : ∀ result other, results result other → weaker result other) :
    EndsAlike stops weaker outcome otherOutcome := by
  cases alike with
  | ok related => exact .ok (weaken _ _ related)
  | error related => exact .error related

end EndsAlike

/-- Two attempts that find related properties in the same order and end alike. -/
structure Alike {First Second : Type} (stops : Stop → Stop → Prop)
    (properties : Property → Property → Prop) (results : First → Second → Prop)
    (attempt : Attempt First) (other : Attempt Second) : Prop where
  found : List.Forall₂ (fun resolution otherResolution =>
    properties resolution.property otherResolution.property) attempt.resolutions other.resolutions
  ended : EndsAlike stops results attempt.outcome other.outcome

section

variable {First Second Third Fourth : Type} {stops : Stop → Stop → Prop}
  {properties : Property → Property → Prop}

theorem alike_done {results : First → Second → Prop} {result : First} {other : Second}
    (related : results result other) : Alike stops properties results (done result) (done other) :=
  ⟨.nil, .ok related⟩

theorem alike_pure {results : First → Second → Prop} {result : First} {other : Second}
    (related : results result other) : Alike stops properties results (pure result) (pure other) :=
  alike_done related

theorem alike_stop {results : First → Second → Prop} {reason other : Stop}
    (related : stops reason other) :
    Alike stops properties results (stop reason : Attempt First) (stop other : Attempt Second) :=
  ⟨.nil, .error related⟩

theorem alike_reject {results : First → Second → Prop} {rejection other : Rejection}
    (related : stops (.rejected rejection) (.rejected other)) :
    Alike stops properties results (reject rejection : Attempt First)
      (reject other : Attempt Second) :=
  alike_stop related

theorem alike_bind {middles : First → Second → Prop} {results : Third → Fourth → Prop}
    {attempt : Attempt First} {other : Attempt Second} {next : First → Attempt Third}
    {otherNext : Second → Attempt Fourth} (first : Alike stops properties middles attempt other)
    (later : ∀ middle otherMiddle, middles middle otherMiddle →
      Alike stops properties results (next middle) (otherNext otherMiddle)) :
    Alike stops properties results (attempt >>= next) (other >>= otherNext) := by
  obtain ⟨resolutions, outcome⟩ := attempt
  obtain ⟨otherResolutions, otherOutcome⟩ := other
  obtain ⟨found, ended⟩ := first
  cases ended with
  | ok related =>
      obtain ⟨laterFound, laterEnded⟩ := later _ _ related
      simpa using ⟨List.rel_append found laterFound, laterEnded⟩
  | error related => simpa using ⟨found, .error related⟩

theorem alike_bind_same {results : Third → Fourth → Prop} {attempt other : Attempt First}
    {next : First → Attempt Third} {otherNext : First → Attempt Fourth}
    (first : Alike stops properties Eq attempt other)
    (later : ∀ middle, Alike stops properties results (next middle) (otherNext middle)) :
    Alike stops properties results (attempt >>= next) (other >>= otherNext) := by
  apply alike_bind first
  intro middle _ same
  rw [← same]
  exact later middle

theorem alike_each {items : Third → Fourth → Prop} {results : First → Second → Prop}
    {step : Third → Attempt First} {otherStep : Fourth → Attempt Second}
    (steps : ∀ item other, items item other →
      Alike stops properties results (step item) (otherStep other))
    {list : List Third} {otherList : List Fourth} (related : List.Forall₂ items list otherList) :
    Alike stops properties (List.Forall₂ results) (each step list) (each otherStep otherList) := by
  induction related with
  | nil => exact alike_done .nil
  | cons first _ induction =>
      apply alike_bind (steps _ _ first)
      intro result other related
      apply alike_bind induction
      intro results others relatedLater
      exact alike_pure (.cons related relatedLater)

theorem alike_of_quiet (sameStop : ∀ reason, stops reason reason) {attempt : Attempt First}
    (quiet : attempt.resolutions = []) : Alike stops properties Eq attempt attempt := by
  obtain ⟨resolutions, outcome⟩ := attempt
  obtain rfl : resolutions = [] := quiet
  cases outcome with
  | ok result => exact alike_done rfl
  | error reason => exact alike_stop (sameStop reason)

end

end Attempt

/-- Two properties that are tested alike, with storage keys that correspond. -/
structure Property.TestedAlike (key : String → String) (property other : Property) : Prop where
  path_eq : other.path = property.path
  storageKey_eq : other.storageKey = key property.storageKey
  declared_eq : other.declared = property.declared
  triState_eq : other.triState = property.triState
  mixin_eq : other.mixin = property.mixin

/-- What corresponds to what in two compilers. Corresponding paths have to be looked up alike, and
an operand in the wrong place has to be reported alike under corresponding paths. -/
structure Correspondence (compiler other : Compiler) where
  paths : String → String → Prop
  properties : Property → Property → Prop
  stops : Stop → Stop → Prop
  /-- The storage key that takes the place of another. -/
  key : String → String
  /-- The path to extract that takes the place of another. -/
  extract : String → String
  resolves : ∀ {path otherPath : String}, paths path otherPath →
    Attempt.Alike stops properties properties (compiler.resolve path) (other.resolve otherPath)
  tested : ∀ {property otherProperty : Property}, properties property otherProperty →
    property.TestedAlike key otherProperty
  extracts : ∀ {property otherProperty : Property}, properties property otherProperty →
    Compiler.extractPath other.settings otherProperty =
      extract (Compiler.extractPath compiler.settings property)
  sameStop : ∀ reason, stops reason reason
  misfit : ∀ (fault : String → QueryFault) {operand otherOperand : Operand},
    Operand.Respelled paths operand otherOperand →
      stops (.rejected (.invalidQuery (fault operand.describe)))
        (.rejected (.invalidQuery (fault otherOperand.describe)))

namespace Comparand

variable {key : String → String} {property other : Property}

theorem of_literal_of_tested_alike (alike : property.TestedAlike key other) (literal : Literal) :
    ofLiteral other literal = ofLiteral property literal := by
  cases literal with
  | integer integer =>
      simp only [ofLiteral, ofInteger, alike.declared_eq, alike.triState_eq, alike.path_eq]
  | boolean _ | date _ | double _ | string _ => rfl

theorem present_of_tested_alike (alike : property.TestedAlike key other) (operation : String)
    (comparand : Comparand) :
    comparand.present other operation = comparand.present property operation := by
  cases comparand with
  | value _ => rfl
  | absent => rw [present, present, alike.path_eq]

end Comparand

namespace Lowering

open Attempt

variable {compiler other : Compiler} (same : Correspondence compiler other)

/-- Two lowered filters, of which the second one is the first one about corresponding elements. -/
def LoweredAlike (attempt otherAttempt : Attempt Predicate) : Prop :=
  Alike same.stops same.properties
    (fun predicate otherPredicate => otherPredicate = predicate.mapElements same.key)
    attempt otherAttempt

variable {same} {left otherLeft : Operand} {right otherRight : Option Operand}

theorem property_of_alike (leftAlike : Operand.Respelled same.paths left otherLeft) :
    Alike same.stops same.properties same.properties
      (propertyOf compiler.catalog compiler.settings left)
      (propertyOf other.catalog other.settings otherLeft) := by
  have misfit : Alike same.stops same.properties same.properties (reject _ : Attempt Property)
      (reject _) := alike_reject (same.misfit .notProperty leftAlike)
  cases leftAlike with
  | property paths => exact same.resolves paths
  | literal _ | literals _ | unary _ _ | binary _ _ _ | nary _ _ => exact misfit

theorem literal_of_alike (operator : Operator)
    (rightAlike : Option.Rel (Operand.Respelled same.paths) right otherRight) :
    Alike same.stops same.properties Eq (literalOf operator right)
      (literalOf operator otherRight) := by
  cases rightAlike with
  | none => exact alike_reject (same.sameStop _)
  | some below =>
      have misfit : Alike same.stops same.properties Eq (reject _ : Attempt Literal) (reject _) :=
        alike_reject (same.misfit (.notLiteral operator) below)
      cases below with
      | literal value => exact alike_done rfl
      | property _ | literals _ | unary _ _ | binary _ _ _ | nary _ _ => exact misfit

theorem literals_of_alike (operator : Operator)
    (rightAlike : Option.Rel (Operand.Respelled same.paths) right otherRight) :
    Alike same.stops same.properties Eq (literalsOf operator right)
      (literalsOf operator otherRight) := by
  cases rightAlike with
  | none => exact alike_reject (same.sameStop _)
  | some below =>
      have misfit : Alike same.stops same.properties Eq (reject _ : Attempt (List Literal))
          (reject _) := alike_reject (same.misfit (.notLiteralList operator) below)
      cases below with
      | literals values => exact alike_done rfl
      | property _ | literal _ | unary _ _ | binary _ _ _ | nary _ _ => exact misfit

variable {property otherProperty : Property}

theorem reject_mixin_alike (tested : property.TestedAlike same.key otherProperty)
    (rightAlike : Option.Rel (Operand.Respelled same.paths) right otherRight) :
    LoweredAlike same (rejectMixin property right) (rejectMixin otherProperty otherRight) := by
  have equality := same.sameStop (.rejected (.unsupported (.equality property.path)))
  have wrongType := same.sameStop (.rejected (.invalidQuery (.stringRequired property.path)))
  unfold rejectMixin
  rw [tested.path_eq]
  cases rightAlike with
  | none => exact alike_reject wrongType
  | some below =>
      cases below with
      | literal value =>
          cases value with
          | string _ => exact alike_reject equality
          | boolean _ | date _ | double _ | integer _ => exact alike_reject wrongType
      | property _ | literals _ | unary _ _ | binary _ _ _ | nary _ _ =>
          exact alike_reject wrongType

theorem quiet_alike {Result : Type} {attempt : Attempt Result} (quiet : attempt.resolutions = [])
    {next otherNext : Result → Attempt Predicate}
    (later : ∀ result, LoweredAlike same (next result) (otherNext result)) :
    LoweredAlike same (attempt >>= next) (attempt >>= otherNext) :=
  alike_bind_same (alike_of_quiet same.sameStop quiet) later

theorem existence_alike (leftAlike : Operand.Respelled same.paths left otherLeft) :
    LoweredAlike same (existence compiler.catalog compiler.settings left)
      (existence other.catalog other.settings otherLeft) := by
  apply alike_bind (property_of_alike leftAlike)
  intro property otherProperty related
  rw [(same.tested related).storageKey_eq]
  exact alike_pure rfl

theorem negated_alike {attempt otherAttempt : Attempt Predicate}
    (alike : LoweredAlike same attempt otherAttempt) :
    LoweredAlike same (negated attempt) (negated otherAttempt) := by
  apply alike_bind alike
  intro predicate _ related
  cases related
  exact alike_pure rfl

theorem member_text_of_tested_alike {key : String → String}
    (tested : property.TestedAlike key otherProperty) :
    memberText otherProperty = memberText property := by
  funext literal
  simp only [memberText, Comparand.of_literal_of_tested_alike tested,
    Comparand.present_of_tested_alike tested]

section

variable (leftAlike : Operand.Respelled same.paths left otherLeft)
  (rightAlike : Option.Rel (Operand.Respelled same.paths) right otherRight)

include leftAlike rightAlike

theorem equality_alike (operator : Operator) :
    LoweredAlike same (equality compiler.catalog compiler.settings operator left right)
      (equality other.catalog other.settings operator otherLeft otherRight) := by
  apply alike_bind (property_of_alike leftAlike)
  intro property otherProperty related
  have tested := same.tested related
  rw [tested.mixin_eq]
  split
  · exact reject_mixin_alike tested rightAlike
  · apply alike_bind_same (literal_of_alike operator rightAlike)
    intro literal
    rw [Comparand.of_literal_of_tested_alike tested]
    apply quiet_alike (of_literal_yields _ _).resolutions_eq
    intro comparand
    rw [tested.storageKey_eq]
    cases comparand with
    | value value =>
        apply quiet_alike (wire_text_yields value).resolutions_eq
        intro text
        exact alike_pure rfl
    | absent => exact alike_pure rfl

theorem range_alike (operator : Operator) (relation : RangeRelation) :
    LoweredAlike same (range compiler.catalog compiler.settings operator relation left right)
      (range other.catalog other.settings operator relation otherLeft otherRight) := by
  apply alike_bind (property_of_alike leftAlike)
  intro property otherProperty related
  have tested := same.tested related
  apply alike_bind_same (literal_of_alike operator rightAlike)
  intro literal
  rw [Comparand.of_literal_of_tested_alike tested]
  apply quiet_alike (of_literal_yields _ _).resolutions_eq
  intro comparand
  rw [Comparand.present_of_tested_alike tested]
  apply quiet_alike (present_yields _ _ _).resolutions_eq
  intro value
  apply quiet_alike (wire_text_yields value).resolutions_eq
  intro text
  rw [tested.storageKey_eq]
  exact alike_pure rfl

theorem membership_alike (operator : Operator) :
    LoweredAlike same (membership compiler.catalog compiler.settings operator left right)
      (membership other.catalog other.settings operator otherLeft otherRight) := by
  apply alike_bind (property_of_alike leftAlike)
  intro property otherProperty related
  have tested := same.tested related
  apply alike_bind_same (literals_of_alike operator rightAlike)
  intro literals
  rw [member_text_of_tested_alike tested, tested.path_eq, tested.storageKey_eq]
  split
  · exact alike_reject (same.sameStop _)
  · apply quiet_alike (yields_each (member_text_yields property) literals).resolutions_eq
    intro texts
    exact alike_pure rfl

theorem comparison_alike (operator : Operator) :
    LoweredAlike same (comparison compiler.catalog compiler.settings operator left right)
      (comparison other.catalog other.settings operator otherLeft otherRight) := by
  cases operator with
  | equal => exact equality_alike leftAlike rightAlike .equal
  | notEqual => exact negated_alike (equality_alike leftAlike rightAlike .notEqual)
  | less => exact range_alike leftAlike rightAlike .less .less
  | greater => exact range_alike leftAlike rightAlike .greater .greater
  | lessEqual => exact range_alike leftAlike rightAlike .lessEqual .lessEqual
  | greaterEqual => exact range_alike leftAlike rightAlike .greaterEqual .greaterEqual
  | isIn => exact membership_alike leftAlike rightAlike .isIn
  | isNotIn => exact negated_alike (membership_alike leftAlike rightAlike .isNotIn)
  | isNull => exact negated_alike (existence_alike leftAlike)
  | isNotNull => exact existence_alike leftAlike
  | sum | sub | mul | div | like | caselessLike | between | notLike | notCaselessLike
  | notBetween | startsWith | and | or | not => exact alike_reject (same.sameStop _)

end

theorem map_elements_combine (form : String → String) (operator : Operator)
    (parts : List Predicate) :
    (combine operator parts).mapElements form =
      combine operator (parts.map (Predicate.mapElements form)) := by
  unfold combine
  split <;> rw [Predicate.mapElements, Predicate.map_elements_of_eq_map]

theorem map_elements_combine_several (form : String → String) (operator : Operator)
    (parts : List Predicate) :
    (combineSeveral operator parts).mapElements form =
      combineSeveral operator (parts.map (Predicate.mapElements form)) := by
  rcases parts with _ | ⟨first, _ | ⟨second, rest⟩⟩
  · exact map_elements_combine form operator []
  · rfl
  · exact map_elements_combine form operator (first :: second :: rest)

mutual

/-- Corresponding filters are lowered alike. The recursion is on the two filters at once. -/
theorem expression_alike (misfit : String → QueryFault) : ∀ {operand otherOperand : Operand},
    Operand.Respelled same.paths operand otherOperand →
      LoweredAlike same (expression compiler.catalog compiler.settings misfit operand)
        (expression other.catalog other.settings misfit otherOperand)
  | _, _, .property paths => by
      rw [expression, expression]
      exact alike_reject (same.misfit misfit (.property paths))
  | _, _, .literal value => by
      rw [expression, expression]
      exact alike_reject (same.sameStop _)
  | _, _, .literals values => by
      rw [expression, expression]
      exact alike_reject (same.sameStop _)
  | _, _, .unary operator below => by
      rw [expression, expression]
      split
      · exact expression_alike .notExpression below
      · split
        · exact negated_alike (expression_alike .notExpression below)
        · exact comparison_alike below .none operator
  | _, _, .binary operator leftBelow rightBelow => by
      rw [expression, expression]
      split
      · apply alike_bind (expression_alike .notExpression leftBelow)
        intro first _ firstRelated
        cases firstRelated
        apply alike_bind (expression_alike .notExpression rightBelow)
        intro second _ secondRelated
        cases secondRelated
        exact alike_pure (map_elements_combine _ operator [first, second]).symm
      · split
        · exact negated_alike (expression_alike .notExpression leftBelow)
        · exact comparison_alike leftBelow (.some rightBelow) operator
  | _, _, .nary operator below => by
      rw [expression, expression, Operand.is_empty_of_each_respelled below]
      split
      · exact alike_reject (same.sameStop _)
      · split
        · exact alike_reject (same.sameStop _)
        · apply alike_bind (expressions_alike below)
          intro parts _ related
          cases related
          exact alike_pure (map_elements_combine_several _ operator parts).symm

theorem expressions_alike : ∀ {operands others : List Operand},
    Operand.EachRespelled same.paths operands others →
      Alike same.stops same.properties
        (fun parts otherParts => otherParts = parts.map (Predicate.mapElements same.key))
        (expressions compiler.catalog compiler.settings operands)
        (expressions other.catalog other.settings others)
  | _, _, .nil => by
      rw [expressions, expressions]
      exact alike_done rfl
  | _, _, .cons first later => by
      rw [expressions, expressions]
      apply alike_bind (expression_alike .notExpression first)
      intro predicate _ related
      cases related
      apply alike_bind (expressions_alike later)
      intro predicates _ laterRelated
      cases laterRelated
      exact alike_pure rfl

end

end Lowering

namespace Compiler

open Attempt

variable {compiler other : Compiler} (same : Correspondence compiler other)

theorem selected_alike {operand otherOperand : Operand}
    (alike : Operand.Respelled same.paths operand otherOperand) :
    Alike same.stops same.properties same.properties (compiler.selected operand)
      (other.selected otherOperand) := by
  have misfit : Alike same.stops same.properties same.properties (reject _ : Attempt Property)
      (reject _) := alike_reject (same.misfit .selectsOperand alike)
  cases alike with
  | property paths => exact same.resolves paths
  | literal _ | literals _ | unary _ _ | binary _ _ _ | nary _ _ => exact misfit

theorem selection_alike {select otherSelect : List Operand}
    (alike : List.Forall₂ (Operand.Respelled same.paths) select otherSelect) :
    Alike same.stops same.properties (List.Forall₂ same.properties) (compiler.selection select)
      (other.selection otherSelect) := by
  apply alike_each _ alike
  intro operand otherOperand related
  exact selected_alike same related

theorem check_operators_alike {filter otherFilter : Operand}
    (alike : Operand.Respelled same.paths filter otherFilter) :
    Alike same.stops same.properties Eq (checkOperators filter) (checkOperators otherFilter) := by
  rw [checkOperators, checkOperators, Operand.first_without_predicate_of_respelled alike]
  split
  · exact alike_reject (same.sameStop _)
  · exact alike_done rfl

/-- The second query is compiled as the first one, about corresponding elements and paths. -/
theorem compile_alike {query otherQuery : Query} (alike : query.Respelled same.paths otherQuery) :
    Alike same.stops same.properties
      (fun compiled otherCompiled => otherCompiled =
        ⟨compiled.predicate.mapElements same.key, compiled.extractPaths.map same.extract⟩)
      (compiler.compile query) (other.compile otherQuery) := by
  apply alike_bind (selection_alike same alike.select)
  intro selected otherSelected related
  apply alike_bind_same (check_operators_alike same alike.filter)
  intro _
  apply alike_bind (Lowering.expression_alike .notBoolean alike.filter)
  intro predicate _ lowered
  cases lowered
  have extracted : otherSelected.map (extractPath other.settings) =
      (selected.map (extractPath compiler.settings)).map same.extract := by
    induction related with
    | nil => rfl
    | cons first _ induction =>
        rw [List.map_cons, List.map_cons, List.map_cons, same.extracts first, induction]
  rw [extracted]
  exact alike_pure rfl

end Compiler

end DocumentQuery
