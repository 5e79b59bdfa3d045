import DocumentQuery.Proofs.Compile.Exchange

/-!
Membership in a list against equality with each of its literals. On a property other than the
facets, a membership tests for the texts that the equalities test for. It fails where the first
equality fails, or where an equality with zero denies a text instead of testing for one.
-/

namespace DocumentQuery

namespace Lowering

open Attempt

variable {catalog : Catalog} {settings : Settings} {path : String} {property : Property}

theorem outcome_of_found {Result : Type}
    (found : Property.resolve catalog settings.namespaceSeparator path = .ok property)
    (next : Property → Attempt Result) :
    (propertyOf catalog settings (.property path) >>= next).outcome = (next property).outcome := by
  have named := (resolve_eq_ok_iff catalog settings path property).mpr found
  simp [propertyOf, named]

theorem outcome_of_missed {Result : Type} {rejection : Rejection}
    (missed : Property.resolve catalog settings.namespaceSeparator path = .error rejection)
    (next : Property → Attempt Result) :
    (propertyOf catalog settings (.property path) >>= next).outcome =
      .error (.rejected rejection) := by
  have stopped := (resolve_eq_error_iff catalog settings path rejection).mpr missed
  simp [propertyOf, stopped]

def testOf (property : Property) : Comparand → Attempt Predicate
  | .value value => wireText value >>= fun text => pure (.valueIs property.storageKey text)
  | .absent => pure (.negation (.valueIs property.storageKey "true"))

theorem equality_of_found
    (found : Property.resolve catalog settings.namespaceSeparator path = .ok property)
    (noMixin : property.mixin = false) (operator : Operator) (literal : Literal) :
    (equality catalog settings operator (.property path) (some (.literal literal))).outcome =
      (ofExcept (Comparand.ofLiteral property literal) >>= testOf property).outcome := by
  rw [equality, outcome_of_found found, if_neg (by rw [noMixin]; exact Bool.false_ne_true)]
  rfl

end Lowering

namespace Compiler

variable (compiler : Compiler) (query : Query) (path : String)

/-- What a query gives when its filter compares a path with a literal. -/
def equalTo (literal : Literal) : Except Stop CompiledQuery :=
  (compiler.compile (query.withFilter (.compare path .equal literal))).outcome

/-- What a query gives when its filter looks for a path among literals. -/
def amongst (literals : List Literal) : Except Stop CompiledQuery :=
  (compiler.compile (query.withFilter (.member path .isIn literals))).outcome

def TestsTexts (literal : Literal) : Prop :=
  ∃ element texts paths, compiler.equalTo query path literal = .ok ⟨.value element texts, paths⟩

/-- Why a literal cannot stand in a list: the equality with it fails, or it is a zero that asks for
the absence of true. -/
inductive Offends (literal : Literal) : Stop → Prop
  | fault {reason : Stop} (equality : compiler.equalTo query path literal = .error reason) :
      Offends literal reason
  | absence {property : Property} {paths : List String} (zero : literal = .integer 0)
      (found : Property.resolve compiler.catalog compiler.settings.namespaceSeparator path =
        .ok property)
      (boolean : property.isUserBoolean = true)
      (equality : compiler.equalTo query path literal =
        .ok ⟨.negation (.valueIs property.storageKey "true"), paths⟩) :
      Offends literal
        (.rejected (.invalidTruthValue (.absenceTest property.path Operator.isIn.tag)))

/-- What a literal comes to in a list, if the list is about an element and the paths are selected
that are given. -/
inductive Stands (element : String) (paths : List String) (literal : Literal) :
    Except Stop String → Prop
  | text {text : String}
      (equality : compiler.equalTo query path literal = .ok ⟨.valueIs element text, paths⟩) :
      Stands element paths literal (.ok text)
  | offends {reason : Stop} (offends : compiler.Offends query path literal reason) :
      Stands element paths literal (.error reason)

variable {compiler query path} {element : String} {paths : List String} {literal : Literal}

theorem not_tests_texts_of_offends {reason : Stop}
    (offends : compiler.Offends query path literal reason) :
    ¬compiler.TestsTexts query path literal := by
  intro tests
  rcases tests with ⟨tested, texts, selected, tests⟩
  cases offends with
  | fault equality =>
      rw [tests] at equality
      cases equality
  | absence _ _ _ equality =>
      rw [tests] at equality
      cases equality

theorem offends_unique {reason other : Stop}
    (offends : compiler.Offends query path literal reason)
    (otherOffends : compiler.Offends query path literal other) : reason = other := by
  cases offends with
  | fault equality =>
      cases otherOffends with
      | fault otherEquality => exact Except.error.inj (equality.symm.trans otherEquality)
      | absence _ _ _ otherEquality => cases equality.symm.trans otherEquality
  | absence _ found _ equality =>
      cases otherOffends with
      | fault otherEquality => cases equality.symm.trans otherEquality
      | absence _ otherFound _ _ => rw [Except.ok.inj (found.symm.trans otherFound)]

namespace Stands

variable {outcome : Except Stop String}
  (stands : compiler.Stands query path element paths literal outcome)

include stands

theorem ok_iff (text : String) :
    outcome = .ok text ↔
      compiler.equalTo query path literal = .ok ⟨.valueIs element text, paths⟩ := by
  cases stands with
  | text equality => simp [equality, Predicate.valueIs]
  | offends offends =>
      constructor
      · intro impossible
        cases impossible
      · intro equality
        exact absurd ⟨element, [text], paths, equality⟩ (not_tests_texts_of_offends offends)

theorem succeeds_iff : (∃ text, outcome = .ok text) ↔ compiler.TestsTexts query path literal := by
  cases stands with
  | text equality => exact ⟨fun _ => ⟨_, _, _, equality⟩, fun _ => ⟨_, rfl⟩⟩
  | offends offends => simp [not_tests_texts_of_offends offends]

theorem error_iff (reason : Stop) :
    outcome = .error reason ↔ compiler.Offends query path literal reason := by
  cases stands with
  | text equality =>
      constructor
      · intro impossible
        cases impossible
      · intro offends
        exact absurd ⟨element, _, paths, equality⟩ (not_tests_texts_of_offends offends)
  | offends offends =>
      constructor
      · intro same
        rw [← Except.error.inj same]
        exact offends
      · intro other
        rw [offends_unique offends other]

end Stands

/-! ## Lowering the two -/

section

variable {property : Property} {properties : List Property}
  (selected : (compiler.selection query.select).outcome = .ok properties)

include selected

theorem equal_to_of_selected (literal : Literal) :
    compiler.equalTo query path literal =
      (Lowering.equality compiler.catalog compiler.settings .equal (.property path)
        (some (.literal literal))).outcome.map fun predicate =>
          ⟨predicate, properties.map (extractPath compiler.settings)⟩ := by
  have lowered : compiler.lower (.compare path .equal literal) = _ :=
    Lowering.expression_asking (by decide) _ _ _ (.property path) (some (.literal literal))
  have isExpression : (Operand.compare path .equal literal).IsExpression := trivial
  rw [equalTo, compile_eq_lower selected isExpression rfl, lowered]
  rfl

theorem amongst_of_selected (literals : List Literal) :
    compiler.amongst query path literals =
      (Lowering.membership compiler.catalog compiler.settings .isIn (.property path)
        (some (.literals literals))).outcome.map fun predicate =>
          ⟨predicate, properties.map (extractPath compiler.settings)⟩ := by
  have lowered : compiler.lower (.member path .isIn literals) = _ :=
    Lowering.expression_asking (by decide) _ _ _ (.property path) (some (.literals literals))
  have isExpression : (Operand.member path .isIn literals).IsExpression := trivial
  rw [amongst, compile_eq_lower selected isExpression rfl, lowered]
  rfl

variable (found : Property.resolve compiler.catalog compiler.settings.namespaceSeparator path =
  .ok property)

include found

theorem equal_to_of_found (noMixin : property.mixin = false) (literal : Literal) :
    compiler.equalTo query path literal =
      (Attempt.ofExcept (Comparand.ofLiteral property literal) >>=
        Lowering.testOf property).outcome.map fun predicate =>
          ⟨predicate, properties.map (extractPath compiler.settings)⟩ := by
  rw [equal_to_of_selected selected, Lowering.equality_of_found found noMixin]

theorem amongst_of_found {literals : List Literal} (nonempty : literals ≠ []) :
    compiler.amongst query path literals =
      (Attempt.each (Lowering.memberText property) literals).outcome.map fun texts =>
        ⟨.value property.storageKey texts, properties.map (extractPath compiler.settings)⟩ := by
  obtain ⟨first, rest, rfl⟩ := List.exists_cons_of_ne_nil nonempty
  rw [amongst_of_selected selected, Lowering.membership_of_literals,
    Lowering.outcome_of_found found, Attempt.outcome_bind_pure]
  cases (Attempt.each (Lowering.memberText property) (first :: rest)).outcome <;> rfl

theorem amongst_nil_of_found :
    compiler.amongst query path [] =
      .error (.rejected (.invalidQuery (.emptyLiteralList .isIn property.path))) := by
  rw [amongst_of_selected selected, Lowering.membership, Lowering.outcome_of_found found]
  rfl

/-- A literal comes to a text in a list if the equality with it tests for that text. -/
theorem stands_member_text (noMixin : property.mixin = false) (literal : Literal) :
    compiler.Stands query path property.storageKey
      (properties.map (extractPath compiler.settings)) literal
      (Lowering.memberText property literal).outcome := by
  have equality := equal_to_of_found selected found noMixin literal
  rw [Lowering.memberText]
  cases coerced : Comparand.ofLiteral property literal with
  | error rejection =>
      rw [coerced] at equality
      exact .offends (.fault equality)
  | ok comparand =>
      rw [coerced] at equality
      cases comparand with
      | absent =>
          have triState := Property.tri_state_of_resolve found
          obtain ⟨boolean, zero⟩ := Comparand.zero_of_absent coerced triState
          exact .offends (.absence zero found boolean equality)
      | value value =>
          have tested : Attempt.ofExcept (.ok (.value value)) >>= Lowering.testOf property =
              Lowering.wireText value >>= fun text =>
                pure (Predicate.valueIs property.storageKey text) := pure_bind _ _
          rw [tested, Attempt.outcome_bind_pure] at equality
          change compiler.Stands query path _ _ literal (Lowering.wireText value).outcome
          cases ended : (Lowering.wireText value).outcome with
          | error reason =>
              rw [ended] at equality
              exact .offends (.fault equality)
          | ok text =>
              rw [ended] at equality
              exact .text equality

end

theorem amongst_eq_each_of_stopped {reason : Stop}
    (equality : ∀ literal, compiler.equalTo query path literal = .error reason)
    {literals : List Literal} (nonempty : literals ≠ [])
    (membership : compiler.amongst query path literals = .error reason) :
    ∃ element paths step, (∀ literal, compiler.Stands query path element paths literal
        (step literal : Attempt String).outcome) ∧
      compiler.amongst query path literals =
        (Attempt.each step literals).outcome.map fun texts => ⟨.value element texts, paths⟩ := by
  refine ⟨"", [], fun _ => Attempt.stop reason, fun literal => .offends (.fault (equality literal)),
    ?_⟩
  -- Some literal has to be there to offend: an empty list stops nowhere.
  obtain ⟨first, rest, rfl⟩ := List.exists_cons_of_ne_nil nonempty
  rw [membership]
  rfl

/-- A membership goes through its literals one by one and comes to each as an equality does. -/
theorem amongst_eq_each (noMixin : ∀ property,
      Property.resolve compiler.catalog compiler.settings.namespaceSeparator path = .ok property →
        property.mixin = false) {literals : List Literal} (nonempty : literals ≠ []) :
    ∃ element paths step, (∀ literal, compiler.Stands query path element paths literal
        (step literal : Attempt String).outcome) ∧
      compiler.amongst query path literals =
        (Attempt.each step literals).outcome.map fun texts => ⟨.value element texts, paths⟩ := by
  cases selected : (compiler.selection query.select).outcome with
  | error reason =>
      have stopped (filter : Operand) :
          (compiler.compile (query.withFilter filter)).outcome = .error reason := by
        have whole : compiler.compile (query.withFilter filter) = _ := compile_of_selection selected
        rw [whole]
      exact amongst_eq_each_of_stopped (fun literal => stopped _) nonempty (stopped _)
  | ok properties =>
      cases found : Property.resolve compiler.catalog compiler.settings.namespaceSeparator path with
      | ok property =>
          exact ⟨_, _, _, stands_member_text selected found (noMixin property found),
            amongst_of_found selected found nonempty⟩
      | error rejection =>
          have equality (literal : Literal) :
              compiler.equalTo query path literal = .error (.rejected rejection) := by
            rw [equal_to_of_selected selected, Lowering.equality, Lowering.outcome_of_missed found]
            rfl
          apply amongst_eq_each_of_stopped equality nonempty
          rw [amongst_of_selected selected, Lowering.membership, Lowering.outcome_of_missed found]
          rfl

/-- On a property other than the facets, a path is looked for among literals exactly if it can be
compared with each of them by a test for texts, and then the texts of these tests are looked for in
their order. Otherwise the first literal that cannot stand in the list says why. An empty list
cannot be looked through. -/
theorem compile_of_member (compiler : Compiler) (query : Query) {path : String}
    (noMixin : ∀ property,
      Property.resolve compiler.catalog compiler.settings.namespaceSeparator path = .ok property →
        property.mixin = false) :
    (∀ literals ≠ [],
      ((∃ compiled, compiler.amongst query path literals = .ok compiled) ↔
        ∀ literal ∈ literals, compiler.TestsTexts query path literal) ∧
      (∀ compiled, compiler.amongst query path literals = .ok compiled →
        ∃ element texts, compiled.predicate = .value element texts ∧
          List.Forall₂ (fun literal text => compiler.equalTo query path literal =
            .ok ⟨.valueIs element text, compiled.extractPaths⟩) literals texts) ∧
      ∀ reason, compiler.amongst query path literals = .error reason ↔
        ∃ before literal after, literals = before ++ literal :: after ∧
          (∀ other ∈ before, compiler.TestsTexts query path other) ∧
          compiler.Offends query path literal reason) ∧
    ∀ property properties,
      Property.resolve compiler.catalog compiler.settings.namespaceSeparator path = .ok property →
        (compiler.selection query.select).outcome = .ok properties →
          compiler.amongst query path [] =
            .error (.rejected (.invalidQuery (.emptyLiteralList .isIn property.path))) := by
  refine ⟨?_, fun property properties found selected => amongst_nil_of_found selected found⟩
  intro literals nonempty
  obtain ⟨element, paths, step, stands, membership⟩ := amongst_eq_each noMixin nonempty
  rw [membership]
  refine ⟨?_, ?_, ?_⟩
  · rw [Attempt.map_succeeds_iff, Attempt.each_succeeds_iff]
    exact forall₂_congr fun literal _ => (stands literal).succeeds_iff
  · intro compiled ended
    simp at ended
    obtain ⟨texts, stepsEnded, rfl⟩ := ended
    refine ⟨element, texts, rfl, ?_⟩
    apply ((Attempt.each_eq_ok_iff step literals texts).mp stepsEnded).imp
    intro literal text
    exact ((stands literal).ok_iff text).mp
  · intro reason
    rw [Attempt.map_eq_error_iff, Attempt.each_eq_error_iff]
    simp only [fun literal => (stands literal).succeeds_iff,
      fun literal => (stands literal).error_iff, and_comm]

def noteProperty : Property :=
  ⟨"note/*", "note.*", .scalar .boolean, true, true, false, false⟩

/-- A list of texts with a duplicate, and a list in which a zero comes before an integer that is no
truth value. -/
theorem compile_of_member_notes :
    (∀ property, Property.resolve noteCompiler.catalog noteCompiler.settings.namespaceSeparator
        "note/*" = .ok property → property.mixin = false) ∧
      (∀ literal ∈ [Literal.string "a", .boolean true, .string "a"],
        noteCompiler.TestsTexts (.plain noted []) "note/*" literal) ∧
      noteCompiler.amongst (.plain noted []) "note/*" [.integer 1, .integer 0, .integer 2] =
        .error (.rejected (.invalidTruthValue (.absenceTest "note/*" "IN"))) := by
  have noteFound : Property.resolve noteCompiler.catalog noteCompiler.settings.namespaceSeparator
      "note/*" = .ok noteProperty := rfl
  have noMixin : ∀ property, Property.resolve noteCompiler.catalog
      noteCompiler.settings.namespaceSeparator "note/*" = .ok property →
        property.mixin = false := by
    intro property found
    rw [← Except.ok.inj (noteFound.symm.trans found)]
    rfl
  have member := (compile_of_member noteCompiler (.plain noted []) noMixin).1
  refine ⟨noMixin, ?_, ?_⟩
  · exact (member _ (List.cons_ne_nil _ _)).1.mp ⟨⟨.value "note.*" ["a", "true", "a"], []⟩, rfl⟩
  · apply ((member _ (List.cons_ne_nil _ _)).2.2 _).mpr
    refine ⟨[.integer 1], .integer 0, [.integer 2], rfl, ?_, .absence rfl noteFound rfl rfl⟩
    intro other isOne
    rw [List.mem_singleton.mp isOne]
    exact ⟨"note.*", ["true"], [], rfl⟩

end Compiler

end DocumentQuery
