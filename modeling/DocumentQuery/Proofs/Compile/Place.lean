import DocumentQuery.Proofs.Compile.Membership

/-!
Literals in their places. A comparison looks its property up and then makes a test, which depends
on a literal of the comparison by nothing but the value that the literal has beside the property.
-/

namespace DocumentQuery

def RangeRelation.operator : RangeRelation → Operator
  | less => .less
  | lessEqual => .lessEqual
  | greater => .greater
  | greaterEqual => .greaterEqual

/-- A comparison without its property and without one of its literals. -/
inductive LiteralPlace where
  | equal
  | notEqual
  | range (relation : RangeRelation)
  | isIn (before after : List Literal)
  | isNotIn (before after : List Literal)

namespace LiteralPlace

open Attempt Lowering

def operator : LiteralPlace → Operator
  | equal => .equal
  | notEqual => .notEqual
  | range relation => relation.operator
  | isIn _ _ => .isIn
  | isNotIn _ _ => .isNotIn

/-- The right operand with a literal in the place. -/
def right (literal : Literal) : LiteralPlace → Operand
  | equal | notEqual | range _ => .literal literal
  | isIn before after | isNotIn before after => .literals (before ++ literal :: after)

def fill (place : LiteralPlace) (path : String) (literal : Literal) : Operand :=
  .binary place.operator (.property path) (place.right literal)

def earlier : LiteralPlace → List Literal
  | equal | notEqual | range _ => []
  | isIn before _ | isNotIn before _ => before

def others : LiteralPlace → List Literal
  | equal | notEqual | range _ => []
  | isIn before after | isNotIn before after => before ++ after

def equalityTest (property : Property) (literal : Literal) : Attempt Predicate :=
  if property.mixin then rejectMixin property (some (.literal literal))
  else ofExcept (Comparand.ofLiteral property literal) >>= testOf property

def rangeTest (relation : RangeRelation) (property : Property) (literal : Literal) :
    Attempt Predicate := do
  let comparand ← ofExcept (Comparand.ofLiteral property literal)
  let value ← ofExcept (comparand.present property relation.tag)
  let text ← wireText value
  return .range property.storageKey value.indexType relation text

def membershipTest (property : Property) (literals : List Literal) : Attempt Predicate := do
  let texts ← each (memberText property) literals
  return .value property.storageKey texts

def test (property : Property) (literal : Literal) : LiteralPlace → Attempt Predicate
  | equal => equalityTest property literal
  | notEqual => negated (equalityTest property literal)
  | range relation => rangeTest relation property literal
  | isIn before after => membershipTest property (before ++ literal :: after)
  | isNotIn before after => negated (membershipTest property (before ++ literal :: after))

theorem membership_eq_test (catalog : Catalog) (settings : Settings) (operator : Operator)
    (left : Operand) (literal : Literal) (before after : List Literal) :
    membership catalog settings operator left (some (.literals (before ++ literal :: after))) =
      propertyOf catalog settings left >>= fun property =>
        membershipTest property (before ++ literal :: after) := by
  obtain ⟨first, rest, whole⟩ := List.exists_cons_of_ne_nil
    (List.append_ne_nil_of_right_ne_nil before (List.cons_ne_nil literal after))
  rw [whole]
  exact membership_of_literals catalog settings operator left first rest

theorem comparison_eq_test (catalog : Catalog) (settings : Settings) (left : Operand)
    (literal : Literal) (place : LiteralPlace) :
    comparison catalog settings place.operator left (some (place.right literal)) =
      propertyOf catalog settings left >>= fun property => place.test property literal := by
  cases place with
  | equal => rfl
  | notEqual => exact bind_assoc _ _ _
  | range relation => cases relation <;> rfl
  | isIn before after => exact membership_eq_test _ _ _ _ _ _ _
  | isNotIn before after =>
      exact (congrArg negated (membership_eq_test _ _ _ _ _ _ _)).trans (bind_assoc _ _ _)

theorem equality_test_of_no_facet {property : Property} (noMixin : property.mixin = false)
    (literal : Literal) :
    equalityTest property literal =
      ofExcept (Comparand.ofLiteral property literal) >>= testOf property := by
  rw [equalityTest, noMixin, if_neg Bool.false_ne_true]

/-- A test depends on the value of its literal alone, on a property other than the facets. -/
theorem test_congr {property : Property} (noMixin : property.mixin = false)
    {literal other : Literal}
    (same : Comparand.ofLiteral property literal = Comparand.ofLiteral property other)
    (place : LiteralPlace) : place.test property literal = place.test property other := by
  have sameText : memberText property literal = memberText property other := by
    rw [memberText, memberText, same]
  have sameMembers (before after : List Literal) :
      membershipTest property (before ++ literal :: after) =
        membershipTest property (before ++ other :: after) := by
    simp [membershipTest, each_append, each, sameText]
  have sameEquality : equalityTest property literal = equalityTest property other := by
    rw [equality_test_of_no_facet noMixin, equality_test_of_no_facet noMixin, same]
  cases place with
  | equal => exact sameEquality
  | notEqual => exact congrArg negated sameEquality
  | range relation => rw [test, test, rangeTest, rangeTest, same]
  | isIn before after => exact sameMembers before after
  | isNotIn before after => exact congrArg negated (sameMembers before after)

end LiteralPlace

namespace Compiler

open Attempt Lowering

/-- What compilation gives when a comparison is the filter of a query, with a literal in its
place. -/
def compileAt (compiler : Compiler) (query : Query) (path : String) (place : LiteralPlace)
    (literal : Literal) : Attempt CompiledQuery :=
  compiler.compile (query.withFilter (place.fill path literal))

variable {compiler : Compiler} {query : Query} {path : String}

theorem compile_at_eq_test (place : LiteralPlace) (literal : Literal) :
    compiler.compileAt query path place literal =
      compiler.selection query.select >>= fun properties =>
        propertyOf compiler.catalog compiler.settings (.property path) >>= fun property =>
          place.test property literal >>= fun predicate =>
            pure ⟨predicate, properties.map (extractPath compiler.settings)⟩ := by
  have supported : checkOperators (place.fill path literal) = pure () := by
    rw [checkOperators]
    cases place with
    | range relation => cases relation <;> rfl
    | equal | notEqual | isIn _ _ | isNotIn _ _ => rfl
  have compares : ¬(place.operator = .and ∨ place.operator = .or) ∧ place.operator ≠ .not := by
    cases place with
    | range relation => cases relation <;> decide
    | equal | notEqual | isIn _ _ | isNotIn _ _ => simp [LiteralPlace.operator]
  have lowered : filter compiler.catalog compiler.settings (place.fill path literal) =
      propertyOf compiler.catalog compiler.settings (.property path) >>= fun property =>
        place.test property literal := by
    rw [filter, ← LiteralPlace.comparison_eq_test]
    exact expression_asking compares _ _ _ _ (some _)
  have stages : compiler.compileAt query path place literal =
      compiler.selection query.select >>= fun properties =>
        checkOperators (place.fill path literal) >>= fun _ =>
          filter compiler.catalog compiler.settings (place.fill path literal) >>= fun predicate =>
            pure ⟨predicate, properties.map (extractPath compiler.settings)⟩ := rfl
  simp only [stages, supported, lowered, pure_bind, bind_assoc]

variable {property : Property}
  (found : Property.resolve compiler.catalog compiler.settings.namespaceSeparator path =
    .ok property)

include found

theorem compile_at_congr (noMixin : property.mixin = false) {literal other : Literal}
    (same : Comparand.ofLiteral property literal = Comparand.ofLiteral property other)
    (place : LiteralPlace) :
    compiler.compileAt query path place literal = compiler.compileAt query path place other := by
  rw [compile_at_eq_test, compile_at_eq_test]
  apply bind_congr_of_ok
  intro properties _
  apply bind_congr_of_ok
  intro named isNamed
  obtain rfl : property = named :=
    Except.ok.inj (found.symm.trans ((resolve_eq_ok_iff _ _ _ _).mp isNamed))
  rw [LiteralPlace.test_congr noMixin same]

theorem compile_at_of_found {properties : List Property}
    (selected : (compiler.selection query.select).outcome = .ok properties)
    (place : LiteralPlace) (literal : Literal) :
    (compiler.compileAt query path place literal).outcome =
      (place.test property literal).outcome.map fun predicate =>
        ⟨predicate, properties.map (extractPath compiler.settings)⟩ := by
  simp [compile_at_eq_test, selected, outcome_of_found found]

end Compiler

end DocumentQuery
