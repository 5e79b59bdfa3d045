import DocumentQuery.Search.Predicate

/-!
What predicates say of a document. A document is known by its answers to the engine's tests on
elements, and everything else follows from the connectives.
-/

namespace DocumentQuery

/-- The answers of a document to tests on its elements. -/
structure DocumentFacts where
  hasText : String → String → Bool
  inRange : String → IndexType → RangeRelation → String → Bool
  hasElement : String → Bool

namespace Predicate

variable (facts : DocumentFacts)

mutual

/-- Inside of a container the tests are read as anywhere else. -/
def holds : Predicate → Bool
  | conjunction parts => allHold parts
  | disjunction parts => anyHolds parts
  | negation part => !holds part
  | value element texts => texts.any (facts.hasText element)
  | range element type relation text => facts.inRange element type relation text
  | container element inner => facts.hasElement element && holds inner

def allHold : List Predicate → Bool
  | [] => true
  | part :: rest => holds part && allHold rest

def anyHolds : List Predicate → Bool
  | [] => false
  | part :: rest => holds part || anyHolds rest

end

theorem all_hold_eq (parts : List Predicate) :
    allHold facts parts = (parts.map (holds facts)).all id := by
  induction parts with
  | nil => rfl
  | cons part rest induction => rw [allHold, induction, List.map_cons, List.all_cons, id]

theorem any_holds_eq (parts : List Predicate) :
    anyHolds facts parts = (parts.map (holds facts)).any id := by
  induction parts with
  | nil => rfl
  | cons part rest induction => rw [anyHolds, induction, List.map_cons, List.any_cons, id]

@[simp] theorem holds_conjunction (parts : List Predicate) :
    holds facts (conjunction parts) = (parts.map (holds facts)).all id := by
  rw [holds, all_hold_eq]

@[simp] theorem holds_disjunction (parts : List Predicate) :
    holds facts (disjunction parts) = (parts.map (holds facts)).any id := by
  rw [holds, any_holds_eq]

@[simp] theorem holds_negation (part : Predicate) :
    holds facts (negation part) = !holds facts part := by
  rw [holds]

@[simp] theorem holds_value (element : String) (texts : List String) :
    holds facts (value element texts) = texts.any (facts.hasText element) := by
  rw [holds]

@[simp] theorem holds_value_is (element text : String) :
    holds facts (valueIs element text) = facts.hasText element text := by
  simp [valueIs]

/-- A container without a test inside asks for its element alone. -/
@[simp] theorem holds_container_exists (element : String) :
    holds facts (containerExists element) = facts.hasElement element := by
  rw [containerExists, holds]
  simp

end Predicate

end DocumentQuery
