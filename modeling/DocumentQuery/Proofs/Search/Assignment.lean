import DocumentQuery.Proofs.Search.Leaves
import DocumentQuery.Proofs.Search.Meaning

/-!
Predicates under assignments of truth values to their tests. An assignment may answer every test as
it likes; the answers of a document are one assignment among them.
-/

namespace DocumentQuery.Predicate

variable (answer : Predicate → Bool)

mutual

/-- The truth value of a predicate when its tests are answered as given. -/
def decided : Predicate → Bool
  | conjunction parts => allDecided parts
  | disjunction parts => anyDecided parts
  | negation part => !decided part
  | value element texts => answer (value element texts)
  | range element type relation text => answer (range element type relation text)
  | container element inner => answer (container element inner)

def allDecided : List Predicate → Bool
  | [] => true
  | part :: rest => decided part && allDecided rest

def anyDecided : List Predicate → Bool
  | [] => false
  | part :: rest => decided part || anyDecided rest

end

theorem all_decided_eq (parts : List Predicate) :
    allDecided answer parts = (parts.map (decided answer)).all id := by
  induction parts with
  | nil => rfl
  | cons part rest induction => rw [allDecided, induction, List.map_cons, List.all_cons, id]

theorem any_decided_eq (parts : List Predicate) :
    anyDecided answer parts = (parts.map (decided answer)).any id := by
  induction parts with
  | nil => rfl
  | cons part rest induction => rw [anyDecided, induction, List.map_cons, List.any_cons, id]

variable (facts : DocumentFacts)

mutual

@[simp] theorem decided_holds : ∀ predicate : Predicate,
    predicate.decided (holds facts) = predicate.holds facts
  | conjunction parts => by rw [decided, holds, all_decided_holds parts]
  | disjunction parts => by rw [decided, holds, any_decided_holds parts]
  | negation part => by rw [decided, holds, decided_holds part]
  | value _ _ => rfl
  | range _ _ _ _ => rfl
  | container _ _ => rfl

@[simp] theorem all_decided_holds : ∀ parts : List Predicate,
    allDecided (holds facts) parts = allHold facts parts
  | [] => rfl
  | part :: rest => by rw [allDecided, allHold, decided_holds part, all_decided_holds rest]

@[simp] theorem any_decided_holds : ∀ parts : List Predicate,
    anyDecided (holds facts) parts = anyHolds facts parts
  | [] => rfl
  | part :: rest => by rw [anyDecided, anyHolds, decided_holds part, any_decided_holds rest]

end

/-- Two predicates with the same tests in the same order that come to the same under every
assignment. -/
structure Regrouped (predicate other : Predicate) : Prop where
  leaves_eq : predicate.leaves = other.leaves
  leafCount_eq : predicate.leafCount = other.leafCount
  decided_eq : ∀ answer, predicate.decided answer = other.decided answer
  holds_eq : ∀ facts, predicate.holds facts = other.holds facts

theorem regrouped_of_decided {predicate other : Predicate}
    (leaves : predicate.leaves = other.leaves)
    (decided : ∀ answer, predicate.decided answer = other.decided answer) :
    predicate.Regrouped other where
  leaves_eq := leaves
  leafCount_eq := by rw [← length_leaves, leaves, length_leaves]
  decided_eq := decided
  holds_eq := by
    intro facts
    rw [← decided_holds, decided, decided_holds]

end DocumentQuery.Predicate
