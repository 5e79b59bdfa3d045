import DocumentQuery.Search.Predicate

/-!
The tests of a predicate, read from left to right. Connectives and negations have none of their
own, and what stands inside of a container belongs to the container's test.
-/

namespace DocumentQuery.Predicate

mutual

/-- The tests on elements in the order in which they stand. -/
def leaves : Predicate → List Predicate
  | conjunction parts => leavesOf parts
  | disjunction parts => leavesOf parts
  | negation part => leaves part
  | value element texts => [value element texts]
  | range element type relation text => [range element type relation text]
  | container element inner => [container element inner]

def leavesOf : List Predicate → List Predicate
  | [] => []
  | part :: rest => leaves part ++ leavesOf rest

end

def element? : Predicate → Option String
  | value element _ => some element
  | range element _ _ _ => some element
  | container element _ => some element
  | conjunction _ | disjunction _ | negation _ => none

mutual

@[simp] theorem length_leaves : ∀ predicate : Predicate,
    predicate.leaves.length = predicate.leafCount
  | conjunction parts => by rw [leaves, leafCount, length_leaves_of parts]
  | disjunction parts => by rw [leaves, leafCount, length_leaves_of parts]
  | negation part => by rw [leaves, leafCount, length_leaves part]
  | value _ _ => rfl
  | range _ _ _ _ => rfl
  | container _ _ => rfl

@[simp] theorem length_leaves_of : ∀ parts : List Predicate,
    (leavesOf parts).length = leafCountOf parts
  | [] => rfl
  | part :: rest => by
      rw [leavesOf, leafCountOf, List.length_append, length_leaves part, length_leaves_of rest]

end

theorem leaves_of_eq_flat_map (parts : List Predicate) : leavesOf parts = parts.flatMap leaves := by
  induction parts with
  | nil => rfl
  | cons part rest induction => rw [leavesOf, induction, List.flatMap_cons]

@[simp] theorem leaves_of_append (front back : List Predicate) :
    leavesOf (front ++ back) = leavesOf front ++ leavesOf back := by
  simp [leaves_of_eq_flat_map]

end DocumentQuery.Predicate
