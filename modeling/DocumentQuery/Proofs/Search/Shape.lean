import DocumentQuery.Search.Predicate

/-!
The shape of predicates that are fit for the engine. A connective has at least two parts, a value
predicate some text, a range the text of a value of its type, and a container asks for its element
alone. Such a predicate tests something, and has no connective that holds of everything or of
nothing for want of parts.
-/

namespace DocumentQuery.Predicate

/-- Fit for the engine. The conjunction of nothing stands inside of containers only. -/
inductive WellShaped : Predicate → Prop
  | conjunction {parts : List Predicate} (several : 2 ≤ parts.length)
      (each : ∀ part ∈ parts, WellShaped part) : WellShaped (conjunction parts)
  | disjunction {parts : List Predicate} (several : 2 ≤ parts.length)
      (each : ∀ part ∈ parts, WellShaped part) : WellShaped (disjunction parts)
  | negation {part : Predicate} (inner : WellShaped part) : WellShaped (negation part)
  | value (element : String) {texts : List String} (nonempty : texts ≠ []) :
      WellShaped (value element texts)
  | range (element : String) (relation : RangeRelation) {value : WireValue} {text : String}
      (written : value.wireText? = some text) :
      WellShaped (range element value.indexType relation text)
  | containerExists (element : String) : WellShaped (containerExists element)

mutual

/-- The nodes of a predicate, each before those below it. A container is not looked into. -/
def nodes : Predicate → List Predicate
  | conjunction parts => conjunction parts :: nodesOf parts
  | disjunction parts => disjunction parts :: nodesOf parts
  | negation part => negation part :: nodes part
  | value element texts => [value element texts]
  | range element type relation text => [range element type relation text]
  | container element inner => [container element inner]

def nodesOf : List Predicate → List Predicate
  | [] => []
  | part :: rest => nodes part ++ nodesOf rest

end

theorem mem_nodes_of_iff (node : Predicate) (parts : List Predicate) :
    node ∈ nodesOf parts ↔ ∃ part ∈ parts, node ∈ part.nodes := by
  induction parts with
  | nil => simp [nodesOf]
  | cons part rest induction => simp [nodesOf, induction]

theorem well_shaped_of_mem_nodes {predicate : Predicate} (shaped : predicate.WellShaped) :
    ∀ node ∈ predicate.nodes, node.WellShaped := by
  induction shaped with
  | conjunction several each induction | disjunction several each induction =>
      intro node member
      rw [nodes, List.mem_cons, mem_nodes_of_iff] at member
      rcases member with rfl | ⟨part, isPart, below⟩
      · constructor
        · exact several
        · exact each
      · exact induction part isPart node below
  | negation inner induction =>
      intro node member
      rw [nodes, List.mem_cons] at member
      rcases member with rfl | below
      · exact .negation inner
      · exact induction node below
  | value element nonempty =>
      intro node member
      exact List.mem_singleton.mp member ▸ .value element nonempty
  | range element relation written =>
      intro node member
      exact List.mem_singleton.mp member ▸ .range element relation written
  | containerExists element =>
      intro node member
      exact List.mem_singleton.mp member ▸ .containerExists element

theorem ne_empty_of_well_shaped {predicate : Predicate} (shaped : predicate.WellShaped) :
    predicate ≠ conjunction [] ∧ predicate ≠ disjunction [] := by
  constructor
  · rintro rfl
    cases shaped with
    | conjunction several _ => exact absurd several (by decide)
  · rintro rfl
    cases shaped with
    | disjunction several _ => exact absurd several (by decide)

theorem leaf_count_le_of_mem {part : Predicate} {parts : List Predicate} (member : part ∈ parts) :
    part.leafCount ≤ leafCountOf parts := by
  induction parts with
  | nil => cases member
  | cons head rest induction =>
      rw [leafCountOf]
      rcases List.mem_cons.mp member with rfl | later
      · exact Nat.le_add_right _ _
      · exact Nat.le_add_left_of_le (induction later)

theorem leaf_count_of_pos {parts : List Predicate} (several : 2 ≤ parts.length)
    (each : ∀ part ∈ parts, 1 ≤ part.leafCount) : 1 ≤ leafCountOf parts := by
  have nonempty : 0 < parts.length := Nat.lt_of_lt_of_le Nat.zero_lt_two several
  obtain ⟨part, member⟩ := List.exists_mem_of_length_pos nonempty
  exact Nat.le_trans (each part member) (leaf_count_le_of_mem member)

theorem leaf_count_pos_of_well_shaped {predicate : Predicate} (shaped : predicate.WellShaped) :
    1 ≤ predicate.leafCount := by
  induction shaped with
  | conjunction several _ induction | disjunction several _ induction =>
      rw [leafCount]
      exact leaf_count_of_pos several induction
  | negation _ induction => exact induction
  | value _ _ | range _ _ _ | containerExists _ => exact Nat.le_refl 1

end DocumentQuery.Predicate
