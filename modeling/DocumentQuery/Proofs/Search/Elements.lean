import DocumentQuery.Proofs.Search.Leaves

/-!
Predicates with other elements in the place of their own. The shape of a predicate, its texts and
its ranges stay as they are, and its tests are about the other elements, in the same order.
-/

namespace DocumentQuery.Predicate

mutual

/-- The same predicate about other elements. -/
def mapElements (form : String → String) : Predicate → Predicate
  | conjunction parts => conjunction (mapElementsOf form parts)
  | disjunction parts => disjunction (mapElementsOf form parts)
  | negation part => negation (mapElements form part)
  | value element texts => value (form element) texts
  | range element type relation text => range (form element) type relation text
  | container element inner => container (form element) (mapElements form inner)

def mapElementsOf (form : String → String) : List Predicate → List Predicate
  | [] => []
  | part :: rest => mapElements form part :: mapElementsOf form rest

end

/-- The elements that the tests of a predicate are about, in order. -/
def elements (predicate : Predicate) : List String := predicate.leaves.filterMap element?

variable (form : String → String)

theorem map_elements_of_eq_map (parts : List Predicate) :
    mapElementsOf form parts = parts.map (mapElements form) := by
  induction parts with
  | nil => rfl
  | cons part rest induction => rw [mapElementsOf, induction, List.map_cons]

mutual

@[simp] theorem map_elements_id : ∀ predicate : Predicate, mapElements id predicate = predicate
  | conjunction parts => by rw [mapElements, map_elements_of_id parts]
  | disjunction parts => by rw [mapElements, map_elements_of_id parts]
  | negation part => by rw [mapElements, map_elements_id part]
  | value _ _ => rfl
  | range _ _ _ _ => rfl
  | container element inner => by
      rw [mapElements, map_elements_id inner]
      rfl

@[simp] theorem map_elements_of_id : ∀ parts : List Predicate, mapElementsOf id parts = parts
  | [] => rfl
  | part :: rest => by rw [mapElementsOf, map_elements_id part, map_elements_of_id rest]

end

@[simp] theorem element_map_elements (predicate : Predicate) :
    (predicate.mapElements form).element? = predicate.element?.map form := by
  cases predicate <;> rfl

mutual

@[simp] theorem leaves_map_elements : ∀ predicate : Predicate,
    (predicate.mapElements form).leaves = predicate.leaves.map (mapElements form)
  | conjunction parts => leaves_of_map_elements parts
  | disjunction parts => leaves_of_map_elements parts
  | negation part => leaves_map_elements part
  | value _ _ => rfl
  | range _ _ _ _ => rfl
  | container _ _ => rfl

@[simp] theorem leaves_of_map_elements : ∀ parts : List Predicate,
    leavesOf (mapElementsOf form parts) = (leavesOf parts).map (mapElements form)
  | [] => rfl
  | part :: rest => by
      rw [mapElementsOf, leavesOf, leavesOf, List.map_append, leaves_map_elements part,
        leaves_of_map_elements rest]

end

@[simp] theorem elements_map_elements (predicate : Predicate) :
    (predicate.mapElements form).elements = predicate.elements.map form := by
  simp only [elements, leaves_map_elements, List.filterMap_map, List.map_filterMap,
    Function.comp_def, element_map_elements]

mutual

@[simp] theorem length_elements : ∀ predicate : Predicate,
    predicate.elements.length = predicate.leafCount
  | conjunction parts => length_elements_of parts
  | disjunction parts => length_elements_of parts
  | negation part => length_elements part
  | value _ _ => rfl
  | range _ _ _ _ => rfl
  | container _ _ => rfl

@[simp] theorem length_elements_of : ∀ parts : List Predicate,
    ((leavesOf parts).filterMap element?).length = leafCountOf parts
  | [] => rfl
  | part :: rest => by
      rw [leavesOf, List.filterMap_append, List.length_append, length_elements_of rest, leafCountOf]
      exact congrArg (· + leafCountOf rest) (length_elements part)

end

end DocumentQuery.Predicate
