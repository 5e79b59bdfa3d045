import DocumentQuery.Compile.Lowering
import DocumentQuery.Proofs.Compile.Attempt

/-!
What the parts of the lowering give when they succeed, one statement for each: which operands a
comparison has then, what its literals stand for, and what predicate comes out.
-/

namespace DocumentQuery

namespace Comparand

theorem of_integer_eq_value_iff (property : Property) (integer : Int64) (value : WireValue) :
    ofInteger property integer = .ok (.value value) ↔
      integer = 1 ∧ value = .boolean true ∨
        integer = 0 ∧ property.triState = false ∧ value = .boolean false := by
  rw [ofInteger]
  by_cases zero : integer = 0
  · cases property.triState <;> simp [zero, @eq_comm _ value]
  · by_cases one : integer = 1
    · simp [one, @eq_comm _ value]
    · simp [zero, one]

theorem of_integer_eq_absent_iff (property : Property) (integer : Int64) :
    ofInteger property integer = .ok .absent ↔ integer = 0 ∧ property.triState = true := by
  rw [ofInteger]
  by_cases zero : integer = 0
  · cases property.triState <;> simp [zero]
  · by_cases one : integer = 1
    · simp [one]
    · simp [zero, one]

@[simp] theorem present_eq_ok_iff (property : Property) (operation : String)
    (comparand : Comparand) (value : WireValue) :
    comparand.present property operation = .ok value ↔ comparand = .value value := by
  cases comparand <;> simp [present]

end Comparand

namespace Lowering

open Attempt

variable (catalog : Catalog) (settings : Settings)

def Names (operand : Operand) (property : Property) : Prop :=
  ∃ path, operand = .property path ∧
    Property.resolve catalog settings.namespaceSeparator path = .ok property

@[simp] theorem property_of_eq_ok_iff (operand : Operand) (property : Property) :
    (propertyOf catalog settings operand).outcome = .ok property ↔
      Names catalog settings operand property := by
  cases operand with
  | property path =>
      rw [propertyOf, resolve_eq_ok_iff]
      constructor
      · intro found
        exact ⟨path, rfl, found⟩
      · intro named
        rcases named with ⟨other, same, found⟩
        cases same
        exact found
  | literal _ | literals _ | unary _ _ | binary _ _ _ | nary _ _ =>
      simp [propertyOf, Names]

@[simp] theorem literal_of_eq_ok_iff (operator : Operator) (right : Option Operand)
    (literal : Literal) :
    (literalOf operator right).outcome = .ok literal ↔ right = some (.literal literal) := by
  unfold literalOf
  split
  · simp
  · next other noLiteral =>
      constructor
      · intro impossible
        cases impossible
      · intro same
        exact absurd (Option.some.inj same) (noLiteral literal)
  · simp

@[simp] theorem literals_of_eq_ok_iff (operator : Operator) (right : Option Operand)
    (literals : List Literal) :
    (literalsOf operator right).outcome = .ok literals ↔ right = some (.literals literals) := by
  unfold literalsOf
  split
  · simp
  · next other noLiterals =>
      constructor
      · intro impossible
        cases impossible
      · intro same
        exact absurd (Option.some.inj same) (noLiterals literals)
  · simp

@[simp] theorem wire_text_eq_ok_iff (value : WireValue) (text : String) :
    (wireText value).outcome = .ok text ↔ value.wireText? = some text := by
  unfold wireText
  cases value.wireText? with
  | none => simp
  | some found => simp

/-- The value and the text that a literal has beside a property. -/
def Spelled (property : Property) (literal : Literal) (value : WireValue) (text : String) : Prop :=
  Comparand.ofLiteral property literal = .ok (.value value) ∧ value.wireText? = some text

/-- An equality is a test for a text, or denies the text of true. -/
theorem equality_eq_ok_iff (operator : Operator) (left : Operand) (right : Option Operand)
    (predicate : Predicate) :
    (equality catalog settings operator left right).outcome = .ok predicate ↔
      ∃ property literal, Names catalog settings left property ∧ property.mixin = false ∧
        right = some (.literal literal) ∧
          ((∃ value text, Spelled property literal value text ∧
              predicate = .valueIs property.storageKey text) ∨
            (Comparand.ofLiteral property literal = .ok .absent ∧
              predicate = .negation (.valueIs property.storageKey "true"))) := by
  rw [equality, bind_eq_ok_iff]
  constructor
  · intro ended
    rcases ended with ⟨property, found, later⟩
    simp at found
    cases mixin : property.mixin with
    | true =>
        rw [if_pos mixin] at later
        unfold rejectMixin at later
        split at later <;> cases later
    | false =>
        rw [if_neg (by rw [mixin]; exact Bool.false_ne_true), bind_eq_ok_iff] at later
        rcases later with ⟨literal, isLiteral, later⟩
        obtain ⟨comparand, coerced, later⟩ := (bind_eq_ok_iff _ _ _).mp later
        simp at isLiteral coerced
        refine ⟨property, literal, found, mixin, isLiteral, ?_⟩
        cases comparand with
        | value value =>
            obtain ⟨text, spelled, same⟩ := (bind_eq_ok_iff _ _ _).mp later
            simp at spelled same
            exact Or.inl ⟨value, text, ⟨coerced, spelled⟩, same.symm⟩
        | absent =>
            simp at later
            exact Or.inr ⟨coerced, later.symm⟩
  · intro parts
    rcases parts with ⟨property, literal, found, mixin, isLiteral, outcome⟩
    refine ⟨property, by simpa using found, ?_⟩
    rw [if_neg (by rw [mixin]; exact Bool.false_ne_true), bind_eq_ok_iff]
    refine ⟨literal, by simpa using isLiteral, ?_⟩
    apply (bind_eq_ok_iff _ _ _).mpr
    rcases outcome with ⟨value, text, ⟨coerced, spelled⟩, same⟩ | ⟨coerced, same⟩
    · refine ⟨.value value, by simpa using coerced, ?_⟩
      apply (bind_eq_ok_iff _ _ _).mpr
      exact ⟨text, by simpa using spelled, by simpa using same.symm⟩
    · exact ⟨.absent, by simpa using coerced, by simpa using same.symm⟩

theorem range_eq_ok_iff (operator : Operator) (relation : RangeRelation) (left : Operand)
    (right : Option Operand) (predicate : Predicate) :
    (range catalog settings operator relation left right).outcome = .ok predicate ↔
      ∃ property literal value text, Names catalog settings left property ∧
        right = some (.literal literal) ∧ Spelled property literal value text ∧
          predicate = .range property.storageKey value.indexType relation text := by
  rw [range, bind_eq_ok_iff]
  constructor
  · intro ended
    rcases ended with ⟨property, found, later⟩
    obtain ⟨literal, isLiteral, later⟩ := (bind_eq_ok_iff _ _ _).mp later
    obtain ⟨comparand, coerced, later⟩ := (bind_eq_ok_iff _ _ _).mp later
    obtain ⟨value, present, later⟩ := (bind_eq_ok_iff _ _ _).mp later
    obtain ⟨text, spelled, same⟩ := (bind_eq_ok_iff _ _ _).mp later
    simp at found isLiteral coerced present spelled same
    rw [present] at coerced
    exact ⟨property, literal, value, text, found, isLiteral, ⟨coerced, spelled⟩, same.symm⟩
  · intro parts
    rcases parts with ⟨property, literal, value, text, found, isLiteral, ⟨coerced, spelled⟩, same⟩
    refine ⟨property, by simpa using found, ?_⟩
    apply (bind_eq_ok_iff _ _ _).mpr
    refine ⟨literal, by simpa using isLiteral, ?_⟩
    apply (bind_eq_ok_iff _ _ _).mpr
    refine ⟨.value value, by simpa using coerced, ?_⟩
    apply (bind_eq_ok_iff _ _ _).mpr
    refine ⟨value, rfl, ?_⟩
    apply (bind_eq_ok_iff _ _ _).mpr
    exact ⟨text, by simpa using spelled, by simpa using same.symm⟩

@[simp] theorem member_text_eq_ok_iff (property : Property) (literal : Literal) (text : String) :
    (memberText property literal).outcome = .ok text ↔
      ∃ value, Spelled property literal value text := by
  rw [memberText, bind_eq_ok_iff]
  constructor
  · intro ended
    rcases ended with ⟨comparand, coerced, later⟩
    obtain ⟨value, present, spelled⟩ := (bind_eq_ok_iff _ _ _).mp later
    simp at coerced present spelled
    rw [present] at coerced
    exact ⟨value, coerced, spelled⟩
  · intro parts
    rcases parts with ⟨value, coerced, spelled⟩
    refine ⟨.value value, by simpa using coerced, ?_⟩
    apply (bind_eq_ok_iff _ _ _).mpr
    exact ⟨value, rfl, by simpa using spelled⟩

/-- A membership tests for the texts of its literals, of which there is one at least. -/
theorem membership_eq_ok_iff (operator : Operator) (left : Operand) (right : Option Operand)
    (predicate : Predicate) :
    (membership catalog settings operator left right).outcome = .ok predicate ↔
      ∃ property literals texts, Names catalog settings left property ∧
        right = some (.literals literals) ∧ literals ≠ [] ∧
          List.Forall₂ (fun literal text => ∃ value, Spelled property literal value text)
            literals texts ∧
            predicate = .value property.storageKey texts := by
  have membersEnd := fun property literals texts =>
    each_eq_ok_iff (memberText property) literals texts
  simp only [member_text_eq_ok_iff] at membersEnd
  rw [membership, bind_eq_ok_iff]
  constructor
  · intro ended
    rcases ended with ⟨property, found, later⟩
    obtain ⟨literals, areLiterals, later⟩ := (bind_eq_ok_iff _ _ _).mp later
    simp at found areLiterals
    cases empty : literals.isEmpty with
    | true =>
        rw [if_pos empty] at later
        cases later
    | false =>
        rw [if_neg (by rw [empty]; exact Bool.false_ne_true), bind_eq_ok_iff] at later
        rcases later with ⟨texts, spelled, same⟩
        rw [membersEnd] at spelled
        simp at same
        have nonempty : literals ≠ [] := List.isEmpty_eq_false_iff.mp empty
        exact ⟨property, literals, texts, found, areLiterals, nonempty, spelled, same.symm⟩
  · intro parts
    rcases parts with ⟨property, literals, texts, found, areLiterals, nonempty, spelled, same⟩
    refine ⟨property, by simpa using found, ?_⟩
    apply (bind_eq_ok_iff _ _ _).mpr
    refine ⟨literals, by simpa using areLiterals, ?_⟩
    rw [if_neg (fun empty => nonempty (List.isEmpty_iff.mp empty)), bind_eq_ok_iff]
    exact ⟨texts, (membersEnd _ _ _).mpr spelled, by simpa using same.symm⟩

theorem membership_of_literals (operator : Operator) (left : Operand) (first : Literal)
    (rest : List Literal) :
    membership catalog settings operator left (some (.literals (first :: rest))) =
      propertyOf catalog settings left >>= fun property =>
        each (memberText property) (first :: rest) >>= fun texts =>
          pure (.value property.storageKey texts) := by
  have listed : literalsOf operator (some (.literals (first :: rest))) = pure (first :: rest) := rfl
  simp only [membership, listed, pure_bind]
  rfl

theorem existence_eq_ok_iff (left : Operand) (predicate : Predicate) :
    (existence catalog settings left).outcome = .ok predicate ↔
      ∃ property, Names catalog settings left property ∧
        predicate = .containerExists property.storageKey := by
  rw [existence, bind_eq_ok_iff]
  simp [@eq_comm _ predicate]

theorem negated_eq_ok_iff (attempt : Attempt Predicate) (predicate : Predicate) :
    (negated attempt).outcome = .ok predicate ↔
      ∃ part, attempt.outcome = .ok part ∧ predicate = .negation part := by
  rw [negated]
  simp [@eq_comm _ predicate]

theorem connected_eq_ok_iff (operator : Operator) (left right : Attempt Predicate)
    (predicate : Predicate) :
    (do
      let first ← left
      let second ← right
      return combine operator [first, second]).outcome = .ok predicate ↔
      ∃ first second, left.outcome = .ok first ∧ right.outcome = .ok second ∧
        predicate = combine operator [first, second] := by
  simp [bind_eq_ok_iff, @eq_comm _ predicate]

theorem connected_several_eq_ok_iff (operator : Operator) (lowered : Attempt (List Predicate))
    (predicate : Predicate) :
    (do
      let parts ← lowered
      return combineSeveral operator parts).outcome = .ok predicate ↔
      ∃ parts, lowered.outcome = .ok parts ∧ predicate = combineSeveral operator parts := by
  simp [@eq_comm _ predicate]

theorem expressions_eq_each_operand (operands : List Operand) :
    expressions catalog settings operands =
      each (expression catalog settings .notExpression) operands := by
  induction operands with
  | nil => rw [expressions, each]
  | cons operand rest induction => rw [expressions, induction, each]

theorem expressions_eq_ok_iff (operands : List Operand) (parts : List Predicate) :
    (expressions catalog settings operands).outcome = .ok parts ↔
      List.Forall₂ (fun operand part =>
        (expression catalog settings .notExpression operand).outcome = .ok part)
        operands parts := by
  rw [expressions_eq_each_operand, each_eq_ok_iff]

end Lowering

end DocumentQuery
