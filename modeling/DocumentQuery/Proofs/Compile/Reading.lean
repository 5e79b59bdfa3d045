import DocumentQuery.Compile.Query
import DocumentQuery.Proofs.Search.Meaning

/-!
What filters say of a document, told from the filter itself and not from its predicate. A
comparison asks for the value that its literal stands for beside its property, a negated operator
denies what the other one says, and connectives connect. A filter that says nothing has no
reading.
-/

namespace DocumentQuery

/-- A boolean that documents store only when it is true. -/
def Property.isUserBoolean (property : Property) : Bool :=
  !property.system && property.declared.isBoolean

namespace Reading

/-- The value that a literal stands for beside a property. Beside a boolean one and zero stand
for the truth values, and other integers for nothing. -/
def coerced? (property : Property) : Literal → Option WireValue
  | .boolean value => some (.boolean value)
  | .date moment => some (.date moment)
  | .double value => some (.double value)
  | .string value => some (.string value)
  | .integer integer =>
      if property.declared.isBoolean then
        if integer = 1 then some (.boolean true)
        else if integer = 0 then some (.boolean false)
        else none
      else some (.long integer)

variable (facts : DocumentFacts)

/-- Zero beside a boolean of documents says that true is not stored. -/
def equals? (property : Property) (literal : Literal) : Option Bool :=
  if property.isUserBoolean = true ∧ literal = .integer 0 then
    some (!facts.hasText property.storageKey "true")
  else do
    let value ← coerced? property literal
    let text ← value.wireText?
    some (facts.hasText property.storageKey text)

def relates? (relation : RangeRelation) (property : Property) (literal : Literal) :
    Option Bool := do
  let value ← coerced? property literal
  let text ← value.wireText?
  some (facts.inRange property.storageKey value.indexType relation text)

def isAmong? (property : Property) : List Literal → Option Bool
  | [] => some false
  | literal :: rest => do
      let first ← equals? facts property literal
      let others ← isAmong? property rest
      some (first || others)

def onLiteral (test : Literal → Option Bool) : Option Operand → Option Bool
  | some (.literal literal) => test literal
  | _ => none

def onLiterals (test : List Literal → Option Bool) : Option Operand → Option Bool
  | some (.literals literals) => test literals
  | _ => none

def denied (answer : Option Bool) : Option Bool := answer.map not

def test? (property : Property) (operator : Operator) (right : Option Operand) : Option Bool :=
  match operator with
  | .equal => onLiteral (equals? facts property) right
  | .notEqual => denied (onLiteral (equals? facts property) right)
  | .less => onLiteral (relates? facts .less property) right
  | .greater => onLiteral (relates? facts .greater property) right
  | .lessEqual => onLiteral (relates? facts .lessEqual property) right
  | .greaterEqual => onLiteral (relates? facts .greaterEqual property) right
  | .isIn => onLiterals (isAmong? facts property) right
  | .isNotIn => denied (onLiterals (isAmong? facts property) right)
  | .isNotNull => some (facts.hasElement property.storageKey)
  | .isNull => denied (some (facts.hasElement property.storageKey))
  | _ => none

def connected? (operator : Operator) (answers : List Bool) : Option Bool :=
  match operator with
  | .and => some (answers.all id)
  | .or => some (answers.any id)
  | _ => none

variable (catalog : Catalog) (settings : Settings)

def comparison? (operator : Operator) (left : Operand) (right : Option Operand) : Option Bool :=
  match left with
  | .property path =>
      match Property.resolve catalog settings.namespaceSeparator path with
      | .ok property => test? facts property operator right
      | .error _ => none
  | _ => none

mutual

/-- A connective with a single operand says what the operand says, and a negation has one
operand. -/
def filter? : Operand → Option Bool
  | .property _ | .literal _ | .literals _ => none
  | .unary operator left =>
      if operator = .and ∨ operator = .or then filter? left
      else if operator = .not then denied (filter? left)
      else comparison? facts catalog settings operator left none
  | .binary operator left right =>
      if operator = .and ∨ operator = .or then do
        let first ← filter? left
        let second ← filter? right
        connected? operator [first, second]
      else if operator = .not then denied (filter? left)
      else comparison? facts catalog settings operator left (some right)
  | .nary operator operands => do
      let answers ← filters? operands
      connected? operator answers

def filters? : List Operand → Option (List Bool)
  | [] => some []
  | operand :: rest => do
      let first ← filter? operand
      let others ← filters? rest
      some (first :: others)

end

end Reading

end DocumentQuery
