import DocumentQuery.Text.Basic

/-!
The operators of filters. A tag is read without regard to case and to white space around it.
-/

namespace DocumentQuery

inductive Operator where
  | sum
  | sub
  | mul
  | div
  | less
  | greater
  | equal
  | notEqual
  | lessEqual
  | greaterEqual
  | and
  | not
  | or
  | like
  | caselessLike
  | isIn
  | between
  | notLike
  | notCaselessLike
  | isNotIn
  | notBetween
  | isNull
  | isNotNull
  | startsWith
  deriving DecidableEq, Repr

namespace Operator

def all : List Operator :=
  [sum, sub, mul, div, less, greater, equal, notEqual, lessEqual, greaterEqual, and, not, or,
   like, caselessLike, isIn, between, notLike, notCaselessLike, isNotIn, notBetween, isNull,
   isNotNull, startsWith]

def tag : Operator → String
  | sum => "SUM"
  | sub => "SUB"
  | mul => "MUL"
  | div => "DIV"
  | less => "LT"
  | greater => "GT"
  | equal => "EQ"
  | notEqual => "NOTEQ"
  | lessEqual => "LTEQ"
  | greaterEqual => "GTEQ"
  | and => "AND"
  | not => "NOT"
  | or => "OR"
  | like => "LIKE"
  | caselessLike => "ILIKE"
  | isIn => "IN"
  | between => "BETWEEN"
  | notLike => "NOTLIKE"
  | notCaselessLike => "NOTILIKE"
  | isNotIn => "NOTIN"
  | notBetween => "NOTBETWEEN"
  | isNull => "ISNULL"
  | isNotNull => "ISNOTNULL"
  | startsWith => "STARTSWITH"

def ofTag? (text : String) : Option Operator :=
  all.find? fun operator => Text.sameCaseless operator.tag (Text.trim text)

/-- Whether the engine has no predicate for the operator. -/
def lacksPredicate : Operator → Bool
  | sum | sub | mul | div | startsWith | like | caselessLike | notLike | notCaselessLike
  | between | notBetween => true
  | _ => false

end Operator

end DocumentQuery
