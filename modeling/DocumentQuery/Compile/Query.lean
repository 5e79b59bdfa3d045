import DocumentQuery.Compile.Lowering
import DocumentQuery.Search.Document

/-!
Queries and their compilation. The selected properties are found first, then the filter is
searched for operators without a predicate, and only then it is lowered. An order of results and
a way to find documents by their place are taken along, but no predicate asks for them.
-/

namespace DocumentQuery

structure OrderTerm where
  path : String
  descending : Bool
  deriving DecidableEq, Repr

structure Query where
  filter : Operand
  select : List Operand
  order : List OrderTerm
  /-- Gives the identifier of the document at a place of the repository. -/
  placeFinder : Option (String → Option String)

structure CompiledQuery where
  predicate : Predicate
  /-- The paths to extract from documents, in the order of the selection. -/
  extractPaths : List String

def Query.plain (filter : Operand) (select : List Operand) : Query := ⟨filter, select, [], none⟩

def CompiledQuery.toRequest (compiled : CompiledQuery) : SearchRequest :=
  ⟨compiled.predicate, compiled.extractPaths⟩

structure Compiler where
  catalog : Catalog
  settings : Settings

namespace Compiler

/-- Only properties can be selected. -/
def selected (compiler : Compiler) : Operand → Attempt Property
  | .property path => Attempt.resolve compiler.catalog compiler.settings path
  | other => Attempt.reject (.invalidQuery (.selectsOperand other.describe))

def selection (compiler : Compiler) (select : List Operand) : Attempt (List Property) :=
  Attempt.each compiler.selected select

def extractPath (settings : Settings) (property : Property) : String :=
  settings.documentRoot ++ "/" ++ property.storageKey

def checkOperators (filter : Operand) : Attempt Unit :=
  match filter.firstWithoutPredicate with
  | some operator => Attempt.reject (.unsupported (.operator operator))
  | none => .done ()

def compile (compiler : Compiler) (query : Query) : Attempt CompiledQuery := do
  let properties ← compiler.selection query.select
  checkOperators query.filter
  let predicate ← Lowering.filter compiler.catalog compiler.settings query.filter
  return ⟨predicate, properties.map (extractPath compiler.settings)⟩

def selectsWildcard (compiler : Compiler) (select : List Operand) : Attempt Bool := do
  let properties ← compiler.selection select
  return properties.any fun property => property.wildcard

def resolve (compiler : Compiler) (path : String) : Attempt Property :=
  Attempt.resolve compiler.catalog compiler.settings path

end Compiler

end DocumentQuery
