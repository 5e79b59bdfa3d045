import DocumentQuery.Compile.Query
import DocumentQuery.Number.Binary64

/-!
Counts of what compilers have done since some start. A count stops at the greatest number of 64
bits. A call that is cut short is a rejection of a kind of its own.
-/

namespace DocumentQuery

inductive Refusal where
  | rejection (kind : RejectionKind)
  | aborted
  deriving DecidableEq, Repr

def Refusal.name : Refusal → String
  | rejection kind => kind.name
  | aborted => "aborted"

def Stop.refusal : Stop → Refusal
  | .rejected found => .rejection found.kind
  | .aborted => .aborted

structure Tally where
  compileCalls : Nat
  compilesFinished : Nat
  compilesRejected : Nat
  predicatesEmitted : Nat
  predicatesMax : Nat
  fieldsResolved : Nat
  systemFieldsResolved : Nat
  rejections : List (Refusal × Nat)
  deriving DecidableEq, Repr

namespace Tally

/-- The greatest number of 64 bits. -/
def limit : Nat := 18446744073709551615

def add (count more : Nat) : Nat := min (count + more) limit

def zero : Tally := ⟨0, 0, 0, 0, 0, 0, 0, []⟩

def countRefusal (refusal : Refusal) : List (Refusal × Nat) → List (Refusal × Nat)
  | [] => [(refusal, 1)]
  | (known, count) :: rest =>
      if known = refusal then (known, add count 1) :: rest
      else (known, count) :: countRefusal refusal rest

def noteResolution (tally : Tally) (resolution : Resolution) : Tally :=
  { tally with
    fieldsResolved := add tally.fieldsResolved 1
    systemFieldsResolved :=
      if resolution.property.system then add tally.systemFieldsResolved 1
      else tally.systemFieldsResolved }

def noteResolutions (tally : Tally) (resolutions : List Resolution) : Tally :=
  resolutions.foldl noteResolution tally

def noteCall (tally : Tally) : Tally :=
  { tally with compileCalls := add tally.compileCalls 1 }

def noteFinish (tally : Tally) (predicates : Nat) : Tally :=
  { tally with
    compilesFinished := add tally.compilesFinished 1
    predicatesEmitted := add tally.predicatesEmitted predicates
    predicatesMax := max tally.predicatesMax predicates }

def noteRefusal (tally : Tally) (refusal : Refusal) : Tally :=
  { tally with
    compilesRejected := add tally.compilesRejected 1
    rejections := countRefusal refusal tally.rejections }

def noteOutcome (tally : Tally) : Except Stop CompiledQuery → Tally
  | .ok compiled => tally.noteFinish compiled.predicate.leafCount
  | .error reason => tally.noteRefusal reason.refusal

/-- Everything that one call to compile adds. -/
def noteCompile (tally : Tally) (attempt : Attempt CompiledQuery) : Tally :=
  (tally.noteCall.noteResolutions attempt.resolutions).noteOutcome attempt.outcome

end Tally

end DocumentQuery
