import DocumentQuery.Monitor.Tally

/-!
Reports on a tally: the counts, the average size of a compiled query and the kinds of refusals,
the most frequent first. A report on a window that begins after the tally did is empty.
-/

namespace DocumentQuery

open Number

structure RefusalShare where
  refusal : Refusal
  count : Nat
  share : Binary64
  deriving DecidableEq, Repr

structure Report where
  tally : Option Tally
  averagePredicates : Binary64
  refusals : List RefusalShare
  deriving DecidableEq, Repr

namespace Report

def empty : Report := ⟨none, Binary64.zero false, []⟩

/-- A greater count comes first, and of equal counts the smaller name. -/
def precedes (left right : Refusal × Nat) : Bool :=
  right.2 < left.2 || (left.2 = right.2 && decide (left.1.name ≤ right.1.name))

def insertRanked (entry : Refusal × Nat) : List (Refusal × Nat) → List (Refusal × Nat)
  | [] => [entry]
  | first :: rest =>
      if precedes entry first then entry :: first :: rest else first :: insertRanked entry rest

def ranked : List (Refusal × Nat) → List (Refusal × Nat)
  | [] => []
  | entry :: rest => insertRanked entry (ranked rest)

def ofTally (tally : Tally) : Report :=
  { tally := some tally
    averagePredicates := Binary64.quotient tally.predicatesEmitted tally.compilesFinished
    refusals := (ranked tally.rejections).map fun (refusal, count) =>
      ⟨refusal, count, Binary64.quotient count tally.compilesRejected⟩ }

end Report

structure Window where
  start : Nat
  tally : Tally

def Window.report (window : Window) (requested : Option Nat) : Report :=
  match requested with
  | some start => if window.start < start then Report.empty else Report.ofTally window.tally
  | none => Report.ofTally window.tally

end DocumentQuery
