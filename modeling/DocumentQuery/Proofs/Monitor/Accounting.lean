import DocumentQuery.Monitor.Trace
import DocumentQuery.Proofs.Compile.Meaning
import DocumentQuery.Proofs.Compile.References
import DocumentQuery.Proofs.Compile.Stages
import DocumentQuery.Proofs.Monitor.Counts

/-!
The account of a single compilation. What a tally counts for it, what its trace reports as found
and the tests of the predicate that it gives agree with one another.
-/

namespace DocumentQuery

def TraceEvent.found? : TraceEvent → Option Resolution
  | found resolution => some resolution
  | asked _ _ | orderIgnored _ | rejected _ => none

def TraceEvent.foundIn (events : List TraceEvent) : List Resolution := events.filterMap found?

namespace TraceEvent

@[simp] theorem found_in_map_found (resolutions : List Resolution) :
    foundIn (resolutions.map found) = resolutions := by
  rw [foundIn, List.filterMap_map]
  exact List.filterMap_some

@[simp] theorem found_in_append (front back : List TraceEvent) :
    foundIn (front ++ back) = foundIn front ++ foundIn back := List.filterMap_append

@[simp] theorem found_in_trace_events {Result : Type} (attempt : Attempt Result) :
    foundIn attempt.traceEvents = attempt.resolutions := by
  rw [Attempt.traceEvents, found_in_append, found_in_map_found]
  cases attempt.outcome with
  | ok result => exact List.append_nil _
  | error reason => cases reason <;> exact List.append_nil _

/-- A trace reports what the compilation found, in order. -/
theorem found_in_trace (compiler : Compiler) (query : Query) :
    foundIn (compiler.trace query) = (compiler.compile query).resolutions := by
  have front : foundIn (if query.order.isEmpty then []
      else [.orderIgnored query.order.length]) = [] := by
    split <;> rfl
  have whole : foundIn (compiler.trace query) = foundIn ((if query.order.isEmpty then []
      else [.orderIgnored query.order.length]) ++ (compiler.compile query).traceEvents) := rfl
  rw [whole, found_in_append, front]
  simp

end TraceEvent

namespace Tally

open Compiler TraceEvent

/-- A compilation that succeeds counts once as a call and as finished, each test of its predicate,
and one property for each selected operand and each test. Its trace reports these properties, those
of the selection first. A compilation that stops counts once as a call and as rejected, and counts
and reports what it has found until then. -/
theorem after_compile_accounts (compiler : Compiler) (query : Query) (tally : Tally)
    (unsaturated : (tally.after compiler (.compile query)).Unsaturated) :
    (∀ compiled, (compiler.compile query).outcome = .ok compiled →
      ∃ selected filtered, foundIn (compiler.trace query) = selected ++ filtered ∧
        List.Forall₂ (fun operand resolution => compiler.find? operand = some resolution)
          query.select selected ∧
        List.Forall₂ (TestsFound compiler) compiled.predicate.leaves filtered ∧
        tally.after compiler (.compile query) =
          { tally with
            compileCalls := tally.compileCalls + 1
            compilesFinished := tally.compilesFinished + 1
            predicatesEmitted := tally.predicatesEmitted + compiled.predicate.leafCount
            predicatesMax := max tally.predicatesMax compiled.predicate.leafCount
            fieldsResolved :=
              tally.fieldsResolved + (query.select.length + compiled.predicate.leafCount)
            systemFieldsResolved :=
              tally.systemFieldsResolved + (selected ++ filtered).countP isSystem } ∧
        (query.filter.EveryRightCounts →
          compiled.predicate.leafCount = query.filter.references)) ∧
    ∀ reason, (compiler.compile query).outcome = .error reason →
      ∃ tried, StopsAfter compiler query tried ∧
        foundIn (compiler.trace query) = tried.filterMap compiler.find? ∧
        tally.after compiler (.compile query) =
          { tally with
            compileCalls := tally.compileCalls + 1
            compilesRejected := tally.compilesRejected + 1
            fieldsResolved := tally.fieldsResolved + (tried.filterMap compiler.find?).length
            systemFieldsResolved :=
              tally.systemFieldsResolved + (tried.filterMap compiler.find?).countP isSystem
            rejections := countRefusal reason.refusal tally.rejections } ∧
        ∀ refusal, countOf refusal (countRefusal reason.refusal tally.rejections) =
          countOf refusal tally.rejections + if refusal = reason.refusal then 1 else 0 := by
  rw [found_in_trace]
  constructor
  · intro compiled ended
    obtain ⟨selected, filtered, found, selectedFound, filteredFound⟩ := found_of_compiled ended
    have length : (selected ++ filtered).length =
        query.select.length + compiled.predicate.leafCount := by
      simp [← selectedFound.length_eq, ← filteredFound.length_eq]
    have after := note_compile_eq_of_ok ended unsaturated
    rw [found, length] at after
    refine ⟨selected, filtered, found, selectedFound, filteredFound, after, ?_⟩
    intro counts
    exact references_of_lowered counts (stages_of_compiled ended).2.1
  · intro reason ended
    obtain ⟨tried, stops, found⟩ := found_of_failed ended
    have after := note_compile_eq_of_error ended unsaturated
    rw [found] at after
    have counted : CountsBelow (countRefusal reason.refusal tally.rejections) := by
      intro entry member
      apply unsaturated.rejections entry
      rw [Tally.after, after]
      exact member
    exact ⟨tried, stops, found, after, count_of_count_refusal counted⟩

def earlierTally : Tally := ⟨3, 2, 1, 5, 4, 9, 2, [(.aborted, 1)]⟩

def titledQuery : Query := .plain noteFilter [.property "ecm:uuid", .property "dc:title"]

/-- The second test of the filter is on a property that is not known. -/
def mistitledQuery : Query :=
  .plain (.nary .or [.unary .isNull (.property "dc:title"), .unary .isNull (.property "dc:titel")])
    [.property "ecm:uuid"]

theorem after_compile_accounts_titled :
    ((earlierTally.after noteCompiler (.compile titledQuery)).Unsaturated ∧
      (earlierTally.after noteCompiler (.compile titledQuery)).fieldsResolved = 13 ∧
      titledQuery.filter.references = 2) ∧
    (earlierTally.after noteCompiler (.compile mistitledQuery)).Unsaturated ∧
      countOf (.rejection .unknownProperty)
        (earlierTally.after noteCompiler (.compile mistitledQuery)).rejections = 1 := by
  have titledAfter : earlierTally.after noteCompiler (.compile titledQuery) =
      ⟨4, 3, 1, 7, 4, 13, 3, [(.aborted, 1)]⟩ := rfl
  have mistitledAfter : earlierTally.after noteCompiler (.compile mistitledQuery) =
      ⟨4, 2, 2, 5, 4, 11, 3, [(.aborted, 1), (.rejection .unknownProperty, 1)]⟩ := rfl
  have titledUnsaturated :
      (earlierTally.after noteCompiler (.compile titledQuery)).Unsaturated := by
    rw [titledAfter]
    constructor <;> decide
  have mistitledUnsaturated :
      (earlierTally.after noteCompiler (.compile mistitledQuery)).Unsaturated := by
    rw [mistitledAfter]
    constructor <;> decide
  have titledAccounts := after_compile_accounts noteCompiler titledQuery earlierTally
    titledUnsaturated
  have mistitledAccounts := after_compile_accounts noteCompiler mistitledQuery earlierTally
    mistitledUnsaturated
  obtain ⟨selected, filtered, -, -, -, titled, mentions⟩ := titledAccounts.1 _ rfl
  obtain ⟨tried, -, -, mistitled, counted⟩ := mistitledAccounts.2 _ rfl
  have mentioned := mentions (by decide)
  refine ⟨⟨titledUnsaturated, ?_, mentioned.symm⟩, mistitledUnsaturated, ?_⟩
  · rw [titled]
    rfl
  · rw [mistitled]
    exact counted _

end Tally

end DocumentQuery
