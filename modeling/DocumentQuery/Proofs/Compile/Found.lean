import DocumentQuery.Compile.Query
import DocumentQuery.Proofs.Compile.Assembly

/-!
The properties that the lowering of a filter finds. A filter that is lowered finds one property for
each test of its predicate, in order. A filter that is not has found what its terminals look up, up
to the one that stops.
-/

namespace DocumentQuery

open Attempt

namespace Compiler

variable (compiler : Compiler)

def find? : Operand → Option Resolution
  | .property path =>
      match Property.resolve compiler.catalog compiler.settings.namespaceSeparator path with
      | .ok property => some ⟨path, property⟩
      | .error _ => none
  | .literal _ | .literals _ | .unary _ _ | .binary _ _ _ | .nary _ _ => none

def lower (operand : Operand) : Attempt Predicate :=
  Lowering.expression compiler.catalog compiler.settings .notExpression operand

variable {compiler}

theorem find_eq_some_iff {operand : Operand} {resolution : Resolution} :
    compiler.find? operand = some resolution ↔ operand = .property resolution.written ∧
      Property.resolve compiler.catalog compiler.settings.namespaceSeparator resolution.written =
        .ok resolution.property := by
  cases operand with
  | property path =>
      rw [find?]
      cases resolved :
          Property.resolve compiler.catalog compiler.settings.namespaceSeparator path with
      | ok property =>
          constructor
          · intro found
            rw [← Option.some.inj found]
            exact ⟨rfl, resolved⟩
          · intro named
            rcases named with ⟨same, found⟩
            rw [← Operand.property.inj same, resolved] at found
            rw [Operand.property.inj same, Except.ok.inj found]
      | error rejection =>
          constructor
          · intro found
            cases found
          · intro named
            rcases named with ⟨same, found⟩
            rw [← Operand.property.inj same, resolved] at found
            cases found
  | literal _ | literals _ | unary _ _ | binary _ _ _ | nary _ _ =>
      constructor
      · intro found
        cases found
      · intro named
        cases named.1

/-- Finds what an operand names and nothing else, or else rejects the operand. -/
structure LooksFor (compiler : Compiler) (operand : Operand) (attempt : Attempt Property) :
    Prop where
  found : ∀ resolution, compiler.find? operand = some resolution →
    attempt = ⟨[resolution], .ok resolution.property⟩
  missed : compiler.find? operand = none → ∃ rejection, attempt = reject rejection

theorem looks_for_of_reject {operand : Operand} (missed : compiler.find? operand = none)
    (rejection : Rejection) : LooksFor compiler operand (reject rejection) := by
  constructor
  · intro resolution found
    rw [missed] at found
    cases found
  · intro _
    exact ⟨rejection, rfl⟩

theorem resolve_looks_for (path : String) :
    LooksFor compiler (.property path)
      (Attempt.resolve compiler.catalog compiler.settings path) := by
  rw [Attempt.resolve]
  cases resolved : Property.resolve compiler.catalog compiler.settings.namespaceSeparator path with
  | ok property =>
      have looked : compiler.find? (.property path) = some ⟨path, property⟩ := by
        rw [find?, resolved]
      constructor
      · intro resolution found
        rw [looked] at found
        rw [← Option.some.inj found]
      · intro missed
        rw [looked] at missed
        cases missed
  | error rejection =>
      apply looks_for_of_reject
      rw [find?, resolved]

theorem property_of_looks_for (operand : Operand) : LooksFor compiler operand
    (Lowering.propertyOf compiler.catalog compiler.settings operand) := by
  cases operand with
  | property path => exact resolve_looks_for path
  | literal _ | literals _ | unary _ _ | binary _ _ _ | nary _ _ => exact looks_for_of_reject rfl _

theorem selected_looks_for (operand : Operand) :
    LooksFor compiler operand (compiler.selected operand) := by
  cases operand with
  | property path => exact resolve_looks_for path
  | literal _ | literals _ | unary _ _ | binary _ _ _ | nary _ _ => exact looks_for_of_reject rfl _

namespace LooksFor

variable {operand : Operand} {attempt : Attempt Property}

theorem resolutions_eq (looks : LooksFor compiler operand attempt) :
    attempt.resolutions = (compiler.find? operand).toList := by
  cases looked : compiler.find? operand with
  | none =>
      obtain ⟨rejection, same⟩ := looks.missed looked
      rw [same]
      rfl
  | some resolution =>
      rw [looks.found resolution looked]
      rfl

theorem find_of_ok (looks : LooksFor compiler operand attempt) {property : Property}
    (ended : attempt.outcome = .ok property) :
    ∃ resolution, compiler.find? operand = some resolution ∧ resolution.property = property := by
  cases looked : compiler.find? operand with
  | none =>
      obtain ⟨rejection, same⟩ := looks.missed looked
      rw [same] at ended
      cases ended
  | some resolution =>
      rw [looks.found resolution looked] at ended
      exact ⟨resolution, rfl, Except.ok.inj ended⟩

theorem succeeds_iff (looks : LooksFor compiler operand attempt) :
    (∃ property, attempt.outcome = .ok property) ↔ (compiler.find? operand).isSome = true := by
  constructor
  · intro succeeds
    rcases succeeds with ⟨property, ended⟩
    obtain ⟨resolution, looked, -⟩ := looks.find_of_ok ended
    rw [looked]
    rfl
  · intro found
    obtain ⟨resolution, looked⟩ := Option.isSome_iff_exists.mp found
    exact ⟨resolution.property, by rw [looks.found resolution looked]⟩

end LooksFor

theorem resolutions_lower {terminal : Operand} (isTerminal : terminal.IsTerminal) :
    (compiler.lower terminal).resolutions =
      (terminal.lookedUp?.bind compiler.find?).toList := by
  rcases Lowering.terminal_lowers isTerminal with ⟨left, test, looksUp⟩ | ⟨rejection, outright⟩
  · have looks : LooksFor compiler left
        (Lowering.propertyOf compiler.catalog compiler.settings left) := property_of_looks_for left
    rw [lower, looksUp.lowers, looksUp.lookedUp, Option.bind_some, ← looks.resolutions_eq]
    cases ended : (Lowering.propertyOf compiler.catalog compiler.settings left).outcome with
    | ok property => simp [ended, (looksUp.isTest property).resolutions_eq]
    | error reason => simp [ended]
  · rw [lower, outright.lowers, outright.lookedUp]
    rfl

theorem test_of_lower {terminal : Operand} (isTerminal : terminal.IsTerminal)
    {predicate : Predicate} (ended : (compiler.lower terminal).outcome = .ok predicate) :
    ∃ left resolution, terminal.lookedUp? = some left ∧ compiler.find? left = some resolution ∧
      predicate.TestsElement resolution.property.storageKey := by
  rcases Lowering.terminal_lowers isTerminal with ⟨left, test, looksUp⟩ | ⟨rejection, outright⟩
  · rw [lower, looksUp.lowers] at ended
    obtain ⟨property, named, tested⟩ := (bind_eq_ok_iff _ _ _).mp ended
    obtain ⟨resolution, looked, rfl⟩ := (property_of_looks_for left).find_of_ok named
    exact ⟨left, resolution, looksUp.lookedUp, looked,
      (looksUp.isTest resolution.property).good_of_ok predicate tested⟩
  · rw [lower, outright.lowers] at ended
    cases ended

/-- What a terminal finds, if it looks anything up. -/
def findUnder? (compiler : Compiler) (terminal : Operand) : Option Resolution :=
  terminal.lookedUp?.bind compiler.find?

theorem flat_map_lower {terminals : List Operand}
    (areTerminals : ∀ terminal ∈ terminals, terminal.IsTerminal) :
    (terminals.flatMap fun terminal => (compiler.lower terminal).resolutions) =
      terminals.filterMap compiler.findUnder? := by
  rw [List.filterMap_eq_flatMap_toList]
  apply List.flatMap_congr
  intro terminal member
  exact resolutions_lower (areTerminals terminal member)

theorem filter_map_looked_up (terminals : List Operand) :
    (terminals.filterMap Operand.lookedUp?).filterMap compiler.find? =
      terminals.filterMap compiler.findUnder? := List.filterMap_filterMap

theorem flat_map_selected (operands : List Operand) :
    (operands.flatMap fun operand => (compiler.selected operand).resolutions) =
      operands.filterMap compiler.find? := by
  rw [List.filterMap_eq_flatMap_toList]
  apply List.flatMap_congr
  intro operand _
  exact (selected_looks_for operand).resolutions_eq

/-- A test of a predicate with what was found for it: the test is about the storage key of a
property, and this property is what its path names. -/
def TestsFound (compiler : Compiler) (leaf : Predicate) (resolution : Resolution) : Prop :=
  leaf.element? = some resolution.property.storageKey ∧
    compiler.find? (.property resolution.written) = some resolution

theorem find_written {operand : Operand} {resolution : Resolution}
    (looked : compiler.find? operand = some resolution) :
    compiler.find? (.property resolution.written) = some resolution := by
  rw [← (find_eq_some_iff.mp looked).1]
  exact looked

theorem tests_found_of_lowered {terminals : List Operand} {parts : List Predicate}
    (lowered : List.Forall₂ (fun terminal part => (compiler.lower terminal).outcome = .ok part)
      terminals parts)
    (areTerminals : ∀ terminal ∈ terminals, terminal.IsTerminal) :
    List.Forall₂ (TestsFound compiler) (Predicate.leavesOf parts)
      (terminals.filterMap compiler.findUnder?) := by
  induction lowered with
  | nil => exact .nil
  | @cons terminal part rest parts ended _ induction =>
      -- One terminal gives one test and one property, so that the two lists go on in step.
      obtain ⟨isTerminal, areRest⟩ := List.forall_mem_cons.mp areTerminals
      obtain ⟨left, resolution, lookedUp, looked, leaf, single, tests⟩ :=
        test_of_lower isTerminal ended
      have found : compiler.findUnder? terminal = some resolution := by
        rw [findUnder?, lookedUp, Option.bind_some, looked]
      rw [Predicate.leavesOf, single, List.filterMap_cons, found]
      exact .cons ⟨tests, find_written looked⟩ (induction areRest)

theorem lower_eq_each (compiler : Compiler) (operand : Operand) :
    ∃ assemble, Lowering.Assembles operand.terminals.length assemble ∧
      compiler.lower operand =
        each compiler.lower operand.terminals >>= fun parts => pure (assemble parts) := by
  obtain ⟨assemble, assembles, lowers⟩ := Lowering.assembled_from_terminals operand
  exact ⟨assemble, assembles, lowers compiler.catalog compiler.settings⟩

/-- A filter that is lowered is put together from its terminals, and has found what they look
up. -/
theorem lowered_parts {operand : Operand} {predicate : Predicate}
    (ended : (compiler.lower operand).outcome = .ok predicate) :
    ∃ parts, List.Forall₂ (fun terminal part => (compiler.lower terminal).outcome = .ok part)
        operand.terminals parts ∧
      predicate.leaves = Predicate.leavesOf parts ∧
      (compiler.lower operand).resolutions = operand.terminals.filterMap compiler.findUnder? := by
  obtain ⟨assemble, assembles, lowers⟩ := compiler.lower_eq_each operand
  rw [lowers] at ended
  obtain ⟨parts, partsEnded, same⟩ := (bind_eq_ok_iff _ _ _).mp ended
  simp at same
  have lowered := (each_eq_ok_iff _ _ _).mp partsEnded
  have succeeds := (each_succeeds_iff _ _).mp ⟨parts, partsEnded⟩
  refine ⟨parts, lowered, ?_, ?_⟩
  · rw [← same, assembles parts lowered.length_eq.symm]
  · rw [lowers, resolutions_bind_pure, resolutions_each_of_ok succeeds]
    exact flat_map_lower fun terminal member => Operand.is_terminal_of_mem member

/-- A filter that is lowered has found one property for each test of its predicate. -/
theorem found_of_lowered {operand : Operand} {predicate : Predicate}
    (ended : (compiler.lower operand).outcome = .ok predicate) :
    List.Forall₂ (TestsFound compiler) predicate.leaves
      (compiler.lower operand).resolutions := by
  obtain ⟨parts, lowered, leaves, found⟩ := lowered_parts ended
  rw [leaves, found]
  exact tests_found_of_lowered lowered fun terminal member => Operand.is_terminal_of_mem member

theorem length_leaves_of_of_lowered {terminals : List Operand} {parts : List Predicate}
    (lowered : List.Forall₂ (fun terminal part => (compiler.lower terminal).outcome = .ok part)
      terminals parts)
    (areTerminals : ∀ terminal ∈ terminals, terminal.IsTerminal) :
    (Predicate.leavesOf parts).length = terminals.length := by
  induction lowered with
  | nil => rfl
  | @cons terminal part rest parts ended _ induction =>
      obtain ⟨isTerminal, areRest⟩ := List.forall_mem_cons.mp areTerminals
      obtain ⟨-, -, -, -, leaf, single, -⟩ := test_of_lower isTerminal ended
      rw [Predicate.leavesOf, single, List.singleton_append, List.length_cons, List.length_cons,
        induction areRest]

theorem leaf_count_of_lowered {operand : Operand} {predicate : Predicate}
    (ended : (compiler.lower operand).outcome = .ok predicate) :
    predicate.leafCount = operand.terminals.length := by
  obtain ⟨parts, lowered, leaves, -⟩ := lowered_parts ended
  rw [← Predicate.length_leaves, leaves]
  exact length_leaves_of_of_lowered lowered fun terminal member => Operand.is_terminal_of_mem member

/-- A filter that is not lowered has found what its terminals look up, up to the one that
stops. -/
theorem found_of_stopped {operand : Operand} {reason : Stop}
    (stopped : (compiler.lower operand).outcome = .error reason) :
    ∃ before terminal after, operand.terminals = before ++ terminal :: after ∧
      (compiler.lower terminal).outcome = .error reason ∧
      (∀ other ∈ before, ∃ part, (compiler.lower other).outcome = .ok part) ∧
      (compiler.lower operand).resolutions =
        (before ++ [terminal]).filterMap compiler.findUnder? := by
  obtain ⟨assemble, -, lowers⟩ := compiler.lower_eq_each operand
  rw [lowers] at stopped
  rcases (bind_eq_error_iff _ _ _).mp stopped with partsStopped | ⟨parts, -, impossible⟩
  · obtain ⟨before, terminal, after, whole, terminalStopped, earlier⟩ :=
      (each_eq_error_iff _ _ _).mp partsStopped
    refine ⟨before, terminal, after, whole, terminalStopped, earlier, ?_⟩
    rw [lowers, resolutions_bind_pure, whole, resolutions_each_of_error earlier terminalStopped]
    apply flat_map_lower
    intro other member
    have present : other ∈ operand.terminals := by
      rw [whole]
      rcases List.mem_append.mp member with early | last
      · exact List.mem_append_left _ early
      · rw [List.mem_singleton.mp last]
        exact List.mem_append_right _ List.mem_cons_self
    exact Operand.is_terminal_of_mem present
  · cases impossible

end Compiler

end DocumentQuery
