import DocumentQuery.Monitor.Session
import Mathlib.Algebra.GroupWithZero.Nat
import Mathlib.Data.List.Nodup

/-!
What calls add to a tally as long as no count has come to its greatest number. Counts that stay
below it are exact, and were below it before, so that it is enough to look at the tally after a
call.
-/

namespace DocumentQuery.Tally

/-- No count has come to the greatest number. -/
structure Unsaturated (tally : Tally) : Prop where
  compileCalls : tally.compileCalls < limit
  compilesFinished : tally.compilesFinished < limit
  compilesRejected : tally.compilesRejected < limit
  predicatesEmitted : tally.predicatesEmitted < limit
  predicatesMax : tally.predicatesMax < limit
  fieldsResolved : tally.fieldsResolved < limit
  systemFieldsResolved : tally.systemFieldsResolved < limit
  rejections : ∀ entry ∈ tally.rejections, entry.2 < limit

theorem add_of_lt {count more : Nat} (below : add count more < limit) :
    add count more = count + more := by
  unfold add at below ⊢
  omega

variable {tally : Tally}

theorem note_call_eq (unsaturated : tally.noteCall.Unsaturated) :
    tally.noteCall = { tally with compileCalls := tally.compileCalls + 1 } := by
  have exact := add_of_lt unsaturated.compileCalls
  rw [noteCall, exact]

theorem unsaturated_of_note_call (unsaturated : tally.noteCall.Unsaturated) :
    tally.Unsaturated := by
  have exact : tally.noteCall.compileCalls = tally.compileCalls + 1 :=
    add_of_lt unsaturated.compileCalls
  have below := unsaturated.compileCalls
  exact { unsaturated with compileCalls := by omega }

def isSystem (resolution : Resolution) : Bool := resolution.property.system

theorem note_resolution_eq {resolution : Resolution}
    (unsaturated : (tally.noteResolution resolution).Unsaturated) :
    tally.noteResolution resolution =
      { tally with
        fieldsResolved := tally.fieldsResolved + 1
        systemFieldsResolved := tally.systemFieldsResolved + [resolution].countP isSystem } := by
  have fields := add_of_lt unsaturated.fieldsResolved
  have system := unsaturated.systemFieldsResolved
  simp only [noteResolution] at system ⊢
  rw [fields, List.countP_singleton, isSystem]
  cases kind : resolution.property.system with
  | true =>
      rw [if_pos kind] at system
      rw [if_pos rfl, if_pos rfl, add_of_lt system]
  | false =>
      rw [if_neg Bool.false_ne_true, if_neg Bool.false_ne_true]
      rfl

theorem unsaturated_of_note_resolution {resolution : Resolution}
    (unsaturated : (tally.noteResolution resolution).Unsaturated) : tally.Unsaturated := by
  have after := unsaturated
  rw [note_resolution_eq unsaturated] at after
  have fields : tally.fieldsResolved + 1 < limit := after.fieldsResolved
  have system : tally.systemFieldsResolved + [resolution].countP isSystem < limit :=
    after.systemFieldsResolved
  exact { after with fieldsResolved := by omega, systemFieldsResolved := by omega }

theorem note_resolutions_cons (resolution : Resolution) (rest : List Resolution) :
    tally.noteResolutions (resolution :: rest) =
      (tally.noteResolution resolution).noteResolutions rest := rfl

theorem unsaturated_of_note_resolutions {resolutions : List Resolution}
    (unsaturated : (tally.noteResolutions resolutions).Unsaturated) : tally.Unsaturated := by
  induction resolutions generalizing tally with
  | nil => exact unsaturated
  | cons resolution rest induction => exact unsaturated_of_note_resolution (induction unsaturated)

theorem note_resolutions_eq {resolutions : List Resolution}
    (unsaturated : (tally.noteResolutions resolutions).Unsaturated) :
    tally.noteResolutions resolutions =
      { tally with
        fieldsResolved := tally.fieldsResolved + resolutions.length
        systemFieldsResolved := tally.systemFieldsResolved + resolutions.countP isSystem } := by
  induction resolutions generalizing tally with
  | nil => rfl
  | cons resolution rest induction =>
      have first := note_resolution_eq (unsaturated_of_note_resolutions unsaturated)
      have system : (resolution :: rest).countP isSystem =
          [resolution].countP isSystem + rest.countP isSystem := by
        rw [← List.countP_append, List.singleton_append]
      rw [note_resolutions_cons, induction unsaturated, first, List.length_cons, system]
      simp only [Nat.add_assoc, Nat.add_comm 1]

theorem note_finish_eq {predicates : Nat}
    (unsaturated : (tally.noteFinish predicates).Unsaturated) :
    tally.noteFinish predicates =
      { tally with
        compilesFinished := tally.compilesFinished + 1
        predicatesEmitted := tally.predicatesEmitted + predicates
        predicatesMax := max tally.predicatesMax predicates } := by
  have finished := add_of_lt unsaturated.compilesFinished
  have emitted := add_of_lt unsaturated.predicatesEmitted
  rw [noteFinish, finished, emitted]

theorem unsaturated_of_note_finish {predicates : Nat}
    (unsaturated : (tally.noteFinish predicates).Unsaturated) : tally.Unsaturated := by
  have after := unsaturated
  rw [note_finish_eq unsaturated] at after
  have finished : tally.compilesFinished + 1 < limit := after.compilesFinished
  have emitted : tally.predicatesEmitted + predicates < limit := after.predicatesEmitted
  have greatest : max tally.predicatesMax predicates < limit := after.predicatesMax
  exact { after with
    compilesFinished := by omega
    predicatesEmitted := by omega
    predicatesMax := by omega }

/-- All counts of refusals are below the greatest number. -/
def CountsBelow (counts : List (Refusal × Nat)) : Prop := ∀ entry ∈ counts, entry.2 < limit

/-- The count of a refusal. One that is not listed has been counted at no time. -/
def countOf (refusal : Refusal) : List (Refusal × Nat) → Nat
  | [] => 0
  | (known, count) :: rest => if known = refusal then count else countOf refusal rest

section

variable {refusal : Refusal} {counts : List (Refusal × Nat)}

theorem counts_below_of_count_refusal (below : CountsBelow (countRefusal refusal counts)) :
    CountsBelow counts := by
  induction counts with
  | nil =>
      intro entry member
      cases member
  | cons entry rest induction =>
      obtain ⟨known, count⟩ := entry
      rw [countRefusal] at below
      split at below
      · obtain ⟨raised, others⟩ := List.forall_mem_cons.mp below
        have exact : add count 1 = count + 1 := add_of_lt raised
        have first : count < limit := by
          have bound : add count 1 < limit := raised
          omega
        exact List.forall_mem_cons.mpr ⟨first, others⟩
      · obtain ⟨first, others⟩ := List.forall_mem_cons.mp below
        exact List.forall_mem_cons.mpr ⟨first, induction others⟩

theorem count_of_count_refusal (below : CountsBelow (countRefusal refusal counts))
    (other : Refusal) :
    countOf other (countRefusal refusal counts) =
      countOf other counts + if other = refusal then 1 else 0 := by
  induction counts with
  | nil =>
      simp only [countRefusal, countOf, Nat.zero_add, eq_comm]
  | cons entry rest induction =>
      obtain ⟨known, count⟩ := entry
      rw [countRefusal] at below ⊢
      by_cases listed : known = refusal
      · rw [if_pos listed] at below ⊢
        have exact : add count 1 = count + 1 := add_of_lt (below _ List.mem_cons_self)
        rw [countOf, countOf, exact, listed]
        by_cases same : refusal = other
        · simp [same]
        · simp [same, Ne.symm same]
      · rw [if_neg listed] at below ⊢
        have later := induction (List.forall_mem_cons.mp below).2
        rw [countOf, countOf, later]
        by_cases same : known = other
        · have different : other ≠ refusal := same ▸ listed
          simp [same, different]
        · simp [same]

theorem count_of_count_refusal_of_ne {other : Refusal} (different : other ≠ refusal) :
    countOf other (countRefusal refusal counts) = countOf other counts := by
  induction counts with
  | nil => simp [countRefusal, countOf, different.symm]
  | cons entry rest induction =>
      obtain ⟨known, count⟩ := entry
      rw [countRefusal]
      by_cases listed : known = refusal
      · rw [if_pos listed, countOf, countOf, listed, if_neg different.symm, if_neg different.symm]
      · rw [if_neg listed, countOf, countOf, induction]

theorem sum_count_refusal (below : CountsBelow (countRefusal refusal counts)) :
    ((countRefusal refusal counts).map Prod.snd).sum = (counts.map Prod.snd).sum + 1 := by
  induction counts with
  | nil => rfl
  | cons entry rest induction =>
      obtain ⟨known, count⟩ := entry
      rw [countRefusal] at below ⊢
      by_cases listed : known = refusal
      · rw [if_pos listed] at below ⊢
        have exact : add count 1 = count + 1 := add_of_lt (below _ List.mem_cons_self)
        simp only [List.map_cons, List.sum_cons]
        omega
      · rw [if_neg listed] at below ⊢
        have later := induction (List.forall_mem_cons.mp below).2
        simp only [List.map_cons, List.sum_cons]
        omega

theorem refusals_count_refusal (refusal : Refusal) (counts : List (Refusal × Nat)) :
    (countRefusal refusal counts).map Prod.fst =
      if refusal ∈ counts.map Prod.fst then counts.map Prod.fst
      else counts.map Prod.fst ++ [refusal] := by
  induction counts with
  | nil => rfl
  | cons entry rest induction =>
      obtain ⟨known, count⟩ := entry
      rw [countRefusal]
      by_cases listed : known = refusal
      · simp [listed]
      · rw [if_neg listed, List.map_cons, induction]
        by_cases later : refusal ∈ rest.map Prod.fst
        · simp [later]
        · simp [later, Ne.symm listed]

theorem pos_count_refusal (counted : ∀ entry ∈ counts, 0 < entry.2) :
    ∀ entry ∈ countRefusal refusal counts, 0 < entry.2 := by
  induction counts with
  | nil =>
      intro entry member
      rw [List.mem_singleton.mp member]
      exact Nat.one_pos
  | cons entry rest induction =>
      obtain ⟨known, count⟩ := entry
      obtain ⟨first, others⟩ := List.forall_mem_cons.mp counted
      have raised : 0 < add count 1 := by
        unfold add limit
        omega
      rw [countRefusal]
      split
      · exact List.forall_mem_cons.mpr ⟨raised, others⟩
      · exact List.forall_mem_cons.mpr ⟨first, induction others⟩

end

theorem note_refusal_eq {refusal : Refusal}
    (unsaturated : (tally.noteRefusal refusal).Unsaturated) :
    tally.noteRefusal refusal =
      { tally with
        compilesRejected := tally.compilesRejected + 1
        rejections := countRefusal refusal tally.rejections } := by
  have exact := add_of_lt unsaturated.compilesRejected
  rw [noteRefusal, exact]

theorem unsaturated_of_note_refusal {refusal : Refusal}
    (unsaturated : (tally.noteRefusal refusal).Unsaturated) : tally.Unsaturated := by
  have after := unsaturated
  rw [note_refusal_eq unsaturated] at after
  have rejected : tally.compilesRejected + 1 < limit := after.compilesRejected
  have below := counts_below_of_count_refusal after.rejections
  exact { after with compilesRejected := by omega, rejections := below }

section

variable {attempt : Attempt CompiledQuery}

/-- A compilation that succeeds is counted as a call and as finished, with what it found and the
tests of its predicate. -/
theorem note_compile_eq_of_ok {compiled : CompiledQuery} (ended : attempt.outcome = .ok compiled)
    (unsaturated : (tally.noteCompile attempt).Unsaturated) :
    tally.noteCompile attempt =
      { tally with
        compileCalls := tally.compileCalls + 1
        compilesFinished := tally.compilesFinished + 1
        predicatesEmitted := tally.predicatesEmitted + compiled.predicate.leafCount
        predicatesMax := max tally.predicatesMax compiled.predicate.leafCount
        fieldsResolved := tally.fieldsResolved + attempt.resolutions.length
        systemFieldsResolved :=
          tally.systemFieldsResolved + attempt.resolutions.countP isSystem } := by
  rw [noteCompile, ended, noteOutcome] at unsaturated ⊢
  have found := unsaturated_of_note_finish unsaturated
  have called := unsaturated_of_note_resolutions found
  rw [note_finish_eq unsaturated, note_resolutions_eq found, note_call_eq called]

/-- A compilation that stops is counted as a call and as rejected, with what it had found. -/
theorem note_compile_eq_of_error {reason : Stop} (ended : attempt.outcome = .error reason)
    (unsaturated : (tally.noteCompile attempt).Unsaturated) :
    tally.noteCompile attempt =
      { tally with
        compileCalls := tally.compileCalls + 1
        compilesRejected := tally.compilesRejected + 1
        fieldsResolved := tally.fieldsResolved + attempt.resolutions.length
        systemFieldsResolved := tally.systemFieldsResolved + attempt.resolutions.countP isSystem
        rejections := countRefusal reason.refusal tally.rejections } := by
  rw [noteCompile, ended, noteOutcome] at unsaturated ⊢
  have found := unsaturated_of_note_refusal unsaturated
  have called := unsaturated_of_note_resolutions found
  rw [note_refusal_eq unsaturated, note_resolutions_eq found, note_call_eq called]

theorem unsaturated_of_note_outcome {outcome : Except Stop CompiledQuery}
    (unsaturated : (tally.noteOutcome outcome).Unsaturated) : tally.Unsaturated := by
  cases outcome with
  | ok compiled => exact unsaturated_of_note_finish unsaturated
  | error reason => exact unsaturated_of_note_refusal unsaturated

theorem unsaturated_of_note_compile (unsaturated : (tally.noteCompile attempt).Unsaturated) :
    tally.Unsaturated := by
  have found := unsaturated_of_note_outcome unsaturated
  have called := unsaturated_of_note_resolutions found
  exact unsaturated_of_note_call called

theorem rejections_note_resolutions (tally : Tally) (resolutions : List Resolution) :
    (tally.noteResolutions resolutions).rejections = tally.rejections := by
  induction resolutions generalizing tally with
  | nil => rfl
  | cons resolution rest induction =>
      rw [note_resolutions_cons, induction]
      rfl

theorem rejections_note_compile_of_ok {compiled : CompiledQuery}
    (ended : attempt.outcome = .ok compiled) :
    (tally.noteCompile attempt).rejections = tally.rejections := by
  rw [noteCompile, ended]
  exact rejections_note_resolutions tally.noteCall attempt.resolutions

theorem rejections_note_compile_of_error {reason : Stop}
    (ended : attempt.outcome = .error reason) :
    (tally.noteCompile attempt).rejections = countRefusal reason.refusal tally.rejections := by
  rw [noteCompile, ended]
  exact congrArg (countRefusal reason.refusal)
    (rejections_note_resolutions tally.noteCall attempt.resolutions)

end

end DocumentQuery.Tally
