import DocumentQuery.Proofs.Compile.Meaning
import DocumentQuery.Proofs.Compile.Stages
import DocumentQuery.Proofs.Monitor.Counts

/-!
How the counts of a tally agree with each other between calls. Every call to a compiler keeps them
so as long as no count comes to its greatest number, and a reset makes them so.
-/

namespace DocumentQuery

theorem RejectionKind.name_injective : Function.Injective RejectionKind.name := by
  intro first second same
  cases first <;> cases second <;> first | rfl | exact absurd same (by decide)

theorem RejectionKind.name_ne_aborted (kind : RejectionKind) : kind.name ≠ "aborted" := by
  cases kind <;> decide

theorem Refusal.name_injective : Function.Injective Refusal.name := by
  intro first second same
  cases first with
  | rejection kind =>
      cases second with
      | rejection other => exact congrArg rejection (RejectionKind.name_injective same)
      | aborted => exact absurd same kind.name_ne_aborted
  | aborted =>
      cases second with
      | rejection other => exact absurd same.symm other.name_ne_aborted
      | aborted => rfl

theorem LoweringFault.kind_ne {rejection : Rejection} (fault : LoweringFault rejection) :
    rejection.kind ≠ .unknownOperator := by
  intro same
  cases fault <;> cases same

/-- No compilation is refused because a tag is not that of an operator. -/
theorem Compiler.refusal_name_ne {compiler : Compiler} {query : Query} {reason : Stop}
    (stopped : (compiler.compile query).outcome = .error reason) :
    reason.refusal.name ≠ "unknown_operator" := by
  cases reason with
  | aborted => decide
  | rejected rejection =>
      have kind : rejection.kind ≠ .unknownOperator := by
        rcases compile_fault stopped with fault | ⟨operator, rfl⟩
        · exact fault.kind_ne
        · intro same
          cases same
      intro same
      exact kind (RejectionKind.name_injective same)

namespace Tally

/-- Counts of refusals as a map in which each key has been counted, and none stands for an unknown
operator. -/
structure RefusalCounts (counts : List (Refusal × Nat)) : Prop where
  distinct : (counts.map fun entry => entry.1.name).Nodup
  counted : ∀ entry ∈ counts, 1 ≤ entry.2
  named : ∀ entry ∈ counts, entry.1.name ≠ "unknown_operator"

structure Consistent (tally : Tally) : Prop where
  calls : tally.compileCalls = tally.compilesFinished + tally.compilesRejected
  refusals : RefusalCounts tally.rejections
  rejected : tally.compilesRejected = (tally.rejections.map Prod.snd).sum
  finished_le : tally.compilesFinished ≤ tally.predicatesEmitted
  emitted_le : tally.predicatesEmitted ≤ tally.predicatesMax * tally.compilesFinished
  max_le : tally.predicatesMax ≤ tally.predicatesEmitted
  system_le : tally.systemFieldsResolved ≤ tally.fieldsResolved
  emitted_le_fields : tally.predicatesEmitted ≤ tally.fieldsResolved

theorem mem_of_mem_count_refusal {refusal : Refusal} {counts : List (Refusal × Nat)}
    {entry : Refusal × Nat} (member : entry ∈ countRefusal refusal counts) :
    entry.1 ∈ counts.map Prod.fst ∨ entry.1 = refusal := by
  have listed : entry.1 ∈ (countRefusal refusal counts).map Prod.fst := List.mem_map_of_mem member
  rw [refusals_count_refusal] at listed
  split at listed
  · exact Or.inl listed
  · rcases List.mem_append.mp listed with known | new
    · exact Or.inl known
    · exact Or.inr (List.mem_singleton.mp new)

theorem refusal_counts_count_refusal {refusal : Refusal} {counts : List (Refusal × Nat)}
    (held : RefusalCounts counts) (named : refusal.name ≠ "unknown_operator") :
    RefusalCounts (countRefusal refusal counts) := by
  have keys : ∀ entries : List (Refusal × Nat),
      (entries.map fun entry => entry.1.name).Nodup ↔ (entries.map Prod.fst).Nodup := by
    intro entries
    rw [← List.nodup_map_iff Refusal.name_injective, List.map_map]
    rfl
  constructor
  · have distinct := (keys counts).mp held.distinct
    rw [keys, refusals_count_refusal]
    split
    · exact distinct
    · next unknown =>
        apply List.Nodup.append distinct (List.nodup_singleton refusal)
        exact List.disjoint_singleton.mpr unknown
  · exact pos_count_refusal held.counted
  · intro entry member
    rcases mem_of_mem_count_refusal member with known | new
    · obtain ⟨other, present, same⟩ := List.mem_map.mp known
      rw [← same]
      exact held.named other present
    · rw [new]
      exact named

theorem consistent_zero : zero.Consistent := by
  refine ⟨rfl, ⟨List.nodup_nil, ?_, ?_⟩, rfl, ?_, ?_, ?_, ?_, ?_⟩
  · intro entry member
    cases member
  · intro entry member
    cases member
  all_goals exact Nat.le_refl _

variable {tally : Tally}

theorem count_p_is_system_le (resolutions : List Resolution) :
    resolutions.countP isSystem ≤ resolutions.length := List.countP_le_length

theorem consistent_note_resolutions {resolutions : List Resolution} (held : tally.Consistent)
    (unsaturated : (tally.noteResolutions resolutions).Unsaturated) :
    (tally.noteResolutions resolutions).Consistent := by
  have system := held.system_le
  have emitted := held.emitted_le_fields
  have part := count_p_is_system_le resolutions
  rw [note_resolutions_eq unsaturated]
  exact { held with
    system_le := by
      change tally.systemFieldsResolved + resolutions.countP isSystem ≤
        tally.fieldsResolved + resolutions.length
      omega
    emitted_le_fields := by
      change tally.predicatesEmitted ≤ tally.fieldsResolved + resolutions.length
      omega }

theorem leaf_count_le_found {compiler : Compiler} {query : Query} {compiled : CompiledQuery}
    (ended : (compiler.compile query).outcome = .ok compiled) :
    compiled.predicate.leafCount ≤ (compiler.compile query).resolutions.length := by
  obtain ⟨selected, filtered, found, -, filteredFound⟩ := Compiler.found_of_compiled ended
  have tests : compiled.predicate.leafCount = filtered.length := by
    rw [← Predicate.length_leaves, filteredFound.length_eq]
  rw [found, List.length_append, tests]
  exact Nat.le_add_left _ _

theorem consistent_of_compiled {compiler : Compiler} {query : Query} {compiled : CompiledQuery}
    (held : tally.Consistent) (ended : (compiler.compile query).outcome = .ok compiled)
    (unsaturated : (tally.noteCompile (compiler.compile query)).Unsaturated) :
    (tally.noteCompile (compiler.compile query)).Consistent := by
  have positive := Compiler.leaf_count_pos ended
  have found := leaf_count_le_found ended
  have part := count_p_is_system_le (compiler.compile query).resolutions
  rw [note_compile_eq_of_ok ended unsaturated]
  generalize compiled.predicate.leafCount = tests at *
  have calls := held.calls
  have finished := held.finished_le
  have greatest := held.max_le
  have system := held.system_le
  have fields := held.emitted_le_fields
  -- The new greatest size is at least the old one and the size of this predicate.
  have product : tally.predicatesEmitted + tests ≤
      max tally.predicatesMax tests * (tally.compilesFinished + 1) := by
    calc tally.predicatesEmitted + tests
        ≤ tally.predicatesMax * tally.compilesFinished + tests :=
          Nat.add_le_add_right held.emitted_le _
      _ ≤ max tally.predicatesMax tests * tally.compilesFinished + max tally.predicatesMax tests :=
          Nat.add_le_add (Nat.mul_le_mul_right _ (Nat.le_max_left _ _)) (Nat.le_max_right _ _)
      _ = max tally.predicatesMax tests * (tally.compilesFinished + 1) :=
          (Nat.mul_succ _ _).symm
  constructor
  case refusals => exact held.refusals
  case rejected => exact held.rejected
  case emitted_le => exact product
  all_goals dsimp only
  all_goals omega

theorem consistent_of_stopped {compiler : Compiler} {query : Query} {reason : Stop}
    (held : tally.Consistent) (ended : (compiler.compile query).outcome = .error reason)
    (unsaturated : (tally.noteCompile (compiler.compile query)).Unsaturated) :
    (tally.noteCompile (compiler.compile query)).Consistent := by
  have part := count_p_is_system_le (compiler.compile query).resolutions
  have below := unsaturated.rejections
  rw [note_compile_eq_of_error ended unsaturated] at below ⊢
  have sum := sum_count_refusal below
  have calls := held.calls
  have rejected := held.rejected
  have system := held.system_le
  have fields := held.emitted_le_fields
  constructor
  case refusals =>
    exact refusal_counts_count_refusal held.refusals (Compiler.refusal_name_ne ended)
  case finished_le => exact held.finished_le
  case emitted_le => exact held.emitted_le
  case max_le => exact held.max_le
  all_goals dsimp only
  all_goals omega

theorem consistent_note_compile {compiler : Compiler} {query : Query} (held : tally.Consistent)
    (unsaturated : (tally.noteCompile (compiler.compile query)).Unsaturated) :
    (tally.noteCompile (compiler.compile query)).Consistent := by
  cases ended : (compiler.compile query).outcome with
  | ok compiled => exact consistent_of_compiled held ended unsaturated
  | error reason => exact consistent_of_stopped held ended unsaturated

/-- A call keeps the counts consistent: no count goes down but by a reset, so that none had come to
its greatest number before either. -/
theorem consistent_after {compiler : Compiler} {call : Call}
    (held : tally.Unsaturated → tally.Consistent)
    (unsaturated : (tally.after compiler call).Unsaturated) :
    (tally.after compiler call).Consistent := by
  cases call with
  | compile query =>
      exact consistent_note_compile (held (unsaturated_of_note_compile unsaturated)) unsaturated
  | resolve path =>
      exact consistent_note_resolutions (held (unsaturated_of_note_resolutions unsaturated))
        unsaturated
  | selectsWildcard select =>
      exact consistent_note_resolutions (held (unsaturated_of_note_resolutions unsaturated))
        unsaturated
  | reset => exact consistent_zero

theorem consistent_after_all {calls : List (Compiler × Call)}
    (held : tally.Unsaturated → tally.Consistent)
    (unsaturated : (tally.afterAll calls).Unsaturated) : (tally.afterAll calls).Consistent := by
  -- A count can come to its greatest number and go back by a reset, so that consistency is only
  -- carried along for tallies that are unsaturated.
  induction calls generalizing tally with
  | nil => exact held unsaturated
  | cons first rest induction => exact induction (consistent_after held) unsaturated

/-- After a reset and any calls to any compilers, the counts agree with each other as long as none
of them has come to its greatest number. -/
theorem after_all_reset_consistent (tally : Tally) (compiler : Compiler)
    (calls : List (Compiler × Call))
    (unsaturated : (tally.afterAll ((compiler, .reset) :: calls)).Unsaturated) :
    (tally.afterAll ((compiler, .reset) :: calls)).Consistent := by
  have fromZero : tally.afterAll ((compiler, .reset) :: calls) = zero.afterAll calls := rfl
  rw [fromZero] at unsaturated ⊢
  exact consistent_after_all (fun _ => consistent_zero) unsaturated

/-- Calls of every kind: compilations that succeed, are rejected and are cut short by a date that is
too late, and two look-ups. -/
def mixedCalls : List (Compiler × Call) :=
  [(Compiler.noteCompiler, .compile (.plain Compiler.noteFilter [.property "ecm:uuid"])),
   (Compiler.noteCompiler, .compile (.plain (.unary .isNull (.property "dc:titel")) [])),
   (Compiler.noteCompiler, .compile (.plain (.compare "dc:title" .equal
     (.date ⟨300000000000000000000, 0⟩)) [])),
   (Compiler.noteCompiler, .resolve "ecm:uuid"),
   (Compiler.noteCompiler, .selectsWildcard [.property "note/*", .literal (.boolean true)])]

theorem after_all_reset_consistent_mixed :
    zero.afterAll ((Compiler.noteCompiler, .reset) :: mixedCalls) =
        ⟨3, 1, 2, 2, 2, 6, 2, [(.rejection .unknownProperty, 1), (.aborted, 1)]⟩ ∧
      (zero.afterAll ((Compiler.noteCompiler, .reset) :: mixedCalls)).Consistent := by
  have counts : zero.afterAll ((Compiler.noteCompiler, .reset) :: mixedCalls) =
      ⟨3, 1, 2, 2, 2, 6, 2, [(.rejection .unknownProperty, 1), (.aborted, 1)]⟩ := rfl
  have unsaturated :
      (zero.afterAll ((Compiler.noteCompiler, .reset) :: mixedCalls)).Unsaturated := by
    rw [counts]
    constructor <;> decide
  exact ⟨counts, after_all_reset_consistent zero Compiler.noteCompiler mixedCalls unsaturated⟩

end Tally

end DocumentQuery
