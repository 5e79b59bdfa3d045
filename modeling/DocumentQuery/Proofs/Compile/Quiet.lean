import DocumentQuery.Compile.Lowering
import DocumentQuery.Proofs.Compile.Attempt

/-!
Attempts that find nothing on their way, with what is known of their results and of the
rejections that they end with. One rule for each way to make such an attempt.
-/

namespace DocumentQuery

/-- What a filter whose operators all have predicates can be rejected for. -/
inductive LoweringFault : Rejection → Prop
  | unknownProperty (path : String) : LoweringFault (.unknownProperty path)
  | invalidQuery (fault : QueryFault) : LoweringFault (.invalidQuery fault)
  | invalidTruthValue (fault : TruthFault) : LoweringFault (.invalidTruthValue fault)
  | systemProperty (name : String) : LoweringFault (.unsupported (.systemProperty name))
  | equality (path : String) : LoweringFault (.unsupported (.equality path))

namespace Attempt

variable {First Second : Type}

/-- Finds nothing, and each of the results has some property. -/
structure Yields (good : First → Prop) (attempt : Attempt First) : Prop where
  resolutions_eq : attempt.resolutions = []
  good_of_ok : ∀ result, attempt.outcome = .ok result → good result
  fault_of_error : ∀ rejection,
    attempt.outcome = .error (.rejected rejection) → LoweringFault rejection

theorem yields_done {good : First → Prop} {result : First} (held : good result) :
    Yields good (done result) := by
  refine ⟨rfl, ?_, ?_⟩
  · intro other ended
    rw [← Except.ok.inj ended]
    exact held
  · intro rejection stopped
    cases stopped

theorem yields_pure {good : First → Prop} {result : First} (held : good result) :
    Yields good (pure result) := yields_done held

theorem yields_reject {good : First → Prop} {rejection : Rejection}
    (fault : LoweringFault rejection) : Yields good (reject rejection) := by
  refine ⟨rfl, ?_, ?_⟩
  · intro result ended
    cases ended
  · intro other stopped
    rw [← Stop.rejected.inj (Except.error.inj stopped)]
    exact fault

theorem yields_aborted {good : First → Prop} : Yields good (stop .aborted) := by
  refine ⟨rfl, ?_, ?_⟩
  · intro result ended
    cases ended
  · intro rejection stopped
    cases stopped

theorem yields_of_except {good : First → Prop} {outcome : Except Rejection First}
    (held : ∀ result, outcome = .ok result → good result)
    (fault : ∀ rejection, outcome = .error rejection → LoweringFault rejection) :
    Yields good (ofExcept outcome) := by
  cases outcome with
  | ok result => exact yields_done (held result rfl)
  | error rejection => exact yields_reject (fault rejection rfl)

theorem yields_bind {middle : First → Prop} {good : Second → Prop} {attempt : Attempt First}
    {next : First → Attempt Second} (first : Yields middle attempt)
    (later : ∀ result, middle result → Yields good (next result)) :
    Yields good (attempt >>= next) := by
  cases ended : attempt.outcome with
  | ok result =>
      have last := later result (first.good_of_ok result ended)
      rw [bind_of_ok ended, first.resolutions_eq, last.resolutions_eq]
      exact ⟨rfl, last.good_of_ok, last.fault_of_error⟩
  | error reason =>
      rw [bind_of_error ended, first.resolutions_eq]
      refine ⟨rfl, ?_, ?_⟩
      · intro result impossible
        cases impossible
      · intro rejection stopped
        have same : reason = .rejected rejection := Except.error.inj stopped
        rw [same] at ended
        exact first.fault_of_error rejection ended

theorem yields_each {good : Second → Prop} {step : First → Attempt Second}
    (steps : ∀ item, Yields good (step item)) (items : List First) :
    Yields (fun results => ∀ result ∈ results, good result) (each step items) := by
  induction items with
  | nil => exact yields_done (by intro result member; cases member)
  | cons item rest induction =>
      apply yields_bind (steps item)
      intro result held
      apply yields_bind induction
      intro results allHeld
      exact yields_pure (List.forall_mem_cons.mpr ⟨held, allHeld⟩)

end Attempt

end DocumentQuery
