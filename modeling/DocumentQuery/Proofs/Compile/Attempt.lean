import DocumentQuery.Compile.Attempt
import Mathlib.Data.List.Forall2

/-!
Outcomes of attempts, and what is found on the way. The outcome of two attempts in a row is that
of the second one, unless the first one stops. A list is gone through up to the first item that
stops, and what its items find is found in their order.
-/

namespace DocumentQuery.Attempt

variable {First Second : Type}

theorem outcome_bind (attempt : Attempt First) (next : First → Attempt Second) :
    (attempt >>= next).outcome = attempt.outcome >>= fun result => (next result).outcome := by
  cases ended : attempt.outcome with
  | ok result =>
      rw [bind_of_ok ended]
      rfl
  | error reason =>
      rw [bind_of_error ended]
      rfl

theorem bind_eq_ok_iff (attempt : Attempt First) (next : First → Attempt Second)
    (result : Second) :
    (attempt >>= next).outcome = .ok result ↔
      ∃ middle, attempt.outcome = .ok middle ∧ (next middle).outcome = .ok result := by
  cases ended : attempt.outcome <;> simp [ended]

theorem bind_eq_error_iff (attempt : Attempt First) (next : First → Attempt Second)
    (reason : Stop) :
    (attempt >>= next).outcome = .error reason ↔
      attempt.outcome = .error reason ∨
        ∃ middle, attempt.outcome = .ok middle ∧ (next middle).outcome = .error reason := by
  cases ended : attempt.outcome <;> simp [ended]

@[simp] theorem map_eq_ok_iff (form : First → Second) (outcome : Except Stop First)
    (result : Second) :
    outcome.map form = .ok result ↔ ∃ first, outcome = .ok first ∧ form first = result := by
  cases outcome <;> simp [Except.map]

theorem map_succeeds_iff (form : First → Second)
    (outcome : Except Stop First) :
    (∃ result, outcome.map form = .ok result) ↔ ∃ first, outcome = .ok first := by
  cases outcome <;> simp [Except.map]

@[simp] theorem map_eq_error_iff (form : First → Second)
    (outcome : Except Stop First) (reason : Stop) :
    outcome.map form = .error reason ↔ outcome = .error reason := by
  cases outcome <;> simp [Except.map]

@[simp] theorem of_except_eq_ok_iff (outcome : Except Rejection First) (result : First) :
    (ofExcept outcome).outcome = .ok result ↔ outcome = .ok result := by
  cases outcome with
  | ok other => simp [ofExcept]
  | error rejection => simp [ofExcept]

@[simp] theorem of_except_eq_rejected_iff (outcome : Except Rejection First)
    (rejection : Rejection) :
    (ofExcept outcome).outcome = .error (.rejected rejection) ↔ outcome = .error rejection := by
  cases outcome with
  | ok other => simp [ofExcept]
  | error found => simp [ofExcept]

theorem resolve_eq_ok_iff (catalog : Catalog) (settings : Settings) (path : String)
    (property : Property) :
    (resolve catalog settings path).outcome = .ok property ↔
      Property.resolve catalog settings.namespaceSeparator path = .ok property := by
  rw [resolve]
  cases Property.resolve catalog settings.namespaceSeparator path with
  | ok found => simp
  | error rejection => simp

theorem resolve_eq_error_iff (catalog : Catalog) (settings : Settings) (path : String)
    (rejection : Rejection) :
    (resolve catalog settings path).outcome = .error (.rejected rejection) ↔
      Property.resolve catalog settings.namespaceSeparator path = .error rejection := by
  rw [resolve]
  cases Property.resolve catalog settings.namespaceSeparator path with
  | ok found => simp
  | error other => simp

theorem each_eq_ok_iff (step : First → Attempt Second) (items : List First)
    (results : List Second) :
    (each step items).outcome = .ok results ↔
      List.Forall₂ (fun item result => (step item).outcome = .ok result) items results := by
  induction items generalizing results with
  | nil =>
      constructor
      · intro ended
        cases ended
        exact .nil
      · intro ended
        cases ended
        rfl
  | cons item rest induction =>
      rw [each, bind_eq_ok_iff]
      constructor
      · intro ended
        rcases ended with ⟨result, ended, later⟩
        rw [bind_eq_ok_iff] at later
        rcases later with ⟨others, othersEnded, same⟩
        obtain rfl := Except.ok.inj same
        exact .cons ended ((induction others).mp othersEnded)
      · intro ended
        cases ended
        next result others ended othersEnded =>
          refine ⟨result, ended, (bind_eq_ok_iff _ _ _).mpr ⟨others, ?_, rfl⟩⟩
          exact (induction others).mpr othersEnded

theorem each_succeeds_iff (step : First → Attempt Second) (items : List First) :
    (∃ results, (each step items).outcome = .ok results) ↔
      ∀ item ∈ items, ∃ result, (step item).outcome = .ok result := by
  simp only [each_eq_ok_iff]
  induction items with
  | nil => simp
  | cons item rest induction =>
      rw [List.forall_mem_cons, ← induction]
      constructor
      · intro ended
        rcases ended with ⟨whole, ended⟩
        obtain ⟨result, results, first, later, -⟩ := List.forall₂_cons_left_iff.mp ended
        exact ⟨⟨result, first⟩, results, later⟩
      · intro ended
        rcases ended with ⟨⟨result, first⟩, results, later⟩
        exact ⟨result :: results, .cons first later⟩

theorem each_eq_error_iff (step : First → Attempt Second) (items : List First)
    (reason : Stop) :
    (each step items).outcome = .error reason ↔
      ∃ before item after, items = before ++ item :: after ∧
        (step item).outcome = .error reason ∧
          ∀ other ∈ before, ∃ result, (step other).outcome = .ok result := by
  induction items with
  | nil =>
      constructor
      · intro ended
        cases ended
      · intro found
        rcases found with ⟨before, item, after, whole, -⟩
        cases before <;> cases whole
  | cons head rest induction =>
      rw [each, bind_eq_error_iff]
      constructor
      · intro stops
        rcases stops with stopped | ⟨result, ended, later⟩
        · exact ⟨[], head, rest, rfl, stopped, by intro other member; cases member⟩
        · rcases (bind_eq_error_iff _ _ _).mp later with restStopped | ⟨results, -, impossible⟩
          · obtain ⟨before, item, after, rfl, stopped, earlier⟩ := induction.mp restStopped
            exact ⟨head :: before, item, after, rfl, stopped,
              List.forall_mem_cons.mpr ⟨⟨result, ended⟩, earlier⟩⟩
          · cases impossible
      · intro found
        rcases found with ⟨before, item, after, whole, stopped, earlier⟩
        cases before with
        | nil =>
            obtain ⟨rfl, rfl⟩ := List.cons.inj whole
            exact Or.inl stopped
        | cons first others =>
            obtain ⟨rfl, rfl⟩ := List.cons.inj whole
            obtain ⟨⟨result, ended⟩, othersEarlier⟩ := List.forall_mem_cons.mp earlier
            refine Or.inr ⟨result, ended, (bind_eq_error_iff _ _ _).mpr (Or.inl ?_)⟩
            exact induction.mpr ⟨others, item, after, rfl, stopped, othersEarlier⟩

theorem bind_congr_of_ok {attempt : Attempt First} {next other : First → Attempt Second}
    (same : ∀ result, attempt.outcome = .ok result → next result = other result) :
    attempt >>= next = attempt >>= other := by
  cases ended : attempt.outcome with
  | ok result => simp [ended, same result ended]
  | error reason => simp [ended]

@[simp] theorem resolutions_map (attempt : Attempt First) (form : First → Second) :
    (form <$> attempt).resolutions = attempt.resolutions := by
  rw [map_eq_pure_bind]
  cases ended : attempt.outcome with
  | ok result =>
      rw [bind_of_ok ended]
      exact List.append_nil _
  | error reason => rw [bind_of_error ended]

@[simp] theorem outcome_map (attempt : Attempt First) (form : First → Second) :
    (form <$> attempt).outcome = attempt.outcome.map form := by
  rw [map_eq_pure_bind, outcome_bind]
  cases attempt.outcome <;> rfl

theorem resolutions_bind_pure (attempt : Attempt First) (form : First → Second) :
    (attempt >>= fun result => pure (form result)).resolutions = attempt.resolutions := by
  simp

theorem outcome_bind_pure (attempt : Attempt First) (form : First → Second) :
    (attempt >>= fun result => pure (form result)).outcome = attempt.outcome.map form := by
  simp

theorem length_of_each {step : First → Attempt Second} {items : List First}
    {results : List Second} (ended : (each step items).outcome = .ok results) :
    results.length = items.length :=
  ((each_eq_ok_iff step items results).mp ended).length_eq.symm

theorem each_append (step : First → Attempt Second) (front back : List First) :
    each step (front ++ back) = do
      let first ← each step front
      let second ← each step back
      return first ++ second := by
  induction front with
  | nil =>
      change each step back = pure [] >>= _
      rw [pure_bind]
      simp
  | cons item rest induction =>
      rw [List.cons_append, each, each, induction]
      simp

theorem resolutions_each_append {step : First → Attempt Second} {before : List First}
    (earlier : ∀ item ∈ before, ∃ result, (step item).outcome = .ok result) (rest : List First) :
    (each step (before ++ rest)).resolutions =
      (before.flatMap fun item => (step item).resolutions) ++ (each step rest).resolutions := by
  induction before with
  | nil => rfl
  | cons item others induction =>
      obtain ⟨⟨result, ended⟩, othersEnded⟩ := List.forall_mem_cons.mp earlier
      rw [List.cons_append, each, bind_of_ok ended, List.flatMap_cons, List.append_assoc,
        ← induction othersEnded, resolutions_bind_pure]

theorem resolutions_each_of_ok {step : First → Attempt Second} {items : List First}
    (succeeds : ∀ item ∈ items, ∃ result, (step item).outcome = .ok result) :
    (each step items).resolutions = items.flatMap fun item => (step item).resolutions := by
  have whole := resolutions_each_append succeeds []
  rw [List.append_nil] at whole
  rw [whole]
  exact List.append_nil _

/-- The item that stops is the last one to find anything. -/
theorem resolutions_each_of_error {step : First → Attempt Second} {before : List First}
    {item : First} {reason : Stop}
    (earlier : ∀ other ∈ before, ∃ result, (step other).outcome = .ok result)
    (stopped : (step item).outcome = .error reason) (after : List First) :
    (each step (before ++ item :: after)).resolutions =
      (before ++ [item]).flatMap fun other => (step other).resolutions := by
  rw [resolutions_each_append earlier, each, bind_of_error stopped, List.flatMap_append,
    List.flatMap_singleton]

end DocumentQuery.Attempt
