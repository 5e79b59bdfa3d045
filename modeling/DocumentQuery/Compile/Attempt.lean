import DocumentQuery.Property.Lookup
import DocumentQuery.Settings.Basic

/-!
Attempts to compile something: the properties that were found on the way, in order, and how the
attempt ended. What was found before an attempt stops stays found.
-/

namespace DocumentQuery

structure Resolution where
  written : String
  property : Property
  deriving DecidableEq, Repr

/-- An attempt stops because its input is rejected, or is cut short by a date without a text on
the wire. -/
inductive Stop where
  | rejected (rejection : Rejection)
  | aborted
  deriving DecidableEq

structure Attempt (Result : Type) where
  resolutions : List Resolution
  outcome : Except Stop Result

namespace Attempt

variable {First Second : Type}

def done (result : First) : Attempt First := ⟨[], .ok result⟩

def stop (reason : Stop) : Attempt First := ⟨[], .error reason⟩

def reject (rejection : Rejection) : Attempt First := stop (.rejected rejection)

def andThen (attempt : Attempt First) (next : First → Attempt Second) : Attempt Second :=
  match attempt.outcome with
  | .ok result =>
      ⟨attempt.resolutions ++ (next result).resolutions, (next result).outcome⟩
  | .error reason => ⟨attempt.resolutions, .error reason⟩

instance : Monad Attempt where
  pure := done
  bind := andThen

instance : LawfulMonad Attempt := LawfulMonad.mk' Attempt
  (by
    intro First attempt
    obtain ⟨resolutions, outcome⟩ := attempt
    cases outcome <;> simp [Functor.map, andThen, done])
  (by
    intro First Second result next
    simp [Bind.bind, Pure.pure, andThen, done])
  (by
    intro First Second Third attempt next last
    obtain ⟨resolutions, outcome⟩ := attempt
    cases outcome with
    | error reason => simp [Bind.bind, andThen]
    | ok result =>
        simp only [Bind.bind, andThen]
        cases (next result).outcome <;> simp)

@[simp] theorem outcome_done (result : First) : (done result).outcome = .ok result := rfl

@[simp] theorem outcome_pure (result : First) :
    (pure result : Attempt First).outcome = .ok result := rfl

@[simp] theorem resolutions_pure (result : First) :
    (pure result : Attempt First).resolutions = [] := rfl

@[simp] theorem outcome_stop (reason : Stop) :
    (stop reason : Attempt First).outcome = .error reason := rfl

@[simp] theorem outcome_reject (rejection : Rejection) :
    (reject rejection : Attempt First).outcome = .error (.rejected rejection) := rfl

@[simp] theorem resolutions_reject (rejection : Rejection) :
    (reject rejection : Attempt First).resolutions = [] := rfl

@[simp] theorem bind_of_ok {attempt : Attempt First} {result : First}
    (ended : attempt.outcome = .ok result) (next : First → Attempt Second) :
    attempt >>= next =
      ⟨attempt.resolutions ++ (next result).resolutions, (next result).outcome⟩ := by
  simp only [Bind.bind, andThen, ended]

@[simp] theorem bind_of_error {attempt : Attempt First} {reason : Stop}
    (ended : attempt.outcome = .error reason) (next : First → Attempt Second) :
    attempt >>= next = ⟨attempt.resolutions, .error reason⟩ := by
  simp only [Bind.bind, andThen, ended]

/-- Goes through a list in order and stops at the first item that fails. -/
def each (step : First → Attempt Second) : List First → Attempt (List Second)
  | [] => done []
  | item :: rest => do
      let result ← step item
      let results ← each step rest
      return result :: results

def ofExcept : Except Rejection First → Attempt First
  | .ok result => done result
  | .error rejection => reject rejection

def resolve (catalog : Catalog) (settings : Settings) (path : String) : Attempt Property :=
  match Property.resolve catalog settings.namespaceSeparator path with
  | .ok property => ⟨[⟨path, property⟩], .ok property⟩
  | .error rejection => reject rejection

end Attempt

end DocumentQuery
