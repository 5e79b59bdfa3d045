import DocumentQuery.Property.Lookup
import DocumentQuery.Settings.Basic

/-!
Look-ups under different separators. Whether a property is found, and what is known of it, does not
depend on the separator. Its storage key is one key for all separators in which the separator
stands for the colons.
-/

namespace DocumentQuery.Property

theorem separator_of_valid {settings : Settings} (valid : settings.validate = .ok settings) :
    settings.namespaceSeparator ≠ "" ∧ '*' ∉ settings.namespaceSeparator.toList := by
  rw [Settings.validate] at valid
  split at valid
  · cases valid
  · split at valid
    · cases valid
    · next fits => simpa using fits

/-- A key in which the separator stands for the colons. -/
def keyUnder (separator key : String) : String :=
  String.ofList (engineKey separator.toList key.toList)

@[simp] theorem engine_key_append (separator front back : List Char) :
    engineKey separator (front ++ back) = engineKey separator front ++ engineKey separator back :=
  List.flatMap_append

@[simp] theorem engine_key_cons_colon (separator rest : List Char) :
    engineKey separator (':' :: rest) = separator ++ engineKey separator rest := rfl

@[simp] theorem engine_key_cons_of_ne (separator : List Char) {char : Char} (other : char ≠ ':')
    (rest : List Char) : engineKey separator (char :: rest) = char :: engineKey separator rest := by
  rw [engineKey, List.flatMap_cons, if_neg other, ← engineKey, List.singleton_append]

theorem engine_key_of_no_colon {separator text : List Char} (noColon : ':' ∉ text) :
    engineKey separator text = text := by
  induction text with
  | nil => rfl
  | cons char rest induction =>
      obtain ⟨different, restFree⟩ := not_or.mp (mt List.mem_cons.mpr noColon)
      simp [Ne.symm different, induction restFree]

@[simp] theorem engine_key_colon (key : List Char) : engineKey [':'] key = key := by
  induction key with
  | nil => rfl
  | cons char rest induction => by_cases colon : char = ':' <;> simp [colon, induction]

@[simp] theorem key_under_append (separator front back : String) :
    keyUnder separator (front ++ back) = keyUnder separator front ++ keyUnder separator back := by
  simp [keyUnder]

@[simp] theorem key_under_slash (separator : String) : keyUnder separator "/" = "/" := rfl

end DocumentQuery.Property
