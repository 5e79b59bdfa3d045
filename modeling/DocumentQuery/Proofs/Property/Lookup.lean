import DocumentQuery.Property.Lookup

/-!
What a look-up of a property can give: a rejection of one of two kinds that names the canonical
path, or a property of the system or of a document.
-/

namespace DocumentQuery.Property

theorem resolve_error_cases {catalog : Catalog} {separator path : String} {rejection : Rejection}
    (rejected : resolve catalog separator path = .error rejection) :
    rejection = .unknownProperty (canonicalPath path) ∨
      rejection = .unsupported (.systemProperty (canonicalPath path)) := by
  rw [resolve] at rejected
  split at rejected
  · unfold ofSystem SystemProperty.lookup at rejected
    cases listed : SystemProperty.table.lookup (canonicalPath path) with
    | some property => simp [listed] at rejected
    | none =>
        cases known : SystemProperty.hasNoPredicate (canonicalPath path) with
        | true => exact Or.inr (by simpa [listed, known] using rejected.symm)
        | false => exact Or.inl (by simpa [listed, known] using rejected.symm)
  · simp only [ofCatalog] at rejected
    split at rejected
    · exact Or.inl (Except.error.inj rejected).symm
    · cases rejected

/-- Only a boolean of documents is stored when true alone. -/
theorem tri_state_of_resolve {catalog : Catalog} {separator path : String} {property : Property}
    (found : resolve catalog separator path = .ok property) :
    property.triState = (!property.system && property.declared.isBoolean) := by
  rw [resolve] at found
  split at found
  · unfold ofSystem at found
    split at found
    · cases found
    · cases found
      rfl
  · simp only [ofCatalog] at found
    split at found
    · cases found
    · next field type _ =>
        cases found
        cases type with
        | scalar scalar => cases scalar <;> rfl
        | list element => rfl
        | complex name parts => rfl

theorem mixin_of_resolve {catalog : Catalog} {separator path : String} {property : Property}
    (found : resolve catalog separator path = .ok property) (user : property.system = false) :
    property.mixin = false := by
  rw [resolve] at found
  split at found
  · unfold ofSystem at found
    split at found
    · cases found
    · cases found
      cases user
  · simp only [ofCatalog] at found
    split at found
    · cases found
    · cases found
      rfl

theorem mem_table_of_lookup {name : String} {listed : SystemProperty}
    (looked : SystemProperty.lookup name = .ok listed) :
    (name, listed) ∈ SystemProperty.table := by
  unfold SystemProperty.lookup at looked
  split at looked
  · next other found =>
      obtain rfl := Except.ok.inj looked
      obtain ⟨before, after, whole, -⟩ := List.lookup_eq_some_iff.mp found
      rw [whole]
      exact List.mem_append_cons_self
  · split at looked <;> cases looked

theorem mixin_of_boolean {catalog : Catalog} {separator path : String} {property : Property}
    (found : resolve catalog separator path = .ok property)
    (boolean : property.declared.isBoolean = true) : property.mixin = false := by
  have noFacets : ∀ entry ∈ SystemProperty.table, entry.2.declared.isBoolean = true →
      entry.2.key ≠ SystemProperty.mixinKey := by
    decide
  rw [resolve] at found
  split at found
  · unfold ofSystem at found
    split at found
    · cases found
    · next listed looked =>
        obtain rfl := Except.ok.inj found
        exact decide_eq_false (noFacets _ (mem_table_of_lookup looked) boolean)
  · simp only [ofCatalog] at found
    split at found
    · cases found
    · cases found
      rfl

end DocumentQuery.Property
