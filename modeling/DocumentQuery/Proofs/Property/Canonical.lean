import DocumentQuery.Proofs.Property.Brackets

/-!
Canonical spellings as normal forms. A canonical path is what is left of a path, without slashes
in front, when its positions in brackets have been rewritten one at a time in any order. No more
passes are needed than the path has opening brackets, no character of a name is lost, and a
canonical path is its own canonical spelling.
-/

namespace DocumentQuery.Property

open Relation Text

/-- The loop over a path: passes are made as long as there is a position in brackets. -/
inductive SettlesIn : Nat → List Char → List Char → Prop
  | stop {path : List Char} (settled : Settled path) : SettlesIn 0 path path
  | again {passes : Nat} {path last : List Char} (unsettled : ¬Settled path)
      (later : SettlesIn passes (unbracketPass .elsewhere path) last) :
      SettlesIn (passes + 1) path last

theorem settled_of_count_eq_zero {path : List Char} (none : path.count '[' = 0) :
    Settled path := by
  rw [← unbracket_pass_eq_iff_settled]
  rcases unbracket_pass_eq_or_count_lt .elsewhere (by simp) path with same | fewer
  · exact same
  · omega

theorem settles_in_settle (limit : Nat) (path : List Char) (enough : path.count '[' ≤ limit) :
    ∃ passes ≤ path.count '[', SettlesIn passes path (settle limit path) := by
  induction limit generalizing path with
  | zero =>
      have none := Nat.le_zero.mp enough
      exact ⟨0, Nat.zero_le _, .stop (settled_of_count_eq_zero none)⟩
  | succ limit induction =>
      rw [settle]
      by_cases same : unbracketPass .elsewhere path = path
      · rw [if_pos same]
        exact ⟨0, Nat.zero_le _, .stop ((unbracket_pass_eq_iff_settled path).mp same)⟩
      · have fewer : (unbracketPass .elsewhere path).count '[' < path.count '[' :=
          (unbracket_pass_eq_or_count_lt .elsewhere (by simp) path).resolve_left same
        obtain ⟨passes, bound, settles⟩ := induction (unbracketPass .elsewhere path) (by omega)
        rw [if_neg same]
        refine ⟨passes + 1, by omega, .again ?_ settles⟩
        exact fun settled => same ((unbracket_pass_eq_iff_settled path).mpr settled)

theorem reaches_of_settles_in {passes : Nat} {path last : List Char}
    (settles : SettlesIn passes path last) :
    ReflTransGen Unbrackets path last ∧ Settled last := by
  induction settles with
  | stop settled => exact ⟨.refl, settled⟩
  | again _ _ induction => exact ⟨(reaches_unbracket_pass _).trans induction.1, induction.2⟩

def withoutLead (path : List Char) : List Char := path.dropWhile (· = '/')

theorem without_lead_of_head_ne {path : List Char} (noLead : path.head? ≠ some '/') :
    withoutLead path = path := by
  cases path with
  | nil => rfl
  | cons first rest =>
      rw [withoutLead, List.dropWhile_cons_of_neg]
      intro slash
      exact noLead (congrArg some (of_decide_eq_true slash))

theorem head_without_lead (path : List Char) : (withoutLead path).head? ≠ some '/' := by
  intro lead
  have notSlash := List.head?_dropWhile_not (· = '/') path
  rw [withoutLead] at lead
  simp [lead] at notSlash

theorem without_lead_append {char : Char} (noSlash : char ≠ '/') (before rest : List Char) :
    withoutLead (before ++ char :: rest) = withoutLead before ++ char :: rest := by
  have kept : (char :: rest).dropWhile (· = '/') = char :: rest :=
    List.dropWhile_cons_of_neg (by simpa using noSlash)
  rw [withoutLead, withoutLead, List.dropWhile_append, kept]
  split
  · next empty => rw [List.isEmpty_iff.mp empty, List.nil_append]
  · rfl

theorem canonical_chars_settles_in (path : List Char) :
    ∃ passes ≤ path.count '[', SettlesIn passes (withoutLead path) (canonicalChars path) := by
  obtain ⟨passes, bound, settles⟩ :=
    settles_in_settle ((withoutLead path).count '[') (withoutLead path) (Nat.le_refl _)
  have fewer : (withoutLead path).count '[' ≤ path.count '[' :=
    (List.dropWhile_sublist _).count_le '['
  exact ⟨passes, Nat.le_trans bound fewer, settles⟩

theorem reaches_canonical_chars (path : List Char) :
    ReflTransGen Unbrackets (withoutLead path) (canonicalChars path) := by
  obtain ⟨_, -, settles⟩ := canonical_chars_settles_in path
  exact (reaches_of_settles_in settles).1

theorem settled_canonical_chars (path : List Char) : Settled (canonicalChars path) := by
  obtain ⟨_, -, settles⟩ := canonical_chars_settles_in path
  exact (reaches_of_settles_in settles).2

/-- All ways to rewrite the positions in brackets of a path end in its canonical spelling. -/
theorem eq_canonical_chars {path last : List Char}
    (reached : ReflTransGen Unbrackets (withoutLead path) last) (settled : Settled last) :
    last = canonicalChars path :=
  settled_unique reached settled (reaches_canonical_chars path) (settled_canonical_chars path)

theorem canonical_chars_of_settled {path : List Char} (settled : Settled path)
    (noLead : path.head? ≠ some '/') : canonicalChars path = path := by
  refine (eq_canonical_chars ?_ settled).symm
  rw [without_lead_of_head_ne noLead]

theorem canonical_chars_of_unbrackets {path next : List Char}
    (step : Unbrackets (withoutLead path) (withoutLead next)) :
    canonicalChars path = canonicalChars next :=
  (eq_canonical_chars ((reaches_canonical_chars next).head step)
    (settled_canonical_chars next)).symm

theorem unbrackets_name (before after : List Char) {name index : List Char} (someName : name ≠ [])
    (named : ∀ char ∈ name, isNameChar char = true)
    (position : IsPositionIn isDecimalDigit index) :
    Unbrackets (before ++ (name ++ '[' :: (index ++ ']' :: after)))
      (before ++ (name ++ '/' :: (index ++ after))) := by
  obtain ⟨front, last, rfl⟩ := (List.eq_nil_or_concat name).resolve_left someName
  have lastNamed := named last (by simp)
  have step := Unbrackets.position (before ++ front) after lastNamed position
  simpa using step

theorem without_lead_name (before rest : List Char) {name : List Char} (someName : name ≠ [])
    (named : ∀ char ∈ name, isNameChar char = true) :
    withoutLead (before ++ (name ++ rest)) = withoutLead before ++ (name ++ rest) := by
  cases name with
  | nil => exact absurd rfl someName
  | cons first others =>
      apply without_lead_append
      rintro rfl
      cases named '/' List.mem_cons_self

theorem canonical_chars_of_brackets (before after : List Char) {name index : List Char}
    (someName : name ≠ []) (named : ∀ char ∈ name, isNameChar char = true)
    (position : IsPositionIn isDecimalDigit index) :
    canonicalChars (before ++ (name ++ '[' :: (index ++ ']' :: after))) =
      canonicalChars (before ++ (name ++ '/' :: (index ++ after))) := by
  apply canonical_chars_of_unbrackets
  rw [without_lead_name before _ someName named, without_lead_name before _ someName named]
  exact unbrackets_name _ after someName named position

/-! ## What rewriting keeps -/

theorem head_of_unbrackets {path next : List Char} (step : Unbrackets path next) :
    next.head? = path.head? := by
  cases step with
  | position before after named position => cases before <;> rfl

theorem names_of_unbrackets {path next : List Char} (step : Unbrackets path next) :
    next.filter isNameChar = path.filter isNameChar := by
  have slash : isNameChar '/' = false := rfl
  have opening : isNameChar '[' = false := rfl
  have closing : isNameChar ']' = false := rfl
  cases step with
  | position before after named position => simp [List.filter_cons, slash, opening, closing]

theorem kept_of_reaches {Kept : Type} {view : List Char → Kept}
    (keeps : ∀ path next, Unbrackets path next → view next = view path) {path last : List Char}
    (reached : ReflTransGen Unbrackets path last) : view last = view path := by
  induction reached with
  | refl => rfl
  | tail _ step induction => rw [keeps _ _ step, induction]

theorem head_canonical_chars (path : List Char) : (canonicalChars path).head? ≠ some '/' := by
  rw [kept_of_reaches (fun _ _ => head_of_unbrackets) (reaches_canonical_chars path)]
  exact head_without_lead path

@[simp] theorem names_without_lead (path : List Char) :
    (withoutLead path).filter isNameChar = path.filter isNameChar := by
  induction path with
  | nil => rfl
  | cons first rest induction =>
      by_cases slash : first = '/'
      · subst slash
        exact induction
      · rw [without_lead_of_head_ne (by simpa using slash)]

@[simp] theorem names_canonical_chars (path : List Char) :
    (canonicalChars path).filter isNameChar = path.filter isNameChar := by
  simp [kept_of_reaches (fun _ _ => names_of_unbrackets) (reaches_canonical_chars path)]

/-! ## Canonical paths -/

theorem to_list_canonical_path (path : String) :
    (canonicalPath path).toList = canonicalChars path.toList := by
  rw [canonicalPath, String.toList_ofList]

/-- Whatever stands around it, a position means the same in brackets after a name and as a segment.
Rewriting the positions in brackets one at a time, in any order, comes to an end at the canonical
path and nowhere else. -/
theorem canonical_path_of_brackets :
    (∀ before name index after : String, name ≠ "" →
      (∀ char ∈ name.toList, isNameChar char = true) →
      IsPositionIn isDecimalDigit index.toList →
      canonicalPath (before ++ name ++ "[" ++ index ++ "]" ++ after) =
        canonicalPath (before ++ name ++ "/" ++ index ++ after)) ∧
    ∀ (path : String) (last : List Char), Settled last →
      (ReflTransGen Unbrackets (withoutLead path.toList) last ↔
        last = (canonicalPath path).toList) := by
  constructor
  · intro before name index after someName named position
    have nonempty : name.toList ≠ [] := by simpa using someName
    have same := canonical_chars_of_brackets before.toList after.toList nonempty named position
    simp only [canonicalPath, String.toList_append, List.append_assoc]
    exact congrArg String.ofList same
  · intro path last settled
    rw [to_list_canonical_path]
    constructor
    · intro reached
      exact eq_canonical_chars reached settled
    · intro same
      rw [same]
      exact reaches_canonical_chars path.toList

/-- Brackets stacked and malformed around a position, and two positions rewritten from the right. -/
theorem canonical_path_of_brackets_stacked :
    canonicalPath ("//a[b]/" ++ "files" ++ "[" ++ "*7" ++ "]" ++ "[3]/c[") = "a[b]/files/*7/3/c[" ∧
      (canonicalPath "/n[1]/m[2]").toList = ['n', '/', '1', '/', 'm', '/', '2'] := by
  constructor
  · rw [canonical_path_of_brackets.1 "//a[b]/" "files" "*7" "[3]/c[" (by decide)
      (List.all_eq_true.mp rfl) (Or.inr ⟨['7'], rfl, List.all_eq_true.mp rfl⟩)]
    decide +kernel
  · have lead : withoutLead "/n[1]/m[2]".toList =
        ['n', '[', '1', ']', '/', 'm', '[', '2', ']'] := by decide +kernel
    have right := @Unbrackets.position ['n', '[', '1', ']', '/'] [] 'm' ['2'] rfl
      (Or.inl ⟨by decide, List.all_eq_true.mp rfl⟩)
    have left := @Unbrackets.position [] ['/', 'm', '/', '2'] 'n' ['1'] rfl
      (Or.inl ⟨by decide, List.all_eq_true.mp rfl⟩)
    have settled : Settled ['n', '/', '1', '/', 'm', '/', '2'] :=
      settled_of_count_eq_zero (by decide)
    refine ((canonical_path_of_brackets.2 "/n[1]/m[2]" _ settled).mp ?_).symm
    rw [lead]
    exact .head right (.single left)

/-- The canonical path is reached in no more passes than there are opening brackets. It has no slash
in front and no name with a position in brackets after it, all characters but slashes and brackets
are in it as they were, and it is its own canonical path. -/
theorem canonical_path_normal (path : String) :
    (∃ passes ≤ path.toList.count '[',
      SettlesIn passes (withoutLead path.toList) (canonicalPath path).toList) ∧
    (canonicalPath path).toList.head? ≠ some '/' ∧
    (∀ before name index after : List Char, name ≠ [] →
      (∀ char ∈ name, isNameChar char = true) → IsPositionIn isDecimalDigit index →
      (canonicalPath path).toList ≠ before ++ name ++ '[' :: (index ++ ']' :: after)) ∧
    (canonicalPath path).toList.filter isNameChar = path.toList.filter isNameChar ∧
    canonicalPath (canonicalPath path) = canonicalPath path := by
  rw [to_list_canonical_path]
  refine ⟨canonical_chars_settles_in _, head_canonical_chars _, ?_, names_canonical_chars _, ?_⟩
  · intro before name index after someName named position found
    have step := unbrackets_name before after someName named position
    rw [← List.append_assoc, ← found] at step
    exact settled_canonical_chars _ _ step
  · rw [canonicalPath, to_list_canonical_path,
      canonical_chars_of_settled (settled_canonical_chars _) (head_canonical_chars _)]
    rfl

end DocumentQuery.Property
