import DocumentQuery.Proofs.Property.Separator
import DocumentQuery.Proofs.Property.UserPath

/-!
Paths that share a storage key. A key is the path with dots for its slashes and the separator for
its colons, so that it can only take slashes, dots, colons and the characters of the separator for
each other. Where these come in the same order in two paths, one key means one path.
-/

namespace DocumentQuery.Property

open Text Schema

/-- A canonical path without the slashes at its end. -/
def spelledPath (path : String) : List Char := dropEnd (· = '/') (canonicalPath path).toList

theorem spelled_path_eq_iff (path other : String) :
    segments (canonicalPath path).toList = segments (canonicalPath other).toList ↔
      spelledPath path = spelledPath other := by
  constructor
  · intro same
    have joined := congrArg ['/'].intercalate same
    rw [segments, segments, List.intercalate_splitOn, List.intercalate_splitOn] at joined
    exact joined
  · intro same
    rw [segments, segments]
    exact congrArg (List.splitOn '/') same

def dotted (path : List Char) : List Char := path.map fun char => if char = '/' then '.' else char

theorem dotted_of_slash_free {part : List Char} (slashFree : '/' ∉ part) : dotted part = part := by
  have kept : ∀ char ∈ part, (if char = '/' then '.' else char) = id char := by
    intro char member
    apply if_neg
    rintro rfl
    exact slashFree member
  rw [dotted, List.map_congr_left kept, List.map_id]

theorem intercalate_dot (parts : List (List Char)) (slashFree : ∀ part ∈ parts, '/' ∉ part) :
    ['.'].intercalate parts = dotted (['/'].intercalate parts) := by
  induction parts with
  | nil => rfl
  | cons part rest induction =>
      obtain ⟨partFree, restFree⟩ := List.forall_mem_cons.mp slashFree
      cases rest with
      | nil =>
          rw [List.intercalate_singleton, List.intercalate_singleton, dotted_of_slash_free partFree]
      | cons next others =>
          have slash : dotted ['/'] = ['.'] := rfl
          rw [List.intercalate_cons_cons, List.intercalate_cons_cons, induction restFree]
          conv_lhs => rw [← dotted_of_slash_free partFree, ← slash]
          simp only [dotted, List.map_append]

theorem storage_key_of_resolve {schemas : List Schema} {catalog : Catalog}
    (built : Catalog.ofSchemas schemas = .ok catalog) {separator path : String}
    (user : ¬"ecm:".toList <+: (canonicalPath path).toList) {property : Property}
    (found : resolve catalog separator path = .ok property) :
    property.storageKey =
      String.ofList (engineKey separator.toList (dotted (spelledPath path))) := by
  rw [resolve_of_user catalog separator path user] at found
  cases cut : segments (canonicalPath path).toList with
  | nil => exact absurd cut (List.splitOn_ne_nil _ _)
  | cons head rest =>
      obtain ⟨type, -, described⟩ := (of_catalog_eq_ok_iff built separator _ cut property).mp found
      have slashFree := not_mem_of_mem_split_on '/' (spelledPath path)
      have parts : (spelledPath path).splitOn '/' = head :: rest := cut
      rw [parts] at slashFree
      rw [described.storageKey_eq, pathKey, intercalate_dot _ slashFree, ← parts,
        List.intercalate_splitOn]
      rfl

/-! ## Reading a key back -/

def isMark (sign char : Char) : Bool := char = ':' || char = sign

theorem unmarked_of_forall {sign : Char} {text : List Char}
    (unmarked : ∀ char ∈ text, ¬isMark sign char = true) : ':' ∉ text ∧ sign ∉ text := by
  constructor
  · intro colon
    exact unmarked ':' colon (by simp [isMark])
  · intro member
    exact unmarked sign member (by simp [isMark])

/-- Texts in which the colons and one character of the separator come in the same order are told
apart by their keys. -/
theorem eq_of_engine_key {separator : List Char} {sign : Char} (inSeparator : sign ∈ separator)
    {text other : List Char} (order : text.filter (isMark sign) = other.filter (isMark sign))
    (same : engineKey separator text = engineKey separator other) : text = other := by
  obtain ⟨front, back, rfl, frontFree⟩ := List.eq_append_cons_of_mem inSeparator
  generalize marked : text.filter (isMark sign) = marks at order
  -- A run up to the next mark is its own key, and the mark shows in the key where the run ends.
  induction marks generalizing text other with
  | nil =>
      have noColon := (unmarked_of_forall (List.filter_eq_nil_iff.mp marked)).1
      have otherNoColon := (unmarked_of_forall (List.filter_eq_nil_iff.mp order.symm)).1
      rw [engine_key_of_no_colon noColon, engine_key_of_no_colon otherNoColon] at same
      exact same
  | cons mark marks induction =>
      obtain ⟨run, rest, rfl, runFree, isMark, restMarks⟩ := List.filter_eq_cons_iff.mp marked
      obtain ⟨otherRun, otherRest, rfl, otherFree, -, otherMarks⟩ :=
        List.filter_eq_cons_iff.mp order.symm
      obtain ⟨noColon, noSign⟩ := unmarked_of_forall runFree
      obtain ⟨otherNoColon, otherNoSign⟩ := unmarked_of_forall otherFree
      simp only [engine_key_append, engine_key_of_no_colon noColon,
        engine_key_of_no_colon otherNoColon] at same
      by_cases colon : mark = ':'
      · subst colon
        have cut : (run ++ front) ++ sign :: (back ++ engineKey (front ++ sign :: back) rest) =
            (otherRun ++ front) ++
              sign :: (back ++ engineKey (front ++ sign :: back) otherRest) := by
          simpa using same
        obtain ⟨sameRun, sameRest⟩ := cut_unique (by simp [noSign, frontFree])
          (by simp [otherNoSign, frontFree]) cut
        rw [List.append_cancel_right sameRun, induction (List.append_cancel_left sameRest) restMarks
          otherMarks.symm]
      · have isSign : mark = sign := by simpa [Property.isMark, colon] using isMark
        subst isSign
        rw [engine_key_cons_of_ne _ colon, engine_key_cons_of_ne _ colon] at same
        obtain ⟨rfl, sameRest⟩ := cut_unique noSign otherNoSign same
        rw [induction sameRest restMarks otherMarks.symm]

def isDotted (char : Char) : Bool := char = '/' || char = '.'

@[simp] theorem dotted_cons (char : Char) (rest : List Char) :
    dotted (char :: rest) = (if char = '/' then '.' else char) :: dotted rest := rfl

theorem dot_iff_is_dotted (char : Char) :
    (if char = '/' then '.' else char) = '.' ↔ isDotted char = true := by
  by_cases slash : char = '/' <;> simp [isDotted, slash]

theorem eq_of_dotted {path other : List Char}
    (order : path.filter isDotted = other.filter isDotted) (same : dotted path = dotted other) :
    path = other := by
  induction path generalizing other with
  | nil => exact (List.map_eq_nil_iff.mp same.symm).symm
  | cons char rest induction =>
      cases other with
      | nil => cases same
      | cons otherChar otherRest =>
          simp only [dotted_cons, List.cons.injEq] at same
          obtain ⟨sameChar, sameRest⟩ := same
          by_cases isDot : isDotted char = true
          · have otherDot : isDotted otherChar = true := by
              rw [← dot_iff_is_dotted, ← sameChar, dot_iff_is_dotted]
              exact isDot
            rw [List.filter_cons_of_pos isDot, List.filter_cons_of_pos otherDot] at order
            obtain ⟨rfl, restOrder⟩ := List.cons.inj order
            rw [induction restOrder sameRest]
          · have otherNoDot : ¬isDotted otherChar = true := by
              rw [← dot_iff_is_dotted, ← sameChar, dot_iff_is_dotted]
              exact isDot
            rw [List.filter_cons_of_neg isDot, List.filter_cons_of_neg otherNoDot] at order
            have noSlash : char ≠ '/' := fun slash => isDot (by simp [isDotted, slash])
            have otherNoSlash : otherChar ≠ '/' := fun slash =>
              otherNoDot (by simp [isDotted, slash])
            rw [if_neg noSlash, if_neg otherNoSlash] at sameChar
            rw [sameChar, induction order sameRest]

/-! ## Signs in order -/

/-- The slashes, dots and colons of a path and one character of the separator, in their order. -/
def signs (sign : Char) (path : List Char) : List Char :=
  path.filter fun char => isDotted char || isMark sign char

theorem filter_is_dotted_signs (sign : Char) (path : List Char) :
    (signs sign path).filter isDotted = path.filter isDotted := by
  rw [signs, List.filter_filter]
  apply List.filter_congr
  intro char _
  cases isDotted char <;> rfl

theorem filter_is_mark_dotted (sign : Char) (path : List Char) :
    (dotted (signs sign path)).filter (isMark sign) = (dotted path).filter (isMark sign) := by
  rw [dotted, dotted, List.filter_map, List.filter_map, signs, List.filter_filter]
  congr 1
  apply List.filter_congr
  intro char _
  rw [Function.comp_apply]
  by_cases slash : char = '/'
  · have isDot : isDotted char = true := by simp [isDotted, slash]
    simp [isDot]
  · rw [if_neg slash]
    cases isMark sign char <;> simp

theorem eq_of_signs {separator : List Char} {sign : Char} (inSeparator : sign ∈ separator)
    {path other : List Char} (order : signs sign path = signs sign other)
    (same : engineKey separator (dotted path) = engineKey separator (dotted other)) :
    path = other := by
  have slashesAndDots : path.filter isDotted = other.filter isDotted := by
    rw [← filter_is_dotted_signs sign path, order, filter_is_dotted_signs]
  have marks : (dotted path).filter (isMark sign) = (dotted other).filter (isMark sign) := by
    rw [← filter_is_mark_dotted, order, filter_is_mark_dotted]
  exact eq_of_dotted slashesAndDots (eq_of_engine_key inSeparator marks same)

/-! ## Signs apart -/

theorem filter_eq_replicate {test : Char → Bool} {char : Char} {text : List Char}
    (only : ∀ other ∈ text, test other = decide (other = char)) :
    text.filter test = List.replicate (text.count char) char := by
  rw [List.filter_congr only, List.filter_eq]

theorem count_engine_key {separator text : List Char} {sign : Char} (apart : sign ∉ text) :
    (engineKey separator text).count sign = text.count ':' * separator.count sign := by
  induction text with
  | nil => simp [engineKey]
  | cons char rest induction =>
      obtain ⟨different, restApart⟩ := not_or.mp (mt List.mem_cons.mpr apart)
      by_cases colon : char = ':'
      · simp [colon, induction restApart, Nat.succ_mul, Nat.add_comm]
      · simp [colon, Ne.symm different, induction restApart]

theorem count_dotted {path : List Char} (noDot : '.' ∉ path) :
    (dotted path).count '.' = path.count '/' := by
  rw [dotted, List.count_eq_countP, List.countP_map, List.count_eq_countP]
  apply List.countP_congr
  intro char member
  have different : char ≠ '.' := fun dot => noDot (dot ▸ member)
  by_cases slash : char = '/' <;> simp [slash, different]

theorem not_mem_dotted {path : List Char} {sign : Char} (different : sign ≠ '.')
    (apart : sign = '/' ∨ sign ∉ path) : sign ∉ dotted path := by
  intro member
  obtain ⟨char, inPath, becomes⟩ := List.mem_map.mp member
  by_cases slash : char = '/'
  · rw [if_pos slash] at becomes
    exact different becomes.symm
  · rw [if_neg slash] at becomes
    subst becomes
    exact apart.elim slash fun absent => absent inPath

/-- Paths without dots are told apart with dots for slashes. -/
theorem eq_of_dotted_of_no_dot {path other : List Char} (noDot : '.' ∉ path)
    (otherNoDot : '.' ∉ other) (same : dotted path = dotted other) : path = other := by
  have slashes : path.count '/' = other.count '/' := by
    rw [← count_dotted noDot, same, count_dotted otherNoDot]
  refine eq_of_dotted ?_ same
  have only : ∀ text : List Char, '.' ∉ text → ∀ char ∈ text,
      isDotted char = decide (char = '/') := by
    intro text free char member
    have different : char ≠ '.' := fun dot => free (dot ▸ member)
    simp [isDotted, different]
  rw [filter_eq_replicate (only path noDot), filter_eq_replicate (only other otherNoDot), slashes]

theorem eq_of_engine_key_of_apart {separator text other : List Char} {sign : Char}
    (inSeparator : sign ∈ separator) (apart : sign ∉ text) (otherApart : sign ∉ other)
    (same : engineKey separator text = engineKey separator other) : text = other := by
  have colons : text.count ':' = other.count ':' := by
    have counts : text.count ':' * separator.count sign =
        other.count ':' * separator.count sign := by
      rw [← count_engine_key apart, same, count_engine_key otherApart]
    exact Nat.eq_of_mul_eq_mul_right (List.count_pos_iff.mpr inSeparator) counts
  have only : ∀ text : List Char, sign ∉ text → ∀ char ∈ text,
      isMark sign char = decide (char = ':') := by
    intro text free char member
    have different : char ≠ sign := fun isSign => free (isSign ▸ member)
    simp [isMark, different]
  refine eq_of_engine_key inSeparator ?_ same
  rw [filter_eq_replicate (only text apart), filter_eq_replicate (only other otherApart), colons]

/-! ## Two paths with one key -/

theorem separator_ne_of_valid {settings : Settings} (valid : settings.validate = .ok settings) :
    settings.namespaceSeparator ≠ "" := (separator_of_valid valid).1

def InNeither (char : Char) (path other : String) : Prop :=
  ∀ part ∈ segments (canonicalPath path).toList ++ segments (canonicalPath other).toList,
    char ∉ part

theorem not_mem_spelled_path {char : Char} {path : String}
    (absent : ∀ part ∈ segments (canonicalPath path).toList, char ∉ part) :
    char = '/' ∨ char ∉ spelledPath path := by
  by_cases member : char ∈ spelledPath path
  · have joined : ['/'].intercalate (segments (canonicalPath path).toList) = spelledPath path :=
      List.intercalate_splitOn '/'
    rw [← joined] at member
    rcases mem_of_mem_intercalate member with slash | ⟨part, inPath, inPart⟩
    · exact Or.inl slash
    · exact absurd inPart (absent part inPath)
  · exact Or.inr member

theorem not_mem_dotted_of_in_neither {char : Char} (different : char ≠ '.') {path other : String}
    (absent : InNeither char path other) :
    char ∉ dotted (spelledPath path) ∧ char ∉ dotted (spelledPath other) := by
  obtain ⟨first, second⟩ := List.forall_mem_append.mp absent
  exact ⟨not_mem_dotted different (not_mem_spelled_path first),
    not_mem_dotted different (not_mem_spelled_path second)⟩

theorem spelled_path_eq_of_dotted {path other : String} (noDot : InNeither '.' path other)
    (same : dotted (spelledPath path) = dotted (spelledPath other)) :
    spelledPath path = spelledPath other := by
  obtain ⟨first, second⟩ := List.forall_mem_append.mp noDot
  exact eq_of_dotted_of_no_dot ((not_mem_spelled_path first).resolve_left (by decide))
    ((not_mem_spelled_path second).resolve_left (by decide)) same

/-- Two paths of a catalog have the same segments exactly if they have one key, and their slashes,
dots, colons and some character of the separator come in the same order. Where no segment has a
dot, and none has a colon or none has some character of the separator but a dot, one key means the
same segments. -/
theorem segments_eq_iff_shared_key {schemas : List Schema} {catalog : Catalog}
    (built : Catalog.ofSchemas schemas = .ok catalog) {settings : Settings}
    (valid : settings.validate = .ok settings) {path other : String}
    (user : ¬"ecm:".toList <+: (canonicalPath path).toList)
    (otherUser : ¬"ecm:".toList <+: (canonicalPath other).toList)
    {property otherProperty : Property}
    (found : resolve catalog settings.namespaceSeparator path = .ok property)
    (otherFound : resolve catalog settings.namespaceSeparator other = .ok otherProperty) :
    (segments (canonicalPath path).toList = segments (canonicalPath other).toList ↔
      property.storageKey = otherProperty.storageKey ∧
        ∃ sign ∈ settings.namespaceSeparator.toList,
          signs sign (spelledPath path) = signs sign (spelledPath other)) ∧
    (InNeither '.' path other →
      (InNeither ':' path other ∨
        ∃ sign ∈ settings.namespaceSeparator.toList, sign ≠ '.' ∧ InNeither sign path other) →
      property.storageKey = otherProperty.storageKey →
      segments (canonicalPath path).toList = segments (canonicalPath other).toList) := by
  have key := storage_key_of_resolve built user found
  have otherKey := storage_key_of_resolve built otherUser otherFound
  have sameKey : property.storageKey = otherProperty.storageKey ↔
      engineKey settings.namespaceSeparator.toList (dotted (spelledPath path)) =
        engineKey settings.namespaceSeparator.toList (dotted (spelledPath other)) := by
    rw [key, otherKey, String.ofList_inj]
  rw [spelled_path_eq_iff, sameKey]
  constructor
  · constructor
    · intro same
      rw [same]
      have someSign : settings.namespaceSeparator.toList ≠ [] := by
        simpa using separator_ne_of_valid valid
      exact ⟨rfl, _, List.head_mem someSign, rfl⟩
    · intro ordered
      obtain ⟨same, sign, inSeparator, order⟩ := ordered
      exact eq_of_signs inSeparator order same
  · intro noDot apart same
    apply spelled_path_eq_of_dotted noDot
    rcases apart with noColon | ⟨sign, inSeparator, different, absent⟩
    · obtain ⟨first, second⟩ := not_mem_dotted_of_in_neither (by decide) noColon
      rw [engine_key_of_no_colon first, engine_key_of_no_colon second] at same
      exact same
    · obtain ⟨first, second⟩ := not_mem_dotted_of_in_neither different absent
      exact eq_of_engine_key_of_apart inSeparator first second same

/-- A title with a qualifier, and next to it titles without: in a part, and in names that contain a
dot or what may stand for a colon. -/
def titles : List Schema :=
  [(Schema.empty "dublincore" ⟨"urn:dc", "dc"⟩).withField "title" (.scalar .string),
   (((Schema.empty "store" ⟨"urn:store", ""⟩).withField "dc"
      (.complex "dc" [⟨⟨none, "title"⟩, .scalar .string⟩])).withField "dc.title"
      (.scalar .string)).withField "dc_title" (.scalar .string)]

def titlesCatalog : Catalog := ⟨titles, Catalog.declaredEntries titles⟩

theorem of_schemas_titles : Catalog.ofSchemas titles = .ok titlesCatalog := by
  cbv

def separatedBy (separator : String) : Settings := ⟨"/document", separator, false⟩

def titleAt (path storageKey : String) : Property :=
  ⟨path, storageKey, .scalar .string, false, false, false, false⟩

/-- A separator that is in neither path tells a qualifier from a part. -/
theorem segments_eq_iff_shared_key_titles :
    (∃ property otherProperty,
      resolve titlesCatalog "__" "dc:title" = .ok property ∧
      resolve titlesCatalog "__" "/dc/title/" = .ok otherProperty ∧
      property.storageKey ≠ otherProperty.storageKey) ∧
    ∃ property otherProperty,
      resolve titlesCatalog "." "dc:title" = .ok property ∧
      resolve titlesCatalog "." "//dc:title/" = .ok otherProperty ∧
      property.storageKey = otherProperty.storageKey := by
  have user : ∀ path ∈ ["dc:title", "/dc/title/", "//dc:title/"],
      ¬"ecm:".toList <+: (canonicalPath path).toList := by decide +kernel
  constructor
  · have valid : (separatedBy "__").validate = .ok (separatedBy "__") := by cbv
    have found : resolve titlesCatalog "__" "dc:title" = .ok (titleAt "dc:title" "dc__title") := rfl
    have otherFound : resolve titlesCatalog "__" "/dc/title/" =
        .ok (titleAt "dc/title/" "dc.title") := rfl
    refine ⟨_, _, found, otherFound, ?_⟩
    intro same
    have apart := (segments_eq_iff_shared_key of_schemas_titles valid (user _ (by simp))
      (user _ (by simp)) found otherFound).2
    have segmentsSame := apart (by unfold InNeither; decide +kernel)
      (Or.inr ⟨'_', by decide, by decide, by unfold InNeither; decide +kernel⟩) same
    revert segmentsSame
    decide +kernel
  · have valid : (separatedBy ".").validate = .ok (separatedBy ".") := by cbv
    have found : resolve titlesCatalog "." "dc:title" = .ok (titleAt "dc:title" "dc.title") := rfl
    have otherFound : resolve titlesCatalog "." "//dc:title/" =
        .ok (titleAt "dc:title/" "dc.title") := rfl
    have sameSegments : segments (canonicalPath "dc:title").toList =
        segments (canonicalPath "//dc:title/").toList := by decide +kernel
    have shared := (segments_eq_iff_shared_key of_schemas_titles valid (user _ (by simp))
      (user _ (by simp)) found otherFound).1.mp sameSegments
    exact ⟨_, _, found, otherFound, shared.1⟩

/-- Two properties of documents in one catalog, on paths with different segments, under one key. -/
def ShareKey (catalog : Catalog) (separator path other : String) : Prop :=
  (separatedBy separator).validate = .ok (separatedBy separator) ∧
    (¬"ecm:".toList <+: (canonicalPath path).toList) ∧
    (¬"ecm:".toList <+: (canonicalPath other).toList) ∧
    segments (canonicalPath path).toList ≠ segments (canonicalPath other).toList ∧
    ∃ property otherProperty, resolve catalog separator path = .ok property ∧
      resolve catalog separator other = .ok otherProperty ∧
      property.storageKey = otherProperty.storageKey

/-- The standard separator does not tell a qualifier from a part, no separator tells a dot in a name
from a slash, and a name may contain what stands for a colon. -/
theorem properties_share_keys :
    Catalog.ofSchemas titles = .ok titlesCatalog ∧
      ShareKey titlesCatalog Settings.standard.namespaceSeparator "dc:title" "dc/title" ∧
      ShareKey titlesCatalog "__" "dc.title" "dc/title" ∧
      ShareKey titlesCatalog "_" "dc:title" "dc_title" := by
  refine ⟨of_schemas_titles, ?_, ?_, ?_⟩
  · exact ⟨by cbv, by decide +kernel, by decide +kernel, by decide +kernel,
      titleAt "dc:title" "dc.title", titleAt "dc/title" "dc.title", rfl, rfl, rfl⟩
  · exact ⟨by cbv, by decide +kernel, by decide +kernel, by decide +kernel,
      titleAt "dc.title" "dc.title", titleAt "dc/title" "dc.title", rfl, rfl, rfl⟩
  · exact ⟨by cbv, by decide +kernel, by decide +kernel, by decide +kernel,
      titleAt "dc:title" "dc_title", titleAt "dc_title" "dc_title", rfl, rfl, rfl⟩

end DocumentQuery.Property
