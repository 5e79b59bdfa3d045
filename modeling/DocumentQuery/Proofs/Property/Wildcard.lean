import DocumentQuery.Proofs.Property.Lookup
import DocumentQuery.Proofs.Property.Recognition
import DocumentQuery.Proofs.Property.Separator

/-!
Wildcards in storage keys against wildcards in paths. A key is searched for its first star as a
text, after the segments were joined and the colons replaced. As long as stars and line feeds stand
nowhere but in wildcards, the search finds a wildcard exactly if one of the segments after the
first is one.
-/

namespace DocumentQuery.Property

open Text

/-- A segment for any position in a list: a star with or without digits. -/
def IsWildcard (segment : List Char) : Prop :=
  ∃ digits, segment = '*' :: digits ∧ ∀ char ∈ digits, isAsciiDigit char = true

def IsPlain (segment : List Char) : Prop := '*' ∉ segment ∧ '\n' ∉ segment

/-- A path whose stars and line feeds all stand in wildcards after its first segment. -/
def StarsApart (path : String) : Prop :=
  ∃ head rest, Segmented (canonicalPath path).toList (head :: rest) ∧ IsPlain head ∧
    ∀ segment ∈ rest, IsWildcard segment ∨ IsPlain segment

/-- A path that reaches through a wildcard after its first segment. -/
def PassesWildcard (path : String) : Prop :=
  ∃ head rest, Segmented (canonicalPath path).toList (head :: rest) ∧
    ∃ segment ∈ rest, IsWildcard segment

theorem not_is_wildcard_of_is_plain {segment : List Char} (plain : IsPlain segment) :
    ¬IsWildcard segment := by
  intro wildcard
  rcases wildcard with ⟨digits, rfl, -⟩
  exact plain.1 List.mem_cons_self

theorem one_line_of_kind {segment : List Char} (kind : IsWildcard segment ∨ IsPlain segment) :
    '\n' ∉ segment := by
  rcases kind with ⟨digits, rfl, ascii⟩ | plain
  · intro member
    rcases List.mem_cons.mp member with star | inDigits
    · cases star
    · cases ascii '\n' inDigits
  · exact plain.2

/-! ## Characters of a key -/

theorem mem_of_mem_engine_key {separator text : List Char} {char : Char}
    (member : char ∈ engineKey separator text) : char ∈ separator ∨ char ∈ text := by
  obtain ⟨origin, inText, becomes⟩ := List.mem_flatMap.mp member
  split at becomes
  · exact Or.inl becomes
  · exact Or.inr (List.mem_singleton.mp becomes ▸ inText)

theorem not_mem_engine_key {separator text : List Char} {char : Char} (apart : char ∉ separator)
    (absent : char ∉ text) : char ∉ engineKey separator text := by
  intro member
  exact (mem_of_mem_engine_key member).elim apart absent

theorem one_line_intercalate {parts : List (List Char)} (oneLine : ∀ part ∈ parts, '\n' ∉ part) :
    '\n' ∉ ['.'].intercalate parts := by
  intro member
  rcases mem_of_mem_intercalate member with dot | ⟨part, inParts, inPart⟩
  · cases dot
  · exact oneLine part inParts inPart

theorem reaches_wildcard_of_no_star {key : List Char} (noStar : '*' ∉ key) :
    reachesWildcard key = false := by
  rw [Bool.eq_false_iff, ne_eq, reaches_wildcard_iff]
  rintro ⟨front, rest, rfl, -⟩
  simp at noStar

theorem closes_wildcard_append {digits : List Char}
    (ascii : ∀ char ∈ digits, isAsciiDigit char = true) (rest : List Char) :
    closesWildcard (digits ++ rest) = closesWildcard rest := by
  have decimal : ∀ char ∈ digits, isDecimalDigit char = true := fun char member =>
    is_decimal_digit_of_is_ascii_digit char (ascii char member)
  rw [closesWildcard, closesWildcard, List.dropWhile_append_of_pos decimal]

theorem closes_wildcard_of_one_line {suffix : List Char} (oneLine : '\n' ∉ suffix) :
    closesWildcard ('.' :: suffix) = true := by
  have noDigit : isDecimalDigit '.' = false := rfl
  have stays : ('.' :: suffix).dropWhile isDecimalDigit = '.' :: suffix := by
    rw [List.dropWhile_cons_of_neg (by rw [noDigit]; exact Bool.false_ne_true)]
  rw [closesWildcard, stays]
  simpa using oneLine

/-! ## Segments of a key -/

theorem intercalate_merge (separator first second : List Char) (rest : List (List Char)) :
    separator.intercalate (first :: second :: rest) =
      separator.intercalate ((first ++ separator ++ second) :: rest) := by
  cases rest with
  | nil => rw [List.intercalate_cons_cons, List.intercalate_singleton, List.intercalate_singleton]
  | cons third others =>
      simp only [List.intercalate_cons_cons, List.append_assoc]

section

variable {separator : List Char} (noStar : '*' ∉ separator) (oneLine : '\n' ∉ separator)

include noStar oneLine

theorem reaches_wildcard_at_wildcard {head : List Char} (headFree : '*' ∉ head)
    {digits : List Char} (ascii : ∀ char ∈ digits, isAsciiDigit char = true)
    {rest : List (List Char)} (restOneLine : ∀ segment ∈ rest, '\n' ∉ segment) :
    reachesWildcard (engineKey separator (['.'].intercalate (head :: ('*' :: digits) :: rest))) =
      true := by
  have digitsKept : engineKey separator digits = digits := by
    apply engine_key_of_no_colon
    intro colon
    cases ascii ':' colon
  rw [reaches_wildcard_iff]
  refine ⟨engineKey separator head, ?_⟩
  cases rest with
  | nil =>
      refine ⟨digits, ?_, not_mem_engine_key noStar headFree, ?_⟩
      · have whole : ['.'].intercalate [head, '*' :: digits] = head ++ ['.', '*'] ++ digits := by
          simp [List.intercalate_cons_cons]
        simp [whole, digitsKept]
      · rw [← List.append_nil digits, closes_wildcard_append ascii]
        rfl
  | cons next others =>
      refine ⟨digits ++ '.' :: engineKey separator (['.'].intercalate (next :: others)), ?_,
        not_mem_engine_key noStar headFree, ?_⟩
      · have whole : ['.'].intercalate (head :: ('*' :: digits) :: next :: others) =
            head ++ ['.', '*'] ++ digits ++ ['.'] ++
              ['.'].intercalate (next :: others) := by
          simp [List.intercalate_cons_cons]
        simp [whole, digitsKept]
      · rw [closes_wildcard_append ascii]
        exact closes_wildcard_of_one_line
          (not_mem_engine_key oneLine (one_line_intercalate restOneLine))

/-- The key of some segments reaches a wildcard exactly if a segment after the first is one. The
induction moves segments without a star into the first one, until a wildcard comes. -/
theorem reaches_wildcard_engine_key {head : List Char} (headFree : '*' ∉ head)
    {rest : List (List Char)}
    (kinds : ∀ segment ∈ rest, IsWildcard segment ∨ IsPlain segment) :
    reachesWildcard (engineKey separator (['.'].intercalate (head :: rest))) = true ↔
      ∃ segment ∈ rest, IsWildcard segment := by
  induction rest generalizing head with
  | nil =>
      have absent : reachesWildcard (engineKey separator head) = false :=
        reaches_wildcard_of_no_star (not_mem_engine_key noStar headFree)
      simp [absent]
  | cons segment others induction =>
      obtain ⟨kind, otherKinds⟩ := List.forall_mem_cons.mp kinds
      rcases kind with wildcard | plain
      · have found : ∃ other ∈ segment :: others, IsWildcard other :=
          ⟨segment, List.mem_cons_self, wildcard⟩
        rcases wildcard with ⟨digits, rfl, ascii⟩
        have reaches := reaches_wildcard_at_wildcard noStar oneLine headFree ascii
          fun other member => one_line_of_kind (otherKinds other member)
        exact iff_of_true reaches found
      · have mergedFree : '*' ∉ head ++ ['.'] ++ segment := by
          simp [headFree, plain.1]
        rw [intercalate_merge, induction mergedFree otherKinds, List.exists_mem_cons_iff,
          or_iff_right (not_is_wildcard_of_is_plain plain)]

end

/-! ## Properties -/

theorem lookup_plain {name : String} {listed : SystemProperty}
    (found : SystemProperty.lookup name = .ok listed) :
    '*' ∉ listed.key.toList ∧ '/' ∉ name.toList := by
  have all : ∀ entry ∈ SystemProperty.table,
      '*' ∉ entry.2.key.toList ∧ '/' ∉ entry.1.toList := by
    decide +kernel
  exact all _ (mem_table_of_lookup found)

theorem segments_of_no_slash {path : List Char} (noSlash : '/' ∉ path) :
    segments path = [path] := by
  have kept : dropEnd (· = '/') path = path := by
    have whole := drop_end_append (· = '/') path [] (fun last isLast => decide_eq_false fun slash =>
      noSlash (slash ▸ List.mem_of_getLast? isLast)) (fun _ member => nomatch member)
    rwa [List.append_nil] at whole
  rw [segments, kept, List.splitOn_eq_singleton noSlash]

theorem system_iff_of_resolve {catalog : Catalog} {separator path : String} {property : Property}
    (found : resolve catalog separator path = .ok property) :
    property.system = true ↔ SystemProperty.mark.toList <+: (canonicalPath path).toList := by
  rw [resolve, ← List.isPrefixOf_iff_prefix] at *
  split at found
  · next marked =>
      unfold ofSystem at found
      split at found
      · cases found
      · cases found
        simp [marked]
  · next unmarked =>
      simp only [ofCatalog] at found
      split at found
      · cases found
      · cases found
        simp [unmarked]

theorem wildcard_of_system {catalog : Catalog} {separator path : String}
    (noStar : '*' ∉ separator.toList) {property : Property}
    (found : resolve catalog separator path = .ok property) (system : property.system = true) :
    property.wildcard = false ∧ ¬PassesWildcard path := by
  have marked := (system_iff_of_resolve found).mp system
  rw [resolve, if_pos (List.isPrefixOf_iff_prefix.mpr marked), ofSystem] at found
  split at found
  · cases found
  · next listed looked =>
      obtain ⟨keyFree, slashFree⟩ := lookup_plain looked
      obtain rfl := Except.ok.inj found
      refine ⟨reaches_wildcard_of_no_star (not_mem_engine_key noStar keyFree), ?_⟩
      rintro ⟨head, rest, segmented, segment, member, -⟩
      rw [segmented_iff, segments_of_no_slash slashFree] at segmented
      obtain ⟨-, rfl⟩ := List.cons.inj segmented
      cases member

/-- A property of documents on a path with its stars apart reaches a wildcard exactly if the path
does. -/
theorem wildcard_iff_of_user {schemas : List Schema} {catalog : Catalog}
    (built : Catalog.ofSchemas schemas = .ok catalog) {separator path : String}
    (noStar : '*' ∉ separator.toList) (oneLine : '\n' ∉ separator.toList) {property : Property}
    (found : resolve catalog separator path = .ok property) (user : property.system = false)
    (apart : StarsApart path) : property.wildcard = true ↔ PassesWildcard path := by
  obtain ⟨head, rest, segmented, headPlain, kinds⟩ := apart
  have cut := (segmented_iff _ _).mp segmented
  have unmarked : ¬SystemProperty.mark.toList <+: (canonicalPath path).toList := by
    rw [← system_iff_of_resolve found, user]
    exact Bool.false_ne_true
  rw [resolve_of_user catalog separator path unmarked] at found
  obtain ⟨type, -, described⟩ := (of_catalog_eq_ok_iff built separator _ cut property).mp found
  have reaches := reaches_wildcard_engine_key noStar oneLine headPlain.1 kinds
  rw [described.wildcard_eq]
  refine reaches.trans ?_
  constructor
  · intro passes
    exact ⟨head, rest, segmented, passes⟩
  · intro passes
    obtain ⟨otherHead, otherRest, otherSegmented, passes⟩ := passes
    rw [segmented_iff, cut] at otherSegmented
    obtain ⟨-, rfl⟩ := List.cons.inj otherSegmented
    exact passes

end DocumentQuery.Property
