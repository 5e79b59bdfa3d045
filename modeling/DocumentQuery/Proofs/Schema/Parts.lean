import DocumentQuery.Schema.Basic
import Mathlib.Data.List.Basic

/-!
Parts of complex types and the words that mean them. A word means a part by its local or its full
name, so that the parts of a type have to be apart in four ways for every word to mean at most one
of them. The order of parts makes a difference exactly if a word means two different ones.
-/

namespace DocumentQuery

structure QualifiedName.Apart (first second : QualifiedName) : Prop where
  localNames : first.localName ≠ second.localName
  fullNames : first.full ≠ second.full
  localFull : first.localName ≠ second.full
  fullLocal : first.full ≠ second.localName

namespace FieldType

theorem answers_to_iff (part : Field) (word : String) :
    answersTo part word = true ↔ part.name.localName = word ∨ part.name.full = word := by
  rw [answersTo, Bool.or_eq_true, decide_eq_true_eq, decide_eq_true_eq]

theorem apart_iff_no_word (first second : Field) :
    first.name.Apart second.name ↔
      ∀ word, answersTo first word = true → ¬answersTo second word = true := by
  simp only [answers_to_iff]
  constructor
  · intro apart word firstMeant secondMeant
    rcases firstMeant with rfl | rfl
    · rcases secondMeant with same | same
      · exact apart.localNames same.symm
      · exact apart.localFull same.symm
    · rcases secondMeant with same | same
      · exact apart.fullLocal same.symm
      · exact apart.fullNames same.symm
  · intro noWord
    exact ⟨fun same => noWord _ (Or.inl rfl) (Or.inl same.symm),
      fun same => noWord _ (Or.inr rfl) (Or.inr same.symm),
      fun same => noWord _ (Or.inl rfl) (Or.inr same.symm),
      fun same => noWord _ (Or.inr rfl) (Or.inl same.symm)⟩

/-- The parts of a complex type that a word means. -/
def meant (parts : List Field) (word : String) : List Field :=
  parts.filter fun part => answersTo part word

def PartsApart (parts : List Field) : Prop :=
  parts.Pairwise fun first second => first.name.Apart second.name

/-- A word means at most one part, whatever the word, exactly if the parts are apart. -/
theorem parts_apart_iff (parts : List Field) :
    PartsApart parts ↔ ∀ word, (meant parts word).length ≤ 1 := by
  induction parts with
  | nil => simp [PartsApart, meant]
  | cons part rest induction =>
      rw [PartsApart, List.pairwise_cons]
      constructor
      · intro apart word
        rcases apart with ⟨partApart, restApart⟩
        rw [meant, List.filter_cons]
        by_cases here : answersTo part word = true
        · have noOther : meant rest word = [] := by
            rw [meant, List.filter_eq_nil_iff]
            intro other member
            exact (apart_iff_no_word part other).mp (partApart other member) word here
          rw [if_pos here, ← meant, noOther]
          exact Nat.le_refl 1
        · rw [if_neg here]
          exact induction.mp restApart word
      · intro atMostOne
        constructor
        · intro other member
          rw [apart_iff_no_word]
          intro word here otherMeant
          have few := atMostOne word
          rw [meant, List.filter_cons, if_pos here, List.length_cons] at few
          have found : 0 < (meant rest word).length :=
            List.length_filter_pos_iff.mpr ⟨other, member, otherMeant⟩
          rw [meant] at found
          omega
        · apply induction.mpr
          intro word
          refine Nat.le_trans ?_ (atMostOne word)
          exact ((List.sublist_cons_self part rest).filter _).length_le

theorem part_eq_head_meant (name : String) (parts : List Field) (word : String) :
    (complex name parts).part? word = (meant parts word).head? :=
  List.head?_filter.symm

/-- The part that a word means is one and the same in every order of the parts exactly if the word
does not mean two different ones. -/
theorem part_of_every_order_iff (name : String) (parts : List Field) (word : String) :
    (∀ reordered, parts.Perm reordered →
        (complex name reordered).part? word = (complex name parts).part? word) ↔
      ∀ first ∈ meant parts word, ∀ second ∈ meant parts word, first = second := by
  constructor
  · intro orderFree
    -- any part that the word means is found once it stands first
    have found : ∀ part ∈ meant parts word, (complex name parts).part? word = some part := by
      intro part member
      obtain ⟨inParts, isMeant⟩ := List.mem_filter.mp member
      obtain ⟨before, after, rfl⟩ := List.append_of_mem inParts
      rw [← orderFree (part :: (before ++ after)) List.perm_middle, part?, List.find?_cons, isMeant]
    intro first firstMember second secondMember
    exact Option.some.inj ((found first firstMember).symm.trans (found second secondMember))
  · intro one reordered order
    have same : (meant parts word).Perm (meant reordered word) := order.filter _
    rw [part_eq_head_meant, part_eq_head_meant]
    cases found : meant parts word with
    | nil =>
        rw [found] at same
        rw [same.symm.eq_nil]
    | cons part rest =>
        cases otherFound : meant reordered word with
        | nil =>
            rw [found, otherFound] at same
            cases same.eq_nil
        | cons other others =>
            have isMeant : other ∈ meant parts word := by
              rw [same.mem_iff, otherFound]
              exact List.mem_cons_self
            have equal := one other isMeant part (by rw [found]; exact List.mem_cons_self)
            rw [List.head?_cons, List.head?_cons, equal]

theorem part_of_perm {parts reordered : List Field} (order : parts.Perm reordered)
    (apart : PartsApart parts) (name word : String) :
    (complex name reordered).part? word = (complex name parts).part? word := by
  have few := (parts_apart_iff parts).mp apart word
  have one := (part_of_every_order_iff name parts word).mpr
  apply one _ reordered order
  intro first firstMember second secondMember
  cases same : meant parts word with
  | nil =>
      rw [same] at firstMember
      cases firstMember
  | cons part rest =>
      rw [same, List.length_cons] at few
      have alone : rest = [] := List.eq_nil_of_length_eq_zero (by omega)
      rw [same, alone, List.mem_singleton] at firstMember secondMember
      rw [firstMember, secondMember]

/-- The types below a type: the elements of lists and the parts of complex types, to any depth. -/
inductive Reaches : FieldType → FieldType → Prop
  | here (type : FieldType) : Reaches type type
  | element {element target : FieldType} (later : Reaches element target) :
      Reaches (list element) target
  | part {name : String} {parts : List Field} {part : Field} {target : FieldType}
      (member : part ∈ parts) (later : Reaches part.type target) :
      Reaches (complex name parts) target

/-- All complex types at and below a type have parts that are apart. -/
def ApartThroughout (type : FieldType) : Prop :=
  ∀ name parts, Reaches type (complex name parts) → PartsApart parts

theorem apart_throughout_element {element : FieldType} (apart : ApartThroughout (list element)) :
    ApartThroughout element :=
  fun name parts reached => apart name parts (.element reached)

theorem apart_throughout_part {name : String} {parts : List Field} {part : Field}
    (apart : ApartThroughout (complex name parts)) (member : part ∈ parts) :
    ApartThroughout part.type :=
  fun other otherParts reached => apart other otherParts (.part member reached)

end FieldType

end DocumentQuery
