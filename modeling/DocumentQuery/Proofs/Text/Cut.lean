import DocumentQuery.Text.Basic
import Mathlib.Data.List.DropRight
import Mathlib.Data.List.TakeWhile

/-!
Texts cut at their ends and at a separator. What is kept of a text ends where the test fails, and
a text falls into parts without the separator in one way only.
-/

namespace DocumentQuery.Text

theorem drop_end_eq_rdrop_while (test : Char → Bool) (chars : List Char) :
    dropEnd test chars = chars.rdropWhile test :=
  rfl

theorem trim_chars_eq_nil_iff (chars : List Char) :
    trimChars chars = [] ↔ ∀ char ∈ chars, isBlank char = true := by
  rw [trimChars, drop_end_eq_rdrop_while, List.rdropWhile_eq_nil_iff]
  constructor
  · intro kept char member
    rw [← List.takeWhile_append_dropWhile (p := isBlank) (l := chars)] at member
    rcases List.mem_append.mp member with taken | dropped
    · exact List.mem_takeWhile_imp taken
    · exact kept char dropped
  · intro all char member
    exact all char ((List.dropWhile_suffix _).subset member)

theorem drop_end_append (test : Char → Bool) (kept dropped : List Char)
    (ends : ∀ last, kept.getLast? = some last → test last = false)
    (all : ∀ char ∈ dropped, test char = true) : dropEnd test (kept ++ dropped) = kept := by
  have stays : kept.rdropWhile test = kept := by
    rw [List.rdropWhile_eq_self_iff]
    intro some
    rw [ends _ (List.getLast?_eq_some_getLast some)]
    exact Bool.false_ne_true
  rw [dropEnd, List.reverse_append, List.dropWhile_append_of_pos
    (fun char member => all char (List.mem_reverse.mp member))]
  exact stays

theorem trim_chars_of_no_blank {chars : List Char}
    (noBlank : ∀ char ∈ chars, isBlank char = false) : trimChars chars = chars := by
  have front : chars.dropWhile isBlank = chars := by
    rw [List.dropWhile_eq_self_iff]
    intro some
    rw [noBlank _ (List.getElem_mem some)]
    exact Bool.false_ne_true
  have back := drop_end_append isBlank chars []
    (fun last found => noBlank last (List.mem_of_getLast? found))
    (fun char member => nomatch member)
  rw [List.append_nil] at back
  rw [trimChars, front, back]

theorem not_mem_of_mem_split_on (separator : Char) (chars part : List Char)
    (member : part ∈ chars.splitOn separator) : separator ∉ part := by
  induction chars generalizing part with
  | nil =>
      rw [List.splitOn_nil, List.mem_singleton] at member
      rw [member]
      exact List.not_mem_nil
  | cons char rest induction =>
      rw [List.splitOn_cons_eq_if_modifyHead] at member
      split at member
      · rcases List.mem_cons.mp member with rfl | later
        · exact List.not_mem_nil
        · exact induction part later
      · next different =>
        obtain ⟨first, others, pieces⟩ :=
          List.exists_cons_of_ne_nil (List.splitOn_ne_nil separator rest)
        rw [pieces, List.modifyHead_cons] at member
        rcases List.mem_cons.mp member with rfl | later
        · have firstFree := induction first (by rw [pieces]; exact List.mem_cons_self)
          intro found
          rcases List.mem_cons.mp found with rfl | inside
          · exact different (beq_self_eq_true _)
          · exact firstFree inside
        · exact induction part (by rw [pieces]; exact List.mem_cons_of_mem _ later)

theorem mem_of_mem_intercalate {separator char : Char} {parts : List (List Char)}
    (member : char ∈ [separator].intercalate parts) :
    char = separator ∨ ∃ part ∈ parts, char ∈ part := by
  induction parts with
  | nil => cases member
  | cons part rest induction =>
      cases rest with
      | nil =>
          rw [List.intercalate_singleton] at member
          exact Or.inr ⟨part, List.mem_cons_self, member⟩
      | cons next others =>
          rw [List.intercalate_cons_cons, List.append_assoc, List.mem_append, List.mem_append,
            List.mem_singleton] at member
          rcases member with inPart | isSeparator | inRest
          · exact Or.inr ⟨part, List.mem_cons_self, inPart⟩
          · exact Or.inl isSeparator
          · rcases induction inRest with isSeparator | ⟨later, inRest, inLater⟩
            · exact Or.inl isSeparator
            · exact Or.inr ⟨later, List.mem_cons_of_mem _ inRest, inLater⟩

/-- The first occurrence of a character cuts a text in one way. -/
theorem cut_unique {separator : Char} {part other rest tail : List Char} (free : separator ∉ part)
    (otherFree : separator ∉ other)
    (same : part ++ separator :: rest = other ++ separator :: tail) :
    part = other ∧ rest = tail := by
  have cut := congrArg (List.splitOn separator) same
  rw [List.splitOn_append_cons_self_of_not_mem free,
    List.splitOn_append_cons_self_of_not_mem otherFree] at cut
  obtain ⟨rfl, -⟩ := List.cons.inj cut
  exact ⟨rfl, (List.cons.inj (List.append_cancel_left same)).2⟩

end DocumentQuery.Text
