import DocumentQuery.Proofs.Json.Members
import Mathlib.Data.List.Nodup

/-!
JSON values whose objects have the same members in different orders. As values they are one: where
keys are distinct, looking for a key finds the same value in both.
-/

namespace DocumentQuery.Json

mutual

inductive Same : Json → Json → Prop
  | null : Same null null
  | bool (value : Bool) : Same (bool value) (bool value)
  | number (mantissa : Int) (places : Nat) : Same (number mantissa places) (number mantissa places)
  | text (value : String) : Same (text value) (text value)
  | array {items others : List Json} (each : EachSame items others) :
      Same (array items) (array others)
  | object {members reordered others : List (String × Json)} (order : members.Perm reordered)
      (each : MembersSame reordered others) : Same (object members) (object others)

inductive EachSame : List Json → List Json → Prop
  | nil : EachSame [] []
  | cons {item other : Json} {rest others : List Json} (first : Same item other)
      (later : EachSame rest others) : EachSame (item :: rest) (other :: others)

/-- The same keys in the same order, with values that are the same. -/
inductive MembersSame : List (String × Json) → List (String × Json) → Prop
  | nil : MembersSame [] []
  | cons {key : String} {value other : Json} {rest others : List (String × Json)}
      (first : Same value other) (later : MembersSame rest others) :
      MembersSame ((key, value) :: rest) ((key, other) :: others)

end

mutual

theorem same_refl : ∀ json : Json, Same json json
  | null => .null
  | bool value => .bool value
  | number mantissa places => .number mantissa places
  | text value => .text value
  | array items => .array (each_same_refl items)
  | object members => .object (List.Perm.refl members) (members_same_refl members)

theorem each_same_refl : ∀ items : List Json, EachSame items items
  | [] => .nil
  | item :: rest => .cons (same_refl item) (each_same_refl rest)

theorem members_same_refl : ∀ members : List (String × Json), MembersSame members members
  | [] => .nil
  | (_, value) :: rest => .cons (same_refl value) (members_same_refl rest)

end

theorem text_of_same {json : Json} {value : String} (same : Same json (text value)) :
    json = text value := by
  cases same
  rfl

theorem array_of_same {json : Json} {others : List Json} (same : Same json (array others)) :
    ∃ items, json = array items ∧ EachSame items others := by
  cases same with
  | array each => exact ⟨_, rfl, each⟩

theorem texts_of_same {json : Json} {values : List String} (same : Same json (texts values)) :
    json = texts values := by
  obtain ⟨items, rfl, each⟩ := array_of_same same
  rw [texts, array.injEq]
  clear same
  induction values generalizing items with
  | nil =>
      cases each
      rfl
  | cons value rest induction =>
      cases each with
      | cons first later => rw [text_of_same first, induction _ later, List.map_cons]

theorem same_single (key : String) {value other : Json} (same : Same value other) :
    Same (object [(key, value)]) (object [(key, other)]) :=
  .object (List.Perm.refl _) (.cons same .nil)

theorem single_of_same {json : Json} {key : String} {value : Json}
    (same : Same json (object [(key, value)])) :
    ∃ own, json = object [(key, own)] ∧ Same own value := by
  cases same with
  | object order each =>
      cases each with
      | cons first later =>
          cases later
          exact ⟨_, congrArg object (List.perm_singleton.mp order), first⟩

theorem keys_of_members_same : ∀ {members others : List (String × Json)},
    MembersSame members others → members.map Prod.fst = others.map Prod.fst
  | _, _, .nil => rfl
  | _, _, .cons _ later => by
      rw [List.map_cons, List.map_cons, keys_of_members_same later]

theorem lookup_of_members_same {key : String} {value : Json} {members others : List (String × Json)}
    (each : MembersSame members others) (found : lookup key others = some value) :
    ∃ own, lookup key members = some own ∧ Same own value := by
  induction others generalizing members with
  | nil => cases found
  | cons other rest induction =>
      cases each with
      | cons first later =>
          rw [lookup] at found ⊢
          split at found
          · next here =>
              rw [if_pos here]
              exact ⟨_, rfl, Option.some.inj found ▸ first⟩
          · next elsewhere =>
              rw [if_neg elsewhere]
              exact induction later found

theorem lookup_of_perm {members reordered : List (String × Json)}
    (order : members.Perm reordered) (distinct : (members.map Prod.fst).Nodup) (key : String) :
    lookup key members = lookup key reordered := by
  induction order with
  | nil => rfl
  | cons member _ induction =>
      rw [lookup, lookup, induction (List.nodup_cons.mp distinct).2]
  | swap first second rest =>
      have apart : second.1 ≠ first.1 := by
        intro same
        apply (List.nodup_cons.mp distinct).1
        rw [same, List.map_cons]
        exact List.mem_cons_self
      simp only [lookup]
      split
      · next here => rw [if_neg (fun other => apart (here.trans other.symm))]
      · rfl
  | trans order _ induction laterInduction =>
      rw [induction distinct, laterInduction ((order.map Prod.fst).nodup_iff.mp distinct)]

/-- The value of a member of an object. -/
def member? (key : String) : Json → Option Json
  | object members => lookup key members
  | _ => none

theorem member_of_same {json : Json} {others : List (String × Json)}
    (same : Same json (object others)) (distinct : (others.map Prod.fst).Nodup) {key : String}
    {value : Json} (found : lookup key others = some value) :
    ∃ own, json.member? key = some own ∧ Same own value := by
  cases same with
  | object order each =>
      have reorderedDistinct := distinct
      rw [← keys_of_members_same each] at reorderedDistinct
      obtain ⟨own, ownFound, ownSame⟩ := lookup_of_members_same each found
      have membersDistinct := (order.map Prod.fst).nodup_iff.mpr reorderedDistinct
      rw [← lookup_of_perm order membersDistinct] at ownFound
      exact ⟨own, ownFound, ownSame⟩

end DocumentQuery.Json
