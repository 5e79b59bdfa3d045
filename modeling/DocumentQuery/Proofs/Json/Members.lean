import DocumentQuery.Json

/-!
Records in JSON and what stands under their keys. A record is an object with any other members
beside its own, in any order, or the array of the first few of its members.
-/

namespace DocumentQuery.Json

inductive IsRecord (keys : List String) : Json → List (String × Json) → Prop
  | object (members : List (String × Json)) : IsRecord keys (object members) members
  | array {items : List Json} (short : items.length ≤ keys.length) :
      IsRecord keys (array items) (keys.zip items)

theorem as_record_eq_some_iff (keys : List String) (json : Json) (members : List (String × Json)) :
    json.asRecord keys = some members ↔ IsRecord keys json members := by
  constructor
  · intro read
    cases json with
    | object others =>
        obtain rfl : others = members := Option.some.inj read
        exact .object others
    | array items =>
        rw [asRecord] at read
        split at read
        · next short =>
            obtain rfl := Option.some.inj read
            exact .array short
        · cases read
    | null | bool _ | number _ _ | text _ => cases read
  · intro record
    cases record with
    | object members => rfl
    | array short => rw [asRecord, if_pos short]

def IsText (json : Json) (value : String) : Prop := json = .text value

theorem as_text_eq_some_iff (json : Json) (value : String) :
    json.asText = some value ↔ IsText json value := by
  cases json <;> simp [asText, IsText]

theorem text_member_eq_some_iff (key : String) (members : List (String × Json)) (value : String) :
    textMember key members = some value ↔ lookup key members = some (.text value) := by
  rw [textMember]
  cases lookup key members with
  | none => simp
  | some json => simp [as_text_eq_some_iff, IsText]

theorem items_of_pair {first second : String} (distinct : first ≠ second) {items : List Json}
    (short : items.length ≤ 2) {one other : Json}
    (found : lookup first ([first, second].zip items) = some one)
    (otherFound : lookup second ([first, second].zip items) = some other) :
    items = [one, other] := by
  match items with
  | [] => cases found
  | [_] =>
      rw [List.zip_cons_cons, List.zip_nil_right, lookup, if_neg distinct, lookup] at otherFound
      cases otherFound
  | [item, last] =>
      rw [List.zip_cons_cons, lookup, if_pos rfl] at found
      rw [List.zip_cons_cons, lookup, if_neg distinct, List.zip_cons_cons, lookup,
        if_pos rfl] at otherFound
      rw [Option.some.inj found, Option.some.inj otherFound]
  | _ :: _ :: _ :: rest =>
      rw [List.length_cons, List.length_cons, List.length_cons] at short
      omega

variable {Value : Type}

/-- A search for the first member of a key that reads its value where it finds it. -/
theorem search_eq_lookup {key : String} {read? : Json → Option Value}
    {search? : List (String × Json) → Option Value} (nowhere : search? [] = none)
    (step : ∀ name json rest, search? ((name, json) :: rest) =
      if name = key then read? json else search? rest) (members : List (String × Json)) :
    search? members = (lookup key members).bind read? := by
  induction members with
  | nil => rw [nowhere, lookup, Option.bind_none]
  | cons member rest induction =>
      rw [step, lookup, induction]
      split
      · rw [Option.bind_some]
      · rfl

/-- Reads a member that may be left out, and then stands for a value of its own. -/
def memberOr? (key : String) (fallback : Value) (read? : Json → Option Value)
    (members : List (String × Json)) : Option Value :=
  match lookup key members with
  | none => some fallback
  | some json => read? json

/-- What a member that may be left out stands for. -/
inductive MemberOr (key : String) (fallback : Value) (IsDocument : Json → Value → Prop)
    (members : List (String × Json)) : Value → Prop
  | absent (none_eq : lookup key members = none) :
      MemberOr key fallback IsDocument members fallback
  | present {json : Json} {value : Value} (found : lookup key members = some json)
      (isDocument : IsDocument json value) : MemberOr key fallback IsDocument members value

theorem member_or_eq_some_iff {key : String} {fallback : Value} {read? : Json → Option Value}
    {IsDocument : Json → Value → Prop} {value : Value}
    (reads : ∀ json, read? json = some value ↔ IsDocument json value)
    (members : List (String × Json)) :
    memberOr? key fallback read? members = some value ↔
      MemberOr key fallback IsDocument members value := by
  rw [memberOr?]
  constructor
  · intro read
    split at read
    · next absent =>
        rw [← Option.some.inj read]
        exact .absent absent
    · next json found => exact .present found ((reads json).mp read)
  · intro member
    cases member with
    | absent absent => rw [absent]
    | present found isDocument =>
        rw [found]
        exact (reads _).mpr isDocument

end DocumentQuery.Json
