import DocumentQuery.Proofs.Json.Same
import DocumentQuery.Search.Document

/-!
Requests read back from their JSON documents. The document of a request, with the members of its
objects in any order, is read as this one request, so that no two requests have one document.
-/

namespace DocumentQuery

open Json

def Json.readTexts? : Json → Option (List String)
  | array items => items.mapM asText
  | _ => none

@[simp] theorem Json.read_texts_texts (values : List String) :
    (texts values).readTexts? = some values := by
  rw [texts, readTexts?]
  induction values with
  | nil => rfl
  | cons value rest induction =>
      rw [List.map_cons, List.mapM_cons, induction]
      rfl

@[simp] theorem RangeRelation.of_tag_tag (relation : RangeRelation) :
    ofTag? relation.tag = some relation := by
  cases relation <;> rfl

@[simp] theorem IndexType.of_key_key (type : IndexType) : ofKey? type.key = some type := by
  cases type <;> rfl

namespace Predicate

def readText? (key : String) (body : Json) : Option String := (body.member? key).bind asText

def readValue? (body : Json) : Option Predicate := do
  let element ← readText? "element" body
  let texts ← (body.member? "text").bind readTexts?
  some (value element texts)

def readRange? (body : Json) : Option Predicate := do
  let element ← readText? "element" body
  let type ← (readText? "type" body).bind IndexType.ofKey?
  let relation ← (readText? "range-operator" body).bind RangeRelation.ofTag?
  let text ← readText? "value" body
  some (range element type relation text)

mutual

def ofJson? : Json → Option Predicate
  | .object [(kind, body)] =>
      if kind = "and-query" then (readParts? body).map conjunction
      else if kind = "or-query" then (readParts? body).map disjunction
      else if kind = "not-query" then (ofJson? body).map negation
      else if kind = "value-query" then readValue? body
      else if kind = "range-query" then readRange? body
      else if kind = "container-query" then do
        let element ← readText? "element" body
        let inner ← readInner? body
        some (container element inner)
      else none
  | _ => none

/-- The parts of a connective stand in the only member of its body. -/
def readParts? : Json → Option (List Predicate)
  | .object [(_, .array items)] => ofItems? items
  | _ => none

def ofItems? : List Json → Option (List Predicate)
  | [] => some []
  | item :: rest => do
      let part ← ofJson? item
      let parts ← ofItems? rest
      some (part :: parts)

def readInner? : Json → Option Predicate
  | .object members => innerOfMembers? members
  | _ => none

def innerOfMembers? : List (String × Json) → Option Predicate
  | [] => none
  | (key, body) :: rest => if key = "query" then ofJson? body else innerOfMembers? rest

end

theorem inner_of_members_eq_lookup (members : List (String × Json)) :
    innerOfMembers? members = (lookup "query" members).bind ofJson? :=
  search_eq_lookup (by rw [innerOfMembers?]) (by intros; rw [innerOfMembers?]) members

theorem read_inner_eq_member (body : Json) :
    readInner? body = (body.member? "query").bind ofJson? := by
  cases body with
  | object members =>
      rw [readInner?, inner_of_members_eq_lookup]
      rfl
  | null | bool _ | number _ _ | text _ | array _ => rfl

theorem read_text_of_same {json : Json} {others : List (String × Json)}
    (same : Same json (.object others)) (distinct : (others.map Prod.fst).Nodup) (key : String)
    {written : String} (found : lookup key others = some (.text written)) :
    readText? key json = some written := by
  obtain ⟨own, ownFound, ownSame⟩ := member_of_same same distinct found
  rw [readText?, ownFound, text_of_same ownSame]
  rfl

theorem read_value_of_same {element : String} {texts : List String} {body : Json}
    (same : Same body (.object [("element", .text element), ("text", .texts texts)])) :
    readValue? body = some (value element texts) := by
  have distinct : ["element", "text"].Nodup := by decide
  have isElement := read_text_of_same same distinct "element" rfl
  obtain ⟨own, found, ownSame⟩ := member_of_same same distinct
    (show lookup "text" _ = some (Json.texts texts) from rfl)
  simp [readValue?, isElement, found, texts_of_same ownSame]

theorem read_range_of_same {element : String} {type : IndexType} {relation : RangeRelation}
    {written : String} {body : Json}
    (same : Same body (.object [("element", .text element), ("type", .text type.key),
      ("range-operator", .text relation.tag), ("value", .text written)])) :
    readRange? body = some (range element type relation written) := by
  have distinct : ["element", "type", "range-operator", "value"].Nodup := by decide
  simp [readRange?, read_text_of_same same distinct "element" rfl,
    read_text_of_same same distinct "type" rfl,
    read_text_of_same same distinct "range-operator" rfl,
    read_text_of_same same distinct "value" rfl]

mutual

/-- The document of a predicate is read as this predicate, whatever the order of its members. The
document is cut open along the predicate. -/
theorem of_json_of_same : ∀ (predicate : Predicate) (json : Json),
    Same json predicate.toJson → ofJson? json = some predicate
  | conjunction parts, json, same => by
      rw [toJson] at same
      obtain ⟨body, rfl, bodySame⟩ := single_of_same same
      rw [ofJson?, if_pos rfl, read_parts_of_same parts body bodySame, Option.map_some]
  | disjunction parts, json, same => by
      rw [toJson] at same
      obtain ⟨body, rfl, bodySame⟩ := single_of_same same
      rw [ofJson?, if_neg (by decide), if_pos rfl, read_parts_of_same parts body bodySame,
        Option.map_some]
  | negation part, json, same => by
      rw [toJson] at same
      obtain ⟨body, rfl, bodySame⟩ := single_of_same same
      rw [ofJson?, if_neg (by decide), if_neg (by decide), if_pos rfl,
        of_json_of_same part body bodySame, Option.map_some]
  | value element texts, json, same => by
      rw [toJson] at same
      obtain ⟨body, rfl, bodySame⟩ := single_of_same same
      rw [ofJson?, if_neg (by decide), if_neg (by decide), if_neg (by decide), if_pos rfl,
        read_value_of_same bodySame]
  | range element type relation written, json, same => by
      rw [toJson] at same
      obtain ⟨body, rfl, bodySame⟩ := single_of_same same
      rw [ofJson?, if_neg (by decide), if_neg (by decide), if_neg (by decide),
        if_neg (by decide), if_pos rfl, read_range_of_same bodySame]
  | container element inner, json, same => by
      rw [toJson] at same
      obtain ⟨body, rfl, bodySame⟩ := single_of_same same
      have distinct : ["element", "query"].Nodup := by decide
      have isElement := read_text_of_same bodySame distinct "element" rfl
      obtain ⟨own, found, ownSame⟩ := member_of_same bodySame distinct
        (show lookup "query" _ = some inner.toJson from rfl)
      have isInner := of_json_of_same inner own ownSame
      rw [ofJson?, if_neg (by decide), if_neg (by decide), if_neg (by decide),
        if_neg (by decide), if_neg (by decide), if_pos rfl, isElement, read_inner_eq_member, found,
        Option.bind_some, isInner]
      rfl

theorem read_parts_of_same : ∀ (parts : List Predicate) (body : Json),
    Same body (.object [("queries", .array (toJsonEach parts))]) → readParts? body = some parts
  | parts, body, same => by
      obtain ⟨queries, rfl, queriesSame⟩ := single_of_same same
      obtain ⟨items, rfl, each⟩ := array_of_same queriesSame
      rw [readParts?, of_items_of_each_same parts items each]

theorem of_items_of_each_same : ∀ (parts : List Predicate) (items : List Json),
    EachSame items (toJsonEach parts) → ofItems? items = some parts
  | [], items, each => by
      rw [toJsonEach] at each
      cases each
      rw [ofItems?]
  | part :: rest, items, each => by
      rw [toJsonEach] at each
      cases each with
      | cons first later =>
          rw [ofItems?, of_json_of_same part _ first, of_items_of_each_same rest _ later]
          rfl

end

end Predicate

namespace SearchRequest

def ofJson? (json : Json) : Option SearchRequest := do
  let search ← json.member? "search"
  let predicate ← (search.member? "query").bind Predicate.ofJson?
  let options ← search.member? "options"
  let extraction ← options.member? "extract-document-data"
  let paths ← (extraction.member? "extract-path").bind readTexts?
  some ⟨predicate, paths⟩

theorem of_json_of_same (request : SearchRequest) (json : Json) (same : Same json request.toJson) :
    ofJson? json = some request := by
  obtain ⟨search, rfl, searchSame⟩ := single_of_same same
  have distinct : ["query", "options"].Nodup := by decide
  obtain ⟨query, queryFound, querySame⟩ := member_of_same searchSame distinct
    (show lookup "query" _ = some request.predicate.toJson from rfl)
  obtain ⟨options, optionsFound, optionsSame⟩ := member_of_same searchSame distinct
    (show lookup "options" _ = some _ from rfl)
  obtain ⟨extraction, rfl, extractionSame⟩ := single_of_same optionsSame
  obtain ⟨paths, pathsFound, pathsSame⟩ := member_of_same extractionSame
    (show ["selected", "extract-path"].Nodup by decide)
    (show lookup "extract-path" _ = some (Json.texts request.extractPaths) from rfl)
  have isPredicate := Predicate.of_json_of_same request.predicate query querySame
  have searchFound : (Json.object [("search", search)]).member? "search" = some search := rfl
  have extractionFound : (Json.object [("extract-document-data", extraction)]).member?
    "extract-document-data" = some extraction := rfl
  simp [ofJson?, searchFound, queryFound, isPredicate, optionsFound, extractionFound, pathsFound,
    texts_of_same pathsSame]

/-- Nothing is lost in the document of a request. Two requests with documents that are the same as
values are one request, and one decoder reads every request back from its document. -/
theorem document_loses_nothing :
    (∀ (first second : Predicate) (firstPaths secondPaths : List String),
      Same (toJson ⟨first, firstPaths⟩) (toJson ⟨second, secondPaths⟩) →
        first = second ∧ firstPaths = secondPaths) ∧
    ∀ (request : SearchRequest) (json : Json),
      Same json request.toJson → ofJson? json = some request := by
  constructor
  · intro first second firstPaths secondPaths same
    have readSecond := of_json_of_same ⟨second, secondPaths⟩ _ same
    have readFirst := of_json_of_same ⟨first, firstPaths⟩ _ (same_refl _)
    rw [readFirst] at readSecond
    have one := Option.some.inj readSecond
    exact ⟨congrArg predicate one, congrArg extractPaths one⟩
  · exact of_json_of_same

/-- A document written with its members in other orders, down to a range in a negation. -/
theorem document_loses_nothing_reordered :
    let request : SearchRequest := ⟨.conjunction
      [.negation (.range "dc.date" .dateTime .less "2020-01-01"),
        .container "note" (.conjunction [])],
      ["dc.title"]⟩
    let document : Json := .object [("search", .object
      [("options", .object [("extract-document-data", .object
        [("extract-path", .array [.text "dc.title"]),
         ("selected", .text "include-with-ancestors")])]),
       ("query", .object [("and-query", .object [("queries", .array
        [.object [("not-query", .object [("range-query", .object
          [("type", .text "xs:dateTime"), ("element", .text "dc.date"),
           ("range-operator", .text "LT"), ("value", .text "2020-01-01")])])],
         .object [("container-query", .object
          [("query", .object [("and-query", .object [("queries", .array [])])]),
           ("element", .text "note")])]])])])])]
    Same document request.toJson ∧ ofJson? document = some request ∧
      ¬ Same (toJson ⟨.conjunction [], []⟩) (toJson ⟨.disjunction [], []⟩) := by
  intro request document
  have rangeSame : Same
      (.object [("type", .text "xs:dateTime"), ("element", .text "dc.date"),
        ("range-operator", .text "LT"), ("value", .text "2020-01-01")])
      (.object [("element", .text "dc.date"), ("type", .text "xs:dateTime"),
        ("range-operator", .text "LT"), ("value", .text "2020-01-01")]) :=
    .object (List.Perm.swap _ _ _) (members_same_refl _)
  have containerSame : Same
      (.object [("query", .object [("and-query", .object [("queries", .array [])])]),
        ("element", .text "note")])
      (.object [("element", .text "note"),
        ("query", .object [("and-query", .object [("queries", .array [])])])]) :=
    .object (List.Perm.swap _ _ _) (members_same_refl _)
  have extractionSame : Same
      (.object [("extract-path", .array [.text "dc.title"]),
        ("selected", .text "include-with-ancestors")])
      (.object [("selected", .text "include-with-ancestors"),
        ("extract-path", .array [.text "dc.title"])]) :=
    .object (List.Perm.swap _ _ _) (members_same_refl _)
  have partsSame := EachSame.cons (same_single "not-query" (same_single "range-query" rangeSame))
    (.cons (same_single "container-query" containerSame) .nil)
  have querySame := same_single "and-query" (same_single "queries" (.array partsSame))
  have same : Same document request.toJson :=
    same_single "search" (.object (List.Perm.swap _ _ _)
      (.cons querySame (.cons (same_single "extract-document-data" extractionSame) .nil)))
  refine ⟨same, document_loses_nothing.2 request document same, fun other => ?_⟩
  exact Predicate.noConfusion (document_loses_nothing.1 _ _ _ _ other).1

end SearchRequest

end DocumentQuery
