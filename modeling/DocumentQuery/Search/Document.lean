import DocumentQuery.Json
import DocumentQuery.Search.Predicate

/-!
Predicates and requests as JSON. A predicate is an object with one member, whose key tells the kind
of predicate. A request to the engine is a predicate, and the paths to extract from the documents
that it finds together with everything above them.
-/

namespace DocumentQuery

namespace Predicate

mutual

def toJson : Predicate → Json
  | conjunction parts => .object [("and-query", .object [("queries", .array (toJsonEach parts))])]
  | disjunction parts => .object [("or-query", .object [("queries", .array (toJsonEach parts))])]
  | negation part => .object [("not-query", toJson part)]
  | value element texts =>
      .object [("value-query", .object [("element", .text element), ("text", .texts texts)])]
  | range element type relation text =>
      .object [("range-query", .object [("element", .text element), ("type", .text type.key),
        ("range-operator", .text relation.tag), ("value", .text text)])]
  | container element inner =>
      .object [("container-query", .object [("element", .text element), ("query", toJson inner)])]

def toJsonEach : List Predicate → List Json
  | [] => []
  | part :: rest => toJson part :: toJsonEach rest

end

end Predicate

structure SearchRequest where
  predicate : Predicate
  extractPaths : List String

def SearchRequest.toJson (request : SearchRequest) : Json :=
  .object [("search", .object
    [("query", request.predicate.toJson),
     ("options", .object [("extract-document-data", .object
       [("selected", .text "include-with-ancestors"),
        ("extract-path", .texts request.extractPaths)])])])]

end DocumentQuery
