import DocumentQuery.Search.Predicate
import DocumentQuery.Text.Quoted

/-!
Predicates as text for people. Elements stand as they are, and the texts that they are compared
with are quoted.
-/

namespace DocumentQuery.Predicate

mutual

def display : Predicate → String
  | conjunction parts => "and(" ++ String.intercalate ", " (displayEach parts) ++ ")"
  | disjunction parts => "or(" ++ String.intercalate ", " (displayEach parts) ++ ")"
  | negation part => "not(" ++ display part ++ ")"
  | value element texts =>
      "value(" ++ element ++ ", [" ++ String.intercalate ", " (texts.map Text.quoted) ++ "])"
  | range element type relation text =>
      "range(" ++ element ++ " " ++ relation.tag ++ " " ++ Text.quoted text ++ " as " ++ type.key
        ++ ")"
  | container element inner => "container(" ++ element ++ ", " ++ display inner ++ ")"

def displayEach : List Predicate → List String
  | [] => []
  | part :: rest => display part :: displayEach rest

end

end DocumentQuery.Predicate
