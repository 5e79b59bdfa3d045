import DocumentQuery.Property.Spelling
import DocumentQuery.Property.SystemTable
import DocumentQuery.Property.Walk

/-!
Properties found by their path, in a catalog or among the system properties. The engine stores a
property under the full name of its field and the segments below it, with dots between them and
without the colons of qualified names. A path that leads nowhere is reported in its canonical
spelling.
-/

namespace DocumentQuery.Property

open DocumentQuery.Text

def dottedKey (head : String) (rest : List (List Char)) : List Char :=
  ['.'].intercalate (head.toList :: rest)

/-- The engine reserves the colon of qualified names, and knows them under a separator of its
own. -/
def engineKey (separator : List Char) (key : List Char) : List Char :=
  key.flatMap fun char => if char = ':' then separator else [char]

/-- Whether what follows a star ends a dotted key, or ends its segment with no line feed later. -/
def closesWildcard (chars : List Char) : Bool :=
  match chars.dropWhile isDecimalDigit with
  | [] => true
  | '.' :: suffix => !suffix.contains '\n'
  | _ => false

/-- Whether a dotted key reaches through a wildcard: its first star begins a segment that is not
the first, and only digits stand beside it there. -/
def reachesWildcard (key : List Char) : Bool :=
  match key.dropWhile (· ≠ '*') with
  | [] => false
  | _ :: afterStar =>
      (key.takeWhile (· ≠ '*')).getLast? = some '.' && closesWildcard afterStar

def ofSystem (separator path : String) : Except Rejection Property :=
  match SystemProperty.lookup path with
  | .error rejection => .error rejection
  | .ok property =>
      let key := engineKey separator.toList property.key.toList
      .ok { path
            storageKey := String.ofList key
            declared := property.declared
            wildcard := reachesWildcard key
            triState := false
            mixin := property.key = SystemProperty.mixinKey
            system := true }

def ofCatalog (catalog : Catalog) (separator path : String) : Except Rejection Property :=
  let parts := segments path.toList
  match locate? catalog parts with
  | none => .error (.unknownProperty path)
  | some (field, type) =>
      let key := engineKey separator.toList (dottedKey field.name.full parts.tail)
      .ok { path
            storageKey := String.ofList key
            declared := .ofFieldType type
            wildcard := reachesWildcard key
            triState := type.isBoolean
            mixin := false
            system := false }

def resolve (catalog : Catalog) (separator path : String) : Except Rejection Property :=
  let canonical := canonicalPath path
  if SystemProperty.mark.toList.isPrefixOf canonical.toList then ofSystem separator canonical
  else ofCatalog catalog separator canonical

end DocumentQuery.Property
