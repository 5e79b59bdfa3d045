/-!
Quoted strings of settings texts. Between double quotes a backslash begins an escape, between
single quotes it does not. Three quotes open a string of several lines: a line end right after
them is left out, one or two quotes may stand before the closing three, and between double quotes
a backslash at the end of a line joins it to the next word.
-/

namespace DocumentQuery.Settings

/-- Controls other than the tab may not stand in a settings text. -/
def isTextChar (char : Char) : Bool :=
  char = '\t' || (0x20 ≤ char.toNat && char.toNat ≠ 0x7F)

def isLineSpace (char : Char) : Bool := char = ' ' || char = '\t'

def dropLineEnd : List Char → List Char
  | '\n' :: rest => rest
  | '\r' :: '\n' :: rest => rest
  | chars => chars

def simpleEscape (mark : Char) : Option Char :=
  [('b', Char.ofNat 8), ('t', '\t'), ('n', '\n'), ('f', Char.ofNat 12), ('r', '\r'),
    ('e', Char.ofNat 27), ('\"', '\"'), ('\\', '\\')].lookup mark

def hexDigit? (char : Char) : Option Nat :=
  if '0' ≤ char ∧ char ≤ '9' then some (char.toNat - 48)
  else if 'a' ≤ char ∧ char ≤ 'f' then some (char.toNat - 87)
  else if 'A' ≤ char ∧ char ≤ 'F' then some (char.toNat - 55)
  else none

def hexCode? (code : Nat) : List Char → Option Nat
  | [] => some code
  | char :: rest => (hexDigit? char).bind fun digit => hexCode? (16 * code + digit) rest

/-- The character with a code point that has one; surrogates have none. -/
def hexChar? (digits : List Char) : Option Char :=
  match hexCode? 0 digits with
  | some code => if code.isValidChar then some (Char.ofNat code) else none
  | none => none

def prepend (char : Option Char) (rest : Option (List Char × List Char)) :
    Option (List Char × List Char) :=
  match char, rest with
  | some char, some (content, rest) => some (char :: content, rest)
  | _, _ => none

/-- What stands before the closing double quote, and what follows it. -/
def readEscaped : List Char → Option (List Char × List Char)
  | [] => none
  | '\"' :: rest => some ([], rest)
  | '\\' :: 'x' :: a :: b :: rest => prepend (hexChar? [a, b]) (readEscaped rest)
  | '\\' :: 'u' :: a :: b :: c :: d :: rest => prepend (hexChar? [a, b, c, d]) (readEscaped rest)
  | '\\' :: 'U' :: a :: b :: c :: d :: e :: f :: g :: h :: rest =>
      prepend (hexChar? [a, b, c, d, e, f, g, h]) (readEscaped rest)
  | '\\' :: mark :: rest => prepend (simpleEscape mark) (readEscaped rest)
  | char :: rest =>
      if isTextChar char && char ≠ '\\' then prepend (some char) (readEscaped rest) else none

def readVerbatim : List Char → Option (List Char × List Char)
  | [] => none
  | char :: rest =>
      if char = '\'' then some ([], rest)
      else if isTextChar char then prepend (some char) (readVerbatim rest)
      else none

/-- Whether a backslash before these characters stands at the end of its line. -/
def endsLine (chars : List Char) : Bool :=
  match chars.dropWhile isLineSpace with
  | '\n' :: _ => true
  | '\r' :: '\n' :: _ => true
  | _ => false

/-- The flag tells that a joined line is being left out up to its next word. -/
def readEscapedLines : Bool → List Char → Option (List Char × List Char)
  | _, [] => none
  | _, '\"' :: '\"' :: '\"' :: '\"' :: '\"' :: rest => some (['\"', '\"'], rest)
  | _, '\"' :: '\"' :: '\"' :: '\"' :: rest => some (['\"'], rest)
  | _, '\"' :: '\"' :: '\"' :: rest => some ([], rest)
  | _, '\\' :: 'x' :: a :: b :: rest => prepend (hexChar? [a, b]) (readEscapedLines false rest)
  | _, '\\' :: 'u' :: a :: b :: c :: d :: rest =>
      prepend (hexChar? [a, b, c, d]) (readEscapedLines false rest)
  | _, '\\' :: 'U' :: a :: b :: c :: d :: e :: f :: g :: h :: rest =>
      prepend (hexChar? [a, b, c, d, e, f, g, h]) (readEscapedLines false rest)
  | joining, '\r' :: '\n' :: rest =>
      if joining then readEscapedLines true rest
      else prepend (some '\r') (prepend (some '\n') (readEscapedLines false rest))
  | joining, '\n' :: rest =>
      if joining then readEscapedLines true rest
      else prepend (some '\n') (readEscapedLines false rest)
  | _, '\\' :: rest =>
      if endsLine rest then readEscapedLines true rest
      else
        match rest with
        | [] => none
        | mark :: rest => prepend (simpleEscape mark) (readEscapedLines false rest)
  | joining, char :: rest =>
      if joining && isLineSpace char then readEscapedLines true rest
      else if isTextChar char then prepend (some char) (readEscapedLines false rest)
      else none

def readVerbatimLines : List Char → Option (List Char × List Char)
  | [] => none
  | '\'' :: '\'' :: '\'' :: '\'' :: '\'' :: rest => some (['\'', '\''], rest)
  | '\'' :: '\'' :: '\'' :: '\'' :: rest => some (['\''], rest)
  | '\'' :: '\'' :: '\'' :: rest => some ([], rest)
  | '\r' :: '\n' :: rest => prepend (some '\r') (prepend (some '\n') (readVerbatimLines rest))
  | char :: rest =>
      if isTextChar char || char = '\n' then prepend (some char) (readVerbatimLines rest) else none

def readQuoted : List Char → Option (List Char × List Char)
  | '\"' :: rest => readEscaped rest
  | '\'' :: rest => readVerbatim rest
  | _ => none

def readString : List Char → Option (List Char × List Char)
  | '\"' :: '\"' :: '\"' :: rest => readEscapedLines false (dropLineEnd rest)
  | '\'' :: '\'' :: '\'' :: rest => readVerbatimLines (dropLineEnd rest)
  | chars => readQuoted chars

end DocumentQuery.Settings
