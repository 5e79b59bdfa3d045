import DocumentQuery.Settings.Basic
import DocumentQuery.Settings.Quotation

/-!
Settings from a text of lines that give a key a value. A comment runs from a number sign to the
end of its line. Each key may be given once, the known keys have values of one type, and no other
key is allowed, so that tables, numbers and the like never make a settings text.
-/

namespace DocumentQuery.Settings

inductive SettingValue where
  | text (value : String)
  | flag (value : Bool)
  deriving DecidableEq, Repr

def isBareKeyChar (char : Char) : Bool := char.isAlphanum || char = '_' || char = '-'

def readKey (chars : List Char) : Option (List Char × List Char) :=
  let bare := chars.takeWhile isBareKeyChar
  if bare.isEmpty then readQuoted chars else some (bare, chars.dropWhile isBareKeyChar)

def readValue (chars : List Char) : Option (SettingValue × List Char) :=
  if "true".toList.isPrefixOf chars then some (.flag true, chars.drop 4)
  else if "false".toList.isPrefixOf chars then some (.flag false, chars.drop 5)
  else (readString chars).map fun (content, rest) => (.text (String.ofList content), rest)

/-- The rest of a line holds at most a comment. Gives what follows the line. -/
def readLineRest (chars : List Char) : Option (List Char) :=
  let afterSpace := chars.dropWhile isLineSpace
  let afterComment := match afterSpace with
    | '#' :: rest => rest.dropWhile isTextChar
    | _ => afterSpace
  match afterComment with
  | [] => some []
  | '\n' :: rest => some rest
  | '\r' :: '\n' :: rest => some rest
  | _ => none

def readEntry (chars : List Char) : Option ((String × SettingValue) × List Char) := do
  let (key, rest) ← readKey chars
  match rest.dropWhile isLineSpace with
  | '=' :: rest =>
      let (value, rest) ← readValue (rest.dropWhile isLineSpace)
      let rest ← readLineRest rest
      some ((String.ofList key, value), rest)
  | _ => none

/-- The entries of a text. Every line takes at least one character, or is the last. -/
def readEntries : Nat → List Char → Option (List (String × SettingValue))
  | 0, _ => none
  | lines + 1, chars =>
      let line := chars.dropWhile isLineSpace
      if line.isEmpty then some []
      else
        match readLineRest line with
        | some rest => readEntries lines rest
        | none => do
            let (entry, rest) ← readEntry line
            let entries ← readEntries lines rest
            some (entry :: entries)

def assign (settings : Settings) : String × SettingValue → Option Settings
  | (key, .text value) =>
      if key = SettingKey.documentRootPath.name then
        some { settings with documentRootPath := value }
      else if key = SettingKey.namespaceSeparator.name then
        some { settings with namespaceSeparator := value }
      else none
  | (key, .flag value) =>
      if key = SettingKey.fulltextSearchDisabled.name then
        some { settings with fulltextSearchDisabled := value }
      else none

def assignAll (settings : Settings) : List (String × SettingValue) → Option Settings
  | [] => some settings
  | entry :: rest =>
      if (rest.map Prod.fst).contains entry.1 then none
      else (assign settings entry).bind fun assigned => assignAll assigned rest

def dropByteOrderMark : List Char → List Char
  | char :: rest => if char.toNat = 0xFEFF then rest else char :: rest
  | [] => []

def ofText? (source : String) : Option Settings :=
  let chars := dropByteOrderMark source.toList
  (readEntries (chars.length + 1) chars).bind (assignAll standard)

/-- Keys that are absent keep their standard value. The text is read to its end before anything is
checked. -/
def read (source : String) : Except SettingsFault Settings :=
  match ofText? source with
  | none => .error .unreadable
  | some settings => settings.validate

end DocumentQuery.Settings
