import DocumentQuery.Text.Basic

/-!
The settings of a compiler: the place of documents in the engine, what stands for a colon in its
keys, and a flag that is only reported. Settings that come from outside are checked before use.
-/

namespace DocumentQuery

structure Settings where
  documentRootPath : String
  namespaceSeparator : String
  fulltextSearchDisabled : Bool
  deriving DecidableEq, Repr

inductive SettingKey where
  | documentRootPath
  | namespaceSeparator
  | fulltextSearchDisabled
  deriving DecidableEq, Repr

inductive SettingsFault where
  | unreadable
  | rootNotAbsolute (path : String)
  | unfitSeparator (separator : String)
  deriving DecidableEq, Repr

def SettingKey.name : SettingKey → String
  | documentRootPath => "document_root_path"
  | namespaceSeparator => "namespace_separator"
  | fulltextSearchDisabled => "fulltext_search_disabled"

namespace SettingsFault

def key? : SettingsFault → Option SettingKey
  | unreadable => none
  | rootNotAbsolute _ => some .documentRootPath
  | unfitSeparator _ => some .namespaceSeparator

def detail : SettingsFault → String
  | unreadable => "not a settings text"
  | rootNotAbsolute path => "'" ++ path ++ "' must start with '/'"
  | unfitSeparator separator => "'" ++ separator ++ "' must be non-empty and must not contain '*'"

def message (fault : SettingsFault) : String :=
  match fault.key? with
  | none => "failed to parse compiler config: " ++ fault.detail
  | some key => "invalid compiler config key '" ++ key.name ++ "': " ++ fault.detail

end SettingsFault

namespace Settings

def standard : Settings := ⟨"/document", ".", false⟩

/-- The first fault wins, and the root is looked at first. -/
def validate (settings : Settings) : Except SettingsFault Settings :=
  if settings.documentRootPath.toList.head? ≠ some '/' then
    .error (.rootNotAbsolute settings.documentRootPath)
  else if settings.namespaceSeparator = "" ∨ settings.namespaceSeparator.toList.contains '*' then
    .error (.unfitSeparator settings.namespaceSeparator)
  else .ok settings

/-- The root without slashes at its end. -/
def documentRoot (settings : Settings) : String :=
  String.ofList (Text.dropEnd (· = '/') settings.documentRootPath.toList)

/-- Slashes are cut from the end of the path and nothing else is, and the root has none there. -/
theorem path_of_document_root (settings : Settings) :
    (∃ count, settings.documentRootPath.toList =
      settings.documentRoot.toList ++ List.replicate count '/') ∧
    settings.documentRoot.toList.getLast? ≠ some '/' := by
  rw [documentRoot, String.toList_ofList]
  exact Text.drop_end_mark '/' settings.documentRootPath.toList

end Settings

end DocumentQuery
