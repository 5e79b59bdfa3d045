import DocumentQuery.Proofs.Compile.Correspondence
import DocumentQuery.Proofs.Compile.Lowering
import DocumentQuery.Proofs.Property.Separator

/-!
One query under different settings. The settings have no part in what is found, compiled or
rejected. They only show in the elements of a predicate and in the paths to extract: these come
from keys that are the same for all settings, with the separator in the place of their colons, and
the paths begin with the root of documents, of which `Settings.path_of_document_root` says that
only the slashes at its end are lost.
-/

namespace DocumentQuery

open Property

/-- Settings under which keys keep their colons and paths begin with a slash. -/
def Settings.verbatim : Settings := ⟨"", ":", false⟩

namespace Compiler

open Attempt

@[simp] theorem document_root_verbatim : Settings.verbatim.documentRoot = "" := rfl

end Compiler

end DocumentQuery
