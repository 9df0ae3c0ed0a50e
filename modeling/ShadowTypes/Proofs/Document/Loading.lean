import ShadowTypes.Proofs.CommandLine.Status
import ShadowTypes.Proofs.Json.Limits
import ShadowTypes.Proofs.Yaml.Outlining

/-!
# The loading of documents

A text that cannot be decoded is a fault of its document, and any other text is judged by its value.
Only a text that defeats its reader is an exception: it ends the loading of all documents.
-/

namespace ShadowTypes

namespace Document

section Texts

variable {depths : Depths} {format : Format} {s name origin : String} {v : Value} {x : Failure}

end Texts

end Document

namespace DocumentFile

open Document

variable {t : FileTree} {p : PathName} {depths : Depths} {bytes : List UInt8}

end DocumentFile

namespace Document

/-- The failure that ended some work, if one did. -/
def failure? {α : Type} : Except Failure α → Option Failure
  | .error x => some x
  | .ok _ => none

end Document

end ShadowTypes
