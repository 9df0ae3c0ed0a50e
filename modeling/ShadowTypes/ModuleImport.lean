import ShadowTypes.Catalogue
import ShadowTypes.ModuleImport.Standard

/-!
# Importing modules

A module declares classes when it is imported for the first time, or refuses to be imported. A name
with points asks for the modules before each of them in turn; only packages have others inside.
-/

namespace ShadowTypes

inductive ModuleContent
  | declares (ds : List Declaration)
  | refuses (reason : String)
  deriving Repr, Inhabited

abbrev Modules := Keyed ModuleContent

structure Imports where
  catalogue : Catalogue := {}
  names : List String := []
  deriving Repr, Inhabited

namespace Imports

def missing (name : String) : Failure :=
  ⟨"ModuleNotFoundError", "No module named " ++ Text.quoted name⟩

def missingInside (outer name : String) : Failure :=
  ⟨"ModuleNotFoundError", "No module named " ++ Text.quoted name ++ "; " ++ Text.quoted outer ++
    " is not a package"⟩

def importOne (modules : Modules) (s : Imports) (name : String) : Except Failure Imports :=
  if s.names.contains name then .ok s
  else match modules.get? name with
    | some (.declares ds) => do
      let k ← ds.foldlM Catalogue.declare s.catalogue
      return { catalogue := k, names := s.names ++ [name] }
    | some (.refuses reason) => .error ⟨"ImportError", reason⟩
    | none => if ModuleImport.isStandard name then .ok s else .error (missing name)

/-- Imports the modules inside `outer` that the parts of a name lead to. -/
def importInside (modules : Modules) (s : Imports) (outer : String) :
    List String → Imports × Option Failure
  | [] => (s, none)
  | part :: parts =>
    let name := outer ++ "." ++ part
    if !ModuleImport.hasInside outer name then (s, some (missingInside outer name))
    else match importOne modules s name with
      | .error x => (s, some x)
      | .ok s => importInside modules s name parts

def importModule (modules : Modules) (s : Imports) (name : String) : Imports × Option Failure :=
  if name = "" then (s, some ⟨"ValueError", "Empty module name"⟩)
  else match (Text.splitAt '.' name.toList).map String.ofList with
    | "" :: _ =>
      (s, some ⟨"TypeError",
        "the 'package' argument is required to perform a relative import for " ++
          Text.quoted name⟩)
    | first :: parts =>
      match importOne modules s first with
      | .error x => (s, some x)
      | .ok s => importInside modules s first parts
    | [] => (s, none)

def isImportFailure (x : Failure) : Bool :=
  x.kind == "ImportError" || x.kind == "ModuleNotFoundError"

end Imports

end ShadowTypes
