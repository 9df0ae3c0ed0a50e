import ShadowTypes.DocumentFile
import ShadowTypes.ModuleImport

/-!
# The intake of a run

The models of a run come from documents and from the classes of imported modules. What cannot be
read is a fault and leaves the rest alone. Classes are looked at only after all modules were
imported, and then all classes that opted in are.
-/

namespace ShadowTypes.CommandLine

/-- Models from some sources, what is wrong with the sources, and what was logged. -/
structure Intake where
  models : List Model := []
  faults : List Fault := []
  events : List Event := []

namespace Intake

def append (a b : Intake) : Intake :=
  ⟨a.models ++ b.models, a.faults ++ b.faults, a.events ++ b.events⟩

def ofEntries (ms : Models) (events : List Event) : Intake :=
  let (models, faults) := Description.partition ms
  ⟨models, faults, events⟩

def ofDocument (t : FileTree) (p : PathName) (depths : Document.Depths := {}) :
    Except Failure Intake := do
  let (r, events) ← DocumentFile.load t p depths
  return match r with
    | .ok ms => ofEntries ms events
    | .error f => ⟨[], [f], events⟩

def ofDocuments (t : FileTree) (ps : List PathName) (depths : Document.Depths := {}) :
    Except Failure Intake := do
  let parts ← (← DocumentFile.expand t ps).mapM (ofDocument t · depths)
  return parts.foldl append {}

def origin : String := "cli"

/-- Imports modules, and collects the faults of those that cannot be imported. -/
def importAll (modules : Modules) (s : Imports) :
    List (Option String) → Except Failure (Imports × List Fault)
  | [] => .ok (s, [])
  | none :: _ => .error (.valueless "startswith")
  | some n :: ns => do
    let (s, failure) := s.importModule modules n
    let fault ← match failure with
      | none => pure []
      | some x =>
        if Imports.isImportFailure x then pure [Fault.moduleUnusable n x origin] else throw x
    let (s, faults) ← importAll modules s ns
    return (s, fault ++ faults)

def ofModules (modules : Modules) (names : List (Option String))
    (evaluate : Evaluator := Catalogue.namesOnly) : Except Failure Intake :=
  if names.isEmpty then .ok {}
  else do
    let (s, faults) ← importAll modules {} names
    let (ms, event) ← s.catalogue.discover s.catalogue.registered evaluate
    return append ⟨[], faults, []⟩ (ofEntries ms [event])

end Intake

end ShadowTypes.CommandLine
