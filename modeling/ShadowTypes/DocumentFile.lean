import ShadowTypes.Document
import ShadowTypes.FileTree

/-!
# Document files

The suffix of a file says how its document is written. A directory stands for the documents below
it, in the order of their path names; any other path name stands for itself.
-/

namespace ShadowTypes.DocumentFile

def format? (suffix : String) : Option Document.Format :=
  if suffix = ".json" then some .json
  else if suffix = ".yaml" || suffix = ".yml" then some .yaml
  else none

def hasSuffix (p : PathName) : Bool := (format? p.suffix).isSome

def below (t : FileNode) (p : PathName) : List PathName :=
  ((t.files.map p.append).filter hasSuffix).mergeSort PathName.le

/-- The first path name below a folder that is too long to be asked for. -/
def overlong? (t : FileNode) (p : PathName) : Option PathName :=
  (t.ways.map p.append).find? FileTree.isOverlong

/-- The path names that a path name stands for. All that is below a folder is asked for. -/
def expandOne (t : FileTree) (p : PathName) : Except Failure (List PathName) := do
  match ← t.look p with
  | some (.folder es) =>
    match overlong? (.folder es) p with
    | some q => throw (FileTree.Obstacle.nameTooLong.failure q.text)
    | none => return below (.folder es) p
  | _ => return [p]

/-- The path names that path names stand for. -/
def expand (t : FileTree) (ps : List PathName) : Except Failure (List PathName) := do
  return (← ps.mapM (expandOne t)).flatten

/-- What is logged about a loaded document. -/
def event (p : PathName) (r : Except Fault Models) : Event :=
  match r with
  | .ok ms =>
    let (models, faults) := Description.partition ms
    { logger := Event.sourceLogger, level := .info, name := "document_loaded"
      fields := [("path", .text p.text), ("models", .int models.length),
        ("rejected", .int faults.length)] }
  | .error f =>
    { logger := Event.sourceLogger, level := .warning, name := "document_rejected"
      fields := [("path", .text p.text), ("error", .text f.message)] }

/-- The models of a file with the given bytes, and what is logged about it. -/
def read (p : PathName) (bytes : List UInt8) (depths : Document.Depths := {}) :
    Except Failure (Except Fault Models × List Event) :=
  match format? p.suffix with
  | none =>
    let suffix := if p.suffix = "" then "<none>" else p.suffix
    .ok (.error (.invalidDocument p.text ("unsupported file type '" ++ suffix ++ "'")), [])
  | some format => match FileTree.textOf bytes with
    | .error x => .ok (.error (.fileUnreadable p.text x "documents"), [])
    | .ok s => do
      let r ← Document.load s format.text p.text depths
      return (r, [event p r])

/-- The models of a document file, and what is logged about it. -/
def load (t : FileTree) (p : PathName) (depths : Document.Depths := {}) :
    Except Failure (Except Fault Models × List Event) := do
  match ← t.look p with
  | some (.file bytes) => read p bytes depths
  | _ => return (.error (.fileNotFound p.text "documents"), [])

end ShadowTypes.DocumentFile
