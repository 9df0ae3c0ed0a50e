import ShadowTypes.FileTree.Writing
import ShadowTypes.Source

/-!
# Storing sources

Each source goes into a file of its own. A file name that an earlier source has, up to letter
case, is refused, and so is a file that cannot be written; the other sources are stored all the
same.
-/

namespace ShadowTypes.CommandLine

/-- How the system writes a file: the tree afterwards, and why it refused the file if it did. -/
abbrev Writer := PathName → List UInt8 → FileTree → FileTree × Option Failure

/-- Writes a file, or leaves the tree alone. -/
def plainWriter : Writer := fun p bytes t =>
  match t.write p bytes with
  | .ok t => (t, none)
  | .error x => (t, some x)

/-- A source, and how the system writes its file when its turn comes. -/
structure Attempt where
  source : Source
  write : Writer

def Attempt.plain (source : Source) : Attempt := ⟨source, plainWriter⟩

/-- Writes the source to a file. The work ends if no file can have the name, or if there is a file
for it but no bytes spell the text. -/
def Attempt.carryOut (a : Attempt) (file : PathName) (t : FileTree) :
    Except Failure (FileTree × Option Failure) :=
  match FileTree.unspeakable? file with
  | some x => .error x
  | none => match Text.surrogates? (fun _ => true) a.source.text with
    | none => .ok (a.write file (Text.Utf8.encode a.source.text) t)
    | some (position, length) => match a.write file [] t with
      | (t, some x) => .ok (t, some x)
      | (_, none) => .error (.unencodable a.source.text position length)

structure Stored where
  tree : FileTree
  sources : List Source := []
  faults : List Fault := []

namespace Stored

/-- The stored source whose file name is that of another source. -/
def owner? (s : Stored) (source : Source) : Option Source :=
  s.sources.find? fun o => Text.fold o.fileName == Text.fold source.fileName

def target (out : PathName) (source : Source) : PathName := out.join (.ofText source.fileName)

def fault (out : PathName) (source : Source) (cause : Failure) : Fault :=
  .fileUnwritable (target out source).text cause (some source.qualifiedName) "cli"

def taken (owner : Source) : Failure :=
  ⟨"FileExistsError", "already generated for " ++ owner.qualifiedName⟩

/-- Stores one more source, unless an earlier one has its file or the system refuses it. -/
def step (out : PathName) (s : Stored) (a : Attempt) : Except Failure Stored :=
  match s.owner? a.source with
  | some o => .ok { s with faults := s.faults ++ [fault out a.source (taken o)] }
  | none => match a.carryOut (target out a.source) s.tree with
    | .ok (t, none) => .ok { s with tree := t, sources := s.sources ++ [a.source] }
    | .ok (t, some x) => .ok { s with tree := t, faults := s.faults ++ [fault out a.source x] }
    | .error x => .error x

/-- Makes the folder and stores sources in it. -/
def store (out : PathName) (t : FileTree) (attempts : List Attempt) : Except Failure Stored := do
  let t ← t.makeFolders out
  attempts.foldlM (step out) { tree := t }

end Stored

end ShadowTypes.CommandLine
