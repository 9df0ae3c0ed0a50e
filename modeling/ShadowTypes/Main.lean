import ShadowTypes.CommandLine.Run

/-!
# The program

Reads the environment and the files that a run is about, does the run, writes what it changed, and
prints its output. Log records and complaints go to the error stream.
-/

namespace ShadowTypes.Program

def shown (s : String) : String := String.ofList (Text.characters s)

def environment : IO Environment.Bindings := do
  let bytes ← try IO.FS.readBinFile "/proc/self/environ" catch _ => pure .empty
  let text := match Text.Utf8.decode bytes.toList with
    | .ok s => s
    | .error _ => ""
  return (Text.splitAt '\x00' text.toList).filterMap fun l =>
    match Text.splitAt '=' l with
    | name :: value :: rest =>
      some (String.ofList name, String.ofList (Text.joinWith '=' (value :: rest)))
    | _ => none

/-- Where a way from the root leads, as the system takes it. -/
def place (way : List String) : String := shown ("/" ++ "/".intercalate way)

partial def readEntry (e : IO.FS.DirEntry) : IO (String × FileNode) := do
  let name := Text.ofCharacters e.fileName.toList
  if ← e.path.isDir then
    return (name, .folder (← (← e.path.readDir).toList.mapM readEntry))
  else return (name, .file (← IO.FS.readBinFile e.path).toList)

def readWay (t : FileNode) (way : List String) (whole : Bool) : IO FileNode := do
  let path := (← IO.currentDir) / place way
  if ← path.isDir then
    if whole then return .put (.folder (← (← path.readDir).toList.mapM readEntry)) way t
    else return if (t.at? way).isSome then t else .put .empty way t
  else if ← path.pathExists then
    return .put (.file (← IO.FS.readBinFile path).toList) way t
  else return t

/-- The node with what the names after a way lead through, and with all that they lead to. -/
def readNames (t : FileNode) (way : List String) : List String → IO FileNode
  | [] => readWay t way true
  | q :: qs => do readNames (← readWay t way false) (FileTree.next way q) qs

def readPath (t : FileTree) (p : PathName) : IO FileTree := do
  return { t with root := ← readNames t.root [] (t.steps p) }

/-- The tree with nothing but the way to the working folder. -/
def start : IO FileTree := do
  let here := PathName.ofText (Text.ofCharacters (← IO.currentDir).toString.toList)
  return { root := .put .empty here.parts .empty, here := here.parts }

/-- Writes a file, or makes a folder if there are no bytes. -/
def writeLeaf (leaf : List String × Option (List UInt8)) : IO Unit := do
  let path := (← IO.currentDir) / place leaf.1
  match leaf.2 with
  | none => IO.FS.createDirAll path
  | some bytes =>
    if let some folder := path.parent then IO.FS.createDirAll folder
    IO.FS.writeBinFile path ⟨bytes.toArray⟩

def paths (environment : Environment.Bindings) (start : FileTree) (arguments : List String) :
    List PathName :=
  match Settings.load environment start with
  | .error _ => []
  | .ok s => match CommandLine.Options.read s arguments with
    | .error _ => []
    | .ok o => o.sources ++ o.out.toList

/-- Says why the settings cannot be used. -/
def complain : Settings.Fault → IO Unit
  | .failure x => IO.eprintln (shown x.report)
  | .issues is => is.forM fun i => IO.eprintln (shown (i.location.path ++ ": " ++ i.message))

end ShadowTypes.Program

open ShadowTypes in
def main (words : List String) : IO UInt32 := do
  let arguments := words.map fun s => Text.ofCharacters s.toList
  let environment ← Program.environment
  let start ← Program.readPath (← Program.start) Settings.file
  let tree ← (Program.paths environment start arguments).foldlM Program.readPath start
  match CommandLine.run { arguments, environment, tree } { console := .utf8 } with
  | .error f =>
    Program.complain f
    return 1
  | .ok r =>
    (tree.root.changes r.tree.root).forM Program.writeLeaf
    r.records.forM fun e => IO.eprintln (Json.print (.mapping e))
    if let some text := r.complaint then IO.eprintln (Program.shown text)
    IO.print (Program.shown r.output)
    return r.exitCode.toUInt32
