import ShadowTypes.FileTree.Node
import ShadowTypes.PathName

/-!
# File trees

A file tree is all that lies below the root, with the way to the working folder, where path names
without a root begin. What stands in the way of a path name makes the system call about it fail.
-/

namespace ShadowTypes

/-- All files and folders, and the names that lead from the root to the working folder. -/
structure FileTree where
  root : FileNode := .empty
  here : List String := []
  deriving Repr, Inhabited

namespace FileTree

def empty : FileTree := {}

/-- Why the system cannot even be asked about a path name, if it cannot. -/
def unspeakable? (p : PathName) : Option Failure :=
  match Text.surrogates? (fun n => !Text.isFileByte n) p.text with
  | some (position, length) => some (.unencodable p.text position length)
  | none => if p.hasNull then some .nullByte else none

def pathBytesLimit : Nat := 4096

/-- Whether a whole path name is too long. -/
def isOverlong (p : PathName) : Bool := pathBytesLimit ≤ (Text.Utf8.encode p.text).length

def steps (t : FileTree) (p : PathName) : List String :=
  if p.isAbsolute then p.parts else t.here ++ p.parts

def way (t : FileTree) (p : PathName) : List String := route [] (t.steps p)

def reach (t : FileTree) (p : PathName) : Except Obstacle FileNode :=
  if (unspeakable? p).isSome then .error .missing
  else if isOverlong p then .error .nameTooLong
  else t.root.walk [] (t.steps p)

def find? (t : FileTree) (p : PathName) : Option FileNode := (t.reach p).toOption

/-- What a path name leads to, if anything; a name that is too long cannot be asked for. -/
def look (t : FileTree) (p : PathName) : Except Failure (Option FileNode) :=
  match t.reach p with
  | .ok t => .ok (some t)
  | .error .nameTooLong => .error (Obstacle.nameTooLong.failure p.text)
  | .error _ => .ok none

def isFile (t : FileTree) (p : PathName) : Bool :=
  match t.find? p with
  | some (.file _) => true
  | _ => false

def isFolder (t : FileTree) (p : PathName) : Bool :=
  match t.find? p with
  | some (.folder _) => true
  | _ => false

/-- The tree with something put where a path name leads, whose folders are made as needed. -/
def put (new : FileNode) (p : PathName) (t : FileTree) : FileTree :=
  { t with root := .put new (t.way p) t.root }

def fresh : FileTree :=
  let here := ["tmp", "work"]
  { root := .put .empty here .empty, here }

/-- A working folder with the given contents: the bytes of files, or nothing for folders, by path
name. -/
def ofContents (contents : List (PathName × Option (List UInt8))) : FileTree :=
  contents.foldl (fun t c => match c.2 with
    | some bytes => t.put (.file bytes) c.1
    | none => if t.isFolder c.1 then t else t.put .empty c.1) fresh

/-- The files and empty folders below the working folder that an earlier tree has not, each with the
way to it from there. -/
def changes (old new : FileTree) : List (List String × Option (List UInt8)) :=
  (old.root.changes new.root).filterMap fun l =>
    if new.here.isPrefixOf l.1 then some (l.1.drop new.here.length, l.2) else none

def undecodable (u : Text.Undecodable) : Failure :=
  let reason := match u.reason with
    | .start => "invalid start byte"
    | .continuation => "invalid continuation byte"
    | .ended => "unexpected end of data"
  let place :=
    if u.length = 1 then
      "byte 0x" ++ String.ofList (Text.hex 2 u.first.toNat) ++ " in position " ++
        Nat.repr u.position
    else
      "bytes in position " ++ Nat.repr u.position ++ "-" ++ Nat.repr (u.position + u.length - 1)
  ⟨"UnicodeDecodeError", "'utf-8' codec can't decode " ++ place ++ ": " ++ reason⟩

def textOf (bytes : List UInt8) : Except Failure String :=
  match Text.Utf8.decode bytes with
  | .ok s => .ok (String.ofList (Text.universalBreaks s.toList))
  | .error u => .error (undecodable u)

end FileTree

end ShadowTypes
