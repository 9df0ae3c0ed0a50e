import ShadowTypes.Fault.Failure
import ShadowTypes.Text.Utf8

/-!
# Files and folders

A node is a file or a folder with named nodes. Names lead from a node to what is below it, and two
points lead back to the folder before; from the root they lead nowhere else. Where names lead to is
also told by a way, in which no two points are left.
-/

namespace ShadowTypes

inductive FileNode
  | file (bytes : List UInt8)
  | folder (entries : List (String × FileNode))
  deriving Repr, Inhabited

namespace FileTree

/-- What stands in the way of a path name. -/
inductive Obstacle
  | missing
  | occupied
  | notFolder
  | isFolder
  | nameTooLong
  deriving DecidableEq, Repr

/-- The failed system call about a path name. -/
def Obstacle.failure (o : Obstacle) (path : String) : Failure :=
  match o with
  | .missing => .system 2 "No such file or directory" [path]
  | .occupied => .system 17 "File exists" [path]
  | .notFolder => .system 20 "Not a directory" [path]
  | .isFolder => .system 21 "Is a directory" [path]
  | .nameTooLong => .system 36 "File name too long" [path]

def maxNameBytes : Nat := 255

def isTooLong (part : String) : Bool := maxNameBytes < (Text.Utf8.encode part).length

def next (way : List String) (name : String) : List String :=
  if name = ".." then way.dropLast else way ++ [name]

/-- The way to where names lead from the end of another way. -/
def route (way names : List String) : List String := names.foldl next way

end FileTree

namespace FileNode

open FileTree (Obstacle isTooLong)

def empty : FileNode := .folder []

/-- The entries of a folder; a file has none. -/
def entries : FileNode → List (String × FileNode)
  | .file _ => []
  | .folder es => es

def child? (t : FileNode) (name : String) : Option FileNode :=
  (t.entries.find? (·.1 == name)).map (·.2)

/-- What names lead to from `t`; `above` holds the folders that lead to `t`, the nearest first. -/
def walk (above : List FileNode) (t : FileNode) : List String → Except Obstacle FileNode
  | [] => .ok t
  | p :: ps =>
    match t with
    | .file _ => .error .notFolder
    | .folder _ =>
      if p = ".." then match above with
        | [] => walk [] t ps
        | a :: as => walk as a ps
      else if isTooLong p then .error .nameTooLong
      else match t.child? p with
        | none => .error .missing
        | some c => walk (t :: above) c ps

def at? (t : FileNode) : List String → Option FileNode
  | [] => some t
  | p :: ps => if isTooLong p then none else (t.child? p).bind (at? · ps)

mutual
def files : FileNode → List (List String)
  | .file _ => [[]]
  | .folder es => entryFiles es

def entryFiles : List (String × FileNode) → List (List String)
  | [] => []
  | (name, t) :: es => (files t).map (name :: ·) ++ entryFiles es
end

mutual
/-- The ways to all that is below a node. The entries of a folder come before what is below them. -/
def ways : FileNode → List (List String)
  | .file _ => []
  | .folder es => es.map (fun e => [e.1]) ++ entryWays es

def entryWays : List (String × FileNode) → List (List String)
  | [] => []
  | (name, t) :: es => (ways t).map (name :: ·) ++ entryWays es
end

/-- The entries with the one of the given name changed, or with a new one that is made from an empty
folder. -/
def changeEntry (name : String) (change : FileNode → FileNode) :
    List (String × FileNode) → List (String × FileNode)
  | [] => [(name, change empty)]
  | (q, t) :: es => if q = name then (q, change t) :: es else (q, t) :: changeEntry name change es

/-- The node with something put at the end of a way, whose folders are made as needed. -/
def put (new : FileNode) : List String → FileNode → FileNode
  | [], _ => new
  | p :: ps, t => .folder (changeEntry p (put new ps) t.entries)

mutual
/-- The files below a node and its empty folders, each with the way to it. -/
def leaves : FileNode → List (List String × Option (List UInt8))
  | .file bytes => [([], some bytes)]
  | .folder [] => [([], none)]
  | .folder (e :: es) => entryLeaves (e :: es)

def entryLeaves : List (String × FileNode) → List (List String × Option (List UInt8))
  | [] => []
  | (name, t) :: es => (leaves t).map (fun l => (name :: l.1, l.2)) ++ entryLeaves es
end

/-- Whether a way leads to a file with these bytes, or to a folder if there are none. -/
def has (t : FileNode) (leaf : List String × Option (List UInt8)) : Bool :=
  match t.at? leaf.1, leaf.2 with
  | some (.file old), some new => old == new
  | some (.folder _), none => true
  | _, _ => false

/-- The files and empty folders that an earlier node has not. -/
def changes (old new : FileNode) : List (List String × Option (List UInt8)) :=
  new.leaves.filter fun l => !old.has l

end FileNode

end ShadowTypes
