import ShadowTypes.FileTree

/-!
# Writing into file trees

Folders are made along a path name, and files are put into folders that are there already. What
stands in the way is a failed system call about the path name.
-/

namespace ShadowTypes.FileTree

/-- Makes the folders for the parts after `done`, which lead to the folder at `way`. Once a folder
was made, a part in the way is met on its own, as the end of a shorter path name. -/
def makeFoldersFrom (p : PathName) (t : FileNode) (way : List String) (made : Bool)
    (done : List String) : List String → Except Failure FileNode
  | [] => .ok t
  | q :: qs =>
    let done := done ++ [q]
    let path := if made then PathName.text { p with parts := done } else p.text
    if q = ".." then makeFoldersFrom p t way.dropLast made done qs
    else if isTooLong q then .error (Obstacle.nameTooLong.failure path)
    else
      let way := way ++ [q]
      match t.at? way with
      | none => makeFoldersFrom p (.put .empty way t) way true done qs
      | some (.folder _) => makeFoldersFrom p t way made done qs
      | some (.file _) =>
        if made || qs.isEmpty then .error (Obstacle.occupied.failure path)
        else .error (Obstacle.notFolder.failure path)

def makeFolders (p : PathName) (t : FileTree) : Except Failure FileTree :=
  match unspeakable? p with
  | some x => .error x
  | none =>
    if isOverlong p then .error (Obstacle.nameTooLong.failure p.text)
    else if !t.isFolder p.beginning then .error (Obstacle.missing.failure p.beginning.text)
    else match makeFoldersFrom p t.root (t.way p.beginning) false [] p.parts with
      | .ok root => .ok { t with root }
      | .error x => .error x

/-- The node with a file put where names lead to from the folder at `way`. -/
def writeFrom (t : FileNode) (bytes : List UInt8) (way : List String) :
    List String → Except Obstacle FileNode
  | [] => .error .isFolder
  | q :: qs =>
    if q = ".." then writeFrom t bytes way.dropLast qs
    else if isTooLong q then .error .nameTooLong
    else
      let way := way ++ [q]
      if qs.isEmpty then match t.at? way with
        | some (.folder _) => .error .isFolder
        | _ => .ok (.put (.file bytes) way t)
      else match t.at? way with
        | none => .error .missing
        | some (.file _) => .error .notFolder
        | some (.folder _) => writeFrom t bytes way qs

def write (p : PathName) (bytes : List UInt8) (t : FileTree) : Except Failure FileTree :=
  if isOverlong p then .error (Obstacle.nameTooLong.failure p.text)
  else match writeFrom t.root bytes [] (t.steps p) with
    | .ok root => .ok { t with root }
    | .error o => .error (o.failure p.text)

end ShadowTypes.FileTree
