import ShadowTypes.Text.CodePoint
import ShadowTypes.Text.Folding
import ShadowTypes.Text.Lines

/-!
# Path names

A path name begins at the root or at the working folder, and names the parts between the slashes.
Empty parts and single points do not count; two points stay, since what they mean depends on the
files. The suffix of a name begins at its last point, unless the name begins or ends there.
-/

namespace ShadowTypes

inductive PathStart
  | here
  | root
  | doubleRoot
  deriving DecidableEq, Repr, Inhabited

structure PathName where
  start : PathStart
  parts : List String
  deriving DecidableEq, Repr, Inhabited

def PathStart.text : PathStart → String
  | .here => ""
  | .root => "/"
  | .doubleRoot => "//"

namespace PathName

/-- Two slashes in front are kept apart from every other number of them. -/
def startOf (l : List Char) : PathStart :=
  match (l.takeWhile (· == '/')).length with
  | 0 => .here
  | 2 => .doubleRoot
  | _ => .root

def partsOf (l : List Char) : List String :=
  ((Text.splitAt '/' l).map String.ofList).filter fun p => p != "" && p != "."

def ofText (s : String) : PathName := ⟨startOf s.toList, partsOf s.toList⟩

def text (p : PathName) : String :=
  let body := p.start.text ++ "/".intercalate p.parts
  if body = "" then "." else body

def isAbsolute (p : PathName) : Bool := p.start != .here

/-- Whether the name holds the character that no file name can hold. -/
def hasNull (p : PathName) : Bool := p.parts.any fun q => q.toList.contains '\x00'

def join (p q : PathName) : PathName :=
  if q.isAbsolute then q else { p with parts := p.parts ++ q.parts }

def append (p : PathName) (parts : List String) : PathName := { p with parts := p.parts ++ parts }

def beginning (p : PathName) : PathName := { p with parts := [] }

def name (p : PathName) : String := p.parts.getLastD ""

/-- The last point of a name and what follows it, unless the name begins or ends there. -/
def suffixOf (l : List Char) : List Char :=
  let after := l.reverse.takeWhile (· != '.')
  if after.isEmpty || l.length ≤ after.length + 1 then [] else '.' :: after.reverse

def suffix (p : PathName) : String := Text.lower (String.ofList (suffixOf p.name.toList))

/-- Names in ascending order of their parts. -/
def le (p q : PathName) : Bool :=
  let points (n : PathName) : List (List Nat) := n.parts.map Text.codePoints
  !(points q < points p)

@[simp] theorem parts_append (p : PathName) (parts : List String) :
    (p.append parts).parts = p.parts ++ parts := rfl

end PathName

end ShadowTypes
