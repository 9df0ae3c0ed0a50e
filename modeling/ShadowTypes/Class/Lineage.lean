import ShadowTypes.Fault.Failure
import ShadowTypes.Hint.Basic
import ShadowTypes.Keyed

/-!
# Lineages

The lineage of a class lists it and the classes that it is built on, the nearest first. It is
merged from the lineages of the base classes: a class comes before its own bases, and bases come
in the order in which they are given. Base classes that no order suits have no lineage.
-/

namespace ShadowTypes

/-- What one class of a lineage declares itself. -/
structure Layer where
  identity : Nat
  module : String
  name : String
  /-- The namespace that the class was given, if it opted in. -/
  space : Option String := none
  fields : Keyed Hint := []
  deriving Repr, Inhabited

/-- The classes that a class is built on, after the class itself. -/
abbrev Lineage := List Layer

namespace Lineage

def top : Layer := { identity := 0, module := builtinModule, name := "object" }

/-- Whether a layer comes after the first one of a lineage. -/
def isBehind (l : Layer) (ls : Lineage) : Bool := ls.tail.any (·.identity == l.identity)

def behead (l : Layer) : Lineage → Lineage
  | [] => []
  | k :: ks => if k.identity = l.identity then ks else k :: ks

/-- The first layer that begins a lineage and is behind in none. -/
def next? (ls : List Lineage) : Option Layer :=
  (ls.filterMap List.head?).find? fun l => !ls.any (isBehind l)

def heads (ls : List Lineage) : List Layer :=
  (ls.filterMap List.head?).foldl
    (fun hs l => if hs.any (·.identity == l.identity) then hs else hs ++ [l]) []

/-- No order suits the base classes. -/
def inconsistent (ls : List Lineage) : Failure :=
  ⟨"TypeError", "Cannot create a consistent method resolution\norder (MRO) for bases " ++
    ", ".intercalate ((heads ls).map Layer.name)⟩

/-- The merged lineages, in at most the given number of steps. -/
def mergeFrom : Nat → List Lineage → Except Failure Lineage
  | 0, _ => .ok []
  | steps + 1, ls =>
    if ls.all List.isEmpty then .ok []
    else match next? ls with
      | none => .error (inconsistent ls)
      | some l => do return l :: (← mergeFrom steps (ls.map (behead l)))

/-- The merged lineages; each step takes one of their layers at least. -/
def merge (ls : List Lineage) : Except Failure Lineage :=
  mergeFrom (ls.flatten.length + 1) ls

/-- The first base class that is given twice. -/
def repeated? : Lineage → Option Layer
  | [] => none
  | l :: ls => if ls.any (·.identity == l.identity) then some l else repeated? ls

/-- The lineage of a class built on classes with the given lineages. -/
def extend (own : Layer) (bases : List Lineage) : Except Failure Lineage := do
  let firsts := bases.filterMap List.head?
  match repeated? firsts with
  | some l => throw ⟨"TypeError", "duplicate base class " ++ l.name⟩
  | none =>
    if bases.isEmpty then return [own, top]
    return own :: (← merge (bases ++ [firsts]))

/-- The namespace that the nearest class was given, if one was. -/
def space? (ls : Lineage) : Option String := ls.findSome? Layer.space

end Lineage

end ShadowTypes
