import ShadowTypes.Class.Lineage
import ShadowTypes.Hint.Forming
import ShadowTypes.Value.Display

/-!
# Classes

A class has hints for its properties, its own and those of the classes that it is built on. It can
be described like a document entry: private names and variables of the class itself are left out,
and the markers next to a hint become directives. References are looked up for each description
anew, by the module of the class that declares them.
-/

namespace ShadowTypes

structure Class where
  name : String
  module : String
  /-- The name with those of the definitions around it. -/
  path : String
  lineage : Lineage
  identity : Nat
  deriving Repr, Inhabited

namespace Class

/-- The namespace of the class: the one that it or the nearest class below it was given, unless
that is empty, else its module. -/
def space (c : Class) : String :=
  match c.lineage.space? with
  | some s => if s = "" then c.module else s
  | none => c.module

def className (c : Class) : ClassName :=
  ⟨c.identity, c.module, c.name, c.space, c.path⟩

def qualifiedName (c : Class) : String := c.space ++ "." ++ c.name

/-- Module and path, which tell classes apart. -/
def key (c : Class) : String := c.module ++ "." ++ c.path

abbrev Lookup := (module : String) → Reference → Except Failure Hint

/-- The hints with those of a layer, whose references are looked up. -/
def addLayer (find : Lookup) (l : Layer) (hints : Keyed Hint) : Except Failure (Keyed Hint) :=
  l.fields.foldlM (fun hints e => do
    let h ← e.2.substitute (find l.module)
    return hints.set e.1 h) hints

/-- The hints of the class, by name: those of the farthest class first. -/
def hints (find : Lookup) (c : Class) : Except Failure (Keyed Hint) :=
  c.lineage.reverse.foldlM (fun hints l => addLayer find l hints) []

def isPrivate (name : String) : Bool := name.toList.head? == some '_'

def describeProperty (name : String) (h : Hint) : Value :=
  .mapping [(.text "name", .text name), (.text "type_name", .text h.text),
    (.text "annotations", .list (h.markers.filterMap Marker.entry?))]

def describe (find : Lookup) (c : Class) : Except Failure Value := do
  let shown := (← c.hints find).filter fun e => !isPrivate e.1 && !e.2.isClassVar
  if shown.any fun e => e.2.isUnwritable false then throw Numeral.unwritable else
  return .mapping [(.text "namespace", .text c.space), (.text "name", .text c.name),
    (.text "properties", .list (shown.map fun e => describeProperty e.1 e.2))]

end Class

end ShadowTypes
