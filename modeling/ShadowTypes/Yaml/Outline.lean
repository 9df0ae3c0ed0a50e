import ShadowTypes.Yaml.Leaf
import ShadowTypes.Yaml.Merge

/-!
# Outlines of YAML documents

The outline of a document tells for every node what kind of value it stands for, a collection
knowing its parts by their numbers. Nodes are visited from the root outwards: the parts of a
collection are visited in order, once all collections that were met before it are done with theirs.
So of two problems the one nearer to the root is met first, and at one level the earlier one; and
every node is visited once, however many ways lead to it.
-/

namespace ShadowTypes.Yaml

/-- What a node stands for, with the numbers of its parts. -/
inductive Shape
  | leaf (v : Value)
  | list (items : List Nat)
  | pairs (items : List (Nat × Nat))
  | set (keys : List Value)
  | mapping (entries : List (Value × Nat))
  deriving Repr, Inhabited

namespace Shape

/-- The shape of a collection without parts under a tag, if the tag is one of a collection. -/
def empty? : Tag → Option Shape
  | .sequence => some (.list [])
  | .orderedMap | .pairs => some (.pairs [])
  | .set => some (.set [])
  | .mapping => some (.mapping [])
  | _ => none

end Shape

/-- What is known of a document while its nodes are visited. -/
structure Outline where
  nodes : Graph
  /-- The shapes of the nodes visited so far. -/
  shapes : Array (Option Shape)
  /-- The collections among them in the order in which they were met. -/
  collections : Array Nat := #[]

namespace Outline

abbrev Visitor := StateT Outline (Except Stop)

def refuse {α : Type} : Visitor α := throw .malformed

/-- The text of a node: that of a scalar, or of a mapping's own value. -/
def text (g : Graph) : Nat → Nat → Except Stop String
  | 0, _ => .error (.failure ⟨"RecursionError", "maximum recursion depth exceeded"⟩)
  | fuel + 1, n => match g.node n with
    | .scalar _ s => .ok s
    | .sequence .. => .error .malformed
    | .mapping _ es => match es.find? fun e => (g.node e.1).tag = .value with
      | some e => text g fuel e.2
      | none => .error .malformed

def note (n : Nat) (s : Shape) : Visitor Unit :=
  modify fun o => { o with shapes := o.shapes.setIfInBounds n (some s) }

/-- Visits a node: a collection is noted to have its parts visited later, anything else is read. -/
def visit (n : Nat) : Visitor Unit := do
  let o ← get
  if (o.shapes.getD n none).isSome then return ()
  let node := o.nodes.node n
  match Shape.empty? node.tag with
  | some s =>
    modify fun o => { o with collections := o.collections.push n }
    note n s
  | none =>
    let s ← text o.nodes (o.nodes.size + 1) n
    -- the form of a moment is looked for in the text of the node itself
    if node.tag = .timestamp && o.nodes.isMapping n then
      throw (.failure ⟨"TypeError", "expected string or bytes-like object, got 'list'"⟩)
    note n (.leaf (← Scalar.build n node.tag s))

def visitKey (n : Nat) : Visitor Value := do
  visit n
  match (← get).shapes.getD n none with
  | some (.leaf v) => return v
  | _ => refuse

/-- Visits the entries of a mapping after everything under its merge keys has been merged in. -/
def visitEntries (n : Nat) : Visitor (List (Value × Nat)) := do
  if !(← get).nodes.isMapping n then refuse
  let ((), nodes) ← (merge ((← get).nodes.mergeKeys + 1) n).run (← get).nodes
  modify fun o => { o with nodes }
  ((← get).nodes.entries n).mapM fun e => do
    let k ← visitKey e.1
    visit e.2
    return (k, e.2)

def visitItems {α : Type} (n : Nat) (visitItem : Nat → Visitor α) : Visitor (List α) := do
  match (← get).nodes.node n with
  | .sequence _ ns => ns.mapM visitItem
  | _ => refuse

def visitPair (n : Nat) : Visitor (Nat × Nat) := do
  match (← get).nodes.node n with
  | .mapping _ [e] =>
    visit e.1
    visit e.2
    return e
  | _ => refuse

def visitParts (n : Nat) : Visitor Unit := do
  match ((← get).nodes.node n).tag with
  | .sequence => note n (.list (← visitItems n fun m => do visit m; return m))
  | .orderedMap | .pairs => note n (.pairs (← visitItems n visitPair))
  | .set => note n (.set ((← visitEntries n).map (·.1)))
  | .mapping => note n (.mapping (← visitEntries n))
  | _ => return ()

def visitFrom : Nat → Nat → Visitor Unit
  | 0, _ => return ()
  | fuel + 1, position => do
    match (← get).collections[position]? with
    | some n =>
      visitParts n
      visitFrom fuel (position + 1)
    | none => return ()

def ofGraph (root : Nat) (g : Graph) : Except Stop (Array (Option Shape)) := do
  let start : Outline := { nodes := g, shapes := Array.replicate g.size none }
  let visitAll : Visitor Unit := do
    visit root
    visitFrom g.size 0
  return (← visitAll.run start).2.shapes

end Outline

end ShadowTypes.Yaml
