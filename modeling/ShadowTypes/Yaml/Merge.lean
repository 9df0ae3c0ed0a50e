import ShadowTypes.Yaml.Node

/-!
# Merging in YAML mappings

A mapping merges others in under a key of their own. Merged entries come first, those of later
mappings of a sequence before those of earlier ones, and an entry of the mapping itself overrides
them all. A merge key is taken out before what it holds is followed, so that a mapping which is
merged into itself brings in only what is left of it; every merge key is therefore followed once,
and their number bounds the work.
-/

namespace ShadowTypes.Yaml

namespace Graph

def node (g : Graph) (n : Nat) : Node := g.getD n default

def entries (g : Graph) (n : Nat) : List (Nat × Nat) :=
  match g.node n with
  | .mapping _ es => es
  | _ => []

def withEntries (g : Graph) (n : Nat) (es : List (Nat × Nat)) : Graph :=
  g.setIfInBounds n (.mapping (g.node n).tag es)

def isMapping (g : Graph) (n : Nat) : Bool :=
  match g.node n with
  | .mapping .. => true
  | _ => false

def mergeKeys (g : Graph) : Nat :=
  g.foldl (fun total n => match n with
    | .mapping _ es => total + es.countP fun e => (g.node e.1).tag = .merge
    | _ => total) 0

/-- The first entry of a mapping under a merge key, and the entries without it. -/
def takeMerge? (g : Graph) (n : Nat) : Option (Nat × List (Nat × Nat)) :=
  let es := g.entries n
  (es.findIdx? fun e => (g.node e.1).tag = .merge).bind fun i =>
    es[i]?.map fun e => (e.2, es.eraseIdx i)

/-- The graph with the keys of a mapping's own value turned into text. -/
def withPlainKeys (g : Graph) (n : Nat) : Graph :=
  (g.entries n).foldl (fun g e =>
    if (g.node e.1).tag = .value then g.setIfInBounds e.1 ((g.node e.1).withTag .text) else g) g

end Graph

abbrev Merger := StateT Graph (Except Stop)

/-- Merges into a mapping everything under its merge keys, of which there are fewer than `fuel`. -/
def merge : Nat → Nat → Merger Unit
  | 0, _ => return ()
  | fuel + 1, n => do
    match (← get).takeMerge? n with
    | none => modify (·.withPlainKeys n)
    | some (source, rest) =>
      modify (·.withEntries n rest)
      let entriesOf (m : Nat) : Merger (List (Nat × Nat)) := do
        if !(← get).isMapping m then throw .malformed
        merge fuel m
        return (← get).entries m
      let more ← match (← get).node source with
        | .sequence _ ms => do
          let parts ← ms.mapM entriesOf
          pure parts.reverse.flatten
        | _ => entriesOf source
      merge fuel n
      modify fun g => g.withEntries n (more ++ g.entries n)

end ShadowTypes.Yaml
