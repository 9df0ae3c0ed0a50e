import ShadowTypes.Yaml.Tag
import ShadowTypes.Yaml.Token

/-!
# YAML nodes

The tokens of one document make a graph of nodes. A node that has an anchor can be repeated by an
alias, also inside itself: an alias adds no node, but another way to one. A text with a second
document, or with none of the forms that the grammar allows, is malformed.
-/

namespace ShadowTypes.Yaml

/-- A node of a document, which knows the nodes inside it by their numbers. -/
inductive Node
  | scalar (tag : Tag) (text : String)
  | sequence (tag : Tag) (items : List Nat)
  | mapping (tag : Tag) (entries : List (Nat × Nat))
  deriving Repr, Inhabited

abbrev Graph := Array Node

namespace Node

def tag : Node → Tag
  | .scalar t _ => t
  | .sequence t _ => t
  | .mapping t _ => t

def withTag (t : Tag) : Node → Node
  | .scalar _ s => .scalar t s
  | .sequence _ ns => .sequence t ns
  | .mapping _ es => .mapping t es

/-- How many collections can be open, unless the reader is called from far inside other calls. -/
def usualDepth : Nat := 490

/-- What is left of the tokens, and what is known from those before. -/
structure State where
  tokens : List Token
  /-- Why the tokens end early. -/
  stop : Option Stop
  /-- The addresses that handles stand for. -/
  handles : List (String × String) := []
  anchors : List (String × Nat) := []
  nodes : Graph := #[]
  /-- How many collections are open. -/
  depth : Nat := 0
  /-- How many collections can be open. -/
  room : Nat := usualDepth

def defaultHandles : List (String × String) := [("!", "!"), ("!!", Tag.home)]

/-- Reading nodes off the tokens. -/
abbrev Composer := StateT State (Except Stop)

/-- The text offends against the grammar. -/
def refuse {α : Type} : Composer α := throw .malformed

/-- The next token; none at the end of the text. -/
def peek : Composer (Option Token) := do
  let s ← get
  match s.tokens, s.stop with
  | t :: _, _ => return some t
  | [], none => return none
  | [], some e => throw e

def drop : Composer Unit := modify fun s => { s with tokens := s.tokens.tail }

/-- Drops the next token if it is the given one, and tells whether it was. -/
def accept (t : Token) : Composer Bool := do
  if (← peek) == some t then
    drop
    return true
  else return false

def isNext (ts : List Token) : Composer Bool := do
  match ← peek with
  | some t => return ts.contains t
  | none => return false

/-- The handle and the rest of a tag, if one comes next. -/
def tag? : Composer (Option (Option String × String)) := do
  match ← peek with
  | some (.tag handle suffix) => drop; return some (handle, suffix)
  | _ => return none

def address (tag : Option String × String) : Composer String := do
  match tag with
  | (none, suffix) => return suffix
  | (some handle, suffix) => match (← get).handles.find? (·.1 == handle) with
    | some (_, target) => return target ++ suffix
    | none => refuse

def anchor? : Composer (Option String) := do
  match ← peek with
  | some (.anchor name) => drop; return some name
  | _ => return none

/-- The properties of a node: an anchor and the address of a tag, in either order. -/
def properties : Composer (Option String × Option String) := do
  let before ← anchor?
  let tag ← tag?
  let anchor ← if before.isNone && tag.isSome then anchor? else pure before
  return (anchor, ← tag.mapM address)

/-- Adds a node, which the anchor stands for from then on, and returns its number. -/
def add (anchor : Option String) (node : Node) : Composer Nat := do
  let n := (← get).nodes.size
  modify fun s => { s with
    nodes := s.nodes.push node
    anchors := match anchor with
      | some a => (a, n) :: s.anchors
      | none => s.anchors }
  return n

def absent : Composer Nat := add none (.scalar .null "")

def inside {α : Type} (parts : Composer α) : Composer α := do
  let s ← get
  if s.room ≤ s.depth then
    throw (.failure ⟨"RecursionError", "maximum recursion depth exceeded"⟩)
  modify fun s => { s with depth := s.depth + 1 }
  let found ← parts
  modify fun s => { s with depth := s.depth - 1 }
  return found

/-- Adds a collection, which an alias among its own parts can repeat. -/
def collection {α : Type} (anchor : Option String) (whole : List α → Node)
    (parts : Composer (List α)) : Composer Nat := do
  let n ← add anchor (whole [])
  let found ← inside parts
  modify fun s => { s with nodes := s.nodes.setIfInBounds n (whole found) }
  return n

/-- The tag at an address; an exclamation mark alone leaves the tag open. -/
def tagOr (default : Tag) : Option String → Tag
  | none => default
  | some "!" => default
  | some address => .ofAddress address

def scalarTag (address : Option String) (plain : Bool) (text : String) : Tag :=
  match address with
  | none => if plain then .ofText text else .text
  | some "!" => .ofText text
  | some address => .ofAddress address

def bare (anchor address : Option String) : Composer Nat :=
  if anchor.isNone && address.isNone then refuse
  else add anchor (.scalar (scalarTag address true "") "")

mutual
/-- Reads a node; `block` allows block collections, `indentless` a sequence that is not indented. -/
def compose (block indentless : Bool) : Nat → Composer Nat
  | 0 => refuse
  | fuel + 1 => do
    match ← peek with
    | some (.alias name) =>
      drop
      match (← get).anchors.find? (·.1 == name) with
      | some (_, n) => return n
      | none => refuse
    | _ =>
      let (anchor, address) ← properties
      if let some a := anchor then
        if (← get).anchors.any (·.1 == a) then refuse
      let sequence := Node.sequence (tagOr .sequence address)
      let mapping := Node.mapping (tagOr .mapping address)
      match ← peek with
      | some (.scalar text plain) =>
        drop
        add anchor (.scalar (scalarTag address plain text) text)
      | some .flowSequenceStart =>
        drop
        collection anchor sequence (flowItems true fuel)
      | some .flowMappingStart =>
        drop
        collection anchor mapping (flowEntries true fuel)
      | some .blockSequenceStart =>
        if block then
          drop
          collection anchor sequence (blockItems fuel)
        else bare anchor address
      | some .blockMappingStart =>
        if block then
          drop
          collection anchor mapping (blockEntries fuel)
        else bare anchor address
      | some .blockEntry =>
        if indentless then collection anchor sequence (indentlessItems fuel)
        else bare anchor address
      | _ => bare anchor address

/-- Reads a node, or nothing if one of the given tokens comes next. -/
def composeUnless (ends : List Token) (block indentless : Bool) : Nat → Composer Nat
  | 0 => refuse
  | fuel + 1 => do
    if ← isNext ends then absent else compose block indentless fuel

def blockItems : Nat → Composer (List Nat)
  | 0 => refuse
  | fuel + 1 => do
    if ← accept .blockEntry then
      let n ← composeUnless [.blockEntry, .blockEnd] true false fuel
      return n :: (← blockItems fuel)
    else if ← accept .blockEnd then return []
    else refuse

def indentlessItems : Nat → Composer (List Nat)
  | 0 => refuse
  | fuel + 1 => do
    if ← accept .blockEntry then
      let n ← composeUnless [.blockEntry, .key, .value, .blockEnd] true false fuel
      return n :: (← indentlessItems fuel)
    else return []

def blockEntries : Nat → Composer (List (Nat × Nat))
  | 0 => refuse
  | fuel + 1 => do
    let ends : List Token := [.key, .value, .blockEnd]
    if ← accept .key then
      let k ← composeUnless ends true true fuel
      let v ← if ← accept .value then composeUnless ends true true fuel else absent
      return (k, v) :: (← blockEntries fuel)
    else if ← accept .blockEnd then return []
    else refuse

/-- Reads the items of a flow sequence, after a comma unless they are the first. -/
def flowItems (first : Bool) : Nat → Composer (List Nat)
  | 0 => refuse
  | fuel + 1 => do
    if ← accept .flowSequenceEnd then return []
    else
      if !first then
        if !(← accept .flowEntry) then refuse
      if ← accept .key then
        let n ← collection none (.mapping .mapping) (flowPair fuel)
        return n :: (← flowItems false fuel)
      else if ← accept .flowSequenceEnd then return []
      else
        let n ← compose false false fuel
        return n :: (← flowItems false fuel)

/-- Reads a mapping with one entry, which stands in a flow sequence without brackets. -/
def flowPair : Nat → Composer (List (Nat × Nat))
  | 0 => refuse
  | fuel + 1 => do
    let k ← composeUnless [.value, .flowEntry, .flowSequenceEnd] false false fuel
    let v ← if ← accept .value then
        composeUnless [.flowEntry, .flowSequenceEnd] false false fuel
      else absent
    return [(k, v)]

/-- Reads the entries of a flow mapping, after a comma unless they are the first. -/
def flowEntries (first : Bool) : Nat → Composer (List (Nat × Nat))
  | 0 => refuse
  | fuel + 1 => do
    if ← accept .flowMappingEnd then return []
    else
      if !first then
        if !(← accept .flowEntry) then refuse
      if ← accept .key then
        let k ← composeUnless [.value, .flowEntry, .flowMappingEnd] false false fuel
        let v ← if ← accept .value then
            composeUnless [.flowEntry, .flowMappingEnd] false false fuel
          else absent
        return (k, v) :: (← flowEntries false fuel)
      else if ← accept .flowMappingEnd then return []
      else
        let k ← compose false false fuel
        let v ← absent
        return (k, v) :: (← flowEntries false fuel)
end

def dropEnds : Nat → Composer Unit
  | 0 => return ()
  | fuel + 1 => do
    if ← accept .documentEnd then dropEnds fuel

/-- Reads the directives of a document; `version` tells whether one has named a version. -/
def directives (version : Bool) : Nat → Composer Unit
  | 0 => refuse
  | fuel + 1 => do
    match ← peek with
    | some (.versionDirective major) =>
      if version || major != 1 then refuse
      drop
      directives true fuel
    | some (.tagDirective handle target) =>
      if (← get).handles.any (·.1 == handle) then refuse
      modify fun s => { s with handles := (handle, target) :: s.handles }
      drop
      directives version fuel
    | some .otherDirective => drop; directives version fuel
    | _ => return ()

def beginsImplicitly : Composer Bool := do
  match ← peek with
  | none => return false
  | some (.versionDirective _) | some (.tagDirective ..) | some .otherDirective
  | some .documentStart => return false
  | some _ => return true

def document? (fuel : Nat) : Composer (Option Nat) := do
  let root? ← if ← beginsImplicitly then do
      modify fun s => { s with handles := defaultHandles }
      pure (some (← compose true false fuel))
    else do
      dropEnds fuel
      if (← peek).isNone then pure none
      else
        directives false fuel
        modify fun s => { s with handles := s.handles ++ defaultHandles }
        if !(← accept .documentStart) then refuse
        match ← peek with
        | none | some (.versionDirective _) | some (.tagDirective ..) | some .otherDirective
        | some .documentStart | some .documentEnd => pure (some (← absent))
        | _ => pure (some (← compose true false fuel))
  dropEnds fuel
  if (← peek).isSome then refuse
  return root?

/-- The nodes of the document that a text holds and the number of its root, if it holds one. -/
def ofText? (s : String) (room : Nat := usualDepth) : Except Stop (Option (Nat × Graph)) := do
  let (tokens, stop) := Yaml.tokens s
  let (root?, state) ← (document? (3 * tokens.length + 5)).run { tokens, stop, room }
  return root?.map (·, state.nodes)

end Node

end ShadowTypes.Yaml
