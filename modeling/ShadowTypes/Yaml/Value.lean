import ShadowTypes.Yaml.Outline

/-!
# Values of YAML documents

The value of a document is put together from its outline. A node that contains itself becomes a
ring: on the way from the root a node that is met again inside itself is a reference to its number,
and every collection between the two is a ring of its own.
-/

namespace ShadowTypes.Yaml

/-- A value with the numbers of the nodes around it that it refers to. -/
structure Part where
  value : Value
  around : List Nat := []
  /-- Whether there is a ring anywhere in the value. -/
  hasRing : Bool := false

namespace Part

/-- The collection at a node with the given parts: a ring if one of them refers to a node
around it. -/
def gather (n : Nat) (whole : Value) (parts : List Part) : Part :=
  let around := (parts.flatMap Part.around).eraseDups
  { value := if around.isEmpty then whole else .ring n whole
    around := around.filter (· != n)
    hasRing := parts.any Part.hasRing }

end Part

/-- Values of nodes without rings, each put together once. -/
abbrev Assembler := StateM (Array (Option Value))

/-- The number of places for the members of a set with `count` members: a power of two, from eight
on, and more than twice as many if there are more than four. -/
def places (count : Nat) : Nat :=
  if count < 5 then 8 else Double.two ((2 * count).log2 + 1)

/-- The prime by which numbers are reduced. It is a power of two less one, so powers of two repeat
with its exponent. -/
def prime : Nat := Double.two 61 - 1

/-- A remainder with a sign as a word of 64 bits. Minus one has the word of minus two. -/
def signedWord (negative : Bool) (r : Nat) : Nat :=
  if negative && 0 < r then Double.two 64 - (if r = 1 then 2 else r) else r

/-- What leads a number to its place: its remainder by the prime. A power of two below one counts as
the whole one that it equals there. -/
def lead? : Value → Option Nat
  | .bool b => some (if b then 1 else 0)
  | .int n => some (signedWord (n < 0) (n.natAbs % prime))
  | .float (.finite s m e) => some (signedWord s (m * Double.two (e % 61).toNat % prime))
  | .float (.infinite s) => some (signedWord s 314159)
  | _ => none

/-- The first free place among those tried in turn: `i` and, if they are places, the nine after it,
then a jump that depends on what is left of the lead. -/
def freePlace (size : Nat) (taken : List Nat) : Nat → Nat → Nat → Nat
  | 0, _, i => i
  | jumps + 1, rest, i =>
    let near := if i + 9 < size then List.range' i 10 else [i]
    match near.find? fun p => !taken.contains p with
    | some p => p
    | none => freePlace size taken jumps (rest / 32) ((5 * i + 1 + rest / 32) % size)

/-- Members with their places, each of which takes the first that is free. -/
def placed (size : Nat) (ks : List (Nat × Value)) : List (Nat × Value) :=
  ks.foldl (fun found (lead, k) =>
    let place := freePlace size (found.map (·.1)) (size + 64) lead (lead % size)
    found ++ [(place, k)]) []

/-- The distinct members of a set. Numbers are shown by their places, other members in the order of
their first appearance. -/
def members (ks : List Value) : List Value :=
  let distinct := (Entries.ofList (ks.map (·, ()))).map (·.1)
  match distinct.mapM fun k => (lead? k).map (·, k) with
  | none => distinct
  | some ks =>
    ((placed (places ks.length) ks).mergeSort fun a b => a.1 ≤ b.1).map (·.2)

/-- The part at a node inside the nodes `around`, of which there are fewer than nodes in all. -/
def assemble (shapes : Array (Option Shape)) : Nat → List Nat → Nat → Assembler Part
  | 0, _, _ => return { value := .null }
  | fuel + 1, around, n => do
    if around.contains n then return { value := .again n, around := [n], hasRing := true }
    if let some v := (← get).getD n none then return { value := v }
    let inner := assemble shapes fuel (n :: around)
    let part ← match (shapes.getD n none).getD (.leaf .null) with
      | .leaf v => pure { value := v }
      | .set ks => pure { value := .set (members ks) }
      | .list ns => do
        let parts ← ns.mapM inner
        pure (.gather n (.list (parts.map Part.value)) parts)
      | .pairs es => do
        let parts ← es.mapM fun e => return (← inner e.1, ← inner e.2)
        pure (.gather n (.list (parts.map fun p => .pair p.1.value p.2.value))
          (parts.flatMap fun p => [p.1, p.2]))
      | .mapping es => do
        let parts ← (Entries.ofList es).mapM fun e => return (e.1, ← inner e.2)
        pure (.gather n (.mapping (parts.map fun p => (p.1, p.2.value))) (parts.map (·.2)))
    if !part.hasRing then modify fun found => found.setIfInBounds n (some part.value)
    return part

/-- The value of the document that a text holds; null if it holds none. -/
def read (s : String) (room : Nat := Node.usualDepth) : Except Stop Value := do
  match ← Node.ofText? s room with
  | none => return .null
  | some (root, g) =>
    let shapes ← Outline.ofGraph root g
    let (part, _) := (assemble shapes (g.size + 1) [] root).run (Array.replicate g.size none)
    return part.value

end ShadowTypes.Yaml
