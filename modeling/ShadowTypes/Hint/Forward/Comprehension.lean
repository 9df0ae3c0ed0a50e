import ShadowTypes.Hint.Forward.Operand

/-!
# Comprehensions in forward references

A comprehension is read from its first loop on: the places that a loop binds, what it runs over, and
its conditions, with further loops after it.
-/

namespace ShadowTypes.Forward

def withoutStar : List Token → List Token
  | .mark "*" :: ts => ts
  | ts => ts

/-- A target of a loop: a name, a member, or targets in brackets. -/
def target (p : Parts) : Nat → Reader
  | 0, _ => none
  | depth + 1, ts =>
    let item : Reader := fun ts => target p depth (withoutStar ts)
    match primary p ts, ts with
    | some (.place, e, rest), _ => some (e, rest)
    | some (.atom, e, rest), .name n :: _ => if n = fixedName then none else some (e, rest)
    | _, .mark "(" :: .mark "*" :: rest => do
      -- a star alone in round brackets needs a comma
      let (e, rest) ← item rest
      let (es, rest) ← itemsUntil item ")" (rest.length + 1) (← mark [","] rest)
      return (e.before es, rest)
    | _, .mark "(" :: rest => itemsUntil item ")" (rest.length + 1) rest
    | _, .mark "[" :: rest => itemsUntil item "]" (rest.length + 1) rest
    | _, _ => none

/-- The targets of a loop, after which `in` comes. A star alone needs a comma. -/
def targets (p : Parts) : Nat → Bool → Reader
  | 0, _, _ => none
  | steps + 1, first, ts => do
    if !first && isNext ["in"] ts then some (.parts [], ts)
    else
      let (e, rest) ← target p (ts.length + 1) (withoutStar ts)
      match mark [","] rest with
      | some rest => do
        let (es, rest) ← targets p steps false rest
        return (e.before es, rest)
      | none => if first && isNext ["*"] ts then none else some (e, rest)

def conditions (simple : Reader) : Nat → List Token → Option (List Clause × List Token)
  | 0, _ => none
  | steps + 1, ts => match mark ["if"] ts with
    | some rest => do
      let (e, rest) ← simple rest
      let (cs, rest) ← conditions simple steps rest
      return (.part e :: cs, rest)
    | none => some ([], ts)

def loop (p : Parts) (simple : Reader) (ts : List Token) :
    Option (Expression × List Clause × List Token) := do
  let isAsync := isNext ["async"] ts
  let ts ← mark ["for"] ((mark ["async"] ts).getD ts)
  let (place, rest) ← targets p (ts.length + 1) true ts
  let (source, rest) ← simple (← mark ["in"] rest)
  let (cs, rest) ← conditions simple (ts.length + 1) rest
  return (source, .target isAsync place :: cs, rest)

def loops (p : Parts) (simple : Reader) : Nat → List Token → Option (List Clause × List Token)
  | 0, _ => none
  | steps + 1, ts =>
    if isNext ["for", "async"] ts then do
      let (source, cs, rest) ← loop p simple ts
      let (more, rest) ← loops p simple steps rest
      match cs with
      | place :: cs => return (place :: .source source :: cs ++ more, rest)
      | [] => none
    else some ([], ts)

/-- The loops and conditions of a comprehension that gives the given expressions; `simple` reads
what they run over and test. -/
def comprehension (p : Parts) (simple : Reader) (isLazy : Bool) (given : List Expression) :
    Reader := fun ts => do
  let (source, cs, rest) ← loop p simple ts
  let (more, rest) ← loops p simple (ts.length + 1) rest
  return (.comprehension isLazy source (cs ++ more ++ given.map .part), rest)

end ShadowTypes.Forward
