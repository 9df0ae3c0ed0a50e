import ShadowTypes.Hint.Forward.Comprehension

/-!
# Reading forward references

A name in quotes stands for a class that may come later. Whatever stands in the quotes has to be
an expression of the Python dialect that keeps the rules of scopes; what it means is of no concern
here.
-/

namespace ShadowTypes.Forward

def logical (sum : Reader) : Reader := fun ts =>
  let steps := ts.length + 1
  let compared := chain sum comparison steps
  chain (fun ts => compared (withoutMarks ["not"] ts)) (mark ["and", "or"]) steps ts

/-- What is known of the parameters of a function so far. -/
structure Parameters where
  used : List String := []
  /-- Whether one of them has a default. -/
  hasDefault : Bool := false
  hasSlash : Bool := false
  hasStar : Bool := false
  /-- Whether a star stands alone, so that a name has to follow. -/
  needsName : Bool := false

def Parameters.takes (k : Parameters) (n : String) : Bool := !k.used.contains n && n != fixedName

/-- The parameters of a function up to the colon, which is taken away, and their defaults. -/
def parameters (whole : Reader) : Nat → Parameters → List Token →
    Option (List Expression × List Token)
  | 0, _, _ => none
  | steps + 1, k, ts =>
    let next (k : Parameters) (rest : List Token) : Option (List Expression × List Token) :=
      match mark [","] rest with
      | some rest => parameters whole steps k rest
      | none => if k.needsName then none else (mark [":"] rest).map ([], ·)
    match ts with
    | .mark ":" :: rest => if k.needsName then none else some ([], rest)
    | .mark "/" :: rest =>
      if k.hasSlash || k.hasStar || k.used.isEmpty then none
      else next { k with hasSlash := true } rest
    | .mark "**" :: .name n :: rest =>
      if k.needsName || !k.takes n then none
      else (mark [":"] ((mark [","] rest).getD rest)).map ([], ·)
    | .mark "*" :: .name n :: rest =>
      if k.hasStar || !k.takes n then none
      else next { k with hasStar := true, used := n :: k.used } rest
    | .mark "*" :: rest =>
      if k.hasStar then none else next { k with hasStar := true, needsName := true } rest
    | .name n :: rest =>
      if !k.takes n then none
      else
        let k' := { k with used := n :: k.used, needsName := false }
        match mark ["="] rest with
        | some rest => do
          let (e, rest) ← whole rest
          let (es, rest) ← next { k' with hasDefault := k.hasDefault || !k.hasStar } rest
          return (e :: es, rest)
        | none => if k.hasDefault && !k.hasStar then none else next k' rest
    | _ => none

/-- An expression: a function, or operands with conditions between them. -/
def conditional (p : Parts) (simple : Reader) : Reader
  | .mark "lambda" :: ts => do
    let (defaults, rest) ← parameters p.whole (ts.length + 1) {} ts
    let (body, rest) ← p.whole rest
    return (.function defaults body, rest)
  | ts => do
    let (e, rest) ← simple ts
    match mark ["if"] rest with
    | some rest => do
      let (f, rest) ← simple rest
      let (g, rest) ← p.whole (← mark ["else"] rest)
      return (.parts [e, f, g], rest)
    | none => some (e, rest)

/-- The readers of expressions with brackets nested at most to the given depth. -/
def parts : Nat → Parts
  | 0 => ⟨fun _ => none, fun _ => none, fun _ _ _ => none, fun _ => none⟩
  | depth + 1 =>
    let p := parts depth
    let sum : Reader := fun ts => chain (operand p) arithmetic (ts.length + 1) ts
    let simple := logical sum
    { whole := conditional p simple
      sum
      comprehension := fun isLazy given ts => comprehension p simple isLazy given ts
      enclosed := fun s => do
        match ← p.whole (← tokens? ("(" ++ s ++ ")")) with
        | (e, []) => some e
        | _ => none }

def areEnds (ts : List Token) : Bool := ts.all (· == .lineEnd)

def expressions (whole : Reader) : Nat → List Token → Option (List Expression)
  | 0, _ => none
  | steps + 1, ts => do
    let (e, rest) ← whole ts
    if areEnds rest then some [e]
    else
      let rest ← mark [","] rest
      if areEnds rest then some [e] else return e :: (← expressions whole steps rest)

/-- What is read as an expression: if a star spreads it, the first of its items. -/
def source (s : String) : String := if s.toList.head? = some '*' then "(" ++ s ++ ",)[0]" else s

/-- Whether the text is an expression, or several with commas between them, that keeps the rules of
scopes. -/
def isExpression (s : String) : Bool :=
  let s := source s
  ((tokens? s).bind fun ts => expressions (parts (s.length + 1)).whole (ts.length + 1) ts).any
    (allFit {})

end ShadowTypes.Forward
