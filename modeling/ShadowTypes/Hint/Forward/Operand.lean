import ShadowTypes.Hint.Forward.Expression
import ShadowTypes.Hint.Forward.Token

/-!
# Operands in forward references

Readers take expressions away from the beginning of tokens. Operands are names, values and texts,
brackets with items in them, and what stands after those: members, arguments and indices. The reader
`whole` of expressions inside brackets is an argument, so readers recurse on nothing but the number
of tokens.
-/

namespace ShadowTypes.Forward

/-- Takes something away from the beginning of tokens. -/
abbrev Taker := List Token → Option (List Token)

/-- Takes an expression away from the beginning of tokens. -/
abbrev Reader := List Token → Option (Expression × List Token)

def mark (ms : List String) : Taker
  | .mark m :: ts => if ms.contains m then some ts else none
  | _ => none

def isNext (ms : List String) (ts : List Token) : Bool := (mark ms ts).isSome

def withoutMarks (ms : List String) (ts : List Token) : List Token :=
  ts.dropWhile fun
    | .mark m => ms.contains m
    | _ => false

def Expression.before : Expression → Expression → Expression
  | e, .parts es => .parts (e :: es)
  | e, f => .parts [e, f]

def chain (operand : Reader) (operator : Taker) : Nat → Reader
  | 0, _ => none
  | steps + 1, ts => do
    let (e, rest) ← operand ts
    match operator rest with
    | some rest => do
      let (f, rest) ← chain operand operator steps rest
      return (.parts [e, f], rest)
    | none => some (e, rest)

/-- Items with commas between them, and perhaps one at the end, up to the closing bracket, which is
taken away. -/
def itemsUntil (item : Reader) (close : String) : Nat → Reader
  | 0, _ => none
  | steps + 1, ts => match mark [close] ts with
    | some rest => some (.parts [], rest)
    | none => do
      let (e, rest) ← item ts
      match mark [","] rest with
      | some rest => do
        let (es, rest) ← itemsUntil item close steps rest
        return (e.before es, rest)
      | none => return (e, ← mark [close] rest)

inductive Ending
  | atom
  /-- With a member or an index, to which a value can be bound. -/
  | place
  | value
  deriving DecidableEq, Repr

def fixedName : String := "__debug__"

/-! ## Operands -/

def named (whole : Reader) : Reader
  | .name n :: .mark ":=" :: ts => do
    if n = fixedName then none
    let (e, rest) ← whole ts
    return (.named n e, rest)
  | ts => whole ts

/-- A part between the colons of a slice, which may be missing. -/
def bound (whole : Reader) : Reader := fun ts =>
  if isNext [":", ",", "]"] ts then some (.parts [], ts) else whole ts

/-- The rest of a slice after its first colon, behind what stands before it. -/
def slice (whole : Reader) (start : Expression) : Reader := fun ts => do
  let (stop, rest) ← bound whole ts
  match mark [":"] rest with
  | some rest => do
    let (step, rest) ← bound whole rest
    return (.parts [start, stop, step], rest)
  | none => some (.parts [start, stop], rest)

def index (whole : Reader) : Reader
  | .mark "*" :: ts => whole ts
  | .mark ":" :: ts => slice whole (.parts []) ts
  | .name n :: .mark ":=" :: ts => named whole (.name n :: .mark ":=" :: ts)
  | ts => do
    let (e, rest) ← whole ts
    match mark [":"] rest with
    | some rest => slice whole e rest
    | none => some (e, rest)

/-- What the arguments of a call may still be. -/
inductive Stage
  | positions
  | names
  | mappings
  deriving DecidableEq, Repr

/-- The arguments of a call up to its closing bracket. Positions come before names, and all of them
before whole mappings but for further names; no name comes twice. `comprehension` reads the loops
after the only argument. -/
def arguments (whole : Reader) (comprehension : List Expression → Reader) :
    Nat → Bool → Stage → List String → Reader
  | 0, _, _, _, _ => none
  | steps + 1, first, stage, used, ts =>
    let next (stage : Stage) (used : List String) (e : Expression) (rest : List Token) :
        Option (Expression × List Token) :=
      match mark [","] rest with
      | some rest => do
        let (es, rest) ← arguments whole comprehension steps false stage used rest
        return (e.before es, rest)
      | none => do return (e, ← mark [")"] rest)
    match ts with
    | .mark ")" :: rest => some (.parts [], rest)
    | .mark "*" :: rest => do
      let (e, rest) ← whole rest
      if stage = .mappings then none else next stage used e rest
    | .mark "**" :: rest => do
      let (e, rest) ← whole rest
      next .mappings used e rest
    | .name n :: .mark "=" :: rest => do
      let (e, rest) ← whole rest
      if used.contains n || n = fixedName then none
      else next (if stage = .positions then .names else stage) (n :: used) e rest
    | ts => do
      let (e, rest) ← named whole ts
      if stage != .positions then none
      else if isNext ["for", "async"] rest then
        if first then do
          let (e, rest) ← comprehension [e] rest
          return (e, ← mark [")"] rest)
        else none
      else next stage used e rest

/-- What stands after an operand: members after points, arguments and indices. -/
def trailers (whole : Reader) (comprehension : List Expression → Reader) :
    Nat → Ending → Expression → List Token → Option (Ending × Expression × List Token)
  | 0, ending, e, ts => some (ending, e, ts)
  | steps + 1, ending, e, ts => match ts with
    | .mark "." :: .name n :: rest =>
      trailers whole comprehension steps (if n = fixedName then .value else .place) e rest
    | .mark "." :: _ => none
    | .mark "(" :: rest => do
      let (f, rest) ← arguments whole comprehension (rest.length + 1) true .positions [] rest
      trailers whole comprehension steps .value (.parts [e, f]) rest
    | .mark "[" :: rest => do
      if isNext ["]"] rest then none
      let (f, rest) ← itemsUntil (index whole) "]" (rest.length + 1) rest
      trailers whole comprehension steps .place (.parts [e, f]) rest
    | _ => some (ending, e, ts)

def arithmetic : Taker :=
  mark ["|", "^", "&", "<<", ">>", "+", "-", "*", "/", "//", "%", "@", "**"]

def comparison : Taker
  | .mark "not" :: .mark "in" :: ts => some ts
  | .mark "is" :: .mark "not" :: ts => some ts
  | ts => mark ["<", ">", "<=", ">=", "==", "!=", "in", "is"] ts

/-- What is needed of expressions to read the operands in them. -/
structure Parts where
  /-- An expression. -/
  whole : Reader
  /-- Operands with operators between them. -/
  sum : Reader
  /-- The loops and conditions of a comprehension that gives the given expressions; it gives them
  one by one if asked to. -/
  comprehension : Bool → List Expression → Reader
  /-- The expression of the given source inside a text. -/
  enclosed : String → Option Expression

/-- An item of a collection, and whether a star spreads it. -/
def item (p : Parts) (ts : List Token) : Option (Bool × Expression × List Token) :=
  match ts with
  | .mark "*" :: rest => (p.sum rest).map (true, ·)
  | ts => (named p.whole ts).map (false, ·)

/-- What follows the first item in a bracket up to the given closing one: a comprehension over it,
or further items. -/
def afterFirst (p : Parts) (item : Reader) (close : String) (first : List Expression) : Reader :=
  fun ts =>
    if isNext ["for", "async"] ts then do
      let (e, rest) ← p.comprehension (close = ")") first ts
      return (e, ← mark [close] rest)
    else match mark [","] ts with
      | some rest => do
        let (es, rest) ← itemsUntil item close (rest.length + 1) rest
        return (.parts (es :: first), rest)
      | none => do return (.parts first, ← mark [close] ts)

/-- An item of a collection, with a star or without one. -/
def anyItem (p : Parts) : Reader := fun ts => (item p ts).map (·.2)

/-- The items of a bracket up to the given closing one. A single item with a star needs a comma if
`starNeedsComma`. -/
def collection (p : Parts) (close : String) (starNeedsComma : Bool) : Reader := fun ts =>
  match mark [close] ts with
  | some rest => some (.parts [], rest)
  | none => do
    let (star, e, rest) ← item p ts
    let fits := !isNext ["for", "async"] rest && (!starNeedsComma || isNext [","] rest)
    if star && !fits then none else afterFirst p (anyItem p) close [e] rest

/-- Expressions with commas between them, and perhaps one at the end, which stars may spread unless
one stands alone. -/
def starred (p : Parts) : Nat → Bool → Reader
  | 0, _, _ => none
  | steps + 1, first, ts => do
    let (star, e, rest) ← match ts with
      | .mark "*" :: rest => (p.sum rest).map (true, ·)
      | ts => (p.whole ts).map (false, ·)
    match mark [","] rest with
    | some rest => match starred p steps false rest with
      | some (es, rest) => return (e.before es, rest)
      | none => return (e, rest)
    | none => if star && first then none else return (e, rest)

/-- What stands in round brackets, the first of which has been taken away. -/
def round (p : Parts) : Reader
  | .mark "yield" :: .mark "from" :: ts => do
    let (e, rest) ← p.whole ts
    return (.yielded e, ← mark [")"] rest)
  | .mark "yield" :: .mark ")" :: ts => some (.yielded (.parts []), ts)
  | .mark "yield" :: ts => do
    let (e, rest) ← starred p (ts.length + 1) true ts
    return (.yielded e, ← mark [")"] rest)
  | ts => collection p ")" true ts

def entry (p : Parts) : Reader
  | .mark "**" :: ts => p.sum ts
  | ts => do
    let (k, rest) ← p.whole ts
    let (v, rest) ← p.whole (← mark [":"] rest)
    return (.parts [k, v], rest)

/-- The entries of a mapping or the items of a set, up to the closing bracket. -/
def braces (p : Parts) : Reader := fun ts =>
  let close := "\x7d"
  match ts with
  | .mark "\x7d" :: rest => some (.parts [], rest)
  | .mark "**" :: ts => do
    let (e, rest) ← p.sum ts
    if isNext ["for", "async"] rest then none else afterFirst p (entry p) close [e] rest
  | .mark "*" :: _ | .name _ :: .mark ":=" :: _ => collection p close false ts
  | _ => do
    let (k, rest) ← p.whole ts
    match mark [":"] rest with
    | some rest => do
      let (v, rest) ← p.whole rest
      afterFirst p (entry p) close [k, v] rest
    | none => afterFirst p (anyItem p) close [k] rest

def texts (p : Parts) (isBytes : Bool) : Reader
  | .text b inner :: ts => do
    if b != isBytes then none
    let es ← inner.mapM p.enclosed
    let (f, rest) ← texts p isBytes ts
    return (.parts (f :: es), rest)
  | ts => some (.parts [], ts)

def atom (p : Parts) : Reader
  | .name n :: rest => some (.name n, rest)
  | .value :: rest => some (.parts [], rest)
  | .text isBytes inner :: rest => texts p isBytes (.text isBytes inner :: rest)
  | .mark "..." :: rest => some (.parts [], rest)
  | .mark "(" :: rest => round p rest
  | .mark "[" :: rest => collection p "]" false rest
  | .mark "\x7b" :: rest => braces p rest
  | _ => none

def primary (p : Parts) (ts : List Token) : Option (Ending × Expression × List Token) := do
  let (e, rest) ← atom p ts
  trailers p.whole (p.comprehension true) (rest.length + 1) .atom e rest

/-- An operand, perhaps with signs in front. -/
def operand (p : Parts) : Reader := fun ts =>
  match withoutMarks ["+", "-", "~"] ts with
  | .mark "await" :: ts => do
    let (_, e, rest) ← primary p ts
    return (.awaited e, rest)
  | ts => (primary p ts).map (·.2)

end ShadowTypes.Forward
