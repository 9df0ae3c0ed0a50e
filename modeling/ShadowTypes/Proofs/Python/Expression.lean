import ShadowTypes.Demand

/-!
# Python expressions

The expressions that fragments are made of: attributes and methods of an object, the comparisons
`is`, `is not` and `!=`, and the conjunction. A text is read in two steps. `scan` cuts it into
tokens, and `readTest` reads the tokens by the grammar

    test        comparison ["and" test]
    comparison  operand [("is" | "is" "not" | "!=") operand]
    operand     atom {"." name ["(" ")"]}
    atom        "self" | "None" | "True" | two quotes | "(" test ")"

where a name is a word that is not reserved.
-/

namespace ShadowTypes

namespace Python

/-- A value while a program runs. An object of a shadow type holds its fields by name; of other
objects nothing is known. -/
inductive Object
  | none
  | bool (b : Bool)
  | text (s : String)
  | shadow (type : String) (fields : List (String × Object))
  | foreign (identity : Nat)

inductive Expression
  | self
  | constant (o : Object)
  | attribute (e : Expression) (name : String)
  | call (e : Expression) (method : String)
  | same (e f : Expression)
  | notSame (e f : Expression)
  | differ (e f : Expression)
  | and (e f : Expression)

/-- The conjunction of expressions from left to right; that of none is true. -/
def Expression.all : List Expression → Expression
  | [] => .constant (.bool true)
  | [e] => e
  | e :: f :: es => .and e (all (f :: es))

/-- A part of the text of an expression. -/
inductive Token
  | word (w : String)
  | emptyText
  | point
  | opening
  | closing
  | differs
  deriving DecidableEq, Repr

/-- The tokens with a word before them, unless the word is empty. -/
def push : List Char → List Token → List Token
  | [], ts => ts
  | c :: w, ts => .word (String.ofList (c :: w)) :: ts

/-- The tokens of a text; `ts` come before it, the last one first, and `w` is the word at whose end
the text begins. -/
def scan (ts : List Token) (w : List Char) : List Char → Option (List Token)
  | [] => some (push w ts).reverse
  | c :: r =>
    if Text.isWord c then scan ts (w ++ [c]) r
    else match c, r with
      | ' ', r => scan (push w ts) [] r
      | '.', r => scan (.point :: push w ts) [] r
      | '(', r => scan (.opening :: push w ts) [] r
      | ')', r => scan (.closing :: push w ts) [] r
      | '"', '"' :: r => scan (.emptyText :: push w ts) [] r
      | '!', '=' :: r => scan (.differs :: push w ts) [] r
      | _, _ => none

abbrev Read := Option (Expression × List Token)

/-- Reads attributes and calls of methods. -/
def readTrailers : Expression → List Token → Read
  | e, .point :: .word w :: .opening :: .closing :: r =>
    if Dialect.isKeyword w then none else readTrailers (.call e w) r
  | e, .point :: .word w :: r =>
    if Dialect.isKeyword w then none else readTrailers (.attribute e w) r
  | e, r => some (e, r)

/-- Reads an atom; `inner` reads between parentheses. -/
def readAtom (inner : List Token → Read) : List Token → Read
  | .word w :: r =>
    if w = "self" then some (.self, r)
    else if w = "None" then some (.constant .none, r)
    else if w = "True" then some (.constant (.bool true), r)
    else none
  | .emptyText :: r => some (.constant (.text ""), r)
  | .opening :: r => match inner r with
    | some (e, .closing :: r) => some (e, r)
    | _ => none
  | _ => none

def readOperand (inner : List Token → Read) (ts : List Token) : Read :=
  match readAtom inner ts with
  | some (e, r) => readTrailers e r
  | none => none

/-- Reads the right side of a comparison with `e`. -/
def readRight (inner : List Token → Read) (compare : Expression → Expression) (ts : List Token) :
    Read :=
  (readOperand inner ts).map fun p => (compare p.1, p.2)

/-- Reads a comparison, or an operand alone. -/
def readComparison (inner : List Token → Read) (ts : List Token) : Read :=
  match readOperand inner ts with
  | some (e, .word "is" :: .word "not" :: r) => readRight inner e.notSame r
  | some (e, .word "is" :: r) => readRight inner e.same r
  | some (e, .differs :: r) => readRight inner e.differ r
  | p => p

/-- Reads a conjunction; the number bounds the nesting. -/
def readTest : Nat → List Token → Read
  | 0, _ => none
  | n + 1, ts => match readComparison (readTest n) ts with
    | some (e, .word "and" :: r) => (readTest n r).map fun p => (e.and p.1, p.2)
    | p => p

def read? (s : String) : Option Expression :=
  match scan [] [] s.toList with
  | some ts => match readTest (ts.length + 1) ts with
    | some (e, []) => some e
    | _ => none
  | none => none

def Expression.field (name : String) : Expression := .attribute .self name

def Expression.given (name : String) : Expression := (field name).notSame (.constant .none)

def Expression.ofDemand (name : String) : Demand → Expression
  | .present => .given name
  | .nonEmpty => (given name).and ((field name).differ (.constant (.text "")))
  | .nonBlank => (given name).and (((field name).call "strip").differ (.constant (.text "")))
  | .nestedValid =>
    (given name).and (((field name).call Dialect.python.validityMethod).same
      (.constant (.bool true)))

end Python

end ShadowTypes
