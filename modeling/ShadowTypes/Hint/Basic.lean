import ShadowTypes.Hint.Marker
import ShadowTypes.Text.Lines
import ShadowTypes.Text.Quoted

/-!
# Type hints

A type hint says what a property of a class holds. Hints are kept in a normal form: the arms of a
union are no unions, no arm stands twice, and a union has two arms at least; what is annotated is
not itself annotated. A hint may refer to classes that are not known yet.
-/

namespace ShadowTypes

/-- A class as hints know it. Declared classes have an identity of their own; all other classes
share the identity zero and are told apart by module and name. -/
structure ClassName where
  identity : Nat
  module : String
  name : String
  /-- The namespace in front of the name. -/
  space : String
  /-- The name with those of the definitions around it. -/
  path : String
  deriving DecidableEq, Repr, Inhabited

/-- What stands for a class that is not known yet. -/
inductive Reference
  /-- A name that is looked up when the class is described. -/
  | forward (name : String)
  /-- A name in quotes where the generic type does not look at its arguments. -/
  | quoted (name : String)
  deriving DecidableEq, Repr, Inhabited

/-- The head of a generic hint. The checked spelling and the built-in one differ. -/
structure Generic where
  name : String
  checked : Bool := false
  deriving DecidableEq, Repr, Inhabited

/-- The checked spellings of built-in generic classes. -/
def Generic.checkedNames : List (String × String) := [
  ("List", "list"), ("Dict", "dict"), ("Set", "set"), ("FrozenSet", "frozenset"),
  ("Tuple", "tuple"), ("Type", "type")]

def Generic.ofName (s : String) : Generic :=
  match checkedNames.find? (·.1 == s) with
  | some (_, name) => ⟨name, true⟩
  | none => ⟨s, false⟩

inductive Hint
  | named (c : ClassName)
  /-- The class of nothing. -/
  | none
  /-- A constant, by its text; the one for nothing stands for its class in most places. -/
  | symbol (text : String)
  /-- A type variable, which no other one equals. -/
  | parameter (identity : Nat) (name : String)
  | reference (r : Reference)
  /-- The checked spelling of a generic class, without arguments. -/
  | bare (head : Generic)
  | generic (head : Generic) (args : List Hint)
  /-- A union; one that is not `checked` was written with bars between classes. -/
  | union (checked : Bool) (arms : List Hint)
  | literal (values : List Value)
  | annotated (hint : Hint) (markers : List Marker)
  /-- A variable of the class itself, with the hint of its value or without one. -/
  | classVar (args : List Hint)
  deriving Repr, Inhabited

def builtinModule : String := "builtins"

namespace ClassName

def text (c : ClassName) : String :=
  if c.module = builtinModule then c.name else c.space ++ "." ++ c.name

def builtin (name : String) : ClassName := ⟨0, builtinModule, name, builtinModule, name⟩

def library (path : String) : ClassName :=
  let parts := (Text.splitAt '.' path.toList).map String.ofList
  let module := ".".intercalate parts.dropLast
  let name := parts.getLastD ""
  ⟨0, module, name, module, name⟩

def fullName (c : ClassName) : String :=
  if c.module = builtinModule then c.path else c.module ++ "." ++ c.path

end ClassName

def Reference.name : Reference → String
  | .forward s | .quoted s => s

def Reference.text : Reference → String
  | .quoted s => s
  | .forward s => "ForwardRef(" ++ Text.quoted s ++ ")"

namespace Hint

/-- A head with its arguments in brackets, unless nothing stands between them. -/
def bracketed (head : String) (args : List String) : String :=
  let inner := ", ".intercalate args
  if inner = "" then head else head ++ "[" ++ inner ++ "]"

def isNone : Hint → Bool
  | .none => true
  | _ => false

def isClassVar : Hint → Bool
  | .classVar _ => true
  | _ => false

mutual
/-- The type name that a hint stands for. -/
def text : Hint → String
  | .named c => c.text
  | .none => "None"
  | .symbol s => s
  | .parameter _ name => "~" ++ name
  | .reference r => r.text
  | .bare head => head.name
  | .generic head args => bracketed head.name (texts args)
  | .union _ arms => " | ".intercalate (armTexts arms) ++ (if arms.any isNone then "?" else "")
  | .literal values => bracketed "typing.Literal" (values.map Value.toText)
  | .annotated h _ => text h
  | .classVar args => bracketed "typing.ClassVar" (texts args)

def texts : List Hint → List String
  | [] => []
  | h :: hs => text h :: texts hs

/-- The type names of the arms other than nothing. -/
def armTexts : List Hint → List String
  | [] => []
  | .none :: hs => armTexts hs
  | h :: hs => text h :: armTexts hs
end

mutual
/-- Whether a hint holds a whole number that cannot be written; `full` counts those in markers. -/
def isUnwritable (full : Bool) : Hint → Bool
  | .generic _ args => anyUnwritable full args
  | .union _ arms => anyUnwritable full arms
  | .literal values => values.any Value.isUnwritable
  | .annotated h ms => isUnwritable full h || full && ms.any Marker.isUnwritable
  | .classVar args => anyUnwritable full args
  | _ => false

def anyUnwritable (full : Bool) : List Hint → Bool
  | [] => false
  | h :: hs => isUnwritable full h || anyUnwritable full hs
end

def sameLiteral (v w : Value) : Bool := v.typeName == w.typeName && v.sameKey w

mutual
/-- Whether two hints mean the same; the order of arms does not count. -/
def same : Hint → Hint → Bool
  | .named c, .named d => c == d
  | .none, .none => true
  | .symbol s, .symbol t => s == t
  | .parameter m _, .parameter n _ => m == n
  | .reference r, .reference s => r == s
  | .bare g, .bare h => g == h
  | .generic g as, .generic h bs => g == h && sameAll as bs
  | .union _ as, .union _ bs => as.length == bs.length && within as bs
  | .literal vs, .literal ws => vs.length == ws.length && vs.all fun v => ws.any (sameLiteral v)
  | .annotated g ms, .annotated h ns => same g h && Marker.sameAll ms ns
  | .classVar as, .classVar bs => sameAll as bs
  | _, _ => false

def sameAll : List Hint → List Hint → Bool
  | [], [] => true
  | a :: as, b :: bs => same a b && sameAll as bs
  | _, _ => false

/-- Whether each of the first hints is among the second. -/
def within : List Hint → List Hint → Bool
  | [], _ => true
  | a :: as, bs => (bs.any fun b => same a b) && within as bs
end

/-- The hints without repetitions; the first of equal hints stays. -/
def distinct : List Hint → List Hint
  | [] => []
  | h :: hs => h :: (distinct hs).filter fun g => !same h g

def arms : Hint → List Hint
  | .union _ as => as
  | h => [h]

/-- The union of arms in normal form. -/
def ofArms (checked : Bool) : List Hint → Hint
  | [h] => h
  | hs => .union checked hs

/-- The values without repetitions; the first of equal values stays. -/
def distinctValues : List Value → List Value
  | [] => []
  | v :: vs => v :: (distinctValues vs).filter fun w => !sameLiteral v w

/-- The hint for one of the given values. Values that are no keys are not compared. -/
def oneOfValues (vs : List Value) : Hint :=
  .literal (if vs.all Value.isKey then distinctValues vs else vs)

/-- The markers next to a hint; those further inside do not count. -/
def markers : Hint → List Marker
  | .annotated _ ms => ms
  | _ => []

end Hint

end ShadowTypes
