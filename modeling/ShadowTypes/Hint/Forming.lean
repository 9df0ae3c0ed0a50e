import ShadowTypes.Hint.Display
import ShadowTypes.Hint.Forward.Reader

/-!
# Forming hints

Hints are formed from other hints, and not all of them fit everywhere: a hint about the class
itself is no argument of a checked form, a checked generic class knows the number of its arguments,
and the arms of a checked union have to be comparable. Every function here keeps the normal form.
-/

namespace ShadowTypes

/-- How an expression is evaluated that is more than a word, when its names are looked up as
given. -/
abbrev Evaluator := (lookUp : String → Except Failure Hint) → String → Except Failure Hint

namespace Hint

def misfit (text : String) : Failure := ⟨"TypeError", text⟩

/-- The arms of a hint cannot be compared, since it holds a value of a type that is no key. -/
def incomparable (typeName : String) : Failure :=
  misfit ("unhashable type: '" ++ typeName ++ "'")

/-- The hint stands where only hints for values may stand. -/
def notArgument : Hint → Failure
  | .classVar [] => misfit "Plain typing.ClassVar is not valid as type argument"
  | h =>
    if h.isUnwritable true then Numeral.unwritable
    else misfit (h.display ++ " is not valid as type argument")

/-- Whether the hint is about the class itself, markers aside if it has no argument. -/
def isAboutClass : Hint → Bool
  | .classVar _ | .annotated (.classVar []) _ => true
  | _ => false

/-- A name in quotes as a forward reference, which has to be an expression. -/
def forward (s : String) : Except Failure Hint :=
  match Text.surrogates? (fun _ => true) (Forward.source s) with
  | some (position, length) => .error (.unencodable (Forward.source s) position length)
  | Option.none =>
    if s.toList.contains '\x00' then
      .error ⟨"ValueError", "source code string cannot contain null bytes"⟩
    else if Forward.isExpression s then .ok (.reference (.forward s))
    else .error ⟨"SyntaxError", "Forward reference must be an expression -- got " ++ Text.quoted s⟩

def isNothing : Hint → Bool
  | .symbol s => s == "None"
  | _ => false

def asClass (h : Hint) : Hint := if h.isNothing then .none else h

/-- A hint where markers may follow: a name in quotes is a forward reference. -/
def subject : Hint → Except Failure Hint
  | .reference (.quoted s) => forward s
  | h => .ok h.asClass

def argument (h : Hint) : Except Failure Hint :=
  if h.isAboutClass then .error h.notArgument else h.subject

/-- The type of the first value of a literal or marker that is no key. -/
def firstLoose? (vs : List Value) : Option String :=
  (vs.find? fun v => !v.isKey).map Value.typeName

mutual
/-- The type of the first value in a hint that is no key, for which hints cannot be compared. -/
def loose? : Hint → Option String
  | .generic _ args => looseAmong? args
  | .union _ arms => looseAmong? arms
  | .literal values => firstLoose? values
  | .annotated h ms => (loose? h).or (firstLoose? (ms.flatMap Marker.settings))
  | .classVar args => looseAmong? args
  | _ => Option.none

/-- The type of the first value in hints that is no key. -/
def looseAmong? : List Hint → Option String
  | [] => Option.none
  | h :: hs => (loose? h).or (looseAmong? hs)
end

def oneOf (hs : List Hint) : Except Failure Hint := do
  if hs.isEmpty then throw (misfit "Cannot take a Union of no types.")
  let all := (← hs.mapM argument).flatMap arms
  match looseAmong? all with
  | some t => throw (incomparable t)
  | Option.none => return ofArms true (distinct all)

/-- The hint for values of the given hint and for nothing. -/
def optional (h : Hint) : Except Failure Hint := do oneOf [← h.argument, .none]

/-- Whether the hint is a class, so that a bar may stand next to it. -/
def isClassLike : Hint → Bool
  | .none | .named _ | .generic ⟨_, false⟩ _ | .union false _ => true
  | h => h.isNothing

/-- Whether the hint is a checked form, which takes anything on the other side of a bar. -/
def isChecked : Hint → Bool
  | .parameter .. | .bare _ | .generic ⟨_, true⟩ _ | .union true _ | .literal _ | .annotated .. |
    .classVar _ | .reference (.forward _) => true
  | _ => false

/-- What kind of thing the hint is, for a bar that does not fit. -/
def kindName : Hint → String
  | .none => "type"
  | .named c => if c.text = "typing.Any" then "_AnyMeta" else "type"
  | .symbol s =>
    if s = "None" then "NoneType"
    else if s = "Ellipsis" then "ellipsis"
    else if s = "True" || s = "False" then "bool"
    else if s = "NotImplemented" then "NotImplementedType"
    else "builtin_function_or_method"
  | .reference _ => "str"
  | .generic .. => "types.GenericAlias"
  | .union .. => "types.UnionType"
  | .parameter .. | .bare _ | .literal _ | .annotated .. | .classVar _ => "type"

/-- Whether two classes have a bar between them; there is none between two constants. -/
def areClasses (g h : Hint) : Bool :=
  g.isClassLike && h.isClassLike && !(g.isNothing && h.isNothing)

def needsUnion (g h : Hint) : Bool := !areClasses g h && (g.isChecked || h.isChecked)

def either (g h : Hint) : Except Failure Hint :=
  if needsUnion g h then oneOf [g, h]
  else if areClasses g h then .ok (ofArms false (distinct ((g.arms ++ h.arms).map asClass)))
  else .error (misfit ("unsupported operand type(s) for |: '" ++ g.kindName ++ "' and '" ++
    h.kindName ++ "'"))

def joined : List Hint → Except Failure Hint
  | [] => .error (misfit "reduce() of empty iterable with no initial value")
  | h :: hs => hs.foldlM either h

/-- How many arguments a checked generic class has; a tuple has any number. -/
def arity? (head : Generic) : Option Nat :=
  if head.name = "tuple" then Option.none else if head.name = "dict" then some 2 else some 1

/-- The classes that take arguments without looking at them. -/
def openClasses : List String := [
  "list", "dict", "set", "frozenset", "tuple", "type", "enumerate", "BaseExceptionGroup",
  "ExceptionGroup"]

def appliedChecked (head : Generic) (args : List Hint) : Except Failure Hint := do
  let args ← args.mapM argument
  match arity? head with
  | Option.none => return .generic head args
  | some n =>
    if args.length = n then return .generic head args
    else
      let amount := if n < args.length then "many" else "few"
      throw (misfit ("Too " ++ amount ++ " arguments for " ++ head.spelling ++ "; actual " ++
        Nat.repr args.length ++ ", expected " ++ Nat.repr n))

def applied (head : Generic) (args : List Hint) : Except Failure Hint :=
  if head.checked then appliedChecked head args
  else if openClasses.contains head.name then .ok (.generic head args)
  else .error (misfit ("type '" ++ head.name ++ "' is not subscriptable"))

def isValue : Hint → Bool
  | h@(.symbol _) => h.kindName != "builtin_function_or_method"
  | _ => false

def marked (h : Hint) (ms : List Marker) : Except Failure Hint :=
  match h with
  | .annotated g ns => .ok (.annotated g (ns ++ ms))
  | g =>
    if g.isValue then
      .error ⟨"AttributeError", "'" ++ g.kindName ++ "' object has no attribute '__module__'"⟩
    else .ok (.annotated g ms)

def withMarkers (h : Hint) (ms : List Marker) : Except Failure Hint := do
  if ms.isEmpty then
    throw (misfit ("Annotated[...] should be used with at least two arguments " ++
      "(a type and an annotation)."))
  marked (← h.subject) ms

def ofClass (h : Hint) : Except Failure Hint := do return .classVar [← h.argument]

mutual
/-- The hint with its references replaced, or the first failure to do so. -/
def substitute (f : Reference → Except Failure Hint) : Hint → Except Failure Hint
  | .reference r => f r
  | .generic head args => do return .generic head (← substituteAll f args)
  | .union checked arms => do
    let hs ← substituteAll f arms
    if checked then oneOf hs else joined hs
  | .annotated h ms => do marked (← substitute f h) ms
  | .classVar args => do return .classVar (← substituteAll f args)
  | h => .ok h

/-- The hints with their references replaced, from left to right. -/
def substituteAll (f : Reference → Except Failure Hint) :
    List Hint → Except Failure (List Hint)
  | [] => .ok []
  | h :: hs => do
    let g ← substitute f h
    return g :: (← substituteAll f hs)
end

end Hint

end ShadowTypes
