import ShadowTypes.Hint.Forming
import ShadowTypes.Hint.Known

/-!
# Written hints

A hint is written as an expression over names of classes; forming it needs the classes that the
labels stand for. A form that was written before with equal parts is the hint that was formed
then: parts are equal whatever the order of arms in them, so the first order written is the one
that stays. Every type variable is a new one.
-/

namespace ShadowTypes

inductive WrittenHint
  | builtin (name : String)
  /-- The class of a declaration, by its label. -/
  | label (name : String)
  /-- A class of a library, by its module and name. -/
  | library (path : String)
  | nothing
  | dots
  | parameter (name : String)
  | quoted (text : String)
  | union (args : List WrittenHint)
  /-- Hints with bars between them. -/
  | bars (args : List WrittenHint)
  | optional (arg : WrittenHint)
  | bare (head : String)
  | generic (head : String) (args : List WrittenHint)
  | literal (values : List Value)
  | annotated (arg : WrittenHint) (markers : List Marker)
  | anyClassVar
  | classVar (arg : WrittenHint)
  deriving Repr, Inhabited

inductive HintForm
  | union
  | optional
  | generic (head : Generic)
  | annotated (markers : List Marker)
  | classVar
  deriving Repr

def HintForm.same : HintForm → HintForm → Bool
  | .union, .union | .optional, .optional | .classVar, .classVar => true
  | .generic g, .generic h => g == h
  | .annotated ms, .annotated ns => Marker.sameAll ms ns
  | _, _ => false

/-- The hints formed so far. -/
structure HintPool where
  /-- The number of type variables. -/
  parameters : Nat := 0
  formed : List (HintForm × List Hint × Hint) := []
  deriving Repr, Inhabited

abbrev Labels := String → Except Failure ClassName

namespace HintPool

def find? (p : HintPool) (form : HintForm) (parts : List Hint) : Option Hint :=
  (p.formed.find? fun e => e.1.same form && Hint.sameAll e.2.1 parts).map (·.2.2)

/-- Puts parts into a form, unless that was done before. Parts that cannot be compared are not
remembered. -/
def form (p : HintPool) (f : HintForm) (parts : List Hint) (make : Except Failure Hint) :
    Except Failure (Hint × HintPool) :=
  match p.find? f parts with
  | some h => .ok (h, p)
  | none => do
    let h ← make
    if (Hint.looseAmong? (h :: parts)).isSome then return (h, p)
    return (h, { p with formed := p.formed ++ [(f, parts, h)] })

def union (p : HintPool) (hs : List Hint) : Except Failure (Hint × HintPool) :=
  p.form .union hs (Hint.oneOf hs)

/-- The hint for values of the given hint and for nothing. -/
def optional (p : HintPool) (h : Hint) : Except Failure (Hint × HintPool) :=
  match p.find? .optional [h] with
  | some g => .ok (g, p)
  | none => do
    let (g, p) ← p.union [← h.argument, .none]
    p.form .optional [h] (.ok g)

def either (p : HintPool) (g h : Hint) : Except Failure (Hint × HintPool) :=
  if Hint.needsUnion g h then p.union [g, h] else do return (← Hint.either g h, p)

def known (name : String) : Except Failure Hint :=
  match Hint.known? name with
  | some h => .ok h
  | none => .error ⟨"AttributeError", "module 'builtins' has no attribute " ++ Text.quoted name⟩

def applied (p : HintPool) (name : String) (args : List Hint) :
    Except Failure (Hint × HintPool) :=
  let head := Generic.ofName name
  if head.checked then p.form (.generic head) args (Hint.applied head args)
  else do match ← known name with
    | .named c => return (← Hint.applied ⟨c.name, false⟩ args, p)
    | h => throw (Hint.misfit ("'" ++ h.kindName ++ "' object is not subscriptable"))

end HintPool

namespace WrittenHint

mutual
def read (labels : Labels) (p : HintPool) : WrittenHint → Except Failure (Hint × HintPool)
  | .builtin name => do return (← HintPool.known name, p)
  | .label name => do return (.named (← labels name), p)
  | .library path => .ok (.named (.library path), p)
  | .nothing => .ok (.symbol "None", p)
  | .dots => .ok (.symbol "Ellipsis", p)
  | .parameter name =>
    .ok (.parameter p.parameters name, { p with parameters := p.parameters + 1 })
  | .quoted s => .ok (.reference (.quoted s), p)
  | .union args => do
    let (hs, p) ← readAll labels p args
    p.union hs
  | .bars args => do
    let (hs, p) ← readAll labels p args
    match hs with
    | [] => .error (Hint.misfit "reduce() of empty iterable with no initial value")
    | h :: hs => hs.foldlM (fun (g, p) h => p.either g h) (h, p)
  | .optional arg => do
    let (h, p) ← read labels p arg
    p.optional h
  | .bare head =>
    let head := Generic.ofName head
    if head.checked then .ok (.bare head, p) else do return (← HintPool.known head.name, p)
  | .generic head args => do
    let (hs, p) ← readAll labels p args
    p.applied head hs
  | .literal values => .ok (Hint.oneOfValues values, p)
  | .annotated arg markers => do
    let (h, p) ← read labels p arg
    p.form (.annotated markers) [h] (h.withMarkers markers)
  | .anyClassVar => .ok (.classVar [], p)
  | .classVar arg => do
    let (h, p) ← read labels p arg
    p.form .classVar [h] h.ofClass

def readAll (labels : Labels) (p : HintPool) :
    List WrittenHint → Except Failure (List Hint × HintPool)
  | [] => .ok ([], p)
  | w :: ws => do
    let (h, p) ← read labels p w
    let (hs, p) ← readAll labels p ws
    return (h :: hs, p)
end

end WrittenHint

end ShadowTypes
