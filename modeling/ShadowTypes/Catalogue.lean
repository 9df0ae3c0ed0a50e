import ShadowTypes.Class.Basic
import ShadowTypes.Description.Entry
import ShadowTypes.Hint.Written
import ShadowTypes.Log

/-!
# Catalogues of classes

A catalogue holds the declared classes and a register of those that opted in to generation. The
register has one class per module and path: a later declaration takes the place of an earlier one.
A forward reference leads to the latest class of that name in its module, registered or not, and
else to what the name means everywhere.
-/

namespace ShadowTypes

/-- How a class opts in to generation. -/
inductive Mark
  | unmarked
  /-- With its module as namespace. -/
  | plain
  /-- With a namespace of its own. -/
  | inside (space : String)
  deriving DecidableEq, Repr, Inhabited

/-- The declaration of a class. Other declarations refer to it by its label. -/
structure Declaration where
  label : String
  module : String
  name : String
  path : String
  bases : List String := []
  fields : List (String × WrittenHint) := []
  mark : Mark := .plain
  deriving Repr, Inhabited

structure Catalogue where
  /-- All classes by label, in the order of their declarations. -/
  classes : List (String × Class) := []
  /-- The classes that opted in. -/
  register : Keyed Class := []
  pool : HintPool := {}
  deriving Repr, Inhabited

namespace Catalogue

def labelled (k : Catalogue) (label : String) : Except Failure Class :=
  match k.classes.reverse.find? (·.1 == label) with
  | some (_, c) => .ok c
  | none => .error ⟨"KeyError", Text.quoted label⟩

def named? (k : Catalogue) (module name : String) : Option Class :=
  (k.classes.reverse.find? fun e => e.2.module == module && e.2.name == name).map (·.2)

def ownName : String := "__name__"

def unsaid : List String := ["__doc__", "__loader__", "__package__", "__spec__"]

def labels (k : Catalogue) : Labels := fun name => (k.labelled name).map Class.className

def read (k : Catalogue) (w : WrittenHint) : Except Failure (Hint × Catalogue) := do
  let (h, pool) ← w.read k.labels k.pool
  return (h, { k with pool })

def undefined (name : String) : Failure := ⟨"NameError", "name '" ++ name ++ "' is not defined"⟩

def namesOnly : Evaluator := fun _ text => .error (undefined text)

def nameMeaning (k : Catalogue) (module name : String) : Except Failure Hint :=
  match k.named? module name with
  | some c => .ok (.named c.className)
  | none =>
    if unsaid.contains name then .ok .none
    else match Hint.known? name with
      | some h => h.subject
      | none => .error (undefined name)

def meaning (k : Catalogue) (module text : String) (evaluate : Evaluator := namesOnly) :
    Except Failure Hint := do
  let _ ← Hint.forward text
  if Forward.isName text then k.nameMeaning module text
  else if Forward.valueWords.contains text then (Hint.symbol text).subject
  else evaluate (k.nameMeaning module) text

/-- How references are looked up in the catalogue. The name of a module is a reference in turn. -/
def lookup (k : Catalogue) (evaluate : Evaluator := namesOnly) : Class.Lookup := fun module r =>
  if r.name = ownName && (k.named? module ownName).isNone then k.meaning module module evaluate
  else k.meaning module r.name evaluate

/-- The namespace that a mark gives to a class of a module. -/
def givenSpace (module : String) : Mark → Option String
  | .unmarked => none
  | .plain => some module
  | .inside s => some s

def fields (k : Catalogue) : List (String × WrittenHint) →
    Except Failure (Keyed Hint × Catalogue)
  | [] => .ok ([], k)
  | (name, w) :: ws => do
    let (h, k) ← k.read w
    let (hs, k) ← fields k ws
    return ((name, h) :: hs, k)

def classOf (k : Catalogue) (d : Declaration) (fields : Keyed Hint) : Except Failure Class := do
  let bases ← d.bases.mapM k.labelled
  let identity := k.classes.length + 1
  let own : Layer :=
    { identity, module := d.module, name := d.name, space := givenSpace d.module d.mark
      fields := Keyed.merge [] fields }
  let lineage ← Lineage.extend own (bases.map Class.lineage)
  return { name := d.name, module := d.module, path := d.path, lineage, identity }

def declare (k : Catalogue) (d : Declaration) : Except Failure Catalogue := do
  let (fields, k) ← k.fields d.fields
  let c ← k.classOf d fields
  let register := if d.mark = .unmarked then k.register else k.register.set c.key c
  return { k with classes := k.classes ++ [(d.label, c)], register }

/-- The catalogue with an empty register; the classes stay declared. -/
def clear (k : Catalogue) : Catalogue := { k with register := [] }

def registered (k : Catalogue) : List Class := k.register.items

def describe (k : Catalogue) (c : Class) (evaluate : Evaluator := namesOnly) :
    Except Failure Value :=
  c.describe (k.lookup evaluate)

/-- Whether a failure says that the hints of a class cannot be used. -/
def isHintFailure (x : Failure) : Bool := x.kind == "NameError" || x.kind == "TypeError"

/-- The model of a class; hints that cannot be used are a fault of the class. -/
def model (k : Catalogue) (c : Class) (evaluate : Evaluator := namesOnly) :
    Except Failure (Except Fault Model) :=
  let origin := "class " ++ c.key
  match k.describe c evaluate with
  | .ok v => .ok (Description.modelForm.enter v origin)
  | .error x =>
    if isHintFailure x then
      .ok (.error (.invalidModel (some c.qualifiedName)
        ("cannot evaluate annotations: " ++ x.text) .invalidModel none origin))
    else .error x

def event (ms : List (Except Fault Model)) : Event :=
  let (models, faults) := Description.partition ms
  { logger := Event.sourceLogger, level := .info, name := "classes_reflected"
    fields := [("models", .int models.length), ("rejected", .int faults.length)] }

/-- The models of classes, and what is logged about them. -/
def discover (k : Catalogue) (cs : List Class) (evaluate : Evaluator := namesOnly) :
    Except Failure (List (Except Fault Model) × Event) := do
  let ms ← cs.mapM (k.model · evaluate)
  return (ms, event ms)

end Catalogue

end ShadowTypes
