import ShadowTypes.Description.Model
import ShadowTypes.Fault.Raised

/-!
# Entries

Descriptions enter as values from some origin. An entry that cannot be read is a fault with that
origin, and with the qualified name that the entry seems to have. The entries of a list are read
independently of each other; the fault of an entry tells its position.
-/

namespace ShadowTypes.Description

/-- A form of description: its name and how it is read. -/
structure Form (α : Type) where
  name : String
  read : (strict : Bool) → Value → Reading α

def modelForm : Form Model := ⟨"ModelSchema", readModel⟩

def propertyForm : Form Property := ⟨"PropertySchema", readProperty⟩

def basicForm : Form Directive := ⟨"BasicCheckAnnotation", readBasic⟩

def nestedForm : Form Directive := ⟨"NestedModelCheckAnnotation", readNested⟩

def textForm : Form Directive := ⟨"StringCheckAnnotation", fun _ v => readTextDirective v⟩

/-- The qualified name that a value seems to have. -/
def hint (v : Value) : Option String :=
  match v.opened with
  | .mapping es => match Entries.field? es "name" with
    | some (.text name) => match Entries.field? es "namespace" with
      | some (.text space) => some (qualify space name)
      | _ => some name
    | _ => none
  | _ => none

namespace Form

variable {α : Type}

def parse (f : Form α) (v : Value) (strict : Bool := false) : Except Raised α :=
  match f.read strict v with
  | .done a => .ok a
  | .issues cs => .error (.rejection (.ofComplaints cs (some f.name) none))
  | .halted e => .error (.fault e)

def enter (f : Form α) (v : Value) (origin : String := "ingress") (strict : Bool := false) :
    Except Fault α :=
  match f.read strict v with
  | .done a => .ok a
  | .issues cs =>
    .error ((Rejection.ofComplaints cs (some f.name) (hint v)).toFault.fromOrigin origin)
  | .halted e =>
    let model := if isGiven e.context.model then e.context.model else hint v
    .error (e.withContext { origin := some (some origin), model := some model })

def enterAt (f : Form α) (origin : String) (strict : Bool) (position : Nat) (v : Value) :
    Except Fault α :=
  match f.enter v origin strict with
  | .ok a => .ok a
  | .error e => .error (e.withDetails [("batch_index", .int position)])

def enterAll (f : Form α) (vs : List Value) (origin : String := "ingress")
    (strict : Bool := false) : List (Except Fault α) :=
  vs.zipIdx.map fun (v, i) => f.enterAt origin strict i v

theorem length_enterAll (f : Form α) (vs : List Value) (origin : String) (strict : Bool) :
    (f.enterAll vs origin strict).length = vs.length := by
  simp [enterAll]

end Form

def partition {α : Type} (rs : List (Except Fault α)) : List α × List Fault :=
  (rs.filterMap Except.toOption, rs.filterMap fun
    | .error e => some e
    | .ok _ => none)

end ShadowTypes.Description
