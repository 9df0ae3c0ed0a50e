import ShadowTypes.Fault.Rejection
import ShadowTypes.Log

/-!
# What ends the work on a model

The work on one model can end with a fault, with the rejection of a description, or with a failure
from outside. Each becomes a fault: a fault keeps what it knows and learns model and origin only
where it has none, a rejection takes both as given, and a failure is logged and wrapped.
-/

namespace ShadowTypes

/-- What ends the work on a model. -/
inductive Raised
  | fault (f : Fault)
  | rejection (r : Rejection)
  | failure (x : Failure)
  deriving Repr, Inhabited

def isGiven : Option String → Bool
  | some s => s != ""
  | none => false

namespace Raised

/-- The fault that stands for it, for work on the given model from the given origin. -/
def toFault (x : Raised) (model : Option String) (origin : Option String) : Fault :=
  match x with
  | .fault f =>
    let f := if isGiven model && !isGiven f.context.model then f.withContext { model := some model }
      else f
    if isGiven origin && !isGiven f.context.origin then f.withContext { origin := some origin }
    else f
  | .rejection r => r.toFault.withContext { origin := some origin, model := some model }
  | .failure x => { Fault.unexpected x model "" with context := { origin, model } }

def events (x : Raised) (model : Option String) : List Event :=
  match x with
  | .failure x => [Event.ofFailure x model]
  | _ => []

end Raised

end ShadowTypes
