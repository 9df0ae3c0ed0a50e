import ShadowTypes.Fault.Raised
import ShadowTypes.Source

/-!
# Generating one shadow type

A model is resolved, its fragments are written over its members, and the text is rendered. A draft
with missing parts never generates: a missing name or type is a fault, and a missing property name
is met by the first operation on that name.

Rendering can be interrupted by an exception from outside, given by the name of the model.
-/

namespace ShadowTypes

abbrev Interruptions := String → Option Raised

def Interruptions.none : Interruptions := fun _ => Option.none

/-- What every generation of a pass shares. -/
structure Workshop where
  emitter : Emitter
  candidates : Candidates
  names : StringNames := .standard
  interruptions : Interruptions := .none

def orRaise {α : Type} : Except Fault α → Except Raised α
  | .ok a => .ok a
  | .error f => .error (.fault f)

namespace Workshop

/-- The text of a model's shadow type, unless rendering is interrupted. -/
def render (w : Workshop) (m : Model) (fragments : List String) : Except Raised String :=
  match w.interruptions m.name with
  | some x => .error x
  | none => orRaise (w.emitter.render m fragments w.candidates)

/-- The source of a model's shadow type. -/
def build (w : Workshop) (m : Model) : Except Raised Source := do
  let resolved ← orRaise (m.resolve w.candidates w.names)
  let text ← w.render m (w.emitter.fragments resolved)
  return w.emitter.source m text

end Workshop

/-- The members of a draft's properties; a missing name is met after the names before it. -/
def Draft.memberNames (d : Draft) (e : Emitter) : Except Raised (List String) :=
  let names := d.properties.map DraftProperty.name
  let given := names.takeWhile Option.isSome
  match Emitter.claimMembers e.dialect (e.reserved d.shownName) d.qualifiedName? []
      (given.filterMap id) with
  | .error f => .error (.fault f)
  | .ok members =>
    if given.length = names.length then .ok members
    else .error (.failure (.missingText "lstrip"))

/-- The text of a draft's shadow type, over the given fragments. -/
def Draft.render (d : Draft) (e : Emitter) (fragments : List String) (candidates : Candidates) :
    Except Raised String := do
  let members ← d.memberNames e
  match Draft.complete? { d with name := some d.shownName } with
  | some m => return e.frame m members fragments candidates
  | none => throw (.failure (.missingText "strip"))

/-- Why a draft with missing parts does not generate. -/
def Workshop.buildIncomplete (w : Workshop) (d : Draft) : Except Raised Source := do
  let _ ← orRaise (d.resolve w.candidates w.names)
  match w.emitter.dialect with
  | .python => throw (.failure (.missingText "lstrip"))
  | .csharp =>
    match w.interruptions d.shownName with
    | some x => throw x
    | none =>
      let _ ← d.memberNames w.emitter
      throw (.failure (.missingText "lstrip"))

/-- The source of a draft's shadow type. -/
def Workshop.buildDraft (w : Workshop) (d : Draft) : Except Raised Source :=
  match d.complete? with
  | some m => w.build m
  | none => w.buildIncomplete d

theorem Workshop.buildDraft_toDraft (w : Workshop) (m : Model) :
    w.buildDraft m.toDraft = w.build m := by
  simp [buildDraft, Model.complete?_toDraft]

/-- The name under which a draft's result is reported: the qualified name if there is one, else
the plain one. -/
def Draft.reportName (d : Draft) : String :=
  match d.qualifiedName? with
  | some q => if q = "" then d.name.getD "" else q
  | none => d.name.getD ""

/-- The source of a draft's shadow type, or the fault that stands for what ended the work. -/
def Workshop.generate (w : Workshop) (d : Draft) : Except Fault Source :=
  match w.buildDraft d with
  | .ok s => .ok s
  | .error x => .error (x.toFault (some d.reportName) (some "generation"))

def Workshop.generationEvents (w : Workshop) (d : Draft) : List Event :=
  match w.buildDraft d with
  | .ok _ => []
  | .error x => x.events (some d.reportName)

end ShadowTypes
