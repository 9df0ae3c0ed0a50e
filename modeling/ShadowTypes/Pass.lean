import ShadowTypes.Generation

/-!
# Passes

A pass first collects the qualified names of all its models and then generates each model on its
own. The outcomes come back in the order of the models. What happens is logged: the start of the
pass, exceptions from outside, every outcome, and the end.
-/

namespace ShadowTypes

/-- The result for one model of a pass. -/
structure Outcome where
  index : Nat
  qualifiedName : String
  result : Except Fault Source

structure PassResult where
  outcomes : List Outcome
  events : List Event

namespace PassResult

def sources (r : PassResult) : List Source :=
  r.outcomes.filterMap fun o => o.result.toOption

def faults (r : PassResult) : List Fault :=
  r.outcomes.filterMap fun o => match o.result with
    | .error f => some f
    | .ok _ => none

end PassResult

structure Pass where
  emitter : Emitter
  names : StringNames := .standard
  workers : Int := 1
  interruptions : Interruptions := .none

namespace Pass

def logger : String := "dtogen.pass"

/-- The candidates of a pass. A draft without any name has no qualified name to fold. -/
def candidates (drafts : List Draft) : Except Failure Candidates := do
  let names ← drafts.mapM fun d => match d.qualifiedName? with
    | some q => .ok q
    | none => .error (.missingText "casefold")
  return Candidates.ofNames names

def outcome (w : Workshop) (index : Nat) (d : Draft) : Outcome where
  index
  qualifiedName := if d.reportName = "" then "<model " ++ Nat.repr index ++ ">" else d.reportName
  result := w.generate d

def outcomeEvent (o : Outcome) : Event :=
  match o.result with
  | .ok s => { logger, level := .debug, name := "model_generated"
               fields := [("model", .text o.qualifiedName), ("file", .text s.fileName)] }
  | .error f => { logger, level := .warning, name := "model_skipped"
                  fields := [("model", .text o.qualifiedName), ("error_code", .text f.code.name),
                    ("category", .text f.code.category.text), ("message", .text f.message)] }

def startEvent (p : Pass) (models : Nat) : Event :=
  { logger, level := .info, name := "pass_started"
    fields := [("models", .int models), ("dialect", .text p.emitter.dialect.name),
      ("workers", .int p.workers)] }

def endEvent (outcomes : List Outcome) : Event :=
  { logger, level := .info, name := "pass_completed"
    fields := [("generated", .int (outcomes.filter fun o => o.result.toOption.isSome).length),
      ("skipped", .int (outcomes.filter fun o => o.result.toOption.isNone).length)] }

def workshop (p : Pass) (candidates : Candidates) : Workshop :=
  ⟨p.emitter, candidates, p.names, p.interruptions⟩

def generateAll (p : Pass) (candidates : Candidates) (drafts : List Draft) : PassResult :=
  let w := p.workshop candidates
  let outcomes := drafts.zipIdx.map fun (d, i) => outcome w i d
  { outcomes
    events := p.startEvent drafts.length :: (drafts.flatMap w.generationEvents ++
      outcomes.map outcomeEvent ++ [endEvent outcomes]) }

def run (p : Pass) (drafts : List Draft) : Except Failure PassResult := do
  let candidates ← candidates drafts
  return p.generateAll candidates drafts

def runModels (p : Pass) (models : List Model) : PassResult :=
  p.generateAll (Candidates.ofModels models) (models.map Model.toDraft)

end Pass

end ShadowTypes
