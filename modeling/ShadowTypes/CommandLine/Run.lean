import ShadowTypes.CommandLine.Intake
import ShadowTypes.CommandLine.Options
import ShadowTypes.CommandLine.Store
import ShadowTypes.Console
import ShadowTypes.Pass

/-!
# Runs

A run takes models from its sources, generates their shadow types in one pass, stores them unless
it is a dry run, and prints a summary. It succeeds if nothing went wrong with any model.
-/

namespace ShadowTypes.CommandLine

structure Request where
  arguments : List String
  environment : Environment.Bindings := []
  tree : FileTree := .empty
  modules : Modules := []

structure Result where
  generated : List Source := []
  faults : List Fault := []
  tree : FileTree
  events : List Event := []

structure Report where
  exitCode : Nat
  output : String := ""
  /-- What is wrong with the command line. -/
  complaint : Option String := none
  tree : FileTree
  /-- The logged events, if they are logged as JSON. -/
  records : List Entries := []

/-! ## The summary -/

/-- Text attributes of a terminal. -/
inductive Style
  | reset
  | bold
  | dim
  | green
  | yellow
  | red
  deriving DecidableEq, Repr

/-- The characters that switch an attribute on, or all of them off. -/
def Style.code (s : Style) : String :=
  let number := match s with
    | .reset => "0"
    | .bold => "1"
    | .dim => "2"
    | .green => "32"
    | .yellow => "33"
    | .red => "31"
  "\x1b[" ++ number ++ "m"

def styled (s : Style) (text : String) : String := s.code ++ text ++ Style.reset.code

def generatedLine (o : Options) (s : Source) : String :=
  let folder := if o.dryRun then none else o.out
  let target := match folder with
    | none => s.fileName
    | some out => (Stored.target out s).text
  "  " ++ styled .green "✓" ++ " " ++ s.qualifiedName ++ " " ++ styled .dim ("→ " ++ target)

/-- What a fault is about: a model, a file, a module, or something unknown. -/
def label (f : Fault) : String :=
  let detail (key : String) : Option String :=
    match f.details.get? key with
    | some v => if v.isFilled then some v.toText else none
    | none => none
  match f.context.model with
  | some m => if m = "" then ((detail "path").or (detail "module")).getD "?" else m
  | none => ((detail "path").or (detail "module")).getD "?"

def faultLine (f : Fault) : String :=
  "  " ++ styled .red "✗" ++ " " ++ label f ++ ": " ++ f.message ++ " " ++
    styled .dim ("[" ++ f.code.name ++ "]")

/-- The last line of the summary, after an empty one. -/
def totalLine (dryRun : Bool) (generated faults : Nat) : String :=
  let color := if faults = 0 then Style.green else Style.yellow
  let verb := if dryRun then "would generate" else "generated"
  "\n" ++ Style.bold.code ++ styled color (verb ++ " " ++ Nat.repr generated ++ " type(s), " ++
    Nat.repr faults ++ " error(s)")

/-- The summary of a run, as it is printed line by line. -/
def summary (o : Options) (r : Result) : List String :=
  r.generated.map (generatedLine o) ++ r.faults.map faultLine ++
    [totalLine o.dryRun r.generated.length r.faults.length]

/-! ## The run -/

/-- What a run depends on besides its request: where it prints, how expressions in hints are
evaluated, and how deep its readers go. -/
structure Host where
  console : Console := .memory
  evaluate : Evaluator := Catalogue.namesOnly
  depths : Document.Depths := {}
  /-- How deep the list among the settings is read. -/
  settingsDepth : Nat := Json.usualDepth

def logger : String := "dtogen.cli"

def finished (o : Options) (r : Result) : Event :=
  { logger, level := .info, name := "generation_finished"
    fields := [("generated", .int r.generated.length), ("errors", .int r.faults.length),
      ("out", .text (o.out.elim noValue (·.text))), ("dry_run", .bool o.dryRun)] }

def intake (o : Options) (q : Request) (host : Host := {}) : Except Failure Intake := do
  let documents ← Intake.ofDocuments q.tree o.sources host.depths
  let classes ← Intake.ofModules q.modules o.modules host.evaluate
  return documents.append classes

def generate (s : Settings) (o : Options) (i : Intake) : Except Failure PassResult := do
  let some dialect := o.dialect | throw (.valueless "strip")
  let emitter ← Emitter.ofName dialect o.suffix
  return Pass.runModels ⟨emitter, .ofNames s.stringNames, o.workers.getD 1, .none⟩ i.models

/-- Stores what a pass generated, unless the run is dry. -/
def keep (o : Options) (t : FileTree) (sources : List Source) : Except Failure Stored :=
  if o.dryRun then .ok { tree := t, sources }
  else match o.out with
    | none => .error (.valueless "mkdir")
    | some out => Stored.store out t (sources.map .plain)

def perform (s : Settings) (o : Options) (q : Request) (host : Host := {}) :
    Except Failure Result := do
  let i ← intake o q host
  let rejected := i.faults.map fun f => Event.ofFault f "model_source_rejected"
  let p ← generate s o i
  let stored ← keep o q.tree p.sources
  let unwritten := stored.faults.map fun f => Event.ofFault f "write_failed"
  let r : Result :=
    { generated := stored.sources, faults := i.faults ++ p.faults ++ stored.faults
      tree := stored.tree, events := i.events ++ rejected ++ p.events ++ unwritten }
  return { r with events := r.events ++ [finished o r] }

/-- The report of a run that did not begin, unless it ended in a failure. -/
def refused (t : FileTree) : Stop → Except Failure Report
  | .help => .ok { exitCode := 0, output := help, tree := t }
  | .usage f => .ok { exitCode := 2, complaint := some f.line, tree := t }
  | .failure x => .error x

/-- Runs the program; a failure that no rule foresees ends it without a report. -/
def run (q : Request) (host : Host := {}) : Except Settings.Fault Report := do
  let s ← Settings.load q.environment q.tree host.settingsDepth
  match Options.read s q.arguments with
  | .error stop => (refused q.tree stop).mapError .failure
  | .ok o =>
    let threshold ← (Level.threshold s.logLevel).mapError .failure
    let r ← (perform s o q host).mapError .failure
    let output ← (host.console.print (summary o r)).mapError .failure
    return {
      exitCode := if r.faults.isEmpty then 0 else 1
      output
      tree := r.tree
      records := if o.jsonLogs then Event.records threshold r.events else [] }

end ShadowTypes.CommandLine
