import ShadowTypes.CommandLine.Word
import ShadowTypes.Number.Numeral
import ShadowTypes.Settings.Basic

/-!
# Options

The options of a run come from the command line and, where it is silent, from the settings. A
dialect that the command line names is checked at once; one from the settings is looked up later.
An option that was given without a value stops the run where its value is needed.
-/

namespace ShadowTypes.CommandLine

/-- What a run is asked to do. -/
structure Options where
  sources : List PathName := []
  modules : List (Option String) := []
  out : Option PathName
  dialect : Option String
  suffix : String
  workers : Option Int
  jsonLogs : Bool
  dryRun : Bool := false
  deriving DecidableEq, Repr

/-- Why a run ends before it begins. -/
inductive Stop
  | help
  | usage (f : UsageFault)
  | failure (x : Failure)
  deriving DecidableEq, Repr

def noValue : String := "[]"

/-- A number is asked for, and the option has no value. -/
def notComparable : Failure :=
  ⟨"TypeError", "'<' not supported between instances of 'list' and 'int'"⟩

namespace Options

/-- The options if the command line says nothing. -/
def ofSettings (s : Settings) : Options where
  out := some (.ofText s.outputFolder)
  dialect := some s.dialect
  suffix := s.suffix
  workers := some s.workers
  jsonLogs := s.logJson

def apply (o : Options) (given : Given) : Except Stop Options :=
  let (sw, value) := given
  match sw with
  | .help => .error .help
  | .module => .ok { o with modules := o.modules ++ [value] }
  | .out => .ok { o with out := value.map .ofText }
  | .dialect => match value with
    | none => .ok { o with dialect := none }
    | some name =>
      if (Dialect.ofName? name).isSome then .ok { o with dialect := some name }
      else .error (.usage (.notChoice sw name (Dialect.all.map Dialect.name)))
  | .suffix => .ok { o with suffix := value.getD noValue }
  | .workers => match value with
    | none => .ok { o with workers := none }
    | some text => match Numeral.readInt 10 text with
      | .ok n => .ok { o with workers := some n }
      | .error _ => .error (.usage (.notInteger sw text))
  | .jsonLogs => .ok { o with jsonLogs := true }
  | .dryRun => .ok { o with dryRun := true }

def check (o : Options) : Except Stop Options :=
  if o.sources.isEmpty && o.modules.isEmpty then .error (.usage .noSources)
  else match o.workers with
    | none => .error (.failure notComparable)
    | some n => if n < 1 then .error (.usage .tooFewWorkers) else .ok o

def read (s : Settings) (texts : List String) : Except Stop Options := do
  let words ← (Word.ofTexts texts).mapError Stop.usage
  let (r, fault) := Sorted.sort {} words
  let o ← r.given.foldlM apply (ofSettings s)
  if let some f := fault then throw (.usage f)
  if !r.strays.isEmpty then throw (.usage (.unknown r.strays))
  check { o with sources := r.sources.map .ofText }

end Options

def help : String := "\n".intercalate [
  "usage: dtogen [-h] [-m MODULES] [-o OUT] [--dialect \x7bcsharp,python\x7d]",
  "              [--suffix SUFFIX] [-w WORKERS] [--json-logs] [--dry-run]",
  "              [MODELS ...]",
  "",
  "Generate validating shadow types (DTOs) from model descriptions.",
  "",
  "positional arguments:",
  "  MODELS                Model documents (.yaml, .yml, .json) or directories",
  "                        containing them",
  "",
  "options:",
  "  -h, --help            show this help message and exit",
  "  -m MODULES, --module MODULES",
  "                        Import a module and generate its @generate_dto classes",
  "                        (repeatable)",
  "  -o OUT, --out OUT     Output directory",
  "  --dialect \x7bcsharp,python\x7d",
  "                        Target language of generated sources",
  "  --suffix SUFFIX       Suffix appended to shadow type names",
  "  -w WORKERS, --workers WORKERS",
  "                        Worker threads",
  "  --json-logs           Render logs as JSON",
  "  --dry-run             Generate without writing files",
  ""]

end ShadowTypes.CommandLine
