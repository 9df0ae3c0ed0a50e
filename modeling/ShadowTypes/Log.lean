import ShadowTypes.Fault.Basic
import ShadowTypes.Json.Printer
import ShadowTypes.Text.Folding

/-!
# The event log

Work is reported as events: a logger's name, a level, the event's name and fields. A threshold
decides which levels are kept. An event whose fields do not have the shape of JSON is lost.
-/

namespace ShadowTypes

inductive Level
  | debug
  | info
  | warning
  | error
  deriving DecidableEq, Repr

namespace Level

def rank : Level → Nat
  | .debug => 10
  | .info => 20
  | .warning => 30
  | .error => 40

def text : Level → String
  | .debug => "debug"
  | .info => "info"
  | .warning => "warning"
  | .error => "error"

/-- The formats of messages, by the mark that their fields have. -/
def styles : String :=
  "\x7b'%': (<class 'logging.PercentStyle'>, '%(levelname)s:%(name)s:%(message)s'), " ++
  "'\x7b': (<class 'logging.StrFormatStyle'>, " ++
  "'\x7blevelname\x7d:\x7bname\x7d:\x7bmessage\x7d'), " ++
  "'$': (<class 'logging.StringTemplateStyle'>, " ++
  "'$\x7blevelname\x7d:$\x7bname\x7d:$\x7bmessage\x7d')\x7d"

/-- The least rank that a name asks for, in any letter case; an unknown name asks for `info`. Two
names stand for formats and are refused. -/
def threshold (name : String) : Except Failure Nat :=
  match Text.upper name with
  | "CRITICAL" | "FATAL" => .ok 50
  | "ERROR" => .ok 40
  | "WARNING" | "WARN" => .ok 30
  | "DEBUG" => .ok 10
  | "NOTSET" => .ok 0
  | "BASIC_FORMAT" =>
    .error ⟨"ValueError", "Unknown level: '%(levelname)s:%(name)s:%(message)s'"⟩
  | "_STYLES" => .error ⟨"TypeError", "Level not an integer or a valid string: " ++ styles⟩
  | _ => .ok 20

end Level

/-- Something worth reporting. -/
structure Event where
  logger : String
  level : Level
  name : String
  fields : Details := []
  deriving Repr

namespace Event

def record? (e : Event) : Option Entries :=
  let fields := e.fields.merge [("event", .text e.name), ("level", .text e.level.text),
    ("logger", .text e.logger), ("service", .text "dtogen"), ("version", .text "0.1.0")]
  match Json.shape? (.mapping (fields.map fun f => (.text f.1, f.2))) with
  | some (.mapping es) => some es
  | _ => none

def records (threshold : Nat) (events : List Event) : List Entries :=
  (events.filter (threshold ≤ ·.level.rank)).filterMap record?

def sourceLogger : String := "dtogen.ingest"

def faultLogger : String := "errors.exceptions"

/-- Reports a fault: a warning if a description is to blame, an error otherwise. -/
def ofFault (f : Fault) (name : String := "error") : Event :=
  let level := match f.code.category with
    | .validation | .invalidSchema => .warning
    | _ => .error
  { logger := faultLogger, level, name
    fields := [
      ("error_code", .text f.code.name),
      ("message", .text f.message),
      ("category", .text f.code.category.text),
      ("model", Fault.optional f.context.model),
      ("origin", Fault.optional f.context.origin),
      ("metadata", .mapping (f.details.map fun d => (.text d.1, d.2)))] }

def ofFailure (x : Failure) (model : Option String) : Event :=
  { logger := faultLogger, level := .error, name := "unexpected_exception"
    fields := [
      ("error_type", .text x.kind),
      ("error_message", .text x.text),
      ("model", Fault.optional model),
      ("exception", .text x.summary)] }

end Event

end ShadowTypes
