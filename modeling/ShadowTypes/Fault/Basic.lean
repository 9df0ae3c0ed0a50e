import ShadowTypes.Fault.Failure
import ShadowTypes.Keyed

/-!
# Faults

A fault is an error of the library: a code from a fixed list, a message, the context in which it
arose, further details by name, and the failure from outside that caused it, if one did. Updating
the context or the details returns a new fault and leaves code, message, cause and time alone.
-/

namespace ShadowTypes

/-- What kind of trouble a code stands for. -/
inductive Category
  | validation
  | invalidSchema
  | resource
  | internal
  deriving DecidableEq, Repr

def Category.text : Category → String
  | .validation => "validation"
  | .invalidSchema => "invalid-schema"
  | .resource => "resource"
  | .internal => "internal"

/-- The codes of faults. -/
inductive Code
  | invalidInput
  | invalidDocument
  | invalidModel
  | duplicateProperty
  | conflictingDirectives
  | fileNotFound
  | fileUnreadable
  | fileUnwritable
  | moduleUnusable
  | internal
  | unexpected
  deriving DecidableEq, Repr, Inhabited

namespace Code

def number : Code → Nat
  | .invalidInput => 2000
  | .invalidDocument => 2021
  | .invalidModel => 2030
  | .duplicateProperty => 2031
  | .conflictingDirectives => 2032
  | .fileNotFound => 6001
  | .fileUnreadable => 6002
  | .fileUnwritable => 6003
  | .moduleUnusable => 6004
  | .internal => 9000
  | .unexpected => 9001

def name : Code → String
  | .invalidInput => "E2000_VALIDATION_GENERIC"
  | .invalidDocument => "E2021_INVALID_DOCUMENT"
  | .invalidModel => "E2030_INVALID_SCHEMA"
  | .duplicateProperty => "E2031_DUPLICATE_PROPERTY"
  | .conflictingDirectives => "E2032_CONFLICTING_ANNOTATIONS"
  | .fileNotFound => "E6001_FILE_NOT_FOUND"
  | .fileUnreadable => "E6002_FILE_READ_ERROR"
  | .fileUnwritable => "E6003_FILE_WRITE_ERROR"
  | .moduleUnusable => "E6004_MODULE_IMPORT_ERROR"
  | .internal => "E9000_INTERNAL_GENERIC"
  | .unexpected => "E9001_UNEXPECTED_ERROR"

def all : List Code :=
  [.invalidInput, .invalidDocument, .invalidModel, .duplicateProperty, .conflictingDirectives,
    .fileNotFound, .fileUnreadable, .fileUnwritable, .moduleUnusable, .internal, .unexpected]

def category (c : Code) : Category :=
  let n := c.number
  if 2030 ≤ n && n < 2040 then .invalidSchema
  else if 2000 ≤ n && n < 3000 then .validation
  else if 6000 ≤ n && n < 7000 then .resource
  else .internal

/-- Whether the code is about the structure of a model. -/
def isInvalidSchema (c : Code) : Bool := c.category == .invalidSchema

def ofNumber? (n : Int) : Option Code := all.find? fun c => Int.ofNat c.number == n

def ofName? (s : String) : Option Code := all.find? (·.name == s)

theorem ofNumber?_number (c : Code) : ofNumber? (Int.ofNat c.number) = some c := by
  cases c <;> rfl

end Code

/-- Values by name; a name has one value. -/
abbrev Details := Keyed Value

namespace Details

def present (d : Details) : Details := d.filter fun e => !e.2.isNull

end Details

/-- The circumstances of a fault. -/
structure Context where
  /-- Ties together what belongs to one run. -/
  correlation : Option String := some ""
  /-- When the fault arose, in seconds. -/
  time : Nat := 0
  /-- The source of the description. -/
  origin : Option String := some ""
  /-- The qualified name of the model. -/
  model : Option String := none
  deriving DecidableEq, Repr, Inhabited

/-- An error of the library. -/
structure Fault where
  code : Code
  message : String
  context : Context := {}
  details : Details := []
  cause : Option Failure := none
  deriving Repr, Inhabited

/-- New values for parts of a context; `none` leaves the part alone. -/
structure ContextUpdate where
  correlation : Option (Option String) := none
  origin : Option (Option String) := none
  model : Option (Option String) := none
  details : Details := []

namespace Fault

def withContext (f : Fault) (u : ContextUpdate) : Fault :=
  { f with
    context := { f.context with
      correlation := u.correlation.getD f.context.correlation
      origin := u.origin.getD f.context.origin
      model := u.model.getD f.context.model }
    details := f.details.merge u.details }

def withDetails (f : Fault) (d : Details) : Fault := { f with details := f.details.merge d }

def fromOrigin (f : Fault) (origin : String) : Fault :=
  f.withContext { origin := some (some origin) }

/-- Code, message and correlation in one line. -/
def text (f : Fault) : String :=
  "[" ++ f.code.name ++ "] " ++ f.message ++
    " (correlation_id=" ++ f.context.correlation.getD "None" ++ ")"

@[simp] theorem code_withContext (f : Fault) (u : ContextUpdate) :
    (f.withContext u).code = f.code := rfl

@[simp] theorem message_withContext (f : Fault) (u : ContextUpdate) :
    (f.withContext u).message = f.message := rfl

@[simp] theorem code_withDetails (f : Fault) (d : Details) : (f.withDetails d).code = f.code := rfl

@[simp] theorem message_withDetails (f : Fault) (d : Details) :
    (f.withDetails d).message = f.message := rfl

@[simp] theorem details_withDetails (f : Fault) (d : Details) :
    (f.withDetails d).details = f.details.merge d := rfl

/-! ## The faults of the library -/

/-- A description breaks a rule; details that are null are left out. -/
def invalid (message : String) (code : Code := .invalidInput) (field value : Value := .null)
    (origin : String := "") (model : Option String := none) (details : Details := []) : Fault :=
  { code, message
    context := { origin := some origin, model }
    details := Details.present (Keyed.merge [("field", field), ("value", value)] details) }

def optional : Option String → Value
  | some s => .text s
  | none => .null

/-- A model breaks a rule of its structure. -/
def invalidModel (model : Option String) (reason : String) (code : Code := .invalidModel)
    (property : Option String := none) (origin : String := "") (details : Details := []) : Fault :=
  let subject := match model with
    | some m => if m = "" then "<unnamed model>" else m
    | none => "<unnamed model>"
  let subject := match property with
    | some p => if p = "" then subject else subject ++ "." ++ p
    | none => subject
  invalid ("Invalid schema for '" ++ subject ++ "': " ++ reason) code (optional property) .null
    origin model details

def duplicateProperty (model : Option String) (property : Option String) (origin : String := "") :
    Fault :=
  invalidModel model
    ("property '" ++ property.getD "None" ++ "' is declared more than once")
    .duplicateProperty property origin

def conflictingDirectives (model property : Option String) (found : List String)
    (origin : String := "") : Fault :=
  invalidModel model
    ("at most one check annotation is allowed, found " ++ ", ".intercalate found)
    .conflictingDirectives property origin [("annotations", .list (found.map .text))]

def invalidDocument (path reason : String) (origin : String := "") : Fault :=
  invalid ("Invalid model document '" ++ path ++ "': " ++ reason) .invalidDocument .null .null
    origin none [("path", .text path)]

def fileNotFound (path : String) (origin : String := "") : Fault :=
  { code := .fileNotFound
    message := "File not found: " ++ path
    context := { origin := some origin }
    details := [("path", .text path)] }

def fileUnreadable (path : String) (cause : Failure) (origin : String := "") : Fault :=
  { code := .fileUnreadable
    message := "Could not read '" ++ path ++ "': " ++ cause.text
    context := { origin := some origin }
    details := [("path", .text path)]
    cause := some cause }

def fileUnwritable (path : String) (cause : Failure) (model : Option String := none)
    (origin : String := "") : Fault :=
  { code := .fileUnwritable
    message := "Could not write '" ++ path ++ "': " ++ cause.text
    context := { origin := some origin, model }
    details := [("path", .text path)]
    cause := some cause }

def moduleUnusable (module : String) (cause : Failure) (origin : String := "") : Fault :=
  { code := .moduleUnusable
    message := "Could not import module '" ++ module ++ "': " ++ cause.text
    context := { origin := some origin }
    details := [("module", .text module)]
    cause := some cause }

def unexpected (cause : Failure) (model : Option String) (origin : String) : Fault :=
  { code := .unexpected
    message := "Unexpected error: " ++ cause.text
    context := { origin := some origin, model }
    cause := some cause }

end Fault

end ShadowTypes
