import ShadowTypes.Description.Entry
import ShadowTypes.Json.Reader
import ShadowTypes.Yaml.Value

/-!
# Documents

A document is a list of model descriptions, bare or under the key `models`, as YAML or as JSON
text. A document that is unusable as a whole is a fault; otherwise every entry is read on its own.
-/

namespace ShadowTypes

abbrev Models := List (Except Fault Model)

namespace Document

def modelsKey : String := "models"

def unknownKeys (es : Entries) : List Value :=
  (es.filter fun e => !e.1.sameKey (.text modelsKey)).map (·.1)

def words (keys : List Value) : List String :=
  (keys.map Value.toText).mergeSort fun a b => !Text.precedes b a

/-- Whether a document has unknown keys that cannot be written in words. -/
def isUnspeakable (v : Value) : Bool :=
  match v.opened with
  | .mapping es => (unknownKeys es).any fun
    | .int n => Numeral.isUnwritable n
    | _ => false
  | _ => false

def ofList (vs : List Value) (origin : String) : Models :=
  Description.modelForm.enterAll vs origin

def parse (v : Value) (origin : String := "<document>") : Except Fault Models :=
  match v.opened with
  | .null => .ok []
  | .list vs => .ok (ofList vs origin)
  | .mapping es =>
    let unknown := unknownKeys es
    if !unknown.isEmpty then
      .error (.invalidDocument origin
        ("unexpected top-level keys: " ++ ", ".intercalate (words unknown)))
    else match Entries.field? es modelsKey with
      | none => .ok []
      | some v =>
        if !v.isFilled then .ok []
        else match v.opened with
          | .list vs => .ok (ofList vs origin)
          | _ => .error (.invalidDocument origin "'models' must be a list")
  | v =>
    .error (.invalidDocument origin
      ("expected a mapping with a 'models' list, got " ++ v.typeName))

/-- The models of a decoded document; unknown keys that cannot be written end the work. -/
def receive (v : Value) (origin : String := "<document>") : Except Failure (Except Fault Models) :=
  if isUnspeakable v then .error Numeral.unwritable else .ok (parse v origin)

/-- How the text of a document is written. -/
inductive Format
  | json
  | yaml
  deriving DecidableEq, Repr

def Format.text : Format → String
  | .json => "json"
  | .yaml => "yaml"

/-- The format with a name; any name but one means YAML. -/
def Format.ofName (s : String) : Format := if s = "json" then .json else .yaml

/-- How deep the readers go into collections. That depends on where they are called. -/
structure Depths where
  json : Nat := Json.usualDepth
  yaml : Nat := Yaml.Node.usualDepth

/-- The value of a text: a failure ends the loading, a fault only the document. -/
def decode (format : Format) (name : String) (s origin : String) (depths : Depths := {}) :
    Except Failure (Except Fault Value) :=
  let refused (reason : String) : Except Failure (Except Fault Value) :=
    .ok (.error (.invalidDocument origin ("cannot parse " ++ name ++ reason)))
  match format with
  | .json => match Json.read s depths.json with
    | .ok v => .ok (.ok v)
    | .error e => match e.failure? with
      | some x => .error x
      | none => refused (": " ++ e.message)
  | .yaml => match Yaml.read s depths.yaml with
    | .ok v => .ok (.ok v)
    | .error (.failure x) => .error x
    | .error .malformed => refused ""

def load (s : String) (formatName : String := "yaml") (origin : String := "<string>")
    (depths : Depths := {}) : Except Failure (Except Fault Models) := do
  match ← decode (.ofName formatName) formatName s origin depths with
  | .ok v => receive v origin
  | .error f => return .error f

end Document

end ShadowTypes
