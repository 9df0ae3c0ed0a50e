import ShadowTypes.Fault.Basic

/-!
# Rejections

A complaint says what is wrong at one place of a description: where, which constraint is broken,
what was found, and what is known beyond that. A detail is a complaint ready for a report, with
the place written as a path and with advice. A rejection is all that is wrong with one
description; as a fault it is its only detail, or a count and a list of them.
-/

namespace ShadowTypes

inductive Step
  | index (n : Int)
  /-- A truth value in the place of a position. -/
  | flag (b : Bool)
  | key (s : String)
  deriving DecidableEq, Repr

abbrev Location := List Step

def Step.word : Step → String
  | .index n => Int.repr n
  | .flag b => if b then "True" else "False"
  | .key s => s

def Step.text (first : Bool) : Step → String
  | .key s => if first then s else "." ++ s
  | s => "[" ++ s.word ++ "]"

def Location.path : Location → String
  | [] => "$"
  | s :: ss => s.text true ++ "".intercalate (ss.map (Step.text false))

def Location.lastWord (l : Location) : String :=
  (l.getLast?.map Step.word).getD ""

/-- What is wrong at one place. -/
structure Complaint where
  location : Location := []
  constraint : Value := .text "validation_error"
  message : Value := .text "Validation failed"
  found : Value := .null
  /-- Why the value was refused. -/
  reason : Option Value := none
  /-- The tags that were expected. -/
  expected : Option Value := none
  deriving Repr

namespace Complaint

def isAboutType (c : Complaint) : Bool :=
  c.location.lastWord = "typeName" || c.location.lastWord = "type_name"

def advice (c : Complaint) : Option String :=
  if c.isAboutType then
    some "Provide the property's declared type, e.g. 'string' or 'int?'"
  else match c.constraint with
    | .text "string_pattern_mismatch" =>
      some "Use a valid identifier (letters, digits, underscores; not starting with a digit)"
    | .text "missing" => some "This field is required - provide a value"
    | .text "extra_forbidden" => some "Remove this field - it is not allowed"
    | .text "union_tag_invalid" =>
      let tags := (c.expected.getD (.text "basic, nested_model, string")).toText
      some ("Annotation kind must be one of: " ++ tags)
    | .text "union_tag_not_found" =>
      some "Add a 'kind' key (basic, nested_model or string) to the annotation"
    | .text "bool_parsing" => some "Provide true or false"
    | .text "bool_type" => some "Provide a boolean (true/false) value"
    | .text "string_type" => some "Provide a string value"
    | .text "list_type" | .text "tuple_type" => some "Provide a list of values"
    | .text "dict_type" | .text "model_type" => some "Provide a mapping with key-value pairs"
    | .text "value_error" =>
      match c.reason with
      | some r => if r.isFilled && r.toText != "" then some r.toText else none
      | none => none
    | _ => none

end Complaint

/-- A complaint ready for a report. -/
structure Detail where
  path : String
  constraint : Value
  message : Value
  found : Value
  advice : Option String
  deriving Repr

namespace Detail

def ofComplaint (c : Complaint) : Detail where
  path := c.location.path
  constraint := c.constraint
  message := c.message
  found := c.found
  advice := c.advice

def line (d : Detail) : String := d.path ++ ": " ++ d.message.toText

/-- The detail as an entry of a list; what is not known is left out. -/
def entry (d : Detail) : Value :=
  .mapping ([(.text "field", .text d.path), (.text "constraint", d.constraint),
      (.text "message", d.message)] ++
    (if d.found.isNull then [] else [(.text "value", d.found)]) ++
    (match d.advice with
      | some a => if a = "" then [] else [(.text "suggested_fix", .text a)]
      | none => []))

def details (d : Detail) : Details :=
  [("field", .text d.path), ("constraint", d.constraint), ("value", d.found),
    ("suggested_fix", Fault.optional d.advice)]

end Detail

/-- All that is wrong with one description. -/
structure Rejection where
  message : String
  details : List Detail
  /-- What the description should have been. -/
  schema : Option String := none
  model : Option String := none
  deriving Repr, Inhabited

namespace Rejection

def ofComplaints (cs : List Complaint) (schema model : Option String) : Rejection :=
  ⟨"Validation failed", cs.map Detail.ofComplaint, schema, model⟩

def text (r : Rejection) : String :=
  match r.details with
  | [] => r.message
  | [d] => d.line
  | ds => r.message ++ " (" ++ Nat.repr ds.length ++ " errors)"

def schemaDetails (r : Rejection) : Details :=
  match r.schema with
  | some s => if s = "" then [] else [("schema", .text s)]
  | none => []

def toFault (r : Rejection) : Fault :=
  let context : Context := { origin := some "validation", model := r.model }
  match r.details with
  | [d] => { code := .invalidModel, message := d.line, context
             details := r.schemaDetails ++ d.details }
  | ds => { code := .invalidModel
            message := r.message ++ ": " ++ Nat.repr ds.length ++ " errors"
            context
            details := r.schemaDetails ++
              [("error_count", .int ds.length), ("errors", .list (ds.map Detail.entry))] }

end Rejection

end ShadowTypes
