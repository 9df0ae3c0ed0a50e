import ShadowTypes.Fault.Rejection

/-!
# Reports

A report is a mapping from elsewhere that tells what is wrong at one place. Whatever it leaves out
is filled in; what cannot be used as it is written is a failure, but only where it is needed.
-/

namespace ShadowTypes

def Step.ofValue : Value → Step
  | .int n => .index n
  | .bool b => .flag b
  | v => .key v.toText

/-- A value as a way into another one. A text is the way along its characters, and a mapping has no
last step. -/
def Location.ofValue (v : Value) : Except Failure Location :=
  if !v.isFilled then .ok []
  else match v with
    | .list vs => .ok (vs.map Step.ofValue)
    | .text s => .ok ((Text.spellings s.toList).map fun c => .key (String.ofList c))
    | .mapping _ => .error ⟨"KeyError", "-1"⟩
    | v => .error ⟨"TypeError", "'" ++ v.typeName ++ "' object is not iterable"⟩

namespace Complaint

/-- Something that is no mapping is asked for an entry. -/
def unaskable (v : Value) : Failure :=
  ⟨"AttributeError", "'" ++ v.typeName ++ "' object has no attribute 'get'"⟩

/-- Whether the advice on a constraint depends on what else is known. -/
def needsContext : Value → Bool
  | .text s => s = "union_tag_invalid" || s = "value_error"
  | _ => false

/-- The complaint that the entries of a report make; `known` is what else they tell. -/
def ofEntries (es : Entries) (known : Value) : Except Failure Complaint := do
  let entry (name : String) : Option Value := match known with
    | .mapping ks => Entries.field? ks name
    | _ => none
  let blank : Complaint := {}
  let c : Complaint :=
    { location := ← Location.ofValue ((es.field? "loc").getD .null)
      constraint := (es.field? "type").getD blank.constraint
      message := (es.field? "msg").getD blank.message
      found := (es.field? "input").getD .null
      reason := entry "error"
      expected := entry "expected_tags" }
  if c.isAboutType then return c
  if !c.constraint.isKey then
    throw ⟨"TypeError", "unhashable type: '" ++ c.constraint.typeName ++ "'"⟩
  match known with
  | .mapping _ => return c
  | known => if needsContext c.constraint then throw (unaskable known) else return c

def ofReport (v : Value) : Except Failure Complaint :=
  match v with
  | .mapping es => ofEntries es ((Entries.field? es "ctx").getD (.mapping []))
  | v => .error (unaskable v)

end Complaint

end ShadowTypes
