import ShadowTypes.Demand
import ShadowTypes.Text.Quoted
import ShadowTypes.TypeExpression

/-!
# Emitters

An emitter writes shadow types in one dialect, with a suffix that is appended to the names of
models and an indentation. It names the shadow type, its file and its members; a member may take
neither a reserved name nor the name of an earlier member.
-/

namespace ShadowTypes

/-- How shadow types are written. -/
structure Emitter where
  dialect : Dialect
  suffix : String
  layout : Layout
  deriving Repr

namespace Emitter

def defaultSuffix : String := "DTO"

def ofDialect (d : Dialect) (suffix : String := defaultSuffix) (layout : Option Layout := none) :
    Emitter :=
  ⟨d, suffix, layout.getD d.layout⟩

/-- The emitter of the dialect with a name, in any letter case and with blanks around it. -/
def ofName (name : String) (suffix : String := defaultSuffix) (layout : Option Layout := none) :
    Except Failure Emitter :=
  match Dialect.ofName? (Text.lower (Text.trim name)) with
  | some d => .ok (ofDialect d suffix layout)
  | none =>
    let known := ", ".intercalate (Dialect.all.map fun d => Text.quoted d.name)
    .error ⟨"ValueError",
      "Unknown target dialect: " ++ Text.quoted name ++ " (expected one of [" ++ known ++ "])"⟩

/-- The name of the shadow type of a model with the given name. -/
def shadowName (e : Emitter) (name : String) : String := name ++ e.suffix

/-- The name of the file that holds the shadow type. -/
def fileName (e : Emitter) (name : String) : String :=
  e.shadowName name ++ "." ++ e.dialect.extension

/-- Names that the shadow type uses for itself. A C# member may not have the name of its type. -/
def reserved (e : Emitter) (name : String) : List String :=
  match e.dialect with
  | .python => [e.dialect.validityMethod]
  | .csharp => [e.dialect.validityMethod, e.shadowName name]

/-- The fault of a member that takes a reserved name. -/
def reservedFault (subject : Option String) (key property : String) : Fault :=
  Fault.invalidModel subject ("'" ++ key ++ "' is reserved on the generated type") .invalidModel
    (some property)

/-- The fault of a member that takes another member's name. -/
def sharedFault (subject : Option String) (owner property member : String) : Fault :=
  Fault.invalidModel subject
    ("'" ++ owner ++ "' and '" ++ property ++ "' both generate member '" ++ member ++ "'")
    .duplicateProperty (some property)

/-- The members of properties with the given names; `owners` holds the names taken so far, each
with the property that took it. -/
def claimMembers (d : Dialect) (reserved : List String) (subject : Option String) :
    List (String × String) → List String → Except Fault (List String)
  | _, [] => .ok []
  | owners, p :: ps =>
    let member := d.member p
    let key := Dialect.unescaped member
    if reserved.contains key then .error (reservedFault subject key p)
    else match owners.find? (·.1 == key) with
      | some (_, owner) => .error (sharedFault subject owner p member)
      | none => (claimMembers d reserved subject ((key, p) :: owners) ps).map (member :: ·)

/-- The members of a model's properties, in order. -/
def memberNames (e : Emitter) (m : Model) : Except Fault (List String) :=
  claimMembers e.dialect (e.reserved m.name) (some m.qualifiedName) []
    (m.properties.map Property.name)

/-- The fragments of a model's resolved properties, over their members. -/
def fragments (e : Emitter) (resolved : List Resolved) : List String :=
  e.dialect.fragments (resolved.map fun r => (e.dialect.member r.name, r.check))

def typeExpression (e : Emitter) (typeName : String) (candidates : Candidates) : String :=
  TypeExpression.write e.dialect e.suffix typeName candidates

end Emitter

end ShadowTypes
