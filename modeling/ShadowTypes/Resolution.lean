import ShadowTypes.Candidates
import ShadowTypes.Fault.Basic
import ShadowTypes.StringNames

/-!
# Resolution

Every property resolves to one check. The first rule that fits decides: a nullable type has no
check beyond its type; a text type is checked by its directive or for text that is not blank; a
candidate is checked as a nested object; anything else must be present. A directive of another
family than the type's is passed over.
-/

namespace ShadowTypes

namespace Resolution

/-- The check of a property of the given type, which is not blank. -/
def check (typeName : String) (directive : Option Directive) (candidates : Candidates)
    (names : StringNames) : Check :=
  if TypeName.isNullable typeName then .basic true
  else if names.isString typeName then
    match directive with
    | some (.text rule) => .text rule
    | some (.basic true) => .text .allowNull
    | _ => .text Check.defaultRule
  else if candidates.contains typeName then
    match directive with
    | some (.nested allowNull validate) => .nested allowNull validate
    | some (.basic allowNull) => .nested allowNull Check.defaultValidate
    | _ => .nested Check.defaultAllowNull Check.defaultValidate
  else .basic false

/-- The property's type name, unless it is missing or blank. -/
def requireType (p : DraftProperty) (model : Option String) : Except Fault String :=
  let fault := Fault.invalidModel model "type name is empty" .invalidModel p.name
  match p.typeName with
  | some t => if TypeName.isEmpty t then .error fault else .ok t
  | none => .error fault

end Resolution

def DraftProperty.resolve (p : DraftProperty) (candidates : Candidates) (names : StringNames) :
    Except Fault Check := do
  let t ← Resolution.requireType p none
  return Resolution.check t p.directive candidates names

def Draft.resolve (d : Draft) (candidates : Candidates) (names : StringNames) :
    Except Fault (List Check) :=
  if d.name.getD "" = "" then .error (Fault.invalidModel none "model name is empty")
  else d.properties.mapM fun p => do
    let t ← Resolution.requireType p d.qualifiedName?
    return Resolution.check t p.directive candidates names

/-- A property with the check it resolved to. -/
structure Resolved where
  name : String
  typeName : String
  check : Check
  deriving DecidableEq, Repr

def Model.resolve (m : Model) (candidates : Candidates) (names : StringNames) :
    Except Fault (List Resolved) := do
  let checks ← m.toDraft.resolve candidates names
  return (m.properties.zip checks).map fun (p, c) => ⟨p.name, p.typeName, c⟩

end ShadowTypes
