import ShadowTypes.Description.Property

/-!
# Models in descriptions

A model has a namespace, a name and properties. The names of the properties are compared once
everything else is in order; the first that repeats an earlier one is a fault.
-/

namespace ShadowTypes.Description

def spaceField : Field := .named "namespace"

def propertiesField : Field := .named "properties"

def readItems {α : Type} (read : Value → Reading α) (vs : List Value) : Reading (List α) :=
  .all (vs.zipIdx.map fun (v, i) => (read v).under (.index i))

/-- Reads a list of properties. Strict reading takes no list for what is to be immutable. -/
def readProperties (strict : Bool) (v : Value) : Reading (List Property) :=
  match v.opened with
  | .list vs => if strict then .refuse .listType v else readItems (readProperty strict) vs
  | .set vs => if strict then .refuse .listType v else readItems (readProperty strict) vs
  | .pair a b => readItems (readProperty strict) [a, b]
  | _ => .refuse .listType v

/-- The first name that occurs among the names before it. -/
def firstRepeated? (seen : List String) : List String → Option String
  | [] => none
  | n :: ns => if seen.contains n then some n else firstRepeated? (n :: seen) ns

/-- The model, unless two of its properties share a name. -/
def distinct (m : Model) : Reading Model :=
  match firstRepeated? [] (m.properties.map Property.name) with
  | none => .done m
  | some name => .halted (Fault.duplicateProperty (some m.qualifiedName) (some name))

def readFields (strict : Bool) (es : Entries) : Reading Model :=
  let space := spaceField.optional es "" (readSpace strict)
  let name := nameField.required es (readName strict)
  let properties := propertiesField.optional es [] (readProperties strict)
  closing [spaceField, nameField, propertiesField] es
    ((space.both (name.both properties)).map fun p => Model.mk p.1 p.2.1 p.2.2)

def readModel (strict : Bool) (v : Value) : Reading Model :=
  readEntries v fun es =>
    match readFields strict es with
    | .done m => distinct m
    | r => r

end ShadowTypes.Description
