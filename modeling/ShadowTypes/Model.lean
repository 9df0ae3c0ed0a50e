import ShadowTypes.Check

/-!
# Models

A model describes a source type: its namespace, its name and its properties in the order of their
declaration. A property may carry one directive, which adjusts its check.

A draft is a description that nobody has checked; parts of it may be missing.
-/

namespace ShadowTypes

/-- What a property's declaration asks of its check. -/
inductive Directive
  | basic (allowNull : Bool)
  | nested (allowNull validate : Bool)
  | text (rule : TextRule)
  deriving DecidableEq, Repr

def Directive.kind : Directive → String
  | .basic _ => "basic"
  | .nested .. => "nested_model"
  | .text _ => "string"

structure Property where
  name : String
  /-- The declared type; a mark at its end makes it nullable. -/
  typeName : String
  directive : Option Directive := none
  deriving DecidableEq, Repr, Inhabited

structure Model where
  /-- The namespace, empty for the global one. -/
  space : String := ""
  name : String
  properties : List Property := []
  deriving DecidableEq, Repr, Inhabited

def qualify (space name : String) : String := if space = "" then name else space ++ "." ++ name

def Model.qualifiedName (m : Model) : String := qualify m.space m.name

theorem Model.qualifiedName_of_space_eq {m : Model} (h : m.space = "") :
    m.qualifiedName = m.name := by
  simp [qualifiedName, qualify, h]

structure DraftProperty where
  name : Option String
  typeName : Option String
  directive : Option Directive := none
  deriving DecidableEq, Repr, Inhabited

/-- An unchecked description of a source type. -/
structure Draft where
  space : String := ""
  name : Option String
  properties : List DraftProperty := []
  deriving DecidableEq, Repr, Inhabited

def Property.toDraft (p : Property) : DraftProperty := ⟨some p.name, some p.typeName, p.directive⟩

def Model.toDraft (m : Model) : Draft := ⟨m.space, some m.name, m.properties.map Property.toDraft⟩

def DraftProperty.complete? (p : DraftProperty) : Option Property :=
  match p.name, p.typeName with
  | some name, some typeName => some ⟨name, typeName, p.directive⟩
  | _, _ => none

def missingWord : String := "None"

namespace Draft

def complete? (d : Draft) : Option Model :=
  match d.name, d.properties.mapM DraftProperty.complete? with
  | some name, some properties => some ⟨d.space, name, properties⟩
  | _, _ => none

def shownName (d : Draft) : String := d.name.getD missingWord

/-- Namespace and name, unless both are missing. -/
def qualifiedName? (d : Draft) : Option String :=
  if d.space = "" then d.name else some (qualify d.space d.shownName)

end Draft

@[simp] theorem Property.complete?_toDraft (p : Property) : p.toDraft.complete? = some p := rfl

theorem Model.complete?_toDraft (m : Model) : m.toDraft.complete? = some m := by
  have h : ∀ ps : List Property,
      (ps.map Property.toDraft).mapM DraftProperty.complete? = some ps := by
    intro ps
    induction ps with
    | nil => rfl
    | cons p ps ih => simp [ih]
  simp [Draft.complete?, Model.toDraft, h]

@[simp] theorem Model.qualifiedName?_toDraft (m : Model) :
    m.toDraft.qualifiedName? = some m.qualifiedName := by
  simp only [Draft.qualifiedName?, Draft.shownName, Model.toDraft, Model.qualifiedName, qualify,
    Option.getD_some]
  split <;> simp_all

end ShadowTypes
