import ShadowTypes.Model
import ShadowTypes.TypeName

/-!
# Candidate names

The candidates are the qualified names of the models of a pass. Names that fold to the same text
are one candidate, spelled as the first of them. `canonical?` finds the candidate that a type name
refers to, blanks around it and letter case aside.
-/

namespace ShadowTypes

/-- Declared names by their folding; no folding occurs twice. -/
structure Candidates where
  entries : List (String × String)
  deriving Repr, Inhabited

namespace Candidates

def empty : Candidates := ⟨[]⟩

def add (c : Candidates) (name : String) : Candidates :=
  if c.entries.any (·.1 == Text.fold name) then c
  else ⟨c.entries ++ [(Text.fold name, name)]⟩

def ofNames (names : List String) : Candidates := names.foldl add empty

def ofModels (models : List Model) : Candidates := ofNames (models.map Model.qualifiedName)

def canonical? (c : Candidates) (typeName : String) : Option String :=
  (c.entries.find? (·.1 == TypeName.key typeName)).map (·.2)

def contains (c : Candidates) (typeName : String) : Bool :=
  c.entries.any (·.1 == TypeName.key typeName)

def size (c : Candidates) : Nat := c.entries.length

@[simp] theorem canonical?_empty (t : String) : empty.canonical? t = none := rfl

/-- A type name refers to a candidate exactly if a declared name is found for it. -/
theorem contains_eq_isSome (c : Candidates) (t : String) :
    c.contains t = (c.canonical? t).isSome := by
  rw [contains, canonical?, Option.isSome_map, List.isSome_find?]

end Candidates

end ShadowTypes
