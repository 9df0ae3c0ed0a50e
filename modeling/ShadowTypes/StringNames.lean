import ShadowTypes.TypeName

/-!
# Names of the text type

A list of names says which type names mean text. Names are compared in folded case; blanks around
the type name do not count.
-/

namespace ShadowTypes

/-- The folded names of the text type. -/
structure StringNames where
  folded : List String
  deriving Repr, Inhabited

namespace StringNames

def ofNames (names : List String) : StringNames := ⟨names.map Text.fold⟩

def defaults : List String := ["string", "System.String", "str", "builtins.str"]

def standard : StringNames := ofNames defaults

def isString (c : StringNames) (typeName : String) : Bool :=
  c.folded.contains (TypeName.key typeName)

end StringNames

end ShadowTypes
