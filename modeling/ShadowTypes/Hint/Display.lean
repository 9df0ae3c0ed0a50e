import ShadowTypes.Hint.Basic

/-!
# Hints in words

`display` writes a hint in full, as messages about it do: classes with their modules, the checked
spellings under their own names, texts in quotes. It serves messages only; the type name of a
property is `Hint.text`.
-/

namespace ShadowTypes

def Marker.display : Marker → String
  | .basic a => "BasicPropertyCheck(allow_null=" ++ a.display ++ ")"
  | .nested a v =>
    "DtoPropertyCheck(allow_null=" ++ a.display ++ ", check_is_valid=" ++ v.display ++ ")"
  | .text r => "StringPropertyCheck(check=" ++ r.display ++ ")"
  | .note s => Text.quoted s

def Generic.spelling (g : Generic) : String :=
  if g.checked then
    "typing." ++ (((checkedNames.find? (·.2 == g.name)).map (·.1)).getD g.name)
  else g.name

namespace Hint

/-- Items in brackets; no items are an empty pair of parentheses. -/
def listed (head : String) (items : List String) : String :=
  head ++ "[" ++ (if items.isEmpty then "()" else ", ".intercalate items) ++ "]"

mutual
def display : Hint → String
  | .named c => c.fullName
  | .none => "NoneType"
  | .symbol s => if s = "Ellipsis" then "..." else s
  | .parameter _ name => "~" ++ name
  | .reference (.forward s) => "ForwardRef(" ++ Text.quoted s ++ ")"
  | .reference (.quoted s) => Text.quoted s
  | .bare head => head.spelling
  | .generic ⟨name, false⟩ args => listed name (displays args)
  | .generic ⟨name, true⟩ args => listed (Generic.spelling ⟨name, true⟩) (displays args)
  | .union false arms => " | ".intercalate (plainDisplays arms)
  | .union true [.none, h] => "typing.Optional[" ++ display h ++ "]"
  | .union true [h, .none] => "typing.Optional[" ++ display h ++ "]"
  | .union true arms => listed "typing.Union" (displays arms)
  | .literal values => listed "typing.Literal" (values.map Value.display)
  | .annotated h ms =>
    "typing.Annotated[" ++ ", ".intercalate (display h :: ms.map Marker.display) ++ "]"
  | .classVar [] => "typing.ClassVar"
  | .classVar args => listed "typing.ClassVar" (displays args)

def displays : List Hint → List String
  | [] => []
  | h :: hs => display h :: displays hs

/-- The hints in full, as they stand between bars. -/
def plainDisplays : List Hint → List String
  | [] => []
  | .none :: hs => "None" :: plainDisplays hs
  | h :: hs => display h :: plainDisplays hs
end

end Hint

end ShadowTypes
