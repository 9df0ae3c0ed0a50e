import ShadowTypes.Text.Blank
import ShadowTypes.Text.Folding

/-!
# Type names

A type name is free text. A question mark at its end, blanks aside, marks a nullable type; the
`bare` name is the name without blanks around it and without one such mark.
-/

namespace ShadowTypes.TypeName

open Text

def marker : Char := '?'

def isEmpty (s : String) : Bool := s.toList.all isBlank

def isNullable (s : String) : Bool := (dropWhileEnd isBlank s.toList).getLast? == some marker

/-- The characters of a name without blanks around them and without one mark. -/
def bareChars (l : List Char) : List Char :=
  let trimmed := dropBothEnds isBlank l
  if trimmed.getLast? = some marker then dropWhileEnd isBlank trimmed.dropLast else trimmed

/-- The name without blanks around it and without one mark. -/
def bare (s : String) : String := String.ofList (bareChars s.toList)

/-- The name as it is compared: without blanks around it, in folded case. -/
def key (s : String) : String := fold (trim s)

@[simp] theorem toList_bare (s : String) : (bare s).toList = bareChars s.toList := by
  simp [bare]

theorem toList_key (s : String) : (key s).toList = foldChars (dropBothEnds isBlank s.toList) := by
  simp [key]

end ShadowTypes.TypeName
