import ShadowTypes.Check
import ShadowTypes.Keyed
import ShadowTypes.Value.Display

/-!
# Markers

A marker is written next to a type hint and carries a directive in its raw form: its settings are
whatever values were written there. Notes stand in the same place and carry nothing.
-/

namespace ShadowTypes

/-- What is written next to a hint. -/
inductive Marker
  | basic (allowNull : Value)
  | nested (allowNull validate : Value)
  | text (rule : Value)
  | note (text : String)
  deriving Repr, Inhabited

namespace Marker

def same : Marker → Marker → Bool
  | .basic a, .basic b => a.sameKey b
  | .nested a v, .nested b w => a.sameKey b && v.sameKey w
  | .text r, .text s => r.sameKey s
  | .note s, .note t => s == t
  | _, _ => false

def sameAll : List Marker → List Marker → Bool
  | [], [] => true
  | m :: ms, n :: ns => m.same n && sameAll ms ns
  | _, _ => false

def settings : Marker → List Value
  | .basic a => [a]
  | .nested a v => [a, v]
  | .text r => [r]
  | .note _ => []

/-- Whether a setting of the marker holds a whole number that cannot be written. -/
def isUnwritable (m : Marker) : Bool := m.settings.any Value.isUnwritable

/-- The directive of a marker as it stands in a description; a note has none. -/
def entry? : Marker → Option Value
  | .basic a => some (.mapping [(.text "kind", .text "basic"), (.text "allow_null", a)])
  | .nested a v => some (.mapping [(.text "kind", .text "nested_model"), (.text "allow_null", a),
      (.text "check_is_valid", v)])
  | .text r => some (.mapping [(.text "kind", .text "string"),
      (.text "check", .text (TextRule.ofValue r).name)])
  | .note _ => none

end Marker

end ShadowTypes
