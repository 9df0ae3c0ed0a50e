import ShadowTypes.Text.Blank
import ShadowTypes.Text.Folding
import ShadowTypes.Fault.Failure

/-!
# Validation checks

A check says what the value of a property must be for an object to be valid. There are three:
`basic` asks for presence, `nested` for the validity of a nested object, and `text` for content,
by one of five rules. A rule can be read from loose input; what cannot be read is the rule
`unknown`, which is checked as strictly as `requireText`.
-/

namespace ShadowTypes

inductive TextRule
  | unknown
  | allowNull
  | allowEmpty
  | allowBlank
  | requireText
  deriving DecidableEq, Repr, Inhabited

namespace TextRule

def all : List TextRule := [.unknown, .allowNull, .allowEmpty, .allowBlank, .requireText]

def name : TextRule → String
  | .unknown => "unknown"
  | .allowNull => "allow_null"
  | .allowEmpty => "allow_empty_string"
  | .allowBlank => "allow_when_only_whitespace"
  | .requireText => "requires_non_whitespace_text"

/-- Characters that a name may be spelled with or without. -/
def isSeparator (c : Char) : Bool := Text.isBlank c || c == '_' || c == '-'

def squash (s : String) : List Char := Text.foldChars (s.toList.filter fun c => !isSeparator c)

/-- The rule with a name, in any letter case and with any separators. -/
def ofName (s : String) : TextRule :=
  (all.find? fun r => squash r.name == squash s).getD .unknown

def ofPosition (n : Int) : TextRule :=
  if 0 ≤ n then all.getD n.toNat .unknown else .unknown

def ofValue : Value → TextRule
  | .int n => ofPosition n
  | .text s => ofName s
  | _ => .unknown

theorem ofName_name (r : TextRule) : ofName r.name = r := by
  cases r <;> decide +kernel

end TextRule

inductive Check
  | basic (allowNull : Bool)
  | nested (allowNull validate : Bool)
  | text (rule : TextRule)
  deriving DecidableEq, Repr

namespace Check

/-- Whether a missing value is allowed if nothing is said. -/
def defaultAllowNull : Bool := false

/-- Whether nested objects are validated if nothing is said. -/
def defaultValidate : Bool := true

def defaultRule : TextRule := .requireText

def unsupported (word : String) : Failure :=
  ⟨"TypeError", "Unsupported check config: " ++ Text.quoted word⟩

end Check

end ShadowTypes
