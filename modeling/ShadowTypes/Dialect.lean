import ShadowTypes.Text.Blank
import ShadowTypes.Text.Letters

/-!
# Dialects

Shadow types are written in one of two languages. This module holds what the languages differ in
by name alone: their own names, the ending of source files, the validity method, the indentation,
the reserved words, and how a property's name is spelled as a member.
-/

namespace ShadowTypes

inductive Dialect
  | csharp
  | python
  deriving DecidableEq, Repr

/-- Indentation of members and of continued checks. -/
structure Layout where
  property : String
  check : String
  deriving DecidableEq, Repr

def indent (n : Nat) : String := String.ofList (List.replicate n ' ')

namespace Dialect

def all : List Dialect := [.csharp, .python]

def name : Dialect → String
  | .csharp => "csharp"
  | .python => "python"

def ofName? (s : String) : Option Dialect := all.find? (·.name == s)

theorem ofName?_name (d : Dialect) : ofName? d.name = some d := by
  cases d <;> rfl

def extension : Dialect → String
  | .csharp => "cs"
  | .python => "py"

def validityMethod : Dialect → String
  | .csharp => "CheckIsValid"
  | .python => "check_is_valid"

def layout : Dialect → Layout
  | .csharp => ⟨indent 8, indent 19⟩
  | .python => ⟨indent 4, indent 12⟩

def keywords : List String :=
  ["False", "None", "True", "and", "as", "assert", "async", "await", "break", "class", "continue",
    "def", "del", "elif", "else", "except", "finally", "for", "from", "global", "if", "import",
    "in", "is", "lambda", "nonlocal", "not", "or", "pass", "raise", "return", "try", "while",
    "with", "yield"]

def isKeyword (s : String) : Bool := keywords.contains s

/-- A name without the marks that escape it. -/
def unescaped (s : String) : String := String.ofList (s.toList.dropWhile (· == '@'))

/-- A property's name as a member. Python has no escape mark, and an underscore after a reserved
word; C# keeps the name. -/
def member (d : Dialect) (name : String) : String :=
  match d with
  | .csharp => name
  | .python =>
    let plain := unescaped name
    if isKeyword plain then plain ++ "_" else plain

@[simp] theorem toList_unescaped (s : String) :
    (unescaped s).toList = s.toList.dropWhile (· == '@') := by
  simp [unescaped]

end Dialect

end ShadowTypes
