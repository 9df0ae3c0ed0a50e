import ShadowTypes.Text.LetterTable

/-!
# Word characters, digits and identifiers

`isWord` is the class of letters, marks, decimal digits, connectors and joiners; a word that does
not start with a digit names a model or a property. `isIdentifier` is the narrower class of
identifiers of the Python dialect.
-/

namespace ShadowTypes.Text

def isAsciiStart (c : Char) : Bool :=
  ('a' ≤ c && c ≤ 'z') || ('A' ≤ c && c ≤ 'Z') || c == '_'

def isAsciiDigit (c : Char) : Bool := '0' ≤ c && c ≤ '9'

def isIdentifierStart (c : Char) : Bool :=
  if c.toNat < 128 then isAsciiStart c else identifierStarts.holds c.toNat

def isIdentifierPart (c : Char) : Bool :=
  if c.toNat < 128 then isAsciiStart c || isAsciiDigit c
  else identifierStarts.holds c.toNat || identifierExtenders.holds c.toNat

/-- Decimal digits of any script that numerals may be written in. -/
def isNumeralDigit (c : Char) : Bool :=
  if c.toNat < 128 then isAsciiDigit c else decimalDigits.holds c.toNat

/-- Decimal digits of any script, with which no name may start. -/
def isDigit (c : Char) : Bool := isNumeralDigit c || laterDigits.holds c.toNat

/-- The value of a decimal digit of any script that numerals may be written in. -/
def digitValue? (c : Char) : Option Nat :=
  if c.toNat < 128 then
    if isAsciiDigit c then some (c.toNat - '0'.toNat) else none
  else (decimalDigits.start? c.toNat).map fun first => (c.toNat - first) % 10

/-- Letters, marks, decimal digits, connectors and joiners. -/
def isWord (c : Char) : Bool :=
  if c.toNat < 128 then isAsciiStart c || isAsciiDigit c
  else wordOnly.holds c.toNat ||
    ((identifierStarts.holds c.toNat || identifierExtenders.holds c.toNat) &&
      !identifierOnly.holds c.toNat)

def isWordStart (c : Char) : Bool := isWord c && !isDigit c

/-- A word: word characters, the first of them no digit. -/
def isWordText : List Char → Bool
  | [] => false
  | c :: r => isWordStart c && r.all isWord

def isIdentifier : List Char → Bool
  | [] => false
  | c :: r => isIdentifierStart c && r.all isIdentifierPart

theorem isWordText_cons (c : Char) (r : List Char) :
    isWordText (c :: r) = (isWordStart c && r.all isWord) := rfl

theorem isIdentifier_cons (c : Char) (r : List Char) :
    isIdentifier (c :: r) = (isIdentifierStart c && r.all isIdentifierPart) := rfl

end ShadowTypes.Text
