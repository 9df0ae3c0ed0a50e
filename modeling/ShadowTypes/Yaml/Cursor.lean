import ShadowTypes.Fault.Failure

/-!
# Places in a YAML text

A cursor is a place in a text: the characters after it and its line and column. The end of the
text is the absence of a next character. A line feed, a carriage return with or without a line
feed, and the next-line character break a line and all count as a line feed; the two Unicode
separators break a line and stay what they are.
-/

namespace ShadowTypes.Yaml

/-- Why a text gives no value. -/
inductive Stop
  | malformed
  | failure (x : Failure)
  deriving Repr, Inhabited

def isBreak (c : Char) : Bool :=
  c == '\n' || c == '\r' || c == '\u0085' || c == '\u2028' || c == '\u2029'

def isLineEnd : Option Char → Bool
  | none => true
  | some c => isBreak c

def isWordEnd : Option Char → Bool
  | none => true
  | some c => c == ' ' || isBreak c

/-- The end of the text or of a line, a space or a tab. -/
def isGap : Option Char → Bool
  | none => true
  | some c => c == ' ' || c == '\t' || isBreak c

def isBlank (c : Char) : Bool := c == ' ' || c == '\t'

/-- Marks the order of bytes at the beginning of a text. -/
def byteOrderMark : Char := '\uFEFF'

structure Cursor where
  rest : List Char
  /-- Characters before the place. -/
  index : Nat := 0
  line : Nat := 0
  column : Nat := 0
  deriving Repr

namespace Cursor

def next? (c : Cursor) : Option Char := c.rest.head?

def peek? (c : Cursor) (n : Nat) : Option Char := c.rest[n]?

def advance (c : Cursor) : Cursor :=
  match c.rest with
  | [] => c
  | x :: r =>
    if isBreak x && !(x == '\r' && r.head? == some '\n') then ⟨r, c.index + 1, c.line + 1, 0⟩
    else ⟨r, c.index + 1, c.line, if x == byteOrderMark then c.column else c.column + 1⟩

def skip (c : Cursor) : Nat → Cursor
  | 0 => c
  | n + 1 => c.advance.skip n

/-- The place after the longest run of characters of a class without line breaks. -/
def skipWhile (p : Char → Bool) (c : Cursor) : Cursor := c.skip (c.rest.takeWhile p).length

/-- The longest run of characters of a class without line breaks, and the place after it. -/
def takeWhile (p : Char → Bool) (c : Cursor) : List Char × Cursor :=
  let run := c.rest.takeWhile p
  (run, c.skip run.length)

def skipSpaces (c : Cursor) : Cursor := c.skipWhile (· == ' ')

def skipComment (c : Cursor) : Cursor :=
  if c.next? = some '#' then c.skipWhile (!isBreak ·) else c

/-- The character that a line break here stands for, and the place after it. -/
def lineBreak? (c : Cursor) : Option (Char × Cursor) :=
  match c.rest with
  | '\r' :: '\n' :: _ => some ('\n', c.skip 2)
  | x :: _ =>
    if x == '\u2028' || x == '\u2029' then some (x, c.advance)
    else if isBreak x then some ('\n', c.advance)
    else none
  | [] => none

/-- Whether three of the given mark stand here before a gap. -/
def hasFence (c : Cursor) (mark : Char) : Bool :=
  match c.rest with
  | x :: y :: z :: r => x == mark && y == mark && z == mark && isGap r.head?
  | _ => false

def atSeparator (c : Cursor) : Bool := c.hasFence '-' || c.hasFence '.'

end Cursor

/-- The text offends against the format. -/
def malformed {α : Type} : Except Stop α := .error .malformed

end ShadowTypes.Yaml
