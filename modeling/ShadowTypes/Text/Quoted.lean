import ShadowTypes.Text.CodePoint
import ShadowTypes.Text.PrintableTable

/-!
# Quoted text

A text is written between single quotes, or between double quotes if it holds a single quote and
no double quote. The quote in use, the backslash, and every character that does not print as
itself are written as escapes of their code points, so a quoted text is one line. `unquoteChars`
reads a quoted text back.
-/

namespace ShadowTypes.Text

/-- Whether the character is written as itself inside a quoted text. -/
def isPrintable (c : Char) : Bool :=
  if c.toNat < 128 then 32 ≤ c.toNat && c.toNat < 127 else !unprintables.holds c.toNat

/-- The small hexadecimal digit of a number below sixteen. -/
def hexDigit (n : Nat) : Char :=
  if n < 10 then Char.ofNat ('0'.toNat + n) else Char.ofNat ('a'.toNat + (n - 10))

/-- The last `width` hexadecimal digits of `n`. -/
def hex : Nat → Nat → List Char
  | 0, _ => []
  | width + 1, n => hex width (n / 16) ++ [hexDigit (n % 16)]

def escapePoint (n : Nat) : List Char :=
  if n < 0x100 then '\\' :: 'x' :: hex 2 n
  else if n < 0x10000 then '\\' :: 'u' :: hex 4 n
  else '\\' :: 'U' :: hex 8 n

/-- A character as it stands inside a text quoted by `quote`. -/
def escapeChar (quote c : Char) : List Char :=
  if c = quote then ['\\', c]
  else if c = '\\' then ['\\', '\\']
  else if c = '\n' then ['\\', 'n']
  else if c = '\r' then ['\\', 'r']
  else if c = '\t' then ['\\', 't']
  else if isPrintable c || c = halfMark then [c]
  else escapePoint c.toNat

/-- A code point as it stands inside a text quoted by `quote`, by the characters that write it. -/
def escape (quote : Char) : List Char → List Char
  | [c] => escapeChar quote c
  | cs => escapePoint (pointOf cs)

/-- Single quotes, unless the text holds one and no double quote. -/
def quoteFor (l : List Char) : Char :=
  if l.contains '\'' && !l.contains '"' then '"' else '\''

/-- The quoted form of a sequence of characters. -/
def quoteChars (l : List Char) : List Char :=
  quoteFor l :: ((spellings l).flatMap (escape (quoteFor l)) ++ [quoteFor l])

def quoted (s : String) : String := String.ofList (quoteChars s.toList)

@[simp] theorem toList_quoted (s : String) : (quoted s).toList = quoteChars s.toList := by
  simp [quoted]

/-- The value of a hexadecimal digit of either case. -/
def hexValue? (c : Char) : Option Nat :=
  if '0' ≤ c && c ≤ '9' then some (c.toNat - '0'.toNat)
  else if 'a' ≤ c && c ≤ 'f' then some (c.toNat - 'a'.toNat + 10)
  else if 'A' ≤ c && c ≤ 'F' then some (c.toNat - 'A'.toNat + 10)
  else none

/-- The number written by hexadecimal digits, most significant first. -/
def hexNumber? (l : List Char) : Option Nat :=
  l.foldlM (fun n c => (hexValue? c).map (n * 16 + ·)) 0

/-- Reads quoted text after its opening quote up to the closing one, which ends it. No line ends in
between, and no escapes are known but those that quoted texts are written with. -/
def unquoteFrom (quote : Char) : List Char → Option (List Char)
  | [] => none
  | '\\' :: 'n' :: r => (unquoteFrom quote r).map ('\n' :: ·)
  | '\\' :: 'r' :: r => (unquoteFrom quote r).map ('\r' :: ·)
  | '\\' :: 't' :: r => (unquoteFrom quote r).map ('\t' :: ·)
  | '\\' :: 'x' :: a :: b :: r => do
    let n ← hexNumber? [a, b]
    (unquoteFrom quote r).map (Char.ofNat n :: ·)
  | '\\' :: 'u' :: a :: b :: c :: d :: r => do
    let n ← hexNumber? [a, b, c, d]
    (unquoteFrom quote r).map (spell n ++ ·)
  | '\\' :: 'U' :: a :: b :: c :: d :: e :: f :: g :: h :: r => do
    let n ← hexNumber? [a, b, c, d, e, f, g, h]
    if 0x10FFFF < n then none else (unquoteFrom quote r).map (spell n ++ ·)
  | '\\' :: c :: r => if c = quote || c = '\\' then (unquoteFrom quote r).map (c :: ·) else none
  | c :: r =>
    if c = quote then if r.isEmpty then some [] else none
    else if c = '\n' || c = '\r' then none
    else (unquoteFrom quote r).map (c :: ·)

/-- The characters that a quoted text stands for. -/
def unquoteChars : List Char → Option (List Char)
  | '\'' :: r => unquoteFrom '\'' r
  | '"' :: r => unquoteFrom '"' r
  | _ => none

end ShadowTypes.Text
