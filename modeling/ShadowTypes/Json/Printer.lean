import ShadowTypes.Value.Display

/-!
# Writing JSON

A value is first brought into the shape of JSON: keys become texts, and what JSON has no form for
becomes the text of its expression. Other keys than texts, numbers, truth values and null have no
such shape, nor has a collection that contains itself. The printed form is ASCII; other characters
are written by their UTF-16 code units.
-/

namespace ShadowTypes.Json

def numberText : Double → String
  | .notANumber _ => "NaN"
  | .infinite s => if s then "-Infinity" else "Infinity"
  | x => x.text

def keyText? : Value → Option String
  | .text s => some s
  | .bool b => some (if b then "true" else "false")
  | .null => some "null"
  | .int n => some (Int.repr n)
  | .float x => some (numberText x)
  | _ => none

mutual
def shape? : Value → Option Value
  | .list xs => (shapes? xs).map .list
  | .pair a b => do
    let a ← shape? a
    let b ← shape? b
    return .list [a, b]
  | .mapping es => (shapeEntries? es).map fun es => .mapping (Entries.ofList es)
  | .bytes b => some (.text (Value.display (.bytes b)))
  | .date d => some (.text d.display)
  | .moment m => some (.text m.display)
  | .set xs => some (.text (Value.display (.set xs)))
  | .ring .. | .again _ => none
  | v => some v

def shapes? : List Value → Option (List Value)
  | [] => some []
  | x :: xs => do
    let x ← shape? x
    let xs ← shapes? xs
    return x :: xs

def shapeEntries? : List (Value × Value) → Option (List (Value × Value))
  | [] => some []
  | (k, v) :: es => do
    let k ← keyText? k
    let v ← shape? v
    let es ← shapeEntries? es
    return (.text k, v) :: es
end

def unitEscape (n : Nat) : List Char := '\\' :: 'u' :: Text.hex 4 n

/-- A character inside a printed text. -/
def escapeChar (c : Char) : List Char :=
  if c = '"' || c = '\\' then ['\\', c]
  else if c = '\n' then ['\\', 'n']
  else if c = '\r' then ['\\', 'r']
  else if c = '\t' then ['\\', 't']
  else if c = '\x08' then ['\\', 'b']
  else if c = '\x0c' then ['\\', 'f']
  else if 32 ≤ c.toNat && c.toNat < 127 then [c]
  else if c.toNat < 0x10000 then unitEscape c.toNat
  else
    let n := c.toNat - 0x10000
    unitEscape (0xD800 + n / 0x400) ++ unitEscape (0xDC00 + n % 0x400)

/-- A code point inside a printed text, by the characters that write it. -/
def escape : List Char → List Char
  | [c] => escapeChar c
  | cs => unitEscape (Text.pointOf cs)

def quoted (s : String) : String :=
  String.ofList ('"' :: ((Text.spellings s.toList).flatMap escape ++ ['"']))

mutual
def print : Value → String
  | .null => "null"
  | .bool b => if b then "true" else "false"
  | .int n => Int.repr n
  | .float x => numberText x
  | .text s => quoted s
  | .list xs => "[" ++ ", ".intercalate (printItems xs) ++ "]"
  | .pair a b => "[" ++ print a ++ ", " ++ print b ++ "]"
  | .mapping es => "\x7b" ++ ", ".intercalate (printEntries es) ++ "\x7d"
  | v => quoted v.display

def printItems : List Value → List String
  | [] => []
  | x :: xs => print x :: printItems xs

def printEntries : List (Value × Value) → List String
  | [] => []
  | (k, v) :: es => (quoted ((keyText? k).getD k.display) ++ ": " ++ print v) :: printEntries es
end

end ShadowTypes.Json
