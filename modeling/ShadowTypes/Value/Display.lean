import ShadowTypes.Text.Quoted
import ShadowTypes.Value

/-!
# Values in words

`display` writes a value as an expression, with texts in quotes; a ring within itself is three
points between its brackets. `toText` writes a text as it is, a date or moment by its standard form,
and everything else as `display` does. Both write whole numbers of any length; `isUnwritable` says
which values hold a number that is too long for that.
-/

namespace ShadowTypes

/-- The longest whole number in decimal that is read or written. -/
def Numeral.maxDigits : Nat := 4300

/-- Whether a whole number has too many digits to be written. -/
def Numeral.isUnwritable (n : Int) : Bool := Nat.pow 10 maxDigits ≤ n.natAbs

namespace Value

mutual
/-- Whether the value holds a whole number that cannot be written. -/
def isUnwritable : Value → Bool
  | .int n => Numeral.isUnwritable n
  | .list xs | .set xs => anyUnwritable xs
  | .pair a b => isUnwritable a || isUnwritable b
  | .mapping es => anyEntryUnwritable es
  | .ring _ v => isUnwritable v
  | _ => false

def anyUnwritable : List Value → Bool
  | [] => false
  | x :: xs => isUnwritable x || anyUnwritable xs

def anyEntryUnwritable : List (Value × Value) → Bool
  | [] => false
  | (k, v) :: es => isUnwritable k || isUnwritable v || anyEntryUnwritable es
end

/-- A byte as it stands inside bytes quoted by `quote`. -/
def escapeByte (quote : Char) (b : UInt8) : List Char :=
  let c := Char.ofNat b.toNat
  if c = quote || c = '\\' then ['\\', c]
  else if c = '\t' then ['\\', 't']
  else if c = '\n' then ['\\', 'n']
  else if c = '\r' then ['\\', 'r']
  else if b < 32 || 127 ≤ b then '\\' :: 'x' :: Text.hex 2 b.toNat
  else [c]

/-- Bytes between quotes, with a mark in front. -/
def bytesDisplay (bytes : List UInt8) : String :=
  let quote := Text.quoteFor (bytes.map fun b => Char.ofNat b.toNat)
  String.ofList ('b' :: quote :: (bytes.flatMap (escapeByte quote) ++ [quote]))

/-- What stands for a ring with the given body within itself. -/
def ellipsis : Value → String
  | .list _ => "[...]"
  | _ => "\x7b...\x7d"

mutual
/-- The value as an expression inside the rings that are given by their numbers and signs. -/
def displayIn (rings : List (Nat × String)) : Value → String
  | .null => "None"
  | .bool b => if b then "True" else "False"
  | .int n => Int.repr n
  | .float x => x.text
  | .text s => Text.quoted s
  | .bytes b => bytesDisplay b
  | .date d => d.display
  | .moment m => m.display
  | .list xs => "[" ++ ", ".intercalate (displays rings xs) ++ "]"
  | .pair a b => "(" ++ displayIn rings a ++ ", " ++ displayIn rings b ++ ")"
  | .set [] => "set()"
  | .set (x :: xs) =>
    "\x7b" ++ ", ".intercalate (displayIn rings x :: displays rings xs) ++ "\x7d"
  | .mapping es => "\x7b" ++ ", ".intercalate (entryDisplays rings es) ++ "\x7d"
  | .ring n v => match rings.find? (·.1 == n) with
    | some (_, sign) => sign
    | none => displayIn ((n, ellipsis v) :: rings) v
  | .again n => match rings.find? (·.1 == n) with
    | some (_, sign) => sign
    | none => "..."

def displays (rings : List (Nat × String)) : List Value → List String
  | [] => []
  | x :: xs => displayIn rings x :: displays rings xs

def entryDisplays (rings : List (Nat × String)) : List (Value × Value) → List String
  | [] => []
  | (k, v) :: es =>
    (displayIn rings k ++ ": " ++ displayIn rings v) :: entryDisplays rings es
end

def display (v : Value) : String := displayIn [] v

def toText : Value → String
  | .text s => s
  | .date d => d.text
  | .moment m => m.textWith " "
  | v => v.display

end Value

end ShadowTypes
