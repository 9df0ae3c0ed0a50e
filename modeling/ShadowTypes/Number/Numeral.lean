import ShadowTypes.Fault.Failure
import ShadowTypes.Text.Blank
import ShadowTypes.Text.Letters

/-!
# Numerals

Texts that stand for numbers. White space around a numeral does not count, a single underscore may
stand between two digits, and digits may come from any script. A whole number may be written in
another base, with or without the base's mark; a decimal fraction may have an exponent, and words
stand for the numbers that are not finite.
-/

namespace ShadowTypes.Numeral

open Text

/-- Characters of a numeral: digits in ASCII, and nothing else changed. -/
def asciiDigits (l : List Char) : List Char :=
  l.map fun c => if c.toNat < 128 then c else match digitValue? c with
    | some d => Char.ofNat ('0'.toNat + d)
    | none => c

def splitSign : List Char → Bool × List Char
  | '-' :: r => (true, r)
  | '+' :: r => (false, r)
  | l => (false, l)

/-- The value of an ASCII digit or letter. -/
def digit? (c : Char) : Option Nat :=
  if '0' ≤ c && c ≤ '9' then some (c.toNat - '0'.toNat)
  else if 'a' ≤ c && c ≤ 'z' then some (c.toNat - 'a'.toNat + 10)
  else if 'A' ≤ c && c ≤ 'Z' then some (c.toNat - 'A'.toNat + 10)
  else none

/-- The digits without the single underscores between them. -/
def joinedDigits? (base : Nat) : List Char → Option (List Nat)
  | [] => none
  | [c] => match digit? c with
    | some d => if d < base then some [d] else none
    | none => none
  | c :: '_' :: r => match digit? c with
    | some d => if d < base then (joinedDigits? base r).map (d :: ·) else none
    | none => none
  | c :: r => match digit? c with
    | some d => if d < base then (joinedDigits? base r).map (d :: ·) else none
    | none => none

def withoutMark (base : Nat) (l : List Char) : List Char :=
  let mark := match base with
    | 2 => 'b'
    | 8 => 'o'
    | 16 => 'x'
    | _ => '_'
  match l with
  | '0' :: c :: r =>
    if base != 10 && (c == mark || c.toNat + 32 == mark.toNat) then
      match r with
      | '_' :: r' => r'
      | r => r
    else l
  | l => l

def value (base : Nat) (ds : List Nat) : Nat := ds.foldl (fun n d => n * base + d) 0

def malformed (base : Nat) (s : String) : Failure :=
  ⟨"ValueError", "invalid literal for int() with base " ++ Nat.repr base ++ ": " ++
    String.ofList ((quoted s).toList.take 200)⟩

def tooLong (digits : Nat) : Failure :=
  ⟨"ValueError", "Exceeds the limit (" ++ Nat.repr maxDigits ++
    " digits) for integer string conversion: value has " ++ Nat.repr digits ++
    " digits; use sys.set_int_max_str_digits() to increase the limit"⟩

/-- The failure to write a whole number with too many digits. -/
def unwritable : Failure :=
  ⟨"ValueError", "Exceeds the limit (" ++ Nat.repr maxDigits ++
    " digits) for integer string conversion; use sys.set_int_max_str_digits() to increase " ++
    "the limit"⟩

/-- The whole number that a text stands for. -/
def readInt (base : Nat) (s : String) : Except Failure Int :=
  let (negative, l) := splitSign (asciiDigits (dropBothEnds isSpace s.toList))
  match joinedDigits? base (withoutMark base l) with
  | none => .error (malformed base s)
  | some ds =>
    if base = 10 && maxDigits < ds.length then .error (tooLong ds.length)
    else
      let n := Int.ofNat (value base ds)
      .ok (if negative then -n else n)

/-- Digits at the beginning of a text, with single underscores between them, and the rest. -/
def takeDigits : List Char → List Nat × List Char
  | [] => ([], [])
  | c :: r => match digit? c with
    | none => ([], c :: r)
    | some d =>
      if 10 ≤ d then ([], c :: r)
      else match r with
        | '_' :: e :: r' => match digit? e with
          | some x =>
            if x < 10 then
              let (ds, rest) := takeDigits (e :: r')
              (d :: ds, rest)
            else ([d], r)
          | none => ([d], r)
        | r =>
          let (ds, rest) := takeDigits r
          (d :: ds, rest)

/-- The number of a decimal fraction with an optional exponent. -/
def readFraction? (negative : Bool) (l : List Char) : Option Double :=
  let (whole, rest) := takeDigits l
  let (fraction, rest) := match rest with
    | '.' :: r => takeDigits r
    | r => ([], r)
  if whole.isEmpty && fraction.isEmpty then none
  else
    let number (e : Int) : Double :=
      Double.ofDecimal negative (value 10 (whole ++ fraction)) (e - Int.ofNat fraction.length)
    match rest with
    | [] => some (number 0)
    | mark :: r =>
      if mark == 'e' || mark == 'E' then
        let (down, digits) := splitSign r
        match takeDigits digits with
        | ([], _) => none
        | (ds, []) =>
          let n := Int.ofNat (value 10 ds)
          some (number (if down then -n else n))
        | _ => none
      else none

def readDouble? (s : String) : Option Double :=
  let (negative, l) := splitSign (asciiDigits (dropBothEnds isSpace s.toList))
  let word := String.ofList
    (l.map fun c => if 'A' ≤ c && c ≤ 'Z' then Char.ofNat (c.toNat + 32) else c)
  if word = "inf" || word = "infinity" then some (.infinite negative)
  else if word = "nan" then some (.notANumber 0)
  else readFraction? negative l

def readDouble (s : String) : Except Failure Double :=
  match readDouble? s with
  | some x => .ok x
  | none => .error ⟨"ValueError", "could not convert string to float: " ++ quoted s⟩

end ShadowTypes.Numeral
