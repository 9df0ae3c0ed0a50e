import ShadowTypes.Number.Numeral
import ShadowTypes.Text.Base64
import ShadowTypes.Text.Folding
import ShadowTypes.Value.Display
import ShadowTypes.Yaml.Node

/-!
# Leaves of YAML documents

The tag of a scalar says how its text is read: as a truth value, a number, a date or moment, bytes,
or as it stands. Under a tag that was written out the text may have none of the forms of its tag;
reading it is then a failure.
-/

namespace ShadowTypes.Yaml

namespace Scalar

def ofFailure {α : Type} : Except Failure α → Except Stop α
  | .ok a => .ok a
  | .error x => .error (.failure x)

def tooShort : Failure := ⟨"IndexError", "string index out of range"⟩

def withoutGaps (s : String) : List Char := s.toList.filter (· != '_')

def signed (l : List Char) : Except Failure (Bool × List Char) :=
  match l with
  | [] => .error tooShort
  | '-' :: r => .ok (true, r)
  | '+' :: r => .ok (false, r)
  | l => .ok (false, l)

def readBool (s : String) : Except Failure Bool :=
  let word := Text.lower s
  match Tag.boolWords.find? (·.1 == word) with
  | some (_, b) => .ok b
  | none => .error ⟨"KeyError", Text.quoted word⟩

/-- A whole number without its sign. -/
def readMagnitude (l : List Char) : Except Failure Int :=
  match l with
  | [] => .error tooShort
  | ['0'] => .ok 0
  | '0' :: 'b' :: r => Numeral.readInt 2 (String.ofList r)
  | '0' :: 'x' :: r => Numeral.readInt 16 (String.ofList r)
  | '0' :: _ => Numeral.readInt 8 (String.ofList l)
  | l =>
    if l.contains ':' then do
      let parts ← (Text.splitAt ':' l).mapM fun p => Numeral.readInt 10 (String.ofList p)
      return parts.foldl (fun n p => n * 60 + p) 0
    else Numeral.readInt 10 (String.ofList l)

def readInt (s : String) : Except Failure Int := do
  let (negative, l) ← signed (withoutGaps s)
  let n ← readMagnitude l
  return if negative then -n else n

/-- The sum of sexagesimal parts, the last one first, each times its power of sixty. -/
def sumParts : Nat → Double → List Double → Except Failure Double
  | _, sum, [] => .ok sum
  | power, sum, p :: ps => match Double.ofInt power with
    | .infinite _ => .error ⟨"OverflowError", "int too large to convert to float"⟩
    | factor => sumParts (power * 60) (sum.add (p.mul factor)) ps

/-- A decimal fraction. What is no number has the given mark, unless it is the one that has a word
of its own in YAML. -/
def readFloat (mark : Nat) (s : String) : Except Failure Double := do
  let text := Text.lower (String.ofList (withoutGaps s))
  let (negative, l) ← signed text.toList
  let body := String.ofList l
  if body = ".inf" then return .infinite negative
  else if body = ".nan" then return .notANumber 0
  else
    let x ←
      if l.contains ':' then do
        let parts ← (Text.splitAt ':' l).mapM fun p => Numeral.readDouble (String.ofList p)
        sumParts 1 .zero parts.reverse
      else Numeral.readDouble body
    return (if negative then x.neg else x).marked mark

def number (ds : List Char) : Nat := ds.foldl (fun n c => n * 10 + (c.toNat - '0'.toNat)) 0

/-- The microseconds of a fraction of a second, of which six digits count. -/
def microseconds (ds : List Char) : Nat :=
  number (ds.take 6 ++ List.replicate (6 - ds.length) '0')

def ofCalendar {α : Type} : Except CalendarFault α → Except Failure α
  | .ok a => .ok a
  | .error e => .error ⟨"ValueError", e.message⟩

def readTimestamp (s : String) : Except Failure Value :=
  let l := s.toList
  let l := if l.getLast? = some '\n' then l.dropLast else l
  match Tag.parts? l with
  | none => .error (.missingText "groupdict")
  | some p => match p.time with
    | none => ofCalendar ((Date.check (number p.year) (number p.month) (number p.day)).map .date)
    | some (hour, minute, second) =>
      let offset := p.zone.map fun (west, hours, minutes) =>
        let span := Int.ofNat (number hours * 60 + number minutes)
        if west then -span else span
      ofCalendar ((Moment.check (number p.year) (number p.month) (number p.day) (number hour)
        (number minute) (number second) (microseconds p.fraction) offset).map .moment)

/-- The bytes that a text in ASCII spells. -/
def readBinary? (s : String) : Option (List UInt8) :=
  if s.toList.all (·.toNat < 128) then Text.Base64.decode? s else none

/-- The value of a text under a tag, at the node with the given number. -/
def build (n : Nat) (tag : Tag) (s : String) : Except Stop Value :=
  match tag with
  | .null => .ok .null
  | .bool => ofFailure ((readBool s).map .bool)
  | .int => ofFailure ((readInt s).map .int)
  | .float => ofFailure ((readFloat (n + 1) s).map .float)
  | .timestamp => ofFailure (readTimestamp s)
  | .binary => match readBinary? s with
    | some b => .ok (.bytes b)
    | none => .error .malformed
  | .text => .ok (.text s)
  | _ => .error .malformed

end Scalar

end ShadowTypes.Yaml
