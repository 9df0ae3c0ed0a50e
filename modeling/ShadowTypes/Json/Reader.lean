import ShadowTypes.Number.Numeral

/-!
# Reading JSON

Blanks between tokens are the four of the format. `NaN`, `Infinity` and `-Infinity` are read as
numbers. Of equal keys the first keeps its place and the last its value. Collections lie inside each
other only so deep. A reader returns the value and the characters after it; a refusal carries the
characters from the offending one on, so that its position is known at the end.
-/

namespace ShadowTypes.Json

/-- What a text offends against. -/
inductive Rule
  | mark
  | value
  | key
  | colon
  | comma
  | control
  | unterminated
  | escape
  | codeEscape
  | extra
  deriving DecidableEq, Repr

def Rule.message : Rule → String
  | .mark => "Unexpected UTF-8 BOM (decode using utf-8-sig)"
  | .value => "Expecting value"
  | .key => "Expecting property name enclosed in double quotes"
  | .colon => "Expecting ':' delimiter"
  | .comma => "Expecting ',' delimiter"
  | .control => "Invalid control character at"
  | .unterminated => "Unterminated string starting at"
  | .escape => "Invalid \\escape"
  | .codeEscape => "Invalid \\uXXXX escape"
  | .extra => "Extra data"

inductive Collection
  | list
  | mapping
  deriving DecidableEq, Repr

def Collection.word : Collection → String
  | .list => "array"
  | .mapping => "object"

/-- Why reading stopped. -/
inductive Stop
  /-- The rule is broken where `rest` begins. -/
  | broken (rule : Rule) (rest : List Char)
  /-- A whole number has too many digits. -/
  | tooLong (digits : Nat)
  /-- A collection lies too deep inside others. -/
  | tooDeep (c : Collection)

abbrev Read := Except Stop (Value × List Char)

/-- How many collections can lie inside each other, unless the reader is called from far inside
other calls. -/
def usualDepth : Nat := 990

def isBlank (c : Char) : Bool := c == ' ' || c == '\t' || c == '\n' || c == '\r'

def skip (cs : List Char) : List Char := cs.dropWhile isBlank

/-- The character after a backslash, other than `u`. -/
def simpleEscape? : Char → Option Char
  | '"' => some '"'
  | '\\' => some '\\'
  | '/' => some '/'
  | 'b' => some '\x08'
  | 'f' => some '\x0c'
  | 'n' => some '\n'
  | 'r' => some '\r'
  | 't' => some '\t'
  | _ => none

/-- First halves of surrogate pairs. -/
def isHighSurrogate (n : Nat) : Bool := 0xD800 ≤ n && n ≤ 0xDBFF

/-- Second halves of surrogate pairs. -/
def isLowSurrogate (n : Nat) : Bool := 0xDC00 ≤ n && n ≤ 0xDFFF

/-- The character that a surrogate pair stands for. -/
def joined (high low : Nat) : Char :=
  Char.ofNat (0x10000 + (high - 0xD800) * 0x400 + (low - 0xDC00))

/-- The four hexadecimal digits of a code unit, which the text goes on after. -/
def codeUnit? : List Char → Option (Nat × List Char)
  | a :: b :: c :: d :: rest =>
    if rest.isEmpty then none else (Text.hexNumber? [a, b, c, d]).map (·, rest)
  | _ => none

/-- Whether a second code unit follows, with more text after it. -/
def hasSecondUnit : List Char → Bool
  | '\\' :: 'u' :: r => 4 < r.length
  | _ => false

/-- Reads a text after its opening quote; `opening` begins with that quote, and `done` holds the
characters read so far, last first. -/
def readText (opening : List Char) :
    Nat → List Char → List Char → Except Stop (String × List Char)
  | 0, _, _ => .error (.broken .unterminated opening)
  | fuel + 1, done, cs => match cs with
    | [] => .error (.broken .unterminated opening)
    | '"' :: r => .ok (String.ofList done.reverse, r)
    | ['\\'] => .error (.broken .unterminated opening)
    | '\\' :: 'u' :: r => match codeUnit? r with
      | none => .error (.broken .codeEscape ('u' :: r))
      | some (high, rest) =>
        if isHighSurrogate high && hasSecondUnit rest then match codeUnit? (rest.drop 2) with
          | none => .error (.broken .codeEscape (rest.drop 1))
          | some (low, rest') =>
            if isLowSurrogate low then readText opening fuel (joined high low :: done) rest'
            else readText opening fuel ((Text.spell high).reverse ++ done) rest
        else readText opening fuel ((Text.spell high).reverse ++ done) rest
    | '\\' :: c :: r => match simpleEscape? c with
      | some e => readText opening fuel (e :: done) r
      | none => .error (.broken .escape cs)
    | c :: r =>
      if c.toNat < 32 then .error (.broken .control cs) else readText opening fuel (c :: done) r

def isDigit (c : Char) : Bool := '0' ≤ c && c ≤ '9'

/-- The number that a run of digits stands for. -/
def number (ds : List Char) : Nat := ds.foldl (fun n c => n * 10 + (c.toNat - '0'.toNat)) 0

/-- The digits of the whole part: a single zero, or digits from a nonzero one on. -/
def wholePart : List Char → List Char × List Char
  | '0' :: r => (['0'], r)
  | cs => cs.span isDigit

def fractionPart : List Char → List Char × List Char
  | '.' :: d :: r => if isDigit d then (d :: r).span isDigit else ([], '.' :: d :: r)
  | cs => ([], cs)

def exponentPart : List Char → Option Int × List Char
  | mark :: r =>
    if mark == 'e' || mark == 'E' then
      let (negative, digits) := match r with
        | '-' :: r' => (true, r')
        | '+' :: r' => (false, r')
        | r' => (false, r')
      match digits.span isDigit with
      | ([], _) => (none, mark :: r)
      | (ds, rest) =>
        let n := Int.ofNat (number ds)
        (some (if negative then -n else n), rest)
    else (none, mark :: r)
  | [] => (none, [])

/-- Reads a number at `start`, whose sign has been dropped from the last argument. -/
def readNumber (start : List Char) (negative : Bool) (cs : List Char) : Read :=
  match wholePart cs with
  | ([], _) => .error (.broken .value start)
  | (whole, rest) =>
    let (fraction, rest) := fractionPart rest
    let (exponent, rest) := exponentPart rest
    if fraction.isEmpty && exponent.isNone then
      if Numeral.maxDigits < whole.length then .error (.tooLong whole.length)
      else
        let n := Int.ofNat (number whole)
        .ok (.int (if negative then -n else n), rest)
    else
      let scale := exponent.getD 0 - Int.ofNat fraction.length
      .ok (.float (Double.ofDecimal negative (number (whole ++ fraction)) scale), rest)

/-- Reads a word or a number at the beginning of `cs`. -/
def readScalar (cs : List Char) : Read :=
  match cs with
  | 'n' :: 'u' :: 'l' :: 'l' :: r => .ok (.null, r)
  | 't' :: 'r' :: 'u' :: 'e' :: r => .ok (.bool true, r)
  | 'f' :: 'a' :: 'l' :: 's' :: 'e' :: r => .ok (.bool false, r)
  | 'N' :: 'a' :: 'N' :: r => .ok (.float (.notANumber 0), r)
  | 'I' :: 'n' :: 'f' :: 'i' :: 'n' :: 'i' :: 't' :: 'y' :: r => .ok (.float (.infinite false), r)
  | '-' :: 'I' :: 'n' :: 'f' :: 'i' :: 'n' :: 'i' :: 't' :: 'y' :: r =>
    .ok (.float (.infinite true), r)
  | '-' :: r => readNumber cs true r
  | _ => readNumber cs false cs

mutual
/-- Reads a value at the beginning of the text; `room` more collections can lie inside one
another. -/
def readValue (room : Nat) : Nat → List Char → Read
  | 0, cs => .error (.broken .value cs)
  | fuel + 1, cs => match cs with
    | '"' :: r => do
      let (s, rest) ← readText cs fuel [] r
      return (.text s, rest)
    | '[' :: r =>
      if room = 0 then .error (.tooDeep .list)
      else match skip r with
        | ']' :: rest => .ok (.list [], rest)
        | r' => readItems (room - 1) fuel [] r'
    | '\x7b' :: r =>
      if room = 0 then .error (.tooDeep .mapping)
      else match skip r with
        | '\x7d' :: rest => .ok (.mapping [], rest)
        | r' => readEntries (room - 1) fuel [] r'
    | _ => readScalar cs

/-- Reads the items of a list up to its end; `done` holds the items read so far, last first. -/
def readItems (room : Nat) : Nat → List Value → List Char → Read
  | 0, _, cs => .error (.broken .value cs)
  | fuel + 1, done, cs => do
    let (v, rest) ← readValue room fuel cs
    match skip rest with
    | ']' :: rest => .ok (.list (v :: done).reverse, rest)
    | ',' :: rest => readItems room fuel (v :: done) (skip rest)
    | rest => .error (.broken .comma rest)

def readEntries (room : Nat) : Nat → Entries → List Char → Read
  | 0, _, cs => .error (.broken .value cs)
  | fuel + 1, done, cs => match cs with
    | '"' :: r => do
      let (k, rest) ← readText cs fuel [] r
      match skip rest with
      | ':' :: rest =>
        let (v, rest) ← readValue room fuel (skip rest)
        let done := done.insert (.text k) v
        match skip rest with
        | '\x7d' :: rest => .ok (.mapping done, rest)
        | ',' :: rest => readEntries room fuel done (skip rest)
        | rest => .error (.broken .comma rest)
      | rest => .error (.broken .colon rest)
    | _ => .error (.broken .key cs)
end

/-- Why a text is no JSON document. -/
inductive Fault
  | malformed (rule : Rule) (line column position : Nat)
  | tooLong (digits : Nat)
  | tooDeep (c : Collection)
  deriving DecidableEq, Repr

def Fault.message : Fault → String
  | .malformed rule line column position =>
    rule.message ++ ": line " ++ Nat.repr line ++ " column " ++ Nat.repr column ++
      " (char " ++ Nat.repr position ++ ")"
  | .tooLong digits => (Numeral.tooLong digits).text
  | .tooDeep c =>
    "maximum recursion depth exceeded while decoding a JSON " ++ c.word ++ " from a unicode string"

/-- The failure that a text's size is, rather than its form. -/
def Fault.failure? (f : Fault) : Option Failure :=
  match f with
  | .malformed .. => none
  | .tooLong digits => some (Numeral.tooLong digits)
  | .tooDeep _ => some ⟨"RecursionError", f.message⟩

def Fault.at (rule : Rule) (cs rest : List Char) : Fault :=
  let before := Text.spellings (cs.take (cs.length - rest.length))
  let column := (before.reverse.takeWhile (· != ['\n'])).length + 1
  .malformed rule (before.count ['\n'] + 1) column before.length

/-- The value that a text stands for; collections lie inside each other at most `depth` deep. -/
def read (s : String) (depth : Nat := usualDepth) : Except Fault Value :=
  let cs := s.toList
  let found : Except Stop Value :=
    if cs.head? = some '\uFEFF' then .error (.broken .mark cs)
    else do
      let (v, rest) ← readValue depth (2 * cs.length + 2) (skip cs)
      match skip rest with
      | [] => return v
      | rest => throw (.broken .extra rest)
  match found with
  | .ok v => .ok v
  | .error (.broken rule rest) => .error (.at rule cs rest)
  | .error (.tooLong digits) => .error (.tooLong digits)
  | .error (.tooDeep c) => .error (.tooDeep c)

end ShadowTypes.Json
