import ShadowTypes.Text.Quoted
import ShadowTypes.Yaml.Cursor

/-!
# Scalars in a YAML text

Three kinds of scalar are read here. A block scalar follows its header line and ends where the
indentation does. A quoted scalar ends with its quote; double quotes allow escapes. A plain scalar
ends before a comment, before a colon and a gap, and in a flow collection before its marks. In the
last two a line break with no empty line after it stands for a space.
-/

namespace ShadowTypes.Yaml

/-- Line breaks here, each after at most `indent` columns of spaces, and the place after them. -/
def scanBreaks (indent : Nat) : Nat → Cursor → List Char × Cursor
  | 0, c => ([], c)
  | fuel + 1, c =>
    let run := (c.rest.takeWhile (· == ' ')).length
    let c := c.skip (min run (indent - c.column))
    match c.lineBreak? with
    | none => ([], c)
    | some (b, c) =>
      let (bs, c) := scanBreaks indent fuel c
      (b :: bs, c)

namespace Block

/-- What happens to the line breaks at the end of a block scalar. -/
inductive Chomping
  | clip
  | strip
  | keep
  deriving DecidableEq, Repr

def chomping? : Char → Option Chomping
  | '+' => some .keep
  | '-' => some .strip
  | _ => none

def increment? (c : Char) : Option Nat :=
  if '0' ≤ c && c ≤ '9' then some (c.toNat - '0'.toNat) else none

/-- A header's mark of the given class, if it comes next. -/
def headerMark {α : Type} (read : Char → Option α) (c : Cursor) : Option α × Cursor :=
  match c.next?.bind read with
  | some a => (some a, c.advance)
  | none => (none, c)

/-- Chomping and indentation, in either order. -/
def scanHeader (c : Cursor) : Except Stop ((Chomping × Option Nat) × Cursor) :=
  let (chomp, c) := headerMark chomping? c
  let (increment, c) := headerMark increment? c
  let (chomp, c) := match chomp with
    | some m => (some m, c)
    | none => if increment.isSome then headerMark chomping? c else (none, c)
  if increment = some 0 || !isWordEnd c.next? then malformed
  else .ok ((chomp.getD .clip, increment), c)

def skipHeaderLine (c : Cursor) : Except Stop Cursor :=
  let c := c.skipSpaces.skipComment
  if !isLineEnd c.next? then malformed
  else .ok ((c.lineBreak?.map (·.2)).getD c)

/-- Empty lines, and the greatest column that their spaces reach. -/
def scanIndentation : Nat → Nat → Cursor → List Char × Nat × Cursor
  | 0, deepest, c => ([], deepest, c)
  | fuel + 1, deepest, c =>
    let c := c.skipSpaces
    let deepest := max deepest c.column
    match c.lineBreak? with
    | none => ([], deepest, c)
    | some (b, c) =>
      let (bs, deepest, c) := scanIndentation fuel deepest c
      (b :: bs, deepest, c)

/-- Whether a line goes on with a character other than a blank. -/
def startsFull (c : Cursor) : Bool :=
  match c.next? with
  | some x => !isBlank x
  | none => true

/-- The lines of a block scalar from the first one on, after the line breaks `breaks`; the result
is what comes before the end, the last line break, and the line breaks after it. -/
def scanLines (folded : Bool) (indent : Nat) :
    Nat → List Char → Cursor → List Char × List Char × List Char × Cursor
  | 0, breaks, c => ([], [], breaks, c)
  | fuel + 1, breaks, c =>
    if c.column = indent && c.next?.isSome then
      let full := startsFull c
      let (line, c) := c.takeWhile (!isBreak ·)
      let (ended, c) := match c.lineBreak? with
        | some (b, c) => ([b], c)
        | none => ([], c)
      let (more, c) := scanBreaks indent fuel c
      let text := breaks ++ line
      if c.column = indent && c.next?.isSome then
        let between :=
          if folded && ended == ['\n'] && full && startsFull c then
            if more.isEmpty then [' '] else []
          else ended
        let (after, last, tail, c) := scanLines folded indent fuel more c
        (text ++ between ++ after, last, tail, c)
      else (text, ended, more, c)
    else ([], [], breaks, c)

/-- Reads a block scalar after its mark, inside a block indented by `parent`. -/
def scan (folded : Bool) (parent : Int) (c : Cursor) : Except Stop (String × Cursor) := do
  let ((chomp, increment), c) ← scanHeader c
  let c ← skipHeaderLine c
  let least := (max (parent + 1) 1).toNat
  let fuel := c.rest.length + 1
  let (indent, breaks, c) := match increment with
    | none =>
      let (breaks, deepest, c) := scanIndentation fuel 0 c
      (max least deepest, breaks, c)
    | some n =>
      let indent := least + n - 1
      let (breaks, c) := scanBreaks indent fuel c
      (indent, breaks, c)
  let (text, last, tail, c) := scanLines folded indent fuel breaks c
  let text := text ++ (if chomp = .strip then [] else last) ++ (if chomp = .keep then tail else [])
  return (String.ofList text, c)

end Block

namespace Quote

/-- The character after a backslash that stands for a character. -/
def simpleEscape? : Char → Option Char
  | '0' => some '\x00'
  | 'a' => some '\x07'
  | 'b' => some '\x08'
  | 't' => some '\t'
  | '\t' => some '\t'
  | 'n' => some '\n'
  | 'v' => some '\x0b'
  | 'f' => some '\x0c'
  | 'r' => some '\r'
  | 'e' => some '\x1b'
  | ' ' => some ' '
  | '"' => some '"'
  | '\\' => some '\\'
  | '/' => some '/'
  | 'N' => some '\u0085'
  | '_' => some '\u00a0'
  | 'L' => some '\u2028'
  | 'P' => some '\u2029'
  | _ => none

/-- How many hexadecimal digits follow the character after a backslash. -/
def codeEscape? : Char → Option Nat
  | 'x' => some 2
  | 'u' => some 4
  | 'U' => some 8
  | _ => none

/-- The bound of numbers that can be asked for as code points. -/
def wordLimit : Nat := 0x80000000

def notCodePoint (n : Nat) : Failure :=
  if n < wordLimit then ⟨"ValueError", "chr() arg not in range(0x110000)"⟩
  else ⟨"OverflowError", "Python int too large to convert to C int"⟩

/-- The characters that write a code point. -/
def spelled (n : Nat) : Except Stop (List Char) :=
  if 0x10FFFF < n then .error (.failure (notCodePoint n)) else .ok (Text.spell n)

/-- The line breaks of empty lines; a separator of documents must not come first in a line. -/
def scanEmptyLines : Nat → Cursor → Except Stop (List Char × Cursor)
  | 0, c => .ok ([], c)
  | fuel + 1, c =>
    if c.atSeparator then malformed
    else
      let c := c.skipWhile isBlank
      match c.lineBreak? with
      | none => .ok ([], c)
      | some (b, c) => do
        let (bs, c) ← scanEmptyLines fuel c
        return (b :: bs, c)

def scanEscape (fuel : Nat) (c : Cursor) : Except Stop (List Char × Cursor) :=
  match c.next? with
  | none => malformed
  | some x => match simpleEscape? x, codeEscape? x with
    | some e, _ => .ok ([e], c.advance)
    | none, some width =>
      let digits := c.advance.rest.take width
      if digits.length < width then malformed
      else match Text.hexNumber? digits with
        | none => malformed
        | some n => do
          let e ← spelled n
          return (e, c.advance.skip width)
    | none, none => match c.lineBreak? with
      | some (_, c) => scanEmptyLines fuel c
      | none => malformed

/-- Reads blanks and line breaks inside quotes. -/
def scanSpaces (fuel : Nat) (c : Cursor) : Except Stop (List Char × Cursor) :=
  let (blanks, c) := c.takeWhile isBlank
  match c.lineBreak? with
  | some (b, c) => do
    let (more, c) ← scanEmptyLines fuel c
    let first := if b != '\n' then [b] else if more.isEmpty then [' '] else []
    return (first ++ more, c)
  | none => if c.next?.isNone then malformed else .ok (blanks, c)

/-- Reads a quoted scalar after its opening quote. -/
def scanFrom (double : Bool) : Nat → Cursor → Except Stop (List Char × Cursor)
  | 0, _ => malformed
  | fuel + 1, c =>
    let continued (here : Except Stop (List Char × Cursor)) : Except Stop (List Char × Cursor) := do
      let (cs, c) ← here
      let (more, c) ← scanFrom double fuel c
      return (cs ++ more, c)
    match c.next? with
    | none => malformed
    | some '\'' =>
      if double then continued (.ok (['\''], c.advance))
      else if c.peek? 1 = some '\'' then continued (.ok (['\''], c.skip 2))
      else .ok ([], c.advance)
    | some '"' => if double then .ok ([], c.advance) else continued (.ok (['"'], c.advance))
    | some '\\' =>
      if double then continued (scanEscape fuel c.advance)
      else continued (.ok (['\\'], c.advance))
    | some x =>
      if isBlank x || isBreak x then continued (scanSpaces fuel c)
      else continued (.ok (c.takeWhile fun y =>
        !(y == '\'' || y == '"' || y == '\\' || isBlank y || isBreak y)))

/-- Reads a quoted scalar after its opening quote. -/
def scan (double : Bool) (c : Cursor) : Except Stop (String × Cursor) := do
  let (cs, c) ← scanFrom double (c.rest.length + 1) c
  return (String.ofList cs, c)

end Quote

namespace Plain

def isFlowMark (c : Char) : Bool := ",[]\x7b\x7d".toList.contains c

/-- The length of the part of a plain scalar without gaps. -/
def wordLength (inFlow : Bool) : List Char → Nat
  | [] => 0
  | x :: r =>
    let ends := isGap (some x) ||
      (x == ':' && (isGap r.head? || (inFlow && r.head?.any isFlowMark))) ||
      (inFlow && (isFlowMark x || x == '?'))
    if ends then 0 else wordLength inFlow r + 1

/-- The line breaks of empty lines after a word, up to a separator of documents; whether one
follows. -/
def scanEmptyLines : Nat → Cursor → List Char × Bool × Cursor
  | 0, c => ([], false, c)
  | fuel + 1, c =>
    let c := c.skipSpaces
    match c.lineBreak? with
    | none => ([], false, c)
    | some (b, c) =>
      if c.atSeparator then ([b], true, c)
      else
        let (bs, separated, c) := scanEmptyLines fuel c
        (b :: bs, separated, c)

/-- What lies between two words of a plain scalar. -/
structure Between where
  /-- The text that the gap stands for; nothing if the scalar ends here. -/
  text : List Char
  /-- Whether a line ends in the gap. -/
  broken : Bool

/-- Reads the gap after a word. -/
def scanBetween (fuel : Nat) (c : Cursor) : Between × Cursor :=
  let (blanks, c) := c.takeWhile (· == ' ')
  match c.lineBreak? with
  | none => (⟨blanks, false⟩, c)
  | some (b, c) =>
    if c.atSeparator then (⟨[], true⟩, c)
    else
      let (more, separated, c) := scanEmptyLines fuel c
      if separated then (⟨[], true⟩, c)
      else
        let first := if b != '\n' then [b] else if more.isEmpty then [' '] else []
        (⟨first ++ more, true⟩, c)

/-- Reads a plain scalar on, after the gap `before`. The flag tells whether its last gap ends a
line; `none` means that no word followed. -/
def scanFrom (inFlow : Bool) (indent : Int) :
    Nat → List Char → Cursor → List Char × Option Bool × Cursor
  | 0, _, c => ([], none, c)
  | fuel + 1, before, c =>
    let n := if c.next? = some '#' then 0 else wordLength inFlow c.rest
    if n = 0 then ([], none, c)
    else
      let word := c.rest.take n
      let (gap, c) := scanBetween fuel (c.skip n)
      let ends := gap.text.isEmpty || c.next? == some '#' || (!inFlow && c.column < indent)
      if ends then (before ++ word, some gap.broken, c)
      else
        let (more, flag, c) := scanFrom inFlow indent fuel gap.text c
        (before ++ word ++ more, some (flag.getD gap.broken), c)

/-- Reads a plain scalar inside a block indented by `parent`, and whether the place after it is on
a later line than its last word. -/
def scan (inFlow : Bool) (parent : Int) (c : Cursor) : String × Bool × Cursor :=
  let (cs, flag, c) := scanFrom inFlow (parent + 1) (c.rest.length + 1) [] c
  (String.ofList cs, flag.getD false, c)

end Plain

end ShadowTypes.Yaml
