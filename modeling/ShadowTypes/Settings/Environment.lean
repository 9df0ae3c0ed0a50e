import ShadowTypes.Keyed
import ShadowTypes.Text.Blank
import ShadowTypes.Text.Folding

/-!
# Environment files

An environment file has one binding per line: a name, an equals sign, and a value that is plain or
in quotes. The word `export` may come first and a comment last. A line that has another form is
passed over. In a value, a name in braces after a dollar sign stands for what is bound to it, by
an earlier line or else by the environment, or for the default that the braces give.
-/

namespace ShadowTypes.Environment

open Text

/-- Names with their values; of equal names the last one counts. -/
abbrev Bindings := List (String × String)

def lookup? (bs : Bindings) (name : String) : Option String :=
  (bs.reverse.find? (·.1 == name)).map (·.2)

/-- The value of a name whose letter case does not count. -/
def lookupFolded? (bs : Bindings) (name : String) : Option String :=
  (bs.reverse.find? fun b => lower b.1 == lower name).map (·.2)

def isBreak (c : Char) : Bool := c == '\n' || c == '\r'

def isInnerBlank (c : Char) : Bool := isBlank c && !isBreak c

/-- A name and what it is bound to; nothing for a line without an equals sign. -/
abbrev Line := String × Option String

def skipLine (l : List Char) : List Char :=
  match l.dropWhile (!isBreak ·) with
  | [] => []
  | _ :: r => r

/-- The characters up to a closing quote, and those after it. The character after a backslash
closes nothing. -/
def quoted? (quote : Char) : List Char → Option (List Char × List Char)
  | [] => none
  | '\\' :: c :: r => (quoted? quote r).map fun p => ('\\' :: c :: p.1, p.2)
  | c :: r =>
    if c = quote then some ([], r) else (quoted? quote r).map fun p => (c :: p.1, p.2)

/-- The character after a backslash in double quotes that stands for another one. -/
def doubleEscape? : Char → Option Char
  | '\\' => some '\\'
  | '\'' => some '\''
  | '"' => some '"'
  | 'a' => some '\x07'
  | 'b' => some '\x08'
  | 'f' => some '\x0c'
  | 'n' => some '\n'
  | 'r' => some '\r'
  | 't' => some '\t'
  | 'v' => some '\x0b'
  | _ => none

/-- The character after a backslash in single quotes that stands for another one. -/
def singleEscape? : Char → Option Char
  | '\\' => some '\\'
  | '\'' => some '\''
  | _ => none

def unescape (escape? : Char → Option Char) : List Char → List Char
  | '\\' :: c :: r => match escape? c with
    | some e => e :: unescape escape? r
    | none => '\\' :: unescape escape? (c :: r)
  | c :: r => c :: unescape escape? r
  | [] => []

/-- A plain value without a comment after blanks. -/
def withoutComment : List Char → List Char
  | [] => []
  | c :: r =>
    if isBlank c && (r.dropWhile isBlank).head? == some '#' then [] else c :: withoutComment r

/-- The name at the beginning of a line, and what follows; no name for a comment. -/
def name? (l : List Char) : Option (Option String × List Char) :=
  match l with
  | '#' :: _ => some (none, l)
  | '\'' :: r =>
    let name := r.takeWhile (· != '\'')
    match name, r.drop name.length with
    | _ :: _, _ :: rest => some (some (String.ofList name), rest)
    | _, _ => none
  | l =>
    let inName (c : Char) : Bool := c != '=' && c != '#' && !isBlank c
    let name := l.takeWhile inName
    if name.isEmpty then none else some (some (String.ofList name), l.dropWhile inName)

/-- The value after an equals sign, and what follows. -/
def value? (l : List Char) : Option (List Char × List Char) :=
  match l with
  | [] => some ([], [])
  | '\'' :: r => (quoted? '\'' r).map fun p => (unescape singleEscape? p.1, p.2)
  | '"' :: r => (quoted? '"' r).map fun p => (unescape doubleEscape? p.1, p.2)
  | c :: r =>
    if isBreak c then some ([], c :: r)
    else
      let line := l.takeWhile (!isBreak ·)
      some (dropWhileEnd isBlank (withoutComment line), l.dropWhile (!isBreak ·))

/-- The next line, if nothing but a comment comes before it. -/
def lineEnd? (l : List Char) : Option (List Char) :=
  let l := match l.dropWhile isInnerBlank with
    | '#' :: r => r.dropWhile (!isBreak ·)
    | r => r
  match l with
  | [] => some []
  | '\r' :: '\n' :: r => some r
  | c :: r => if isBreak c then some r else none

/-- The characters after the word that may come first. -/
def skipExport (l : List Char) : List Char :=
  match l with
  | 'e' :: 'x' :: 'p' :: 'o' :: 'r' :: 't' :: c :: r =>
    if isInnerBlank c then r.dropWhile isInnerBlank else l
  | l => l

/-- The binding at the beginning of a line, if there is one, and the next line; a line of another
form is passed over from the place where it stops making sense. -/
def binding (l : List Char) : Option Line × List Char :=
  let l := skipExport l
  match name? l with
  | none => (none, skipLine l)
  | some (name, l) =>
    let l := l.dropWhile isInnerBlank
    let found : Except (List Char) (Option String × List Char) := match l with
      | '=' :: blanks =>
        let r := blanks.dropWhile isInnerBlank
        if r.head? = some '#' && r.length < blanks.length then .ok (some "", r)
        else match value? r with
          | some (v, rest) => .ok (some (String.ofList v), rest)
          | none => .error r
      | l => .ok (none, l)
    match found with
    | .error rest => (none, skipLine rest)
    | .ok (value, rest) => match lineEnd? rest with
      | some next => (name.map (·, value), next)
      | none => (none, skipLine rest)

def linesFrom : Nat → List Char → List Line
  | 0, _ => []
  | fuel + 1, l => match l.dropWhile isBlank with
    | [] => []
    | l =>
      let (b, rest) := binding l
      b.toList ++ linesFrom fuel rest

/-- A value with the names in braces replaced. -/
def expandFrom (find : String → Option String) : Nat → List Char → List Char
  | 0, l => l
  | _, [] => []
  | fuel + 1, '$' :: '\x7b' :: r =>
    let name := r.takeWhile fun c => c != '\x7d' && c != ':'
    let (default, rest) := match r.drop name.length with
      | ':' :: '-' :: r =>
        let default := r.takeWhile (· != '\x7d')
        (some default, r.drop default.length)
      | r => (none, r)
    match rest with
    | '\x7d' :: rest =>
      let value := match find (String.ofList name) with
        | some v => v.toList
        | none => default.getD []
      value ++ expandFrom find fuel rest
    | _ => '$' :: expandFrom find fuel ('\x7b' :: r)
  | fuel + 1, c :: r => c :: expandFrom find fuel r

def withoutMark : List Char → List Char
  | '\uFEFF' :: r => r
  | l => l

def bindings (text : String) (outer : Bindings) : Bindings :=
  let lines := linesFrom (text.length + 1) (withoutMark text.toList)
  let step (bs : Keyed (Option String)) (line : Line) : Keyed (Option String) :=
    let find (name : String) : Option String :=
      match bs.get? name with
      | some v => some (v.getD "")
      | none => lookup? outer name
    bs.set line.1 (line.2.map fun v => String.ofList (expandFrom find (v.length + 1) v.toList))
  let found := lines.foldl step []
  let folded : Keyed (Option String) := Keyed.merge [] (found.map fun b => (lower b.1, b.2))
  folded.filterMap fun b => b.2.map (b.1, ·)

end ShadowTypes.Environment
