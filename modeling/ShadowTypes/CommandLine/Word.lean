import ShadowTypes.CommandLine.Switch
import ShadowTypes.Text.Letters

/-!
# Words of a command line

A word is plain, or it is a switch, perhaps with a value in the same word. The long spelling of a
switch may be cut short as long as one switch is meant; a value follows it after an equals sign.
The short spelling is followed by its value at once; a value of two dashes in the same word as its
switch is no value. After two dashes all words are plain; negative
numbers, words with blanks in them and single dashes are plain unless they are switches.

Plain words are values of the switches before them or else sources. All sources stand together:
plain words after a later switch belong to nothing.
-/

namespace ShadowTypes.CommandLine

/-- A word of a command line. -/
inductive Word
  | plain (s : String)
  /-- Two dashes. -/
  | separator
  /-- A switch; after its `short` spelling the value may hold more switches. -/
  | switch (s : Switch) (short : Bool) (value : Option String)
  | unknown (s : String)
  deriving DecidableEq, Repr

namespace Word

/-- A word before its first equals sign, and what follows that. -/
def splitValue (l : List Char) : List Char × Option String :=
  let head := l.takeWhile (· != '=')
  match l.drop head.length with
  | [] => (head, none)
  | _ :: value => (head, some (String.ofList value))

def withoutLineBreak (l : List Char) : List Char :=
  if l.getLast? = some '\n' then l.dropLast else l

/-- Whether the word is a negative number, perhaps with a line break after it. -/
def isNegativeNumber (l : List Char) : Bool :=
  match withoutLineBreak l with
  | '-' :: r =>
    match r.dropWhile Text.isNumeralDigit with
    | [] => !r.isEmpty
    | '.' :: fraction => !fraction.isEmpty && fraction.all Text.isNumeralDigit
    | _ => false
  | _ => false

/-- The words that a text may be by its beginning, each with the spelling of its switch. -/
def meanings (l : List Char) : List (String × Word) :=
  if "--".toList.isPrefixOf l then
    let (head, value) := splitValue l
    (Switch.table.filter fun e => head.isPrefixOf e.1.toList).map fun e =>
      (e.1, .switch e.2 false value)
  else Switch.table.filterMap fun e =>
    if e.1.toList = l.take 2 then
      some (e.1, .switch e.2 true (some (String.ofList (l.drop 2))))
    else if l.isPrefixOf e.1.toList then some (e.1, .switch e.2 false none)
    else none

/-- The word that begins with a dash and is no spelling of a switch. -/
def ofDashed (s : String) : Except UsageFault Word :=
  match meanings s.toList with
  | [(_, w)] => .ok w
  | [] =>
    if isNegativeNumber s.toList || s.toList.contains ' ' then .ok (.plain s) else .ok (.unknown s)
  | ms => .error (.ambiguous s (ms.map (·.1)))

def ofText (s : String) : Except UsageFault Word :=
  match s.toList with
  | '-' :: _ :: _ =>
    match Switch.ofSpelling? s with
    | some sw => .ok (.switch sw false none)
    | none =>
      let (head, value) := splitValue s.toList
      match value, Switch.ofSpelling? (String.ofList head) with
      | some _, some sw => .ok (.switch sw (head.length = 2) value)
      | _, _ => ofDashed s
  | _ => .ok (.plain s)

def ofTexts : List String → Except UsageFault (List Word)
  | [] => .ok []
  | s :: ss =>
    if s = "--" then .ok (.separator :: ss.map .plain)
    else do
      let w ← ofText s
      return w :: (← ofTexts ss)

/-- A value in the same word as its switch; two dashes are no value. -/
def sameWordValue (value : String) : Option String := if value = "--" then none else some value

/-- What a switch with a value in the same word stands for. -/
structure Expansion where
  /-- The switches with their values. -/
  given : List Given := []
  /-- The last switch, if it still waits for its value. -/
  waiting : Option Switch := none
  deriving DecidableEq, Repr

/-- What a switch in its short spelling stands for whose value is in the same word: if it takes no
value, the value holds more switches. -/
def cluster (sw : Switch) : List Char → Except UsageFault Expansion
  | [] => .error (.strayValue sw "")
  | c :: cs =>
    let value := String.ofList (c :: cs)
    if sw.takesValue then .ok { given := [(sw, sameWordValue value)] }
    else match Switch.ofSpelling? (String.ofList ['-', c]) with
      | none => .error (.strayValue sw value)
      | some next => match cs with
        | [] =>
          if next.takesValue then .ok { given := [(sw, none)], waiting := some next }
          else .ok { given := [(sw, none), (next, none)] }
        | d :: ds => do
          let e ← cluster next (d :: ds)
          return { e with given := (sw, none) :: e.given }

def expand (sw : Switch) (short : Bool) (value : String) : Except UsageFault Expansion :=
  if sw.takesValue then .ok { given := [(sw, sameWordValue value)] }
  else if short then cluster sw value.toList
  else .error (.strayValue sw value)

end Word

/-- Where the reading of a command line stands as to its sources. -/
inductive Phase
  | before
  | inside
  | after
  deriving DecidableEq, Repr

/-- What was read from a command line. -/
structure Sorted where
  phase : Phase := .before
  sources : List String := []
  /-- The switches with their values, in order. -/
  given : List Given := []
  /-- The words that belong to nothing. -/
  strays : List String := []
  deriving DecidableEq, Repr

namespace Sorted

def plain (r : Sorted) (s : String) : Sorted :=
  match r.phase with
  | .after => { r with strays := r.strays ++ [s] }
  | _ => { r with phase := .inside, sources := r.sources ++ [s] }

def separator (r : Sorted) : Sorted :=
  match r.phase with
  | .after => { r with strays := r.strays ++ ["--"] }
  | _ => { r with phase := .inside }

/-- The sources end where a switch comes. -/
def close (r : Sorted) : Sorted :=
  match r.phase with
  | .inside => { r with phase := .after }
  | _ => r

def give (r : Sorted) (more : List Given) : Sorted :=
  { r.close with given := r.given ++ more }

/-- A word that is no switch although it looks like one. -/
def stray (r : Sorted) (s : String) : Sorted := { r.close with strays := r.strays ++ [s] }

/-- Sorts words, as far as they make sense. -/
def sort (r : Sorted) : List Word → Sorted × Option UsageFault
  | [] => (r, none)
  | .plain s :: ws => sort (r.plain s) ws
  | .separator :: ws => sort r.separator ws
  | .unknown s :: ws => sort (r.stray s) ws
  | .switch sw _ none :: ws =>
    if sw.takesValue then
      match ws with
      | .plain v :: ws => sort (r.give [(sw, some v)]) ws
      | _ => (r, some (.missingValue sw))
    else sort (r.give [(sw, none)]) ws
  | .switch sw short (some value) :: ws =>
    match Word.expand sw short value with
    | .error f => (r, some f)
    | .ok e => match e.waiting with
      | none => sort (r.give e.given) ws
      | some last => match ws with
        | .plain v :: ws => sort (r.give (e.given ++ [(last, some v)])) ws
        | _ => (r, some (.missingValue last))

end Sorted

end ShadowTypes.CommandLine
