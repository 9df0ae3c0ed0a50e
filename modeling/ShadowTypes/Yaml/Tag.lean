import ShadowTypes.Text.Lines

/-!
# Tags of YAML nodes

A tag says what a node stands for. The tag of a plain scalar follows from its text: the first form
that fits decides, and a text that fits none is text.
-/

namespace ShadowTypes.Yaml

/-- What a node stands for. -/
inductive Tag
  | null
  | bool
  | int
  | float
  | timestamp
  | binary
  | text
  | sequence
  | mapping
  | set
  | orderedMap
  | pairs
  /-- The key under which other mappings are merged in. -/
  | merge
  /-- The key of a mapping's own value. -/
  | value
  | unknown
  deriving DecidableEq, Repr, Inhabited

namespace Tag

def home : String := "tag:yaml.org,2002:"

def ofAddress (s : String) : Tag :=
  if !home.toList.isPrefixOf s.toList then .unknown
  else match String.ofList (s.toList.drop home.length) with
    | "null" => .null
    | "bool" => .bool
    | "int" => .int
    | "float" => .float
    | "timestamp" => .timestamp
    | "binary" => .binary
    | "str" => .text
    | "seq" => .sequence
    | "map" => .mapping
    | "set" => .set
    | "omap" => .orderedMap
    | "pairs" => .pairs
    | "merge" => .merge
    | "value" => .value
    | _ => .unknown

/-! ## Forms of plain scalars -/

def boolWords : List (String × Bool) := [
  ("yes", true), ("Yes", true), ("YES", true), ("no", false), ("No", false), ("NO", false),
  ("true", true), ("True", true), ("TRUE", true), ("false", false), ("False", false),
  ("FALSE", false), ("on", true), ("On", true), ("ON", true), ("off", false), ("Off", false),
  ("OFF", false)]

def nullWords : List String := ["", "~", "null", "Null", "NULL"]

def isDigit (c : Char) : Bool := '0' ≤ c && c ≤ '9'

def isDigitOrGap (c : Char) : Bool := isDigit c || c == '_'

def unsigned : List Char → List Char
  | '+' :: r => r
  | '-' :: r => r
  | l => l

/-- The characters after a digit and any digits and underscores, if a digit comes first. -/
def afterDigits? : List Char → Option (List Char)
  | c :: r => if isDigit c then some (r.dropWhile isDigitOrGap) else none
  | [] => none

/-- A number below sixty, as a part of a sexagesimal numeral. -/
def isSixtieth : List Char → Bool
  | [c] => isDigit c
  | [d, c] => '0' ≤ d && d ≤ '5' && isDigit c
  | _ => false

def isExponent : List Char → Bool
  | [] => true
  | e :: s :: r => (e == 'e' || e == 'E') && (s == '+' || s == '-') && !r.isEmpty && r.all isDigit
  | _ => false

def isSexagesimalFraction (l : List Char) : Bool :=
  match Text.splitAt ':' l with
  | first :: rest => match rest.getLast? with
    | none => false
    | some last =>
      let whole := last.takeWhile (· != '.')
      let fraction := last.dropWhile (· != '.')
      afterDigits? first == some [] && (rest.dropLast ++ [whole]).all isSixtieth &&
        !fraction.isEmpty && (fraction.drop 1).all isDigitOrGap
  | [] => false

def isFloat (l : List Char) : Bool :=
  let body := unsigned l
  let afterPoint := match afterDigits? body with
    | some ('.' :: r) => isExponent (r.dropWhile isDigitOrGap)
    | _ => false
  let pointFirst := match l with
    | '.' :: r => match afterDigits? r with
      | some rest => isExponent rest
      | none => false
    | _ => false
  let word := String.ofList body
  afterPoint || pointFirst || isSexagesimalFraction body ||
    [".inf", ".Inf", ".INF"].contains word || [".nan", ".NaN", ".NAN"].contains (String.ofList l)

/-- A whole number: binary, octal, decimal, hexadecimal or sexagesimal. -/
def isInt (l : List Char) : Bool :=
  match unsigned l with
  | [] => false
  | ['0'] => true
  | '0' :: 'b' :: r => !r.isEmpty && r.all fun c => c == '0' || c == '1' || c == '_'
  | '0' :: 'x' :: r =>
    !r.isEmpty && r.all fun c => isDigitOrGap c || ('a' ≤ c && c ≤ 'f') || ('A' ≤ c && c ≤ 'F')
  | '0' :: r => r.all fun c => ('0' ≤ c && c ≤ '7') || c == '_'
  | l => match Text.splitAt ':' l with
    | first :: rest => afterDigits? first == some [] && rest.all isSixtieth
    | [] => false

def takeDigits? (least most : Nat) (l : List Char) : Option (List Char × List Char) :=
  let ds := (l.takeWhile isDigit).take most
  if ds.length < least then none else some (ds, l.drop ds.length)

/-- The characters after the given one, if it comes first. -/
def after? (c : Char) : List Char → Option (List Char)
  | d :: r => if d = c then some r else none
  | [] => none

structure Parts where
  year : List Char
  month : List Char
  day : List Char
  /-- Hour, minute and second. -/
  time : Option (List Char × List Char × List Char) := none
  fraction : List Char := []
  /-- Whether the offset is west, its hours and its minutes; no digits for universal time. -/
  zone : Option (Bool × List Char × List Char) := none
  deriving Repr

/-- The zone at the end of a timestamp, after blanks. -/
def zone? (l : List Char) : Option (Option (Bool × List Char × List Char)) :=
  match l.dropWhile fun c => c == ' ' || c == '\t' with
  | [] => if l.isEmpty then some none else none
  | ['Z'] => some (some (false, [], []))
  | s :: r => do
    if s != '+' && s != '-' then none
    let (hours, r) ← takeDigits? 1 2 r
    let minutes ← match r with
      | [] => pure []
      | ':' :: r => do
        let (minutes, r) ← takeDigits? 2 2 r
        if r.isEmpty then pure minutes else none
      | _ => none
    return some (s == '-', hours, minutes)

/-- The parts of a timestamp, if the text has that form. -/
def parts? (l : List Char) : Option Parts := do
  let (year, r) ← takeDigits? 4 4 l
  let r ← after? '-' r
  let (month, r) ← takeDigits? 1 2 r
  let r ← after? '-' r
  let (day, r) ← takeDigits? 1 2 r
  match r with
  | [] => return { year, month, day }
  | c :: r' =>
    let blank (c : Char) : Bool := c == ' ' || c == '\t'
    let r ← if c == 'T' || c == 't' then pure r'
      else if blank c then pure (r'.dropWhile blank)
      else none
    let (hour, r) ← takeDigits? 1 2 r
    let r ← after? ':' r
    let (minute, r) ← takeDigits? 2 2 r
    let r ← after? ':' r
    let (second, r) ← takeDigits? 2 2 r
    let (fraction, r) := match r with
      | '.' :: r => (r.takeWhile isDigit, r.dropWhile isDigit)
      | r => ([], r)
    let zone ← zone? r
    return { year, month, day, time := some (hour, minute, second), fraction, zone }

/-- A timestamp; a date alone has two digits for month and day. -/
def isTimestamp (l : List Char) : Bool :=
  match parts? l with
  | some p => p.time.isSome || (p.month.length == 2 && p.day.length == 2)
  | none => false

/-- The tag of a plain scalar. A line feed at the end does not count. -/
def ofText (s : String) : Tag :=
  let l := s.toList
  let l := if l.getLast? = some '\n' && l.length != 1 then l.dropLast else l
  let word := String.ofList l
  if nullWords.contains word then .null
  else if boolWords.any (·.1 == word) then .bool
  else if isFloat l then .float
  else if isInt l then .int
  else if isTimestamp l then .timestamp
  else if word = "<<" then .merge
  else if word = "=" then .value
  else if ["!", "&", "*"].contains word then .unknown
  else .text

end Tag

end ShadowTypes.Yaml
