import ShadowTypes.Text.Quoted

/-!
# Texts in quotes

What stands between the quotes of a text, whether its escapes are ones, and the sources of the
expressions that stand in the braces of a formatted text.
-/

namespace ShadowTypes.Forward

open Text

/-! ## Quotes -/

/-- What stands before the closing quote, which ends on the same line, and after it. -/
def shortBody (quote : Char) : List Char → Option (List Char × List Char)
  | '\\' :: c :: r => (shortBody quote r).map fun p => ('\\' :: c :: p.1, p.2)
  | c :: r =>
    if c = quote then some ([], r)
    else if c = '\n' then none
    else (shortBody quote r).map fun p => (c :: p.1, p.2)
  | [] => none

/-- What stands before three closing quotes, and after them. -/
def longBody (quote : Char) : List Char → Option (List Char × List Char)
  | '\\' :: c :: r => (longBody quote r).map fun p => ('\\' :: c :: p.1, p.2)
  | c :: r =>
    if c = quote && (r.take 2) = [quote, quote] then some ([], r.drop 2)
    else (longBody quote r).map fun p => (c :: p.1, p.2)
  | [] => none

/-- What stands between quotes, the first of which has been read, and what follows them. -/
def quotedBody (quote : Char) (l : List Char) : Option (List Char × List Char) :=
  match l with
  | c :: d :: r => if c = quote && d = quote then longBody quote r else shortBody quote l
  | l => shortBody quote l

/-! ## Escapes -/

/-- Whether the text begins with a code point of `width` hexadecimal digits. -/
def hasCode (width : Nat) (l : List Char) : Bool :=
  let digits := l.take width
  digits.length = width && (hexNumber? digits).any (· ≤ 0x10FFFF)

def isNamePart (c : Char) : Bool := c.isAlphanum || c = '-' || c = ' '

/-- Whether the text begins with what can be the name of a character, in braces: words of letters,
digits and hyphens with single blanks between them. -/
def hasName : List Char → Bool
  | '\x7b' :: r =>
    (r.dropWhile isNamePart).head? = some '\x7d' &&
      ((r.takeWhile isNamePart).splitOn ' ').all (!·.isEmpty)
  | _ => false

/-- Whether every escape is one. Bytes know no escapes for code points beyond theirs. -/
def hasGoodEscapes (isBytes : Bool) : List Char → Bool
  | '\\' :: 'x' :: r => hasCode 2 r && hasGoodEscapes isBytes r
  | '\\' :: 'u' :: r => (isBytes || hasCode 4 r) && hasGoodEscapes isBytes r
  | '\\' :: 'U' :: r => (isBytes || hasCode 8 r) && hasGoodEscapes isBytes r
  | '\\' :: 'N' :: r => (isBytes || hasName r) && hasGoodEscapes isBytes r
  | '\\' :: _ :: r => hasGoodEscapes isBytes r
  | _ :: r => hasGoodEscapes isBytes r
  | [] => true

/-! ## Formatted texts -/

/-- Where a character of a formatted text stands. -/
inductive Place
  | plain
  /-- After a backslash. -/
  | escape
  /-- After the mark of an escape by name. -/
  | escapeName
  /-- In the name of an escape, whose braces are its own. -/
  | name
  /-- After a brace that stands for itself, which is written twice. -/
  | doubled
  deriving DecidableEq, Repr

/-- What stands before the first brace that begins or ends a field, and what follows from there.
Outside of fields a brace written twice stands for itself, and none is closed. -/
def splitPlain (isRaw isOuter : Bool) : Place → List Char → Option (List Char × List Char)
  | _, [] => some ([], [])
  | place, c :: r =>
    let keep (next : Place) : Option (List Char × List Char) :=
      (splitPlain isRaw isOuter next r).map fun p => (c :: p.1, p.2)
    match place with
    | .doubled => splitPlain isRaw isOuter .plain r
    | .name => keep (if c = '\x7d' then .plain else .name)
    | .escapeName => keep (if c = '\x7b' then .name else .plain)
    | place =>
      if c = '\x7b' || c = '\x7d' then
        if isOuter && r.head? = some c then keep .doubled
        else if isOuter && c = '\x7d' then none
        else some ([], c :: r)
      else if place = .escape then keep (if c = 'N' then .escapeName else .plain)
      else keep (if c = '\\' && !isRaw then .escape else .plain)

def closing? : Char → Option Char
  | '(' => some ')'
  | '[' => some ']'
  | '\x7b' => some '\x7d'
  | _ => none

def maxDepth : Nat := 200

/-- What has been read of the source of an expression in a field. -/
structure SourceState where
  /-- How many of the next characters belong to what has been read. -/
  taken : Nat := 0
  /-- The quote of the text in which the source stands, and whether it takes three to close it. -/
  quote : Option (Char × Bool) := none
  /-- The closing brackets of the open ones, inner ones first. -/
  closings : List Char := []

/-- What a character does to the source of an expression. -/
inductive SourceStep
  | goesOn (s : SourceState)
  | ends
  | fails

/-- What a character does inside a text in quotes, before the given ones. -/
def SourceState.stepQuoted (s : SourceState) (quote : Char) (isLong : Bool) (c : Char)
    (r : List Char) : SourceStep :=
  if c != quote then .goesOn s
  else if !isLong then .goesOn { s with quote := none }
  else if r.take 2 = [quote, quote] then .goesOn { s with quote := none, taken := 2 }
  else .goesOn s

/-- What a character does outside of texts in quotes, before the given ones: the source ends before
an equals sign, the mark of a conversion or of a format, or the closing brace of the field, but
goes on after comparisons, and no comment stands in it. -/
def SourceState.stepPlain (s : SourceState) (c : Char) (r : List Char) : SourceStep :=
  if c = '\'' || c = '"' then
    if r.take 2 = [c, c] then .goesOn { s with quote := some (c, true), taken := 2 }
    else .goesOn { s with quote := some (c, false) }
  else match closing? c with
    | some d =>
      if s.closings.length < maxDepth then .goesOn { s with closings := d :: s.closings }
      else .fails
    | none =>
      if c = '#' then .fails
      else if s.closings.isEmpty && ['!', '=', '<', '>'].contains c && r.head? = some '=' then
        .goesOn { s with taken := 1 }
      else if s.closings.isEmpty && ['!', '=', ':', '\x7d'].contains c then .ends
      else if [')', ']', '\x7d'].contains c then
        if s.closings.head? = some c then .goesOn { s with closings := s.closings.tail }
        else .fails
      else .goesOn s

/-- What a character does to the source of an expression, before the given ones. No backslash stands
in it. -/
def SourceState.step (s : SourceState) (c : Char) (r : List Char) : SourceStep :=
  if c = '\\' then .fails
  else if 0 < s.taken then .goesOn { s with taken := s.taken - 1 }
  else match s.quote with
    | some (quote, isLong) => s.stepQuoted quote isLong c r
    | none => s.stepPlain c r

/-- The source of the expression at the beginning of a field, and what follows it. -/
def splitSource : SourceState → List Char → Option (List Char × List Char)
  | _, [] => none
  | s, c :: r => match s.step c r with
    | .goesOn s => (splitSource s r).map fun p => (c :: p.1, p.2)
    | .ends => some ([], c :: r)
    | .fails => none

/-- What follows a sign that asks for the source itself, which may stand after the source. -/
def afterSign : List Char → List Char
  | '=' :: r => r.dropWhile fun c => c = ' ' || ('\t' ≤ c && c ≤ '\r')
  | l => l

/-- What follows the mark of a conversion, which may stand after a source. -/
def afterConversion : List Char → Option (List Char)
  | '!' :: c :: r => if ['s', 'r', 'a'].contains c then some r else none
  | '!' :: [] => none
  | l => some l

/-- How deep fields can stand in the formats of others. -/
def maxLevel : Nat := 2

/-- The sources of the expressions in the fields of a formatted text, in at most the given number of
steps, and what follows from the brace that ends a field with this text for its format. -/
def fieldSources (isRaw : Bool) : Nat → Nat → List Char → Option (List String × List Char)
  | 0, _, _ => none
  | steps + 1, level, l => do
    let (plain, rest) ← splitPlain isRaw (level = 0) .plain l
    if !isRaw && !hasGoodEscapes false plain then none
    match rest with
    | '\x7b' :: r =>
      let (src, r) ← splitSource {} r
      if maxLevel ≤ level || src.all [' ', '\t', '\n', '\x0c'].contains then none
      let r ← afterConversion (afterSign r)
      let (inner, r) ← match r with
        | ':' :: r => fieldSources isRaw steps (level + 1) r
        | r => some ([], r)
      match r with
      | '\x7d' :: r => do
        let (more, rest) ← fieldSources isRaw steps level r
        return (String.ofList src :: inner ++ more, rest)
      | _ => none
    | rest => some ([], rest)

def innerSources? (letters : List Char) (body : List Char) : Option (List String) :=
  let isRaw := letters.contains 'r'
  let isBytes := letters.contains 'b'
  if letters.contains 'f' then (fieldSources isRaw (body.length + 1) 0 body).map (·.1)
  else if isBytes && body.any (fun c => 128 ≤ c.toNat) then none
  else if isRaw || hasGoodEscapes isBytes body then some []
  else none

end ShadowTypes.Forward
