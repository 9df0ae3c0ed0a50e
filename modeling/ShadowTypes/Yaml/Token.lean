import ShadowTypes.Number.Numeral
import ShadowTypes.Text.Utf8
import ShadowTypes.Yaml.Scalar

/-!
# YAML tokens

A text is cut into tokens: marks, scalars, properties of nodes, and the starts and ends of block
collections, which follow from the indentation. What precedes a colon on its line is a key; the
key's mark is put in front of it once the colon is seen. Scanning goes on as far as the text
allows, so what was scanned is kept together with the reason for the end, except for tokens that
might still have turned out to be a key.
-/

namespace ShadowTypes.Yaml

inductive Token
  | versionDirective (major : Nat)
  | tagDirective (handle target : String)
  | otherDirective
  | documentStart
  | documentEnd
  | blockSequenceStart
  | blockMappingStart
  | blockEnd
  | flowSequenceStart
  | flowSequenceEnd
  | flowMappingStart
  | flowMappingEnd
  | blockEntry
  | flowEntry
  | key
  | value
  | alias (name : String)
  | anchor (name : String)
  | tag (handle : Option String) (suffix : String)
  | scalar (text : String) (plain : Bool)
  deriving DecidableEq, Repr, Inhabited

/-- Letters, digits, hyphens and underscores. -/
def isNameChar (c : Char) : Bool :=
  ('0' ≤ c && c ≤ '9') || ('A' ≤ c && c ≤ 'Z') || ('a' ≤ c && c ≤ 'z') || c == '-' || c == '_'

namespace Token

/-! ## Names, tags and directives -/

def endsAnchor : Option Char → Bool
  | none => true
  | some c => isGap (some c) || "?:,]\x7d%@\x60".toList.contains c

/-- Reads the name of an anchor or an alias after its mark. -/
def scanName (c : Cursor) : Except Stop (String × Cursor) :=
  let (name, c) := c.takeWhile isNameChar
  if name.isEmpty || !endsAnchor c.next? then malformed else .ok (String.ofList name, c)

def isAddressChar (c : Char) : Bool :=
  (isNameChar c || ";/?:@&=+$,.!~*'()[]".toList.contains c) && c != '%'

/-- Reads bytes written as two hexadecimal digits after a percent sign. -/
def scanBytes : Nat → Cursor → Except Stop (List UInt8 × Cursor)
  | 0, c => .ok ([], c)
  | fuel + 1, c => match c.rest with
    | '%' :: a :: b :: _ => match Text.hexNumber? [a, b] with
      | none => malformed
      | some n => do
        let (bs, c) ← scanBytes fuel (c.skip 3)
        return (UInt8.ofNat n :: bs, c)
    | '%' :: _ => malformed
    | _ => .ok ([], c)

def scanAddressFrom : Nat → Cursor → Except Stop (List Char × Cursor)
  | 0, c => .ok ([], c)
  | fuel + 1, c => match c.next? with
    | none => .ok ([], c)
    | some x =>
      if x == '%' then do
        let (bytes, c) ← scanBytes fuel c
        match Text.Utf8.decode bytes with
        | .error _ => malformed
        | .ok s => do
          let (more, c) ← scanAddressFrom fuel c
          return (s.toList ++ more, c)
      else if isAddressChar x then do
        let (run, c) := c.takeWhile isAddressChar
        let (more, c) ← scanAddressFrom fuel c
        return (run ++ more, c)
      else .ok ([], c)

def scanAddress (c : Cursor) : Except Stop (String × Cursor) := do
  let (cs, after) ← scanAddressFrom (c.rest.length + 1) c
  if after.index = c.index then malformed
  return (String.ofList cs, after)

/-- Reads a handle: an exclamation mark, or two with a name between them. -/
def scanHandle (c : Cursor) : Except Stop (String × Cursor) :=
  if c.next? != some '!' then malformed
  else if c.peek? 1 = some ' ' then .ok ("!", c.advance)
  else
    let (name, after) := c.advance.takeWhile isNameChar
    if after.next? = some '!' then .ok (String.ofList ('!' :: (name ++ ['!'])), after.advance)
    else malformed

/-- Whether a second exclamation mark comes before the end of the word. -/
def hasHandle (l : List Char) : Bool :=
  (l.takeWhile fun x => !isWordEnd (some x)).contains '!'

def scanTag (c : Cursor) : Except Stop (Token × Cursor) := do
  let (token, c) ←
    if c.peek? 1 = some '<' then do
      let (suffix, c) ← scanAddress (c.skip 2)
      if c.next? != some '>' then malformed
      pure (Token.tag none suffix, c.advance)
    else if isGap (c.peek? 1) then pure (Token.tag none "!", c.advance)
    else do
      let (handle, c) ← if hasHandle c.advance.rest then scanHandle c else pure ("!", c.advance)
      let (suffix, c) ← scanAddress c
      pure (Token.tag (some handle) suffix, c)
  if !isWordEnd c.next? then malformed
  return (token, c)

def scanVersionNumber (c : Cursor) : Except Stop (Nat × Cursor) :=
  let (digits, c) := c.takeWhile fun x => '0' ≤ x && x ≤ '9'
  if digits.isEmpty then malformed
  else if Numeral.maxDigits < digits.length then .error (.failure (Numeral.tooLong digits.length))
  else .ok (digits.foldl (fun n x => n * 10 + (x.toNat - '0'.toNat)) 0, c)

def scanDirectiveValue (name : String) (c : Cursor) : Except Stop (Token × Cursor) :=
  if name = "YAML" then do
    let (major, c) ← scanVersionNumber c.skipSpaces
    if c.next? != some '.' then malformed
    let (_, c) ← scanVersionNumber c.advance
    if !isWordEnd c.next? then malformed
    return (.versionDirective major, c)
  else if name = "TAG" then do
    let (handle, c) ← scanHandle c.skipSpaces
    if c.next? != some ' ' then malformed
    let (target, c) ← scanAddress c.skipSpaces
    if !isWordEnd c.next? then malformed
    return (.tagDirective handle target, c)
  else .ok (.otherDirective, c.skipWhile (!isBreak ·))

def scanDirective (c : Cursor) : Except Stop (Token × Cursor) := do
  let (name, c) := c.advance.takeWhile isNameChar
  if name.isEmpty || !isWordEnd c.next? then malformed
  let (token, c) ← scanDirectiveValue (String.ofList name) c
  let c ← Block.skipHeaderLine c
  return (token, c)

end Token

/-! ## The scanner -/

structure KeyPlace where
  /-- The number of tokens before it. -/
  position : Nat
  /-- Whether the line must turn out to be a key. -/
  required : Bool
  index : Nat
  line : Nat
  column : Nat
  deriving Repr

def maxKeyLength : Nat := 1024

/-- A place in a text with what is known from the text before it. -/
structure Scanner where
  cursor : Cursor
  /-- The tokens so far, last first. -/
  tokens : List Token := []
  /-- The number of tokens. -/
  count : Nat := 0
  /-- The number of open flow collections. -/
  depth : Nat := 0
  /-- The column of the innermost block collection. -/
  indent : Int := -1
  /-- The columns of the block collections around it. -/
  outer : List Int := []
  /-- Whether a key may begin here. -/
  allowKey : Bool := true
  /-- Where keys may have begun, by the depth of flow collections. -/
  keys : List (Nat × KeyPlace) := []
  deriving Repr

namespace Scanner

def push (s : Scanner) (t : Token) : Scanner :=
  { s with tokens := t :: s.tokens, count := s.count + 1 }

def insertAt (s : Scanner) (position : Nat) (t : Token) : Scanner :=
  let after := s.count - position
  { s with tokens := s.tokens.take after ++ t :: s.tokens.drop after, count := s.count + 1 }

def pushMark (s : Scanner) (t : Token) (length : Nat) : Scanner :=
  { s.push t with cursor := s.cursor.skip length }

def pushScanned (s : Scanner) (r : Except Stop (Token × Cursor)) : Except Stop Scanner := do
  let (t, c) ← r
  return { s.push t with cursor := c }

def key? (s : Scanner) : Option KeyPlace := (s.keys.find? (·.1 == s.depth)).map (·.2)

/-- The scanner without a possible key at the present depth. -/
def dropKey (s : Scanner) : Scanner := { s with keys := s.keys.filter (·.1 != s.depth) }

def giveUpKey (s : Scanner) : Except Stop Scanner :=
  match s.key? with
  | some k => if k.required then malformed else .ok s.dropKey
  | none => .ok s

/-- Whether a place is too far away for a key that ends here. -/
def isStale (s : Scanner) (k : KeyPlace) : Bool :=
  k.line != s.cursor.line || k.index + maxKeyLength < s.cursor.index

/-- Gives up on keys that are too far away. -/
def giveUpStaleKeys (s : Scanner) : Except Stop Scanner :=
  if s.keys.any fun k => s.isStale k.2 && k.2.required then malformed
  else .ok { s with keys := s.keys.filter fun k => !s.isStale k.2 }

/-- The tokens before the first place where a key may have begun. -/
def settled (s : Scanner) : List Token :=
  let places := (s.keys.filter fun k => !s.isStale k.2).map (·.2.position)
  s.tokens.reverse.take (places.foldl min s.count)

def noteKey (s : Scanner) : Except Stop Scanner := do
  let required := s.depth == 0 && s.indent == s.cursor.column
  if s.allowKey then
    let s ← s.giveUpKey
    return { s with keys := (s.depth,
      ⟨s.count, required, s.cursor.index, s.cursor.line, s.cursor.column⟩) :: s.keys }
  else return s

/-- Ends the block collections that are indented beyond `column`. -/
def unwind (column : Int) (s : Scanner) : Scanner :=
  if s.depth != 0 then s else go s.outer s
where
  /-- Ends block collections as long as there are any. -/
  go : List Int → Scanner → Scanner
    | [], s => s
    | o :: os, s =>
      if column < s.indent then go os { s.push .blockEnd with indent := o, outer := os } else s

/-- Begins a block collection at `column`, unless one is there; `start` says how. -/
def open_ (s : Scanner) (column : Nat) (start : Scanner → Scanner) : Scanner :=
  if s.indent < column then start { s with outer := s.indent :: s.outer, indent := column } else s

def skipToToken : Nat → Scanner → Scanner
  | 0, s => s
  | fuel + 1, s =>
    let c := s.cursor.skipSpaces.skipComment
    match c.lineBreak? with
    | some (_, c) =>
      skipToToken fuel { s with cursor := c, allowKey := s.allowKey || s.depth == 0 }
    | none => { s with cursor := c }

/-- The place of the next token, after the mark of the byte order at the beginning. -/
def toToken (s : Scanner) : Scanner :=
  let c := s.cursor
  let c := if c.index = 0 && c.next? = some byteOrderMark then c.advance else c
  skipToToken (c.rest.length + 1) { s with cursor := c }

def separator (s : Scanner) (t : Token) : Except Stop Scanner := do
  let s ← (s.unwind (-1)).giveUpKey
  return { s with allowKey := false }.pushMark t 3

def directive (s : Scanner) : Except Stop Scanner := do
  let s ← (s.unwind (-1)).giveUpKey
  { s with allowKey := false }.pushScanned (Token.scanDirective s.cursor)

def openFlow (s : Scanner) (t : Token) : Except Stop Scanner := do
  let s ← s.noteKey
  return { s with depth := s.depth + 1, allowKey := true }.pushMark t 1

def closeFlow (s : Scanner) (t : Token) : Except Stop Scanner := do
  let s ← s.giveUpKey
  if s.depth = 0 then malformed
  return { s with depth := s.depth - 1, allowKey := false }.pushMark t 1

def flowEntry (s : Scanner) : Except Stop Scanner := do
  let s ← s.giveUpKey
  return { s with allowKey := true }.pushMark .flowEntry 1

def blockEntry (s : Scanner) : Except Stop Scanner := do
  if s.depth = 0 && !s.allowKey then malformed
  let s := if s.depth = 0 then s.open_ s.cursor.column (·.push .blockSequenceStart) else s
  let s ← s.giveUpKey
  return { s with allowKey := true }.pushMark .blockEntry 1

def explicitKey (s : Scanner) : Except Stop Scanner := do
  if s.depth = 0 && !s.allowKey then malformed
  let s := if s.depth = 0 then s.open_ s.cursor.column (·.push .blockMappingStart) else s
  let s ← s.giveUpKey
  return { s with allowKey := s.depth == 0 }.pushMark .key 1

def valueMark (s : Scanner) : Except Stop Scanner :=
  match s.key? with
  | some k =>
    let s := s.dropKey.insertAt k.position .key
    let s := if s.depth = 0 then s.open_ k.column (·.insertAt k.position .blockMappingStart) else s
    .ok ({ s with allowKey := false }.pushMark .value 1)
  | none => do
    if s.depth = 0 && !s.allowKey then malformed
    let s := if s.depth = 0 then s.open_ s.cursor.column (·.push .blockMappingStart) else s
    let s := { s with allowKey := s.depth == 0 }
    let s ← s.giveUpKey
    return s.pushMark .value 1

def node (s : Scanner) (scan : Cursor → Except Stop (Token × Cursor)) : Except Stop Scanner := do
  let s ← s.noteKey
  { s with allowKey := false }.pushScanned (scan s.cursor)

def blockScalar (s : Scanner) (folded : Bool) : Except Stop Scanner := do
  let s ← s.giveUpKey
  let (text, c) ← Block.scan folded s.indent s.cursor.advance
  return { s.push (.scalar text false) with cursor := c, allowKey := true }

def plainScalar (s : Scanner) : Except Stop Scanner := do
  let s ← s.noteKey
  let (text, broken, c) := Plain.scan (s.depth != 0) s.indent s.cursor
  return { s.push (.scalar text true) with cursor := c, allowKey := broken }

def atPlain (s : Scanner) : Bool :=
  match s.cursor.next? with
  | none => false
  | some x =>
    !(isGap (some x) || "-?:,[]\x7b\x7d#&*!|>'\"%@\x60".toList.contains x) ||
      (!isGap (s.cursor.peek? 1) && (x == '-' || (s.depth == 0 && (x == '?' || x == ':'))))

def standsAlone (s : Scanner) : Bool := isGap (s.cursor.peek? 1)

def finish (s : Scanner) : Except Stop Scanner := do
  let s ← (s.unwind (-1)).giveUpKey
  return { s with allowKey := false, keys := [] }

def scanToken (s : Scanner) (x : Char) : Except Stop Scanner :=
  let c := s.cursor
  if x == '%' && c.column = 0 then s.directive
  else if c.column = 0 && c.hasFence '-' then s.separator .documentStart
  else if c.column = 0 && c.hasFence '.' then s.separator .documentEnd
  else if x == '[' then s.openFlow .flowSequenceStart
  else if x == '\x7b' then s.openFlow .flowMappingStart
  else if x == ']' then s.closeFlow .flowSequenceEnd
  else if x == '\x7d' then s.closeFlow .flowMappingEnd
  else if x == ',' then s.flowEntry
  else if x == '-' && s.standsAlone then s.blockEntry
  else if x == '?' && (s.depth != 0 || s.standsAlone) then s.explicitKey
  else if x == ':' && (s.depth != 0 || s.standsAlone) then s.valueMark
  else if x == '*' then
    s.node fun c => (Token.scanName c.advance).map fun r => (.alias r.1, r.2)
  else if x == '&' then
    s.node fun c => (Token.scanName c.advance).map fun r => (.anchor r.1, r.2)
  else if x == '!' then s.node Token.scanTag
  else if x == '|' && s.depth = 0 then s.blockScalar false
  else if x == '>' && s.depth = 0 then s.blockScalar true
  else if x == '\'' then
    s.node fun c => (Quote.scan false c.advance).map fun r => (.scalar r.1 false, r.2)
  else if x == '"' then
    s.node fun c => (Quote.scan true c.advance).map fun r => (.scalar r.1 false, r.2)
  else if s.atPlain then s.plainScalar
  else malformed

/-- The tokens from here on, after those scanned so far, and why scanning ended early. -/
def run : Nat → Scanner → List Token × Option Stop
  | 0, s => (s.tokens.reverse, some .malformed)
  | fuel + 1, s =>
    let step : Except Stop (Scanner × Bool) := do
      let s ← s.toToken.giveUpStaleKeys
      let s := s.unwind s.cursor.column
      match s.cursor.next? with
      | none => return (← s.finish, true)
      | some x => return (← s.scanToken x, false)
    match step with
    | .error e => (s.settled, some e)
    | .ok (s, true) => (s.tokens.reverse, none)
    | .ok (s, false) => run fuel s

end Scanner

/-- Code points that a text may hold. -/
def isAllowed (n : Nat) : Bool :=
  n == 9 || n == 10 || n == 13 || (0x20 ≤ n && n ≤ 0x7E) || n == 0x85 ||
    (0xA0 ≤ n && n ≤ 0xD7FF) || (0xE000 ≤ n && n ≤ 0xFFFD) || 0x10000 ≤ n

/-- The tokens of a text, and why scanning ended before its end. -/
def tokens (s : String) : List Token × Option Stop :=
  let cs := s.toList
  if (Text.codePoints s).all isAllowed then
    Scanner.run (cs.length + 2) ⟨⟨cs, 0, 0, 0⟩, [], 0, 0, -1, [], true, []⟩
  else ([], some .malformed)

end ShadowTypes.Yaml
