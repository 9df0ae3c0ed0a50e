import ShadowTypes.Dialect
import ShadowTypes.Hint.Forward.QuotedText
import ShadowTypes.Number.Numeral
import ShadowTypes.Text.Folding
import ShadowTypes.Text.Lines
import ShadowTypes.Text.Quoted

/-!
# Tokens of forward references

What stands in the quotes of a forward reference is cut into tokens of the Python dialect: names,
texts in quotes, numbers and constants, and marks, which are keywords, operators and brackets. The
end of a line counts only outside brackets, and there a line begins without blanks.
-/

namespace ShadowTypes.Forward

open Text

inductive Token
  | name (s : String)
  /-- A text in quotes, or bytes in quotes, with the sources of the expressions in it. -/
  | text (isBytes : Bool) (inner : List String)
  /-- A number or a constant. -/
  | value
  /-- A word with a meaning of its own, an operator or a bracket. -/
  | mark (s : String)
  /-- The end of a line, unless brackets are open. -/
  | lineEnd
  deriving DecidableEq, Repr

/-! ## Texts in quotes -/

/-- The letters that may stand in front of a text in quotes. -/
def textMarks : List String := ["r", "b", "u", "f", "br", "rb", "fr", "rf"]

/-- The token of a text whose first quote has been read, after the given letters. -/
def textToken (letters : String) (quote : Char) (l : List Char) : Option (Token × List Char) := do
  let (body, rest) ← quotedBody quote l
  return (.text (letters.toList.contains 'b') (← innerSources? letters.toList body), rest)

/-! ## Numbers -/

def isWordPart (c : Char) : Bool := isAsciiStart c || isAsciiDigit c || 128 ≤ c.toNat

/-- The keywords that may stand right behind a number. -/
def numberFollowers : List String := ["and", "else", "for", "if", "in", "is", "not", "or"]

/-- What follows a number, which no word may, except for some keywords. -/
def endNumber (l : List Char) : Option (List Char) :=
  if numberFollowers.any fun w => w.toList.isPrefixOf l then some l
  else if l.head?.any isWordPart then none
  else some l

/-- What follows digits with single underscores between them, after the first digit. -/
def moreDigits (isDigit : Char → Bool) : List Char → Option (List Char)
  | '_' :: c :: r => if isDigit c then moreDigits isDigit r else none
  | '_' :: [] => none
  | c :: r => if isDigit c then moreDigits isDigit r else some (c :: r)
  | [] => some []

/-- What follows a number in a base of its own, after its mark. -/
def afterRadix (isDigit : Char → Bool) (l : List Char) : Option (List Char) :=
  let l := if l.head? = some '_' then l.drop 1 else l
  match l with
  | c :: r => if isDigit c then (moreDigits isDigit r).bind endNumber else none
  | [] => none

def afterFraction (l : List Char) : Option (List Char) :=
  match l with
  | c :: r => if isAsciiDigit c then moreDigits isAsciiDigit r else some l
  | [] => some []

/-- What follows an exponent, and whether there is one; without digits it is none. -/
def afterExponent (l : List Char) : Option (Bool × List Char) :=
  match l with
  | e :: r =>
    if e != 'e' && e != 'E' then some (false, l)
    else match r with
      | c :: r' =>
        if isAsciiDigit c then (moreDigits isAsciiDigit r').map (true, ·)
        else if c = '+' || c = '-' then match r' with
          | d :: r'' =>
            if isAsciiDigit d then (moreDigits isAsciiDigit r'').map (true, ·) else none
          | [] => none
        else some (false, l)
      | [] => some (false, l)
  | [] => some (false, [])

/-- What follows the whole part of a decimal number: a fraction, an exponent and the mark of
imaginary numbers. Without any of them the whole part has no zeros in front and is not too long. -/
def afterWhole (whole : List Char) (l : List Char) : Option (List Char) := do
  let hasPoint := l.head? = some '.'
  let r ← if hasPoint then afterFraction (l.drop 1) else some l
  let (hasExponent, r) ← afterExponent r
  let isImaginary := r.head? = some 'j' || r.head? = some 'J'
  let r := if isImaginary then r.drop 1 else r
  let digits := whole.filter (· != '_')
  let isWhole := !(hasPoint || hasExponent || isImaginary)
  let hasZeros := digits.head? = some '0' && digits.any (· != '0')
  if isWhole && (hasZeros || Numeral.maxDigits < digits.length) then none
  endNumber r

/-- What follows a number at the beginning of a text. -/
def afterNumber (l : List Char) : Option (List Char) :=
  match l with
  | '.' :: _ => afterWhole [] l
  | '0' :: 'x' :: r | '0' :: 'X' :: r => afterRadix (fun c => (hexValue? c).isSome) r
  | '0' :: 'o' :: r | '0' :: 'O' :: r => afterRadix (fun c => '0' ≤ c && c ≤ '7') r
  | '0' :: 'b' :: r | '0' :: 'B' :: r => afterRadix (fun c => c == '0' || c == '1') r
  | l => do
    let r ← moreDigits isAsciiDigit (l.drop 1)
    afterWhole (l.take (l.length - r.length)) r

/-! ## Tokens -/

def valueWords : List String := ["None", "True", "False"]

/-- The operators and brackets, longer ones before those that they begin with. -/
def marks : List String := [
  "...", ":=", "**", "//", "<<", ">>", "<=", ">=", "==", "!=", "+", "-", "*", "/", "%", "@", "&",
  "|", "^", "~", "<", ">", "(", ")", "[", "]", "\x7b", "\x7d", ",", ":", ".", "="]

def wordToken (s : String) : Option Token :=
  if valueWords.contains s then some .value
  else if Dialect.isKeyword s then some (.mark s)
  else if isIdentifier s.toList then some (.name s)
  else none

def isName (s : String) : Bool :=
  match wordToken s with
  | some (.name _) => true
  | _ => false

/-- The first token of a text, and what follows it. -/
def token? (l : List Char) : Option (Token × List Char) :=
  match l with
  | [] => none
  | c :: r =>
    if c = '\'' || c = '"' then textToken "" c r
    else if isAsciiDigit c || (c = '.' && r.head?.any isAsciiDigit) then
      (afterNumber l).map (.value, ·)
    else if isWordPart c then
      let word := String.ofList (c :: r.takeWhile isWordPart)
      let rest := r.dropWhile isWordPart
      match rest with
      | q :: rest' =>
        if (q = '\'' || q = '"') && textMarks.contains (lower word) then
          textToken (lower word) q rest'
        else (wordToken word).map (·, rest)
      | [] => (wordToken word).map (·, rest)
    else
      (marks.find? fun m => m.toList.isPrefixOf l).map fun m => (.mark m, l.drop m.length)

/-- How many brackets are open after a token, unless they are too many. -/
def depthAfter (depth : Nat) : Token → Option Nat
  | .mark m =>
    if ["(", "[", "\x7b"].contains m then if depth < maxDepth then some (depth + 1) else none
    else if [")", "]", "\x7d"].contains m then some (depth - 1)
    else some depth
  | _ => some depth

def isGap (c : Char) : Bool := c = ' ' || c = '\t' || c = '\x0c'

/-- Whether blanks at the beginning of a line move what follows, and what follows. A form feed
starts over, but a backslash, which joins lines, keeps what has been moved before it (`isFixed`). -/
def splitMargin (isMoved isFixed : Bool) : List Char → Bool × List Char
  | '\\' :: '\n' :: d :: r => splitMargin isMoved (isFixed || isMoved) (d :: r)
  | c :: r =>
    if isGap c then splitMargin (c != '\x0c') isFixed r else (isMoved || isFixed, c :: r)
  | [] => (isMoved || isFixed, [])

/-- The tokens of a text, in at most the given number of steps; `fresh` tells whether a line outside
brackets begins. -/
def tokensFrom : Nat → Nat → Bool → List Char → Option (List Token)
  | 0, _, _, _ => none
  | _, _, _, [] => some []
  | steps + 1, depth, true, l =>
    let (isMoved, rest) := splitMargin false false l
    match rest with
    | [] => if isMoved then none else some []
    | '#' :: r => tokensFrom steps depth true ((r.dropWhile (· != '\n')).drop 1)
    | '\n' :: r => tokensFrom steps depth true r
    | _ => if isMoved then none else tokensFrom steps depth false rest
  | steps + 1, depth, false, c :: r =>
    if isGap c then tokensFrom steps depth false r
    else if c = '#' then tokensFrom steps depth false (r.dropWhile (· != '\n'))
    else if c = '\n' then
      if depth = 0 then (tokensFrom steps depth true r).map (.lineEnd :: ·)
      else tokensFrom steps depth false r
    else if c = '\\' then match r with
      | '\n' :: d :: r => tokensFrom steps depth false (d :: r)
      | _ => none
    else do
      let (t, rest) ← token? (c :: r)
      return t :: (← tokensFrom steps (← depthAfter depth t) false rest)

def tokens? (s : String) : Option (List Token) :=
  let l := universalBreaks s.toList
  tokensFrom (2 * l.length + 1) 0 true l

end ShadowTypes.Forward
