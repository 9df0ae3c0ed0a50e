/-!
# Code points

A text is a sequence of code points. Nearly all of them are characters, but an escape can name half
of a surrogate pair, which is none. A text holds such a half as two characters: `halfMark`, one of
the noncharacters kept for internal use, and the character that lies `halfShift` beyond the half.
`halfMark` itself is written twice. `spellings` cuts a text into its code points as they are
written, and `spell` writes a code point.
-/

namespace ShadowTypes.Text

def isSurrogate (n : Nat) : Bool := 0xD800 ≤ n && n ≤ 0xDFFF

/-- Stands before a character in the place of half of a surrogate pair, and before itself. -/
def halfMark : Char := '\uFDEF'

/-- The distance from half of a surrogate pair to the character in its place. -/
def halfShift : Nat := 0x100000

/-- Whether the character means something else after the mark. -/
def isMarked (c : Char) : Bool :=
  c == halfMark || (halfShift ≤ c.toNat && isSurrogate (c.toNat - halfShift))

def spell (n : Nat) : List Char :=
  if isSurrogate n then [halfMark, Char.ofNat (n + halfShift)]
  else if n = halfMark.toNat then [halfMark, halfMark]
  else [Char.ofNat n]

def spellings : List Char → List (List Char)
  | [] => []
  | [c] => [[c]]
  | c :: d :: r =>
    if c == halfMark && isMarked d then [c, d] :: spellings r else [c] :: spellings (d :: r)

/-- The code point that is written by the given characters. -/
def pointOf : List Char → Nat
  | [c] => c.toNat
  | [_, d] => if d = halfMark then halfMark.toNat else d.toNat - halfShift
  | _ => 0

def codePoints (s : String) : List Nat := (spellings s.toList).map pointOf

def ofCodePoints (ns : List Nat) : String := String.ofList (ns.flatMap spell)

def ofCharacters (l : List Char) : String := ofCodePoints (l.map Char.toNat)

/-- The characters of a text, with a replacement character for half of a surrogate pair. -/
def characters (s : String) : List Char :=
  (codePoints s).map fun n => if isSurrogate n then '\uFFFD' else Char.ofNat n

/-- Whether the text holds half of a surrogate pair, so that no bytes spell it. -/
def isBroken (s : String) : Bool := (codePoints s).any isSurrogate

/-- Whether one text comes before another in the order of their code points. -/
def precedes (s t : String) : Bool := decide (codePoints s < codePoints t)

/-- The halves of surrogate pairs that stand for a byte of a file name. -/
def isFileByte (n : Nat) : Bool := 0xDC80 ≤ n && n ≤ 0xDCFF

/-- The first run of code points that begins with one kind and goes on with another one: its
position and its length. -/
def run? (begins goesOn : Nat → Bool) (s : String) : Option (Nat × Nat) :=
  let ns := codePoints s
  (ns.findIdx? begins).map fun i => (i, ((ns.drop i).takeWhile goesOn).length)

/-- The first run of halves of surrogate pairs that begins with one of a kind. -/
def surrogates? (kind : Nat → Bool) : String → Option (Nat × Nat) :=
  run? (fun n => isSurrogate n && kind n) isSurrogate

theorem flatten_spellings (l : List Char) : (spellings l).flatten = l := by
  fun_induction spellings l <;> simp_all

end ShadowTypes.Text
