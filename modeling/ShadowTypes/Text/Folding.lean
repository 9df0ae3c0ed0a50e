import ShadowTypes.Text.CaseTable
import ShadowTypes.Text.Letters

/-!
# Case folding

Two texts are the same up to letter case when their foldings are equal. Folding works character
by character, so it distributes over concatenation. Lower case differs from folding in keeping
letters that have no capital, and in the form of a sigma at the end of a word.
-/

namespace ShadowTypes.Text

/-- An ASCII capital as its small letter, anything else as it is. -/
def asciiLower (c : Char) : Char :=
  if 'A' ≤ c && c ≤ 'Z' then Char.ofNat (c.toNat + 32) else c

/-- The code point that a run of shifts maps `n` to. -/
def shifted (table : List Shift) (n : Nat) : Nat :=
  match table.find? (·.moves n) with
  | some s => (Int.ofNat n + s.distance).toNat
  | none => n

def foldChar (c : Char) : List Char :=
  if c.toNat < 128 then [asciiLower c]
  else match foldExpansions.find? (·.1 == c.toNat) with
    | some (_, codes) => codes.map Char.ofNat
    | none => [Char.ofNat (shifted foldShifts c.toNat)]

/-- The case folding of a sequence of characters. -/
def foldChars (l : List Char) : List Char := l.flatMap foldChar

def fold (s : String) : String := String.ofList (foldChars s.toList)

@[simp] theorem toList_fold (s : String) : (fold s).toList = foldChars s.toList := by
  simp [fold]

@[simp] theorem foldChars_nil : foldChars [] = [] := rfl

@[simp] theorem foldChars_cons (c : Char) (l : List Char) :
    foldChars (c :: l) = foldChar c ++ foldChars l := rfl

@[simp] theorem foldChars_append (l m : List Char) :
    foldChars (l ++ m) = foldChars l ++ foldChars m := by
  simp [foldChars]

/-- Letters with letter case: next to one, a capital sigma may stand at the end of a word. -/
def isCased (c : Char) : Bool :=
  if c.toNat < 128 then isAsciiStart c && c != '_' else casedLetters.holds c.toNat

/-- Characters that are passed over when looking for the end of a word. -/
def isCaseIgnorable (c : Char) : Bool :=
  if c.toNat < 128 then "'.:^\x60".toList.contains c else caseIgnorables.holds c.toNat

/-- Lower case of the characters `rest`, of which `before` come earlier, nearest first. -/
def lowerFrom (before : List Char) : List Char → List Char
  | [] => []
  | c :: rest =>
    let here :=
      if c.toNat < 128 then [asciiLower c]
      else if c.toNat == 0x3A3 then
        let afterLetter := match before.dropWhile isCaseIgnorable with
          | b :: _ => isCased b
          | [] => false
        let beforeLetter := match rest.dropWhile isCaseIgnorable with
          | a :: _ => isCased a
          | [] => false
        [if afterLetter && !beforeLetter then 'ς' else 'σ']
      else if c.toNat == 0x130 then ['i', Char.ofNat 0x307]
      else [Char.ofNat (shifted lowerShifts c.toNat)]
    here ++ lowerFrom (c :: before) rest

def lower (s : String) : String := String.ofList (lowerFrom [] s.toList)

/-- The capitals of a character, as far as they are ASCII; other characters stay. -/
def asciiUpper (c : Char) : List Char :=
  if 'a' ≤ c && c ≤ 'z' then [Char.ofNat (c.toNat - 32)]
  else match c.toNat with
    | 0xDF => ['S', 'S']
    | 0x131 => ['I']
    | 0x17F => ['S']
    | 0xFB00 => ['F', 'F']
    | 0xFB01 => ['F', 'I']
    | 0xFB02 => ['F', 'L']
    | 0xFB03 => ['F', 'F', 'I']
    | 0xFB04 => ['F', 'F', 'L']
    | 0xFB05 => ['S', 'T']
    | 0xFB06 => ['S', 'T']
    | _ => [c]

/-- A text in capitals, as far as they are ASCII. -/
def upper (s : String) : String := String.ofList (s.toList.flatMap asciiUpper)

end ShadowTypes.Text
