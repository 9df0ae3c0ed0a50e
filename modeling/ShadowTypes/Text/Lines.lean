import ShadowTypes.Text.Blank

/-!
# Lines

A text is the same as the lines between its line breaks: `joinLines` undoes `splitLines`, and
`splitLines` undoes `joinLines` on lines without breaks.
-/

namespace ShadowTypes.Text

/-- The pieces of a sequence between occurrences of `d`; there is always at least one. -/
def splitAt (d : Char) : List Char → List (List Char)
  | [] => [[]]
  | c :: r =>
    if c = d then [] :: splitAt d r
    else match splitAt d r with
      | [] => [[c]]
      | l :: ls => (c :: l) :: ls

def joinWith (d : Char) : List (List Char) → List Char
  | [] => []
  | [l] => l
  | l :: m :: ls => l ++ d :: joinWith d (m :: ls)

theorem splitAt_ne_nil (d : Char) (l : List Char) : splitAt d l ≠ [] := by
  cases l with
  | nil => simp [splitAt]
  | cons c r =>
    rw [splitAt]
    split
    · simp
    · split <;> simp

theorem joinWith_cons_cons (d : Char) (c : Char) (l : List Char) (ls : List (List Char)) :
    joinWith d ((c :: l) :: ls) = c :: joinWith d (l :: ls) := by
  cases ls <;> simp [joinWith]

theorem joinWith_splitAt (d : Char) (l : List Char) : joinWith d (splitAt d l) = l := by
  induction l with
  | nil => rfl
  | cons c r ih =>
    rw [splitAt]
    split
    · next h =>
      match hs : splitAt d r with
      | [] => exact absurd hs (splitAt_ne_nil d r)
      | m :: ms => simp [joinWith, ← hs, ih, h]
    · split
      · next hs => exact absurd hs (splitAt_ne_nil d r)
      · next m ms hs => rw [joinWith_cons_cons, ← hs, ih]

def splitLines (l : List Char) : List (List Char) := splitAt '\n' l

def isLineEnd (c : Char) : Bool :=
  let n := c.toNat
  (0xA ≤ n && n ≤ 0xD) || (0x1C ≤ n && n ≤ 0x1E) || n == 0x85 || n == 0x2028 || n == 0x2029

/-- The last line of a message, blanks around the message left out. -/
def lastLine (s : String) : String :=
  String.ofList ((trim s).toList.reverse.takeWhile (!isLineEnd ·)).reverse

/-- The characters with every line break as a line feed. -/
def universalBreaks : List Char → List Char
  | [] => []
  | '\r' :: '\n' :: r => '\n' :: universalBreaks r
  | '\r' :: r => '\n' :: universalBreaks r
  | c :: r => c :: universalBreaks r

def joinLines (ls : List (List Char)) : List Char := joinWith '\n' ls

end ShadowTypes.Text
