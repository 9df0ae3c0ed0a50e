/-!
# Blank characters and trimming

Two classes of blanks are in use. `isSpace` is the Unicode property White_Space; `isBlank` also
holds the four information separators U+001C to U+001F. Trimming removes the longest run of a
class from an end. Trimming is idempotent, and a trimmed text neither starts nor ends in the
class.
-/

namespace ShadowTypes.Text

/-- Characters with the property White_Space. -/
def isSpace (c : Char) : Bool :=
  let n := c.toNat
  (9 ≤ n && n ≤ 13) || n == 0x20 || n == 0x85 || n == 0xA0 || n == 0x1680 ||
    (0x2000 ≤ n && n ≤ 0x200A) || n == 0x2028 || n == 0x2029 || n == 0x202F || n == 0x205F ||
    n == 0x3000

/-- White space and the information separators. -/
def isBlank (c : Char) : Bool :=
  isSpace c || (0x1C ≤ c.toNat && c.toNat ≤ 0x1F)

theorem isBlank_of_isSpace {c : Char} (h : isSpace c = true) : isBlank c = true := by
  simp [isBlank, h]

/-- `l` without the longest run of `p` at its end. -/
def dropWhileEnd (p : Char → Bool) (l : List Char) : List Char :=
  (l.reverse.dropWhile p).reverse

/-- `l` without the longest runs of `p` at both ends. -/
def dropBothEnds (p : Char → Bool) (l : List Char) : List Char :=
  dropWhileEnd p (l.dropWhile p)

/-- `s` without blanks at both ends. -/
def trim (s : String) : String :=
  String.ofList (dropBothEnds isBlank s.toList)

def trimEnd (s : String) : String :=
  String.ofList (dropWhileEnd isBlank s.toList)

/-- `s` without White_Space at both ends. -/
def trimSpace (s : String) : String :=
  String.ofList (dropBothEnds isSpace s.toList)

@[simp] theorem toList_trim (s : String) : (trim s).toList = dropBothEnds isBlank s.toList := by
  simp [trim]

@[simp] theorem toList_trimEnd (s : String) :
    (trimEnd s).toList = dropWhileEnd isBlank s.toList := by
  simp [trimEnd]

@[simp] theorem toList_trimSpace (s : String) :
    (trimSpace s).toList = dropBothEnds isSpace s.toList := by
  simp [trimSpace]

end ShadowTypes.Text
