/-!
# Binary floating-point numbers

A finite double is a sign, a significand below 2^53 and an exponent; its value is the significand
times two to the exponent. Arithmetic is exact arithmetic on integers followed by one rounding to
the nearest double, a tie going to the even significand. The text of a double is the shortest
decimal that rounds back to it.
-/

namespace ShadowTypes

/-- A binary floating-point number of sixty-four bits. -/
inductive Double
  | finite (negative : Bool) (significand : Nat) (exponent : Int)
  | infinite (negative : Bool)
  /-- No number; those with different marks are told apart. -/
  | notANumber (mark : Nat)
  deriving DecidableEq, Repr, Inhabited

namespace Double

def two (n : Nat) : Nat := Nat.pow 2 n

def ten (n : Nat) : Nat := Nat.pow 10 n

/-- The quotient rounded to a natural number, a tie to the even one. -/
def roundDiv (num den : Nat) : Nat :=
  let q := num / den
  let r := num % den
  if 2 * r < den then q
  else if den < 2 * r then q + 1
  else if q % 2 = 0 then q else q + 1

def minExponent : Int := -1074

def maxExponent : Int := 971

/-- The double nearest to the quotient of two natural numbers, the second not zero. -/
def ofRatio (negative : Bool) (num den : Nat) : Double :=
  if num = 0 then .finite negative 0 minExponent
  else
    let guess : Int := Int.ofNat num.log2 - Int.ofNat den.log2
    -- two to `guess` may exceed the quotient, in which case the exponent is one less
    let tooBig := if 0 ≤ guess then num < den * two guess.toNat else num * two (-guess).toNat < den
    let top := if tooBig then guess - 1 else guess
    let exponent := max minExponent (top - 52)
    let significand :=
      if 0 ≤ exponent then roundDiv num (den * two exponent.toNat)
      else roundDiv (num * two (-exponent).toNat) den
    let (significand, exponent) :=
      if significand = two 53 then (two 52, exponent + 1) else (significand, exponent)
    if maxExponent < exponent then .infinite negative
    else .finite negative significand exponent

/-- The number of decimal digits of a natural number. -/
def decimalDigits (n : Nat) : Nat := (Nat.repr n).length

/-- The double nearest to `digits` times ten to `exponent`. -/
def ofDecimal (negative : Bool) (digits : Nat) (exponent : Int) : Double :=
  let magnitude := Int.ofNat (decimalDigits digits) + exponent
  if digits = 0 || magnitude < -330 then .finite negative 0 minExponent
  else if 310 < magnitude then .infinite negative
  else if 0 ≤ exponent then ofRatio negative (digits * ten exponent.toNat) 1
  else ofRatio negative digits (ten (-exponent).toNat)

def ofInt (n : Int) : Double := ofRatio (n < 0) n.natAbs 1

def zero : Double := .finite false 0 minExponent

def neg : Double → Double
  | .finite s m e => .finite (!s) m e
  | .infinite s => .infinite (!s)
  | .notANumber mark => .notANumber mark

def signed (negative : Bool) (m : Nat) : Int := if negative then -Int.ofNat m else Int.ofNat m

def ofScaled (zeroSign : Bool) (n : Int) (e : Int) : Double :=
  if n = 0 then .finite zeroSign 0 minExponent
  else if 0 ≤ e then ofRatio (n < 0) (n.natAbs * two e.toNat) 1
  else ofRatio (n < 0) n.natAbs (two (-e).toNat)

/-- The sum, rounded once. -/
def add : Double → Double → Double
  | .finite s m e, .finite t n f =>
    let low := min e f
    let total := signed s m * Int.ofNat (two (e - low).toNat) +
      signed t n * Int.ofNat (two (f - low).toNat)
    ofScaled (s && t) total low
  | .infinite s, .infinite t => if s = t then .infinite s else .notANumber 0
  | .infinite s, .finite .. => .infinite s
  | .finite .., .infinite t => .infinite t
  | _, _ => .notANumber 0

def mul : Double → Double → Double
  | .finite s m e, .finite t n f => ofScaled (s != t) (signed s m * signed t n) (e + f)
  | .infinite s, .infinite t => .infinite (s != t)
  | .infinite s, .finite t n _ => if n = 0 then .notANumber 0 else .infinite (s != t)
  | .finite s m _, .infinite t => if m = 0 then .notANumber 0 else .infinite (s != t)
  | _, _ => .notANumber 0

def toInt? : Double → Option Int
  | .finite s m e =>
    if 0 ≤ e then some (signed s m * Int.ofNat (two e.toNat))
    else
      let unit := two (-e).toNat
      if m % unit = 0 then some (signed s (m / unit)) else none
  | _ => none

/-- The number, with the given mark if it is none. -/
def marked (mark : Nat) : Double → Double
  | .notANumber _ => .notANumber mark
  | x => x

/-- Whether two numbers have the same value; the two zeros do, and what is no number is itself. -/
def sameValue : Double → Double → Bool
  | .finite s m e, .finite t n f => (m == 0 && n == 0) || (s == t && m == n && e == f)
  | x, y => x == y

def isZero : Double → Bool
  | .finite _ m _ => m == 0
  | _ => false

/-- The decimal exponent of the leading digit of the quotient. -/
def leadingExponent (num den : Nat) : Int :=
  Int.ofNat (decimalDigits (num * ten 330 / den)) - 331

/-- The shortest decimal that rounds to a number with significand `m`, not zero: digits and the
exponent of the last of them. -/
def shortest (m : Nat) (e : Int) : Nat × Int :=
  -- all of the following in quarters of the last place
  let scaleUp := if 0 ≤ e then two e.toNat else 1
  let den := 4 * (if 0 ≤ e then 1 else two (-e).toNat)
  let value := 4 * m * scaleUp
  let below := if m = two 52 && minExponent < e then 1 else 2
  let low := (4 * m - below) * scaleUp
  let high := (4 * m + 2) * scaleUp
  let closed := m % 2 = 0
  let leading := leadingExponent value den
  let hit (count : Nat) : Option (Nat × Int) :=
    let unit := leading - Int.ofNat count
    -- a decimal is a multiple of ten to `unit`; compare with both sides multiplied out
    let up := if unit ≤ 0 then ten (-unit).toNat else 1
    let down := if 0 < unit then ten unit.toNat else 1
    let inside (d : Nat) : Bool :=
      let x := d * den * down
      let l := low * up
      let h := high * up
      if closed then l ≤ x && x ≤ h else l < x && x < h
    let floor := value * up / (den * down)
    let distance (d : Nat) : Nat := (Int.ofNat (d * den * down) - Int.ofNat (value * up)).natAbs
    match inside floor, inside (floor + 1) with
    | true, true => some (if distance (floor + 1) < distance floor then floor + 1 else floor, unit)
    | true, false => some (floor, unit)
    | false, true => some (floor + 1, unit)
    | false, false => none
  ((List.range 17).findSome? hit).getD (roundDiv (value * ten 330) den, -330)

def withoutTrailingZeros : Nat → Nat → Int → Nat × Int
  | 0, d, e => (d, e)
  | fuel + 1, d, e =>
    if d != 0 && d % 10 = 0 then withoutTrailingZeros fuel (d / 10) (e + 1) else (d, e)

def zeros (n : Nat) : List Char := List.replicate n '0'

/-- A decimal in positional notation with a fraction of at least one digit, or, for a leading
exponent below -4 or from 16 on, with an exponent of at least two digits. -/
def decimalText (digits : Nat) (exponent : Int) : List Char :=
  let ds := (Nat.repr digits).toList
  let leading := exponent + Int.ofNat ds.length - 1
  if leading < -4 || 16 ≤ leading then
    let mantissa := match ds with
      | [] => []
      | [d] => [d]
      | d :: rest => d :: '.' :: rest
    let width := (Nat.repr leading.natAbs).toList
    mantissa ++ ['e', if leading < 0 then '-' else '+'] ++ zeros (2 - width.length) ++ width
  else if leading < 0 then
    '0' :: '.' :: (zeros (-leading - 1).toNat ++ ds)
  else
    let whole := (leading + 1).toNat
    let padded := ds ++ zeros (whole - ds.length)
    let fraction := padded.drop whole
    padded.take whole ++ '.' :: (if fraction.isEmpty then ['0'] else fraction)

def text : Double → String
  | .notANumber _ => "nan"
  | .infinite s => if s then "-inf" else "inf"
  | .finite s m e =>
    let body :=
      if m = 0 then ['0', '.', '0']
      else
        let (d, x) := shortest m e
        let (d, x) := withoutTrailingZeros 20 d x
        decimalText d x
    String.ofList (if s then '-' :: body else body)

end Double

end ShadowTypes
