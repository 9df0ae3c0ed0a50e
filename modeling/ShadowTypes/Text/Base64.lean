/-!
# Bytes as text in sixty-four characters

Three bytes are written as four characters of six bits each; a shorter group at the end is filled
up with `=`. Reading passes over characters that are not in the alphabet and stops at the padding
that completes a group; a group that is left incomplete is refused.
-/

namespace ShadowTypes.Text.Base64

/-- The sixty-four characters in the order of their values. -/
def alphabet : List Char :=
  "ABCDEFGHIJKLMNOPQRSTUVWXYZabcdefghijklmnopqrstuvwxyz0123456789+/".toList

/-- The character of a value below sixty-four. -/
def digit (n : Nat) : Char := alphabet.getD n '='

def value? (c : Char) : Option Nat := alphabet.findIdx? (· == c)

/-- The characters of a sequence of bytes. -/
def encodeChars : List UInt8 → List Char
  | [] => []
  | [a] =>
    let n := a.toNat * 16
    [digit (n / 64), digit (n % 64), '=', '=']
  | [a, b] =>
    let n := (a.toNat * 256 + b.toNat) * 4
    [digit (n / 4096), digit (n / 64 % 64), digit (n % 64), '=']
  | a :: b :: c :: rest =>
    let n := (a.toNat * 256 + b.toNat) * 256 + c.toNat
    digit (n / 262144) :: digit (n / 4096 % 64) :: digit (n / 64 % 64) :: digit (n % 64) ::
      encodeChars rest

def encode (bytes : List UInt8) : String := String.ofList (encodeChars bytes)

/-- Reads on, `filled` characters into a group, with the bits `left` over from the last one and
`pads` padding characters seen since. -/
def decodeFrom (filled left pads : Nat) (done : List UInt8) : List Char → Option (List UInt8)
  | [] => if filled = 0 then some done.reverse else none
  | '=' :: rest =>
    if 2 ≤ filled then
      if 4 ≤ filled + (pads + 1) then some done.reverse
      else decodeFrom filled left (pads + 1) done rest
    else decodeFrom filled left pads done rest
  | c :: rest => match value? c with
    | none => decodeFrom filled left pads done rest
    | some v => match filled with
      | 0 => decodeFrom 1 v 0 done rest
      | 1 => decodeFrom 2 (v % 16) 0 (UInt8.ofNat (left * 4 + v / 16) :: done) rest
      | 2 => decodeFrom 3 (v % 4) 0 (UInt8.ofNat (left * 16 + v / 4) :: done) rest
      | _ => decodeFrom 0 0 0 (UInt8.ofNat (left * 64 + v) :: done) rest

def decode? (s : String) : Option (List UInt8) := decodeFrom 0 0 0 [] s.toList

end ShadowTypes.Text.Base64
