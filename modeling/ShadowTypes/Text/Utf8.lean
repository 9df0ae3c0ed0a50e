import ShadowTypes.Text.CodePoint

/-!
# Text as bytes

Characters are written in one to four bytes. The first byte of a character says how many
continuation bytes it owes and which range the first of them has; every later one lies between
0x80 and 0xBF. A text that breaks the rule is refused at the first byte that no character can
hold, and the refusal names the bytes of the broken character.
-/

namespace ShadowTypes.Text

/-- Why bytes are no text. -/
inductive BrokenBytes
  | start
  | continuation
  | ended
  deriving DecidableEq, Repr

/-- A run of bytes that spells no character. -/
structure Undecodable where
  reason : BrokenBytes
  /-- Position of the first byte of the run. -/
  position : Nat
  /-- Number of bytes of the run, at least one. -/
  length : Nat
  /-- The first byte of the run. -/
  first : UInt8
  deriving DecidableEq, Repr

namespace Utf8

/-- What the first byte of a character promises. -/
structure Lead where
  /-- Continuation bytes owed. -/
  owed : Nat
  /-- The bits that the first byte contributes. -/
  bits : Nat
  /-- The range of the first continuation byte. -/
  low : UInt8
  high : UInt8

/-- The first bytes of characters. -/
def lead? (b : UInt8) : Option Lead :=
  if b < 0x80 then some ⟨0, b.toNat, 0x80, 0xBF⟩
  else if b < 0xC2 then none
  else if b < 0xE0 then some ⟨1, b.toNat - 0xC0, 0x80, 0xBF⟩
  else if b = 0xE0 then some ⟨2, 0, 0xA0, 0xBF⟩
  else if b = 0xED then some ⟨2, 13, 0x80, 0x9F⟩
  else if b < 0xF0 then some ⟨2, b.toNat - 0xE0, 0x80, 0xBF⟩
  else if b = 0xF0 then some ⟨3, 0, 0x90, 0xBF⟩
  else if b < 0xF4 then some ⟨3, b.toNat - 0xF0, 0x80, 0xBF⟩
  else if b = 0xF4 then some ⟨3, 4, 0x80, 0x8F⟩
  else none

/-- A character that still owes bytes. -/
structure Pending where
  position : Nat
  first : UInt8
  /-- Bytes read so far. -/
  read : Nat
  lead : Lead

/-- Decodes `bytes`, the first of which has position `at_`; `done` holds the characters read so
far, last first. -/
def decodeFrom (at_ : Nat) (pending : Option Pending) (done : List Char) :
    List UInt8 → Except Undecodable (List Char)
  | [] => match pending with
    | none => .ok done.reverse
    | some p => .error ⟨.ended, p.position, p.read, p.first⟩
  | b :: rest => match pending with
    | none => match lead? b with
      | none => .error ⟨.start, at_, 1, b⟩
      | some l =>
        if l.owed = 0 then decodeFrom (at_ + 1) none (Char.ofNat l.bits :: done) rest
        else decodeFrom (at_ + 1) (some ⟨at_, b, 1, l⟩) done rest
    | some p =>
      if p.lead.low ≤ b && b ≤ p.lead.high then
        let bits := p.lead.bits * 64 + (b.toNat - 0x80)
        let lead := ⟨p.lead.owed - 1, bits, 0x80, 0xBF⟩
        if p.lead.owed ≤ 1 then decodeFrom (at_ + 1) none (Char.ofNat bits :: done) rest
        else decodeFrom (at_ + 1) (some { p with read := p.read + 1, lead }) done rest
      else .error ⟨.continuation, p.position, p.read, p.first⟩

def decode (bytes : List UInt8) : Except Undecodable String :=
  (decodeFrom 0 none [] bytes).map ofCharacters

/-- The bytes of a code point. Half of a surrogate pair stands for a byte of a file name. -/
def encodePoint (n : Nat) : List UInt8 :=
  if isSurrogate n then [n.toUInt8] else (String.singleton (Char.ofNat n)).toUTF8.toList

def encode (s : String) : List UInt8 := (codePoints s).flatMap encodePoint

@[simp] theorem decode_nil : decode [] = .ok "" := rfl

end Utf8

end ShadowTypes.Text
