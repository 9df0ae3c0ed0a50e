import Mathlib.Data.List.Infix
import ShadowTypes.Json.Reader

/-!
# Limits of JSON texts

Reading a JSON text breaks off without blaming its form for two reasons only: a whole number of more
digits than are read, or more brackets than collections can lie inside each other. Every reader goes
on with the end of its text, so that what stops it stands in the text.
-/

namespace ShadowTypes.Json

def openings (cs : List Char) : Nat := cs.countP fun c => c == '[' || c == '\x7b'

/-- The text holds that many digits in a row, and they are more than are read. -/
def HasLongRun (cs : List Char) (digits : Nat) : Prop :=
  ∃ run, run <:+: cs ∧ run.all isDigit = true ∧ run.length = digits ∧ Numeral.maxDigits < digits

/-- What a reader makes of a text: it goes on with its end, or it stops because of something that
stands in the text. -/
def Within {α : Type} (room : Nat) (cs : List Char) : Except Stop (α × List Char) → Prop
  | .ok (_, rest) => rest <:+ cs
  | .error (.broken ..) => True
  | .error (.tooLong digits) => HasLongRun cs digits
  | .error (.tooDeep _) => room < openings cs

section Within

variable {α β : Type} {room : Nat} {cs rest : List Char}

theorem openings_le_of_suffix (h : rest <:+ cs) : openings rest ≤ openings cs :=
  h.sublist.countP_le

theorem Within.mono {x : Except Stop (α × List Char)} (h : Within room rest x)
    (hrest : rest <:+ cs) : Within room cs x := by
  match x, h with
  | .ok _, h => exact h.trans hrest
  | .error (.broken ..), _ => trivial
  | .error (.tooLong _), ⟨run, hrun, h⟩ => exact ⟨run, hrun.trans hrest.isInfix, h⟩
  | .error (.tooDeep _), h => exact Nat.lt_of_lt_of_le h (openings_le_of_suffix hrest)

theorem Within.inside {x : Except Stop (α × List Char)} {c : Char}
    (hc : (c == '[' || c == '\x7b') = true) (h : Within (room - 1) rest x) (hrest : rest <:+ cs) :
    Within room (c :: cs) x := by
  match x, h with
  | .ok _, h => exact (h.trans hrest).trans (List.suffix_cons ..)
  | .error (.broken ..), _ => trivial
  | .error (.tooLong _), ⟨run, hrun, h⟩ =>
    exact ⟨run, (hrun.trans hrest.isInfix).trans (List.suffix_cons ..).isInfix, h⟩
  | .error (.tooDeep _), h =>
    have hle := openings_le_of_suffix hrest
    change room - 1 < openings rest at h
    change room < openings (c :: cs)
    have hcons : openings (c :: cs) = openings cs + 1 := List.countP_cons_of_pos hc
    omega

theorem Within.bind {x : Except Stop (α × List Char)}
    {f : α × List Char → Except Stop (β × List Char)} (h : Within room cs x)
    (hf : ∀ a rest, rest <:+ cs → Within room rest (f (a, rest))) :
    Within room cs (x >>= f) := by
  match x, h with
  | .ok (a, rest), h => exact (hf a rest h).mono h
  | .error (.broken ..), _ => trivial
  | .error (.tooLong _), h => exact h
  | .error (.tooDeep _), h => exact h

end Within

/-! ## Scalars -/

section Scalars

variable {room : Nat} {cs rest : List Char}

end Scalars

/-! ## Collections -/

section Collections

variable {room : Nat} {c : Char} {cs rest : List Char}

end Collections

end ShadowTypes.Json
