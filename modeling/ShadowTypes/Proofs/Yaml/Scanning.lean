import ShadowTypes.Yaml.Token

/-!
# What stops the scanning of a YAML text

Whatever is scanned, the scanner blames the form of the text, with two exceptions: the number of a
version may have too many digits, and an escape may ask for a code point that there is not.
-/

namespace ShadowTypes.Yaml

/-- How the reading of tokens and nodes can break down although the text may be well formed. -/
inductive Breakdown : Failure → Prop
  /-- A number in a version has more digits than are read. -/
  | version {digits : Nat} : Numeral.maxDigits < digits → Breakdown (Numeral.tooLong digits)
  /-- An escape asks for a number that is no code point. -/
  | escape {n : Nat} : 0x10FFFF < n → Breakdown (Quote.notCodePoint n)
  /-- Too many collections are open. -/
  | nesting : Breakdown ⟨"RecursionError", "maximum recursion depth exceeded"⟩

/-- A step stops only because the text is malformed, or with one of the known failures. -/
structure Sound {α : Type} (known : Failure → Prop) (x : Except Stop α) : Prop where
  raised : ∀ f, x = .error (.failure f) → known f

section Sound

variable {α β : Type} {known : Failure → Prop} {x : Except Stop α} {f : α → Except Stop β}

theorem sound_ok (a : α) : Sound known (.ok a) := ⟨nofun⟩

theorem sound_malformed : Sound known (malformed : Except Stop α) := ⟨nofun⟩

theorem Sound.bind (hx : Sound known x) (hf : ∀ a, Sound known (f a)) : Sound known (x >>= f) := by
  refine ⟨fun failure h => ?_⟩
  cases x with
  | ok a => exact (hf a).raised failure h
  | error e =>
    cases h
    exact hx.raised failure rfl

theorem Sound.map {g : α → β} (hx : Sound known x) : Sound known (x.map g) := by
  refine ⟨fun failure h => ?_⟩
  cases x with
  | ok a => cases h
  | error e =>
    cases h
    exact hx.raised failure rfl

theorem Sound.ite {c : Prop} [Decidable c] {y : Except Stop α} (hx : Sound known x)
    (hy : Sound known y) : Sound known (if c then x else y) := by
  split
  · exact hx
  · exact hy

theorem Sound.unless {c : Prop} [Decidable c] {rest : PUnit → Except Stop α}
    (h : Sound known (rest ⟨⟩)) : Sound known (if c then malformed >>= rest else rest ⟨⟩) := by
  split
  · exact sound_malformed.bind fun _ => h
  · exact h

end Sound

section Scanner

variable (s : Scanner)

end Scanner

end ShadowTypes.Yaml
