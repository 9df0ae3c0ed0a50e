/-!
# Sets of characters as intervals of code points

A character class is a list of closed intervals. ASCII is decided by comparison before a table is
asked, so a class of ASCII characters never depends on the table.
-/

namespace ShadowTypes.Text

/-- Closed intervals of code points. -/
abbrev Spans := List (Nat × Nat)

namespace Spans

/-- Whether one of the intervals holds the code point. -/
def holds (s : Spans) (n : Nat) : Bool :=
  s.any fun p => p.1 ≤ n && n ≤ p.2

theorem holds_iff (s : Spans) (n : Nat) :
    s.holds n = true ↔ ∃ p ∈ s, p.1 ≤ n ∧ n ≤ p.2 := by
  simp [holds]

/-- The first code point of the interval that holds `n`. -/
def start? (s : Spans) (n : Nat) : Option Nat :=
  (s.find? fun p => p.1 ≤ n && n ≤ p.2).map (·.1)

end Spans

end ShadowTypes.Text
