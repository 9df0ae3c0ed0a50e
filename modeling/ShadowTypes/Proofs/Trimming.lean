import Mathlib.Data.List.DropRight
import ShadowTypes.TypeName

/-!
# Trimmed texts and bare type names

A trimmed text neither starts nor ends with a character of the class that was trimmed, and trimming
leaves such a text alone. The bare name of a type is trimmed, so that it is compared by its folding
alone, and a type name without the mark of nullable types is compared as its bare name is.
-/

namespace ShadowTypes

namespace Text

variable {p : Char → Bool} {l : List Char}

/-- Neither end of the text is in the class. -/
structure Trimmed (p : Char → Bool) (l : List Char) : Prop where
  head : ∀ c ∈ l.head?, p c = false
  last : ∀ c ∈ l.getLast?, p c = false

theorem getLast?_dropWhileEnd (p : Char → Bool) (l : List Char) :
    (dropWhileEnd p l).getLast? = l.reverse.find? fun c => !p c := by
  simp [dropWhileEnd, List.find?_eq_head?_dropWhile_not]

theorem dropWhileEnd_prefix (p : Char → Bool) (l : List Char) : dropWhileEnd p l <+: l :=
  List.rdropWhile_prefix p l

theorem dropWhileEnd_eq_self (h : ∀ c ∈ l.getLast?, p c = false) : dropWhileEnd p l = l := by
  apply List.rdropWhile_eq_self_iff.mpr
  intro hl
  simp [h _ (List.getLast?_eq_some_getLast hl)]

theorem dropWhile_eq_self (h : ∀ c ∈ l.head?, p c = false) : l.dropWhile p = l := by
  cases l with
  | nil => rfl
  | cons c r => simp [h c rfl]

/-- Dropping a class from the end keeps the front, unless nothing is left. -/
theorem head?_dropWhileEnd {c : Char} (h : c ∈ (dropWhileEnd p l).head?) : c ∈ l.head? := by
  obtain ⟨r, hr⟩ := dropWhileEnd_prefix p l
  rw [← hr]
  simp [List.head?_append, Option.mem_def.mp h]

theorem trimmed_dropBothEnds (p : Char → Bool) (l : List Char) : Trimmed p (dropBothEnds p l) where
  head := by
    intro c hc
    have h := List.head?_dropWhile_not p l
    rw [Option.mem_def.mp (head?_dropWhileEnd hc)] at h
    simpa using h
  last := by
    intro c hc
    rw [dropBothEnds, getLast?_dropWhileEnd] at hc
    simpa using List.find?_some hc

theorem Trimmed.dropBothEnds_eq (h : Trimmed p l) : dropBothEnds p l = l := by
  rw [dropBothEnds, dropWhile_eq_self h.head, dropWhileEnd_eq_self h.last]

theorem dropBothEnds_dropBothEnds (p : Char → Bool) (l : List Char) :
    dropBothEnds p (dropBothEnds p l) = dropBothEnds p l :=
  (trimmed_dropBothEnds p l).dropBothEnds_eq

theorem getLast?_dropBothEnds (p : Char → Bool) (l : List Char) :
    (dropBothEnds p l).getLast? = (dropWhileEnd p l).getLast? := by
  rw [dropBothEnds, getLast?_dropWhileEnd, getLast?_dropWhileEnd]
  conv_rhs => rw [← List.takeWhile_append_dropWhile (p := p) (l := l)]
  have h : (l.takeWhile p).reverse.find? (fun c => !p c) = none := by
    rw [List.find?_eq_none]
    intro c hc
    simp [List.mem_takeWhile_imp (List.mem_reverse.mp hc)]
  rw [List.reverse_append, List.find?_append, h, Option.or_none]

theorem dropBothEnds_eq_nil_iff : dropBothEnds p l = [] ↔ ∀ c ∈ l, p c = true := by
  constructor
  · intro h c hc
    by_contra hp
    have hn := List.rdropWhile_eq_nil_iff.mp h
    have hd : l.dropWhile p = [] := by
      rw [← List.dropWhile_idempotent p l]
      exact List.dropWhile_eq_nil_iff.mpr hn
    exact hp (List.dropWhile_eq_nil_iff.mp hd c hc)
  · intro h
    rw [dropBothEnds, List.dropWhile_eq_nil_iff.mpr h]
    rfl

theorem mem_dropBothEnds_or {c : Char} (h : c ∈ l) :
    c ∈ dropBothEnds p l ∨ p c = true := by
  have hfront : ∀ {l : List Char}, c ∈ l → c ∈ l.dropWhile p ∨ p c = true := by
    intro l hc
    rw [← List.takeWhile_append_dropWhile (p := p) (l := l), List.mem_append] at hc
    exact hc.symm.imp_right List.mem_takeWhile_imp
  rcases hfront h with hc | hc
  · exact (hfront (List.mem_reverse.mpr hc)).imp_left List.mem_reverse.mpr
  · exact .inr hc

theorem forall_isBlank_trimSpace {s : String} :
    (∀ c ∈ (trimSpace s).toList, isBlank c = true) ↔ ∀ c ∈ s.toList, isBlank c = true := by
  rw [toList_trimSpace]
  constructor
  · intro h c hc
    exact (mem_dropBothEnds_or hc).elim (h c) isBlank_of_isSpace
  · intro h c hc
    have hdropped : dropBothEnds isSpace s.toList <+: s.toList.dropWhile isSpace :=
      dropWhileEnd_prefix _ _
    exact h c ((List.dropWhile_sublist _).subset (hdropped.subset hc))

theorem trim_trim (s : String) : trim (trim s) = trim s := by
  apply String.toList_inj.mp
  simp [dropBothEnds_dropBothEnds]

theorem trim_eq_self_iff {s : String} : trim s = s ↔ Trimmed isBlank s.toList := by
  rw [← String.toList_inj, toList_trim]
  constructor
  · intro h
    rw [← h]
    exact trimmed_dropBothEnds isBlank s.toList
  · exact fun h => h.dropBothEnds_eq

theorem trim_eq_empty_iff {s : String} : trim s = "" ↔ ∀ c ∈ s.toList, isBlank c = true := by
  rw [← String.toList_inj, toList_trim]
  exact dropBothEnds_eq_nil_iff

end Text

namespace TypeName

open Text

theorem isEmpty_iff_trim_eq {s : String} : isEmpty s = true ↔ trim s = "" := by
  rw [trim_eq_empty_iff, isEmpty, List.all_eq_true]

theorem isNullable_iff {s : String} :
    isNullable s = true ↔ (dropBothEnds isBlank s.toList).getLast? = some marker := by
  rw [isNullable, beq_iff_eq, getLast?_dropBothEnds]

theorem bare_eq_trim {s : String} (h : ¬ isNullable s = true) : bare s = trim s := by
  rw [isNullable_iff] at h
  simp [bare, bareChars, h, trim]

theorem mem_of_mem_bareChars {l : List Char} {c : Char} (h : c ∈ bareChars l) : c ∈ l := by
  have hends : c ∈ dropBothEnds isBlank l → c ∈ l := fun hc =>
    (List.dropWhile_suffix _).subset (( dropWhileEnd_prefix _ _).subset hc)
  simp only [bareChars] at h
  split at h
  · exact hends (List.dropLast_subset _ (( dropWhileEnd_prefix _ _).subset h))
  · exact hends h

theorem trimmed_bareChars (l : List Char) : Trimmed isBlank (bareChars l) := by
  have ht := trimmed_dropBothEnds isBlank l
  simp only [bareChars]
  split
  · constructor
    · intro c hc
      have hd := head?_dropWhileEnd hc
      apply ht.head
      cases hl : dropBothEnds isBlank l with
      | nil => simp [hl] at hd
      | cons a r =>
        cases r with
        | nil => simp [hl] at hd
        | cons b r => simpa [hl] using hd
    · intro c hc
      rw [getLast?_dropWhileEnd] at hc
      simpa using List.find?_some hc
  · exact ht

@[simp] theorem trim_bare (s : String) : trim (bare s) = bare s := by
  apply String.toList_inj.mp
  rw [toList_trim, toList_bare, (trimmed_bareChars _).dropBothEnds_eq]

theorem key_bare (s : String) : key (bare s) = fold (bare s) := by
  rw [key, trim_bare]

/-- Without the mark a name is compared as its bare name is. -/
theorem key_eq_key_bare {s : String} (h : ¬ isNullable s = true) : key s = key (bare s) := by
  rw [key_bare, bare_eq_trim h, key]

end TypeName

end ShadowTypes
