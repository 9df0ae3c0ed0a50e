import Mathlib.Data.List.DropRight
import ShadowTypes.Proofs.ExactNames
import ShadowTypes.Text.Utf8

/-!
# Texts without half of a surrogate pair

A text that spells characters only holds no half of a surrogate pair. Neither does what decoded
bytes spell, nor a text that is trimmed of blanks: no blank is part of the two characters that stand
for a half.
-/

namespace ShadowTypes

namespace Text

variable {c : Char} {l : List Char} {n : Nat} {p : Char → Bool}

/-! ## Spellings -/

theorem spellings_cons_of_ne (h : c ≠ halfMark) (l : List Char) :
    spellings (c :: l) = [c] :: spellings l := by
  cases l with
  | nil => rfl
  | cons d r => simp [spellings, h]

/-- A character that is no part of another spelling is a code point of its own. -/
theorem spellings_append_cons (h : isMarked c = false) (l r : List Char) :
    spellings (l ++ c :: r) = spellings l ++ [c] :: spellings r := by
  have hmark : c ≠ halfMark := by
    rintro rfl
    exact absurd h (by decide)
  fun_induction spellings l with
  | case1 => exact spellings_cons_of_ne hmark r
  | case2 a => simp [spellings, h, spellings_cons_of_ne hmark]
  | case3 a d l hpair ih => simp [spellings, hpair, ih]
  | case4 a d l hpair ih =>
    rw [List.cons_append] at ih
    simp [spellings, hpair, ih]

/-! ## Characters -/

theorem isSurrogate_toNat (c : Char) : isSurrogate c.toNat = false := by
  have hvalid : c.toNat < 0xD800 ∨ 0xDFFF < c.toNat ∧ c.toNat < 0x110000 := c.valid
  simp only [isSurrogate, Bool.and_eq_false_iff, decide_eq_false_iff_not]
  omega

theorem spell_toNat (c : Char) :
    spell c.toNat = if c = halfMark then [halfMark, halfMark] else [c] := by
  have hmark : c.toNat = halfMark.toNat ↔ c = halfMark := Char.toNat_inj
  simp [spell, isSurrogate_toNat, hmark]

theorem spellings_spell_append (c : Char) (l : List Char) :
    spellings (spell c.toNat ++ l) = spell c.toNat :: spellings l := by
  rw [spell_toNat]
  split
  · simp [spellings, isMarked]
  · next h => rw [List.singleton_append, spellings_cons_of_ne h]

theorem codePoints_ofCharacters (l : List Char) :
    codePoints (ofCharacters l) = l.map Char.toNat := by
  have hpoint : ∀ c : Char, pointOf (spell c.toNat) = c.toNat := by
    intro c
    rw [spell_toNat]
    split
    · next h => simp [pointOf, h]
    · rfl
  rw [codePoints, ofCharacters, ofCodePoints, String.toList_ofList]
  induction l with
  | nil => rfl
  | cons c l ih =>
    rw [List.map_cons, List.flatMap_cons, spellings_spell_append, List.map_cons, hpoint, ih]

theorem isBroken_ofCharacters (l : List Char) : isBroken (ofCharacters l) = false := by
  simp [isBroken, codePoints_ofCharacters, isSurrogate_toNat]

/-- All code points of the text are allowed. -/
def Within (allowed : Nat → Prop) (s : String) : Prop := ∀ n ∈ codePoints s, allowed n

instance (allowed : Nat → Prop) [DecidablePred allowed] (s : String) :
    Decidable (Within allowed s) :=
  inferInstanceAs (Decidable (∀ n ∈ codePoints s, allowed n))

section Within

variable {allowed : Nat → Prop}

theorem within_empty : Within allowed "" := nofun

theorem run?_eq_none_iff {begins goesOn : Nat → Bool} {s : String} :
    run? begins goesOn s = none ↔ Within (fun n => begins n = false) s := by
  rw [run?, Option.map_eq_none_iff, List.findIdx?_eq_none_iff, Within]

theorem codePoints_append_cons (h : isMarked c = false) (a b : String) :
    codePoints (a ++ String.singleton c ++ b) = codePoints a ++ c.toNat :: codePoints b := by
  have hsplit : (a ++ String.singleton c ++ b).toList = a.toList ++ c :: b.toList := by simp
  rw [codePoints, hsplit, spellings_append_cons h, List.map_append, List.map_cons]
  rfl

/-- A character of its own keeps the code points on both sides apart. -/
theorem within_append_cons (h : isMarked c = false) (hc : allowed c.toNat) (a b : String) :
    Within allowed (a ++ String.singleton c ++ b) ↔ Within allowed a ∧ Within allowed b := by
  rw [Within, codePoints_append_cons h, List.forall_mem_append, List.forall_mem_cons,
    and_iff_right hc]
  rfl

theorem within_intercalate (h : isMarked c = false) (hc : allowed c.toNat) (parts : List String) :
    Within allowed ((String.singleton c).intercalate parts) ↔ ∀ q ∈ parts, Within allowed q := by
  induction parts with
  | nil => simp [within_empty]
  | cons q parts ih =>
    cases parts with
    | nil => simp
    | cons r parts =>
      rw [String.intercalate_cons_cons, within_append_cons h hc, ih, List.forall_mem_cons (a := q)]

end Within

theorem isBroken_of_decode {bytes : List UInt8} {s : String} (h : Utf8.decode bytes = .ok s) :
    isBroken s = false := by
  unfold Utf8.decode at h
  cases hd : Utf8.decodeFrom 0 none [] bytes with
  | ok l =>
    rw [hd] at h
    cases h
    exact isBroken_ofCharacters l
  | error e =>
    rw [hd] at h
    cases h

/-! ## Trimming -/

theorem spellings_dropWhile (h : ∀ c, p c = true → c ≠ halfMark) (l : List Char) :
    (spellings (l.dropWhile p)).Sublist (spellings l) := by
  induction l with
  | nil => exact .slnil
  | cons c l ih =>
    by_cases hc : p c = true
    · rw [List.dropWhile_cons_of_pos hc, spellings_cons_of_ne (h c hc)]
      exact ih.cons _
    · rw [List.dropWhile_cons_of_neg hc]

theorem spellings_dropWhileEnd (h : ∀ c, p c = true → isMarked c = false) (l : List Char) :
    (spellings (dropWhileEnd p l)).Sublist (spellings l) := by
  induction l using List.reverseRecOn with
  | nil => exact .slnil
  | append_singleton l c ih =>
    have hdrop : dropWhileEnd p (l ++ [c]) = if p c then dropWhileEnd p l else l ++ [c] :=
      List.rdropWhile_concat p l c
    rw [hdrop]
    split
    · next hc =>
      rw [spellings_append_cons (h c hc)]
      exact ih.trans (List.sublist_append_left _ _)
    · exact .refl _

theorem isBroken_eq_any (s : String) :
    isBroken s = (spellings s.toList).any fun l => isSurrogate (pointOf l) := by
  simp [isBroken, codePoints, Function.comp_def]

theorem isBroken_of_sublist {s t : String}
    (h : (spellings t.toList).Sublist (spellings s.toList)) (hs : isBroken s = false) :
    isBroken t = false := by
  rw [isBroken_eq_any, List.any_eq_false] at hs ⊢
  exact fun l hl => hs l (h.subset hl)

theorem not_isMarked_of_isBlank (h : isBlank c = true) : isMarked c = false := by
  have hcode : c.toNat ≤ 0x3000 := by
    simp only [isBlank, isSpace, Bool.or_eq_true, Bool.and_eq_true, decide_eq_true_eq,
      beq_iff_eq] at h
    omega
  have hmark : c ≠ halfMark := by
    rintro rfl
    exact absurd hcode (by decide)
  have hshift : ¬ halfShift ≤ c.toNat := by
    rw [halfShift]
    omega
  simp [isMarked, hmark, hshift]

theorem isBroken_dropBothEnds {s : String} (h : ∀ c, p c = true → isBlank c = true)
    (hs : isBroken s = false) : isBroken (String.ofList (dropBothEnds p s.toList)) = false := by
  have hmarked : ∀ c, p c = true → isMarked c = false :=
    fun c hc => not_isMarked_of_isBlank (h c hc)
  have hmark : ∀ c, p c = true → c ≠ halfMark := by
    rintro c hc rfl
    exact absurd (hmarked _ hc) (by decide)
  apply isBroken_of_sublist _ hs
  rw [String.toList_ofList]
  exact (spellings_dropWhileEnd hmarked _).trans (spellings_dropWhile hmark _)

theorem isBroken_trimSpace {s : String} (h : isBroken s = false) :
    isBroken (trimSpace s) = false :=
  isBroken_dropBothEnds (fun _ => isBlank_of_isSpace) h

theorem isBroken_trim {s : String} (h : isBroken s = false) : isBroken (trim s) = false :=
  isBroken_dropBothEnds (fun _ => id) h

end Text

end ShadowTypes
