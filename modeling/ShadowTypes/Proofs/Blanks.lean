import Mathlib.Data.List.Basic
import ShadowTypes.Proofs.Folding
import ShadowTypes.Proofs.Trimming

/-!
# Blanks in folded texts

Folding leaves blanks alone and makes no new ones. So a text may be trimmed before it is folded or
after, and a text whose folding is trimmed is trimmed itself.
-/

namespace ShadowTypes.Text

variable {c d : Char} {l : List Char} {s : String}

def blankCodes : List Nat :=
  List.range' 9 5 ++ List.range' 0x1C 5 ++ [0x85, 0xA0, 0x1680] ++ List.range' 0x2000 11 ++
    [0x2028, 0x2029, 0x202F, 0x205F, 0x3000]

theorem toNat_mem_blankCodes {c : Char} (h : isBlank c = true) : c.toNat ∈ blankCodes := by
  simp only [isBlank, isSpace, Bool.or_eq_true, Bool.and_eq_true, decide_eq_true_eq,
    beq_iff_eq] at h
  simp only [blankCodes, List.mem_append, List.mem_range'_1, List.mem_cons, List.not_mem_nil]
  omega

/-! ## Single characters -/

theorem foldChar_of_isBlank (h : isBlank c = true) : foldChar c = [c] := by
  have hall : ∀ n ∈ blankCodes, foldChar (Char.ofNat n) = [Char.ofNat n] := by decide +kernel
  have hc := hall c.toNat (toNat_mem_blankCodes h)
  rwa [Char.ofNat_toNat] at hc

theorem eq_of_shifted_eq {m n : Nat} (hn : n ∈ blankCodes) (h : shifted foldShifts m = n) :
    m = n := by
  have hall : ∀ s ∈ foldShifts, ∀ n ∈ blankCodes,
      s.moves (Int.ofNat n - s.distance).toNat = false := by decide +kernel
  have hlarge : ∀ s ∈ foldShifts, 0 ≤ s.first + s.distance := by decide +kernel
  unfold shifted at h
  split at h
  · next s hs =>
    have hmem := List.mem_of_find?_eq_some hs
    have hmoves := List.find?_some hs
    have hback : (Int.ofNat n - s.distance).toNat = m := by
      have hfirst := hlarge s hmem
      simp only [Shift.moves, Bool.and_eq_true, decide_eq_true_eq] at hmoves
      have hcast : ∀ k : Nat, Int.ofNat k = (k : Int) := fun _ => rfl
      rw [hcast] at h ⊢
      omega
    rw [← hback, hall s hmem n hn] at hmoves
    cases hmoves
  · exact h

theorem eq_of_isBlank_of_mem_foldChar (hd : isBlank d = true) (h : d ∈ foldChar c) : c = d := by
  have hcode := toNat_mem_blankCodes hd
  have hne : d.toNat ≠ 0 := by
    have hall : ∀ n ∈ blankCodes, n ≠ 0 := by decide
    exact hall d.toNat hcode
  unfold foldChar at h
  split at h
  · next hc =>
    have hall : ∀ n ∈ List.range 128, (asciiLower (Char.ofNat n)).toNat ∈ blankCodes →
        asciiLower (Char.ofNat n) = Char.ofNat n := by decide +kernel
    have hlower := hall c.toNat (List.mem_range.mpr hc)
    rw [Char.ofNat_toNat, ← List.mem_singleton.mp h] at hlower
    exact (hlower hcode).symm
  · split at h
    · next codes hfound =>
      have hall : ∀ x ∈ foldExpansions, ∀ n ∈ x.2, n ∉ blankCodes := by decide +kernel
      obtain ⟨n, hn, hchar⟩ := List.mem_map.mp h
      rw [← eq_of_ofNat_eq hne hchar] at hcode
      exact absurd hcode (hall _ (List.mem_of_find?_eq_some hfound) n hn)
    · have hshifted := eq_of_ofNat_eq hne (List.mem_singleton.mp h).symm
      exact Char.toNat_inj.mp (eq_of_shifted_eq hcode hshifted)

theorem isBlank_of_mem_foldChar (hc : isBlank c = false) (h : d ∈ foldChar c) :
    isBlank d = false := by
  by_contra hd
  rw [Bool.not_eq_false] at hd
  rw [eq_of_isBlank_of_mem_foldChar hd h, hd] at hc
  cases hc

/-! ## Texts -/

theorem dropWhile_foldChars (l : List Char) :
    (foldChars l).dropWhile isBlank = foldChars (l.dropWhile isBlank) := by
  induction l with
  | nil => rfl
  | cons c l ih =>
    cases hc : isBlank c with
    | true =>
      rw [foldChars_cons, foldChar_of_isBlank hc, List.singleton_append,
        List.dropWhile_cons_of_pos hc, List.dropWhile_cons_of_pos hc, ih]
    | false =>
      rw [List.dropWhile_cons_of_neg (by simp [hc])]
      apply dropWhile_eq_self
      intro d hd
      obtain ⟨e, r, he⟩ := List.exists_cons_of_ne_nil (foldChar_ne_nil c)
      rw [foldChars_cons, he, List.cons_append, List.head?_cons] at hd
      cases hd
      exact isBlank_of_mem_foldChar hc (he ▸ List.mem_cons_self)

theorem dropWhileEnd_foldChars (l : List Char) :
    dropWhileEnd isBlank (foldChars l) = foldChars (dropWhileEnd isBlank l) := by
  induction l using List.reverseRecOn with
  | nil => rfl
  | append_singleton l c ih =>
    have hconcat : ∀ m : List Char, dropWhileEnd isBlank (m ++ [c]) =
        if isBlank c then dropWhileEnd isBlank m else m ++ [c] := fun m =>
      List.rdropWhile_concat isBlank m c
    rw [foldChars_append, foldChars_cons, foldChars_nil, List.append_nil, hconcat]
    cases hc : isBlank c with
    | true =>
      rw [foldChar_of_isBlank hc, hconcat, if_pos hc, if_pos rfl, ih]
    | false =>
      rw [if_neg Bool.false_ne_true, foldChars_append, foldChars_cons, foldChars_nil,
        List.append_nil]
      apply dropWhileEnd_eq_self
      intro d hd
      have hlast := List.getLast?_eq_some_getLast (foldChar_ne_nil c)
      rw [List.getLast?_append, hlast, Option.some_or] at hd
      cases hd
      exact isBlank_of_mem_foldChar hc (List.getLast_mem _)

theorem dropBothEnds_foldChars (l : List Char) :
    dropBothEnds isBlank (foldChars l) = foldChars (dropBothEnds isBlank l) := by
  rw [dropBothEnds, dropWhile_foldChars, dropWhileEnd_foldChars, dropBothEnds]

theorem fold_trim (s : String) : fold (trim s) = trim (fold s) := by
  apply String.toList_inj.mp
  rw [toList_fold, toList_trim, toList_trim, toList_fold, dropBothEnds_foldChars]

theorem Trimmed.of_foldChars (h : Trimmed isBlank (foldChars l)) : Trimmed isBlank l := by
  constructor
  · intro c hc
    obtain ⟨r, rfl⟩ := List.head?_eq_some_iff.mp hc
    by_contra hblank
    rw [Bool.not_eq_false] at hblank
    have hhead := h.head c (by rw [foldChars_cons, foldChar_of_isBlank hblank]; rfl)
    rw [hblank] at hhead
    cases hhead
  · intro c hc
    obtain ⟨r, rfl⟩ := List.getLast?_eq_some_iff.mp hc
    by_contra hblank
    rw [Bool.not_eq_false] at hblank
    have hlast := h.last c (by
      rw [foldChars_append, foldChars_cons, foldChar_of_isBlank hblank]
      exact List.getLast?_concat)
    rw [hblank] at hlast
    cases hlast

/-- What folds like a trimmed text is trimmed. -/
theorem trim_eq_self_of_fold_eq {t : String} (h : fold s = fold (trim t)) : trim s = s := by
  have htrimmed : trim (fold s) = fold s := by rw [h, ← fold_trim, trim_trim]
  rw [trim_eq_self_iff, toList_fold] at htrimmed
  exact trim_eq_self_iff.mpr htrimmed.of_foldChars

end ShadowTypes.Text
