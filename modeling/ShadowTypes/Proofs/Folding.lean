import ShadowTypes.Text.Folding

/-!
# What folds to a character

Folding leaves the characters before the small letters alone, capitals aside, and no other character
folds to a text that holds one of them. So a text holds such a character, ends in it or loses it
just as its folding does.
-/

namespace ShadowTypes.Text

variable {c d : Char} {l : List Char} {s : String}

/-- A character before the small letters that is no capital. -/
def Caseless (d : Char) : Prop := 0 < d.toNat ∧ d.toNat < 'a'.toNat ∧ asciiLower d = d

instance (d : Char) : Decidable (Caseless d) := inferInstanceAs (Decidable (_ ∧ _))

theorem eq_of_ofNat_eq {n : Nat} (hc : c.toNat ≠ 0) (h : Char.ofNat n = c) : n = c.toNat := by
  subst h
  by_cases hn : n.isValidChar
  · have hof : Char.ofNat n = Char.ofNatAux n hn := dif_pos hn
    rw [hof]
    rfl
  · have hof : Char.ofNat n = Char.ofNat 0 := dif_neg hn
    rw [hof] at hc
    exact absurd rfl hc

/-- No run of shifts leads to a character before the small letters. -/
theorem le_shifted_foldShifts {n : Nat} (h : 128 ≤ n) : 'a'.toNat ≤ shifted foldShifts n := by
  have hall : ∀ s ∈ foldShifts, ('a'.toNat : Int) ≤ s.first + s.distance := by decide +kernel
  have hcode : 'a'.toNat = 97 := rfl
  unfold shifted
  split
  · next s hs =>
    have hmoves := List.find?_some hs
    simp only [Shift.moves, Bool.and_eq_true, decide_eq_true_eq] at hmoves
    have hfirst : s.first ≤ n := hmoves.1.1
    have hlarge := hall s (List.mem_of_find?_eq_some hs)
    have hcast : Int.ofNat n = (n : Int) := rfl
    omega
  · omega

theorem le_of_mem_foldExpansions {x : Nat × List Nat} (hx : x ∈ foldExpansions) :
    ∀ n ∈ x.2, 'a'.toNat ≤ n := by
  have hall : ∀ x ∈ foldExpansions, ∀ n ∈ x.2, 'a'.toNat ≤ n := by decide +kernel
  exact hall x hx

/-- Small letters and what follows them come from anywhere; every other character of a folding is
folded from itself. -/
theorem mem_foldChar_iff (hd : Caseless d) : d ∈ foldChar c ↔ c = d := by
  obtain ⟨hpos, hsmall, hlower⟩ := hd
  have hcode : 'a'.toNat = 97 := rfl
  have hlarge : ∀ n : Nat, 'a'.toNat ≤ n → d ≠ Char.ofNat n := by
    intro n hn heq
    have hn := eq_of_ofNat_eq (Nat.ne_of_gt hpos) heq.symm
    omega
  unfold foldChar
  split
  · next hc =>
    have hall : ∀ n ∈ List.range 128, asciiLower (Char.ofNat n) = Char.ofNat n ∨
        'a'.toNat ≤ (asciiLower (Char.ofNat n)).toNat := by decide +kernel
    have hn := hall c.toNat (List.mem_range.mpr hc)
    rw [Char.ofNat_toNat] at hn
    rw [List.mem_singleton]
    constructor
    · rintro rfl
      exact (hn.resolve_right (Nat.not_le.mpr hsmall)).symm
    · rintro rfl
      exact hlower.symm
  · next hc =>
    refine iff_of_false ?_ (by rintro rfl; omega)
    split
    · next codes hfound =>
      intro hmem
      obtain ⟨n, hn, rfl⟩ := List.mem_map.mp hmem
      exact hlarge n (le_of_mem_foldExpansions (List.mem_of_find?_eq_some hfound) n hn) rfl
    · rw [List.mem_singleton]
      exact hlarge _ (le_shifted_foldShifts (Nat.le_of_not_lt hc))

theorem foldChar_of_caseless (hd : Caseless d) : foldChar d = [d] := by
  obtain ⟨-, hsmall, hlower⟩ := hd
  have hcode : 'a'.toNat = 97 := rfl
  rw [foldChar, if_pos (by omega), hlower]

theorem foldChar_ne_nil (c : Char) : foldChar c ≠ [] := by
  have hall : ∀ x ∈ foldExpansions, x.2 ≠ [] := by decide +kernel
  unfold foldChar
  split
  · exact List.cons_ne_nil _ _
  · split
    · next codes hfound =>
      rw [Ne, List.map_eq_nil_iff]
      exact hall _ (List.mem_of_find?_eq_some hfound)
    · exact List.cons_ne_nil _ _

theorem mem_foldChars_iff (hd : Caseless d) : d ∈ foldChars l ↔ d ∈ l := by
  rw [foldChars, List.mem_flatMap]
  simp only [mem_foldChar_iff hd, exists_eq_right]

/-- A text ends in such a character exactly if its folding does. -/
theorem getLast?_foldChars_eq_iff (hd : Caseless d) :
    (foldChars l).getLast? = some d ↔ l.getLast? = some d := by
  rcases List.eq_nil_or_concat l with rfl | ⟨r, c, rfl⟩
  · rfl
  · have hlast := List.getLast?_eq_some_getLast (foldChar_ne_nil c)
    rw [List.concat_eq_append, foldChars_append, List.getLast?_append, foldChars_cons,
      foldChars_nil, List.append_nil, hlast, List.getLast?_concat, Option.some_or, Option.some_inj,
      Option.some_inj]
    constructor
    · intro h
      exact (mem_foldChar_iff hd).mp (h ▸ List.getLast_mem _)
    · rintro rfl
      simp only [foldChar_of_caseless hd, List.getLast_singleton]

theorem foldChars_eq_nil_iff : foldChars l = [] ↔ l = [] := by
  cases l with
  | nil => simp
  | cons c r => simp [foldChar_ne_nil c]

theorem fold_eq_empty_iff : fold s = "" ↔ s = "" := by
  rw [← String.toList_inj, toList_fold, ← String.toList_inj]
  exact foldChars_eq_nil_iff

theorem filter_foldChars {p : Char → Bool} (hp : ∀ c, p c = false → Caseless c) :
    (foldChars l).filter p = foldChars (l.filter p) := by
  induction l with
  | nil => rfl
  | cons c l ih =>
    rw [foldChars_cons, List.filter_append, ih]
    cases hc : p c with
    | false =>
      rw [foldChar_of_caseless (hp c hc), List.filter_cons_of_neg (by simp [hc]), List.filter_nil,
        List.nil_append, List.filter_cons_of_neg (by simp [hc])]
    | true =>
      have hkeep : ∀ d ∈ foldChar c, p d = true := by
        intro d hd
        cases hdrop : p d with
        | true => rfl
        | false =>
          rw [(mem_foldChar_iff (hp d hdrop)).mp hd, hdrop] at hc
          exact hc
      rw [List.filter_eq_self.mpr hkeep, List.filter_cons_of_pos hc, foldChars_cons]

end ShadowTypes.Text
