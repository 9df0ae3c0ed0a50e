import ShadowTypes.Text.Lines

/-!
# Pieces of texts

A text is cut at every occurrence of a mark. The pieces of two texts with the mark between them are
those of the one and those of the other, and pieces that do not hold the mark are found again.
-/

namespace ShadowTypes.Text

variable {d : Char} {l r : List Char}

theorem splitAt_of_notMem (h : d ∉ l) : splitAt d l = [l] := by
  induction l with
  | nil => rfl
  | cons c l ih =>
    rw [List.mem_cons, not_or] at h
    rw [splitAt, if_neg (Ne.symm h.1), ih h.2]

theorem splitAt_append (d : Char) (l r : List Char) :
    splitAt d (l ++ d :: r) = splitAt d l ++ splitAt d r := by
  induction l with
  | nil => simp [splitAt]
  | cons c l ih =>
    rw [List.cons_append, splitAt, splitAt, ih]
    split
    · rfl
    · cases hs : splitAt d l with
      | nil => exact absurd hs (splitAt_ne_nil d l)
      | cons m ms => rfl

theorem splitAt_append_cons (h : d ∉ l) : splitAt d (l ++ d :: r) = l :: splitAt d r := by
  rw [splitAt_append, splitAt_of_notMem h, List.singleton_append]

/-- Pieces without the mark are found again. -/
theorem splitAt_joinWith {ls : List (List Char)} (hne : ls ≠ []) (h : ∀ l ∈ ls, d ∉ l) :
    splitAt d (joinWith d ls) = ls := by
  induction ls with
  | nil => exact absurd rfl hne
  | cons l ls ih =>
    obtain ⟨hl, hls⟩ := List.forall_mem_cons.mp h
    cases ls with
    | nil => exact splitAt_of_notMem hl
    | cons k ls => rw [joinWith, splitAt_append_cons hl, ih (List.cons_ne_nil _ _) hls]

theorem joinWith_append {d : Char} {ls ms : List (List Char)} (hl : ls ≠ []) (hm : ms ≠ []) :
    joinWith d (ls ++ ms) = joinWith d ls ++ d :: joinWith d ms := by
  induction ls with
  | nil => exact absurd rfl hl
  | cons l ls ih =>
    cases ls with
    | nil =>
      obtain ⟨m, ms, rfl⟩ := List.exists_cons_of_ne_nil hm
      rfl
    | cons k ls =>
      have hrest := ih (List.cons_ne_nil _ _)
      simp only [List.cons_append, joinWith] at hrest ⊢
      rw [hrest, List.append_assoc, List.cons_append]

theorem joinWith_cons (d : Char) (l : List Char) (ls : List (List Char)) :
    joinWith d (l :: ls) = l ++ ls.flatMap (d :: ·) := by
  induction ls generalizing l with
  | nil => simp [joinWith]
  | cons k ls ih => rw [joinWith, ih, List.flatMap_cons, List.cons_append]

theorem notMem_of_mem_splitAt (s : List Char) (h : l ∈ splitAt d s) : d ∉ l := by
  induction s generalizing l with
  | nil =>
    rw [List.mem_singleton.mp h]
    exact List.not_mem_nil
  | cons c s ih =>
    rw [splitAt] at h
    split at h
    · rcases List.mem_cons.mp h with rfl | h
      · exact List.not_mem_nil
      · exact ih h
    · next hc =>
      cases hs : splitAt d s with
      | nil => exact absurd hs (splitAt_ne_nil d s)
      | cons m ms =>
        rw [hs] at h ih
        rcases List.mem_cons.mp h with rfl | h
        · rw [List.mem_cons, not_or]
          exact ⟨Ne.symm hc, ih List.mem_cons_self⟩
        · exact ih (List.mem_cons_of_mem _ h)

/-- Changing a text piece by piece changes what stands on either side of a mark. -/
theorem joinWith_map_splitAt_append (d : Char) (f : List Char → List Char) (l r : List Char) :
    joinWith d ((splitAt d (l ++ d :: r)).map f) =
      joinWith d ((splitAt d l).map f) ++ d :: joinWith d ((splitAt d r).map f) := by
  have hne : ∀ s : List Char, (splitAt d s).map f ≠ [] := by
    intro s hs
    exact splitAt_ne_nil d s (List.map_eq_nil_iff.mp hs)
  rw [splitAt_append, List.map_append, joinWith_append (hne l) (hne r)]

/-- A break splits a text in two, and anything that has no break lies within one line. -/
theorem exists_splitAt_append {d : Char} {t : List Char} (h : d ∉ t) (s : List Char) :
    ∃ init last, splitAt d s = init ++ [last] ∧ splitAt d (s ++ t) = init ++ [last ++ t] := by
  induction s with
  | nil => exact ⟨[], [], rfl, splitAt_of_notMem h⟩
  | cons c s ih =>
    obtain ⟨init, last, hs, ht⟩ := ih
    by_cases hc : c = d
    · refine ⟨[] :: init, last, ?_, ?_⟩
      · rw [splitAt, if_pos hc, hs, List.cons_append]
      · rw [List.cons_append, splitAt, if_pos hc, ht, List.cons_append]
    · cases init with
      | nil =>
        refine ⟨[], c :: last, ?_, ?_⟩
        · rw [splitAt, if_neg hc, hs]
          rfl
        · rw [List.cons_append, splitAt, if_neg hc, ht]
          rfl
      | cons l init =>
        refine ⟨(c :: l) :: init, last, ?_, ?_⟩
        · rw [splitAt, if_neg hc, hs]
          rfl
        · rw [List.cons_append, splitAt, if_neg hc, ht]
          rfl

end ShadowTypes.Text
