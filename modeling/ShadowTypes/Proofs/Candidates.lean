import Mathlib.Data.Finset.Card
import ShadowTypes.Candidates
import ShadowTypes.Proofs.Blanks

/-!
# The first name wins

Looking a type name up among candidates finds the first of the names, in the order in which they
were added, that folds as the type name is compared. There are as many candidates as foldings of
names. A name that is found is found under itself again: no name with blanks around it is ever
found, since folding leaves blanks alone.
-/

namespace ShadowTypes

namespace Candidates

theorem canonical?_add (c : Candidates) (n t : String) :
    (c.add n).canonical? t =
      (c.canonical? t).or (if Text.fold n == TypeName.key t then some n else none) := by
  by_cases hany : c.entries.any (·.1 == Text.fold n) = true
  · rw [add, if_pos hany]
    split
    · next hk =>
      rw [beq_iff_eq.mp hk, ← List.isSome_find?] at hany
      obtain ⟨entry, he⟩ := Option.isSome_iff_exists.mp hany
      rw [canonical?, he]
      rfl
    · rw [Option.or_none]
  · rw [add, if_neg hany]
    cases hk : Text.fold n == TypeName.key t <;>
      simp only [canonical?, List.find?_append, List.find?_singleton, Option.map_or, hk] <;> rfl

theorem canonical?_foldl_add (names : List String) (c : Candidates) (t : String) :
    (names.foldl add c).canonical? t =
      (c.canonical? t).or (names.find? fun n => Text.fold n == TypeName.key t) := by
  induction names generalizing c with
  | nil => simp
  | cons n names ih =>
    rw [List.foldl_cons, ih, canonical?_add, Option.or_assoc, List.find?_cons]
    cases Text.fold n == TypeName.key t <;> rfl

theorem canonical?_ofNames (names : List String) (t : String) :
    (ofNames names).canonical? t = names.find? fun n => Text.fold n == TypeName.key t := by
  rw [ofNames, canonical?_foldl_add, canonical?_empty, Option.none_or]

theorem canonical?_ofModels (models : List Model) (t : String) :
    (ofModels models).canonical? t =
      (models.find? fun m => Text.fold m.qualifiedName == TypeName.key t).map
        Model.qualifiedName := by
  rw [ofModels, canonical?_ofNames, List.find?_map]
  rfl

theorem contains_ofModels_iff {models : List Model} {t : String} :
    (ofModels models).contains t = true ↔
      ∃ m ∈ models, Text.fold m.qualifiedName = TypeName.key t := by
  rw [contains_eq_isSome, canonical?_ofModels, Option.isSome_map, List.find?_isSome]
  simp only [beq_iff_eq]

/-! ## What candidates hold of a list of names -/

variable {names : List String} {n t : String}

def keys (c : Candidates) : List String := c.entries.map (·.1)

theorem keys_add (c : Candidates) (n : String) :
    (c.add n).keys = if Text.fold n ∈ c.keys then c.keys else c.keys ++ [Text.fold n] := by
  have hmem : c.entries.any (·.1 == Text.fold n) = true ↔ Text.fold n ∈ c.keys := by
    simp [keys]
  rw [add]
  by_cases h : Text.fold n ∈ c.keys
  · rw [if_pos h, if_pos (hmem.mpr h)]
  · rw [if_neg h, if_neg (fun hany => h (hmem.mp hany)), keys, List.map_append]
    rfl

theorem nodup_keys_add {c : Candidates} (h : c.keys.Nodup) : (c.add n).keys.Nodup := by
  rw [keys_add]
  split
  · exact h
  · next hn =>
    rw [← List.concat_eq_append]
    exact h.concat hn

theorem mem_keys_add {c : Candidates} {k : String} :
    k ∈ (c.add n).keys ↔ k ∈ c.keys ∨ k = Text.fold n := by
  rw [keys_add]
  split
  · next hn =>
    rw [iff_self_or]
    rintro rfl
    exact hn
  · rw [List.mem_append, List.mem_singleton]

theorem keys_foldl_add (names : List String) {c : Candidates} (h : c.keys.Nodup) :
    (names.foldl add c).keys.Nodup ∧
      ∀ k, k ∈ (names.foldl add c).keys ↔ k ∈ c.keys ∨ k ∈ names.map Text.fold := by
  induction names generalizing c with
  | nil => exact ⟨h, by simp⟩
  | cons n names ih =>
    obtain ⟨hnodup, hmem⟩ := ih (nodup_keys_add (n := n) h)
    refine ⟨hnodup, fun k => ?_⟩
    rw [List.foldl_cons, hmem, mem_keys_add, List.map_cons, List.mem_cons, or_assoc]

theorem size_ofNames (names : List String) :
    (ofNames names).size = (names.map Text.fold).toFinset.card := by
  obtain ⟨hnodup, hmem⟩ := keys_foldl_add names (c := empty) List.nodup_nil
  rw [← ofNames] at hnodup hmem
  have hset : (ofNames names).keys.toFinset = (names.map Text.fold).toFinset := by
    ext k
    rw [List.mem_toFinset, List.mem_toFinset, hmem]
    exact or_iff_right List.not_mem_nil
  rw [← hset, List.toFinset_card_of_nodup hnodup, keys, List.length_map, size]

/-- The first name of the list that is the text up to letter case and blanks around the text. -/
def IsFirst (names : List String) (t n : String) : Prop :=
  ∃ before after, names = before ++ n :: after ∧ Text.fold n = Text.fold (Text.trim t) ∧
    ∀ m ∈ before, Text.fold m ≠ Text.fold (Text.trim t)

theorem canonical?_eq_some_iff :
    (ofNames names).canonical? t = some n ↔ IsFirst names t n := by
  rw [canonical?_ofNames, List.find?_eq_some_iff_append]
  simp only [beq_iff_eq, TypeName.key, Bool.not_eq_true', beq_eq_false_iff_ne]
  constructor
  · rintro ⟨hn, before, after, hsplit, hbefore⟩
    exact ⟨before, after, hsplit, hn, hbefore⟩
  · rintro ⟨before, after, hsplit, hn, hbefore⟩
    exact ⟨hn, before, after, hsplit, hbefore⟩

theorem canonical?_eq_none_iff :
    (ofNames names).canonical? t = none ↔
      ∀ m ∈ names, Text.fold m ≠ Text.fold (Text.trim t) := by
  rw [canonical?_ofNames, List.find?_eq_none]
  simp only [beq_iff_eq]
  rfl

theorem IsFirst.self (h : IsFirst names t n) : IsFirst names n n := by
  obtain ⟨before, after, hsplit, hn, hbefore⟩ := h
  have htrim : Text.trim n = n := Text.trim_eq_self_of_fold_eq hn
  refine ⟨before, after, hsplit, by rw [htrim], ?_⟩
  rw [htrim, hn]
  exact hbefore

/-- The candidates answer for a list of names. The name that is found for a text is the first one
that folds as the text does without blanks around it; none is found exactly if no name does. The
text refers to a candidate exactly if a name is found for it, and there are as many candidates as
foldings. A listed name without blanks around it refers to a candidate, and a name that was found is
found under itself. -/
structure AnswersFor (c : Candidates) (names : List String) : Prop where
  first : ∀ t n, c.canonical? t = some n ↔ IsFirst names t n
  unknown : ∀ t, c.canonical? t = none ↔ ∀ m ∈ names, Text.fold m ≠ Text.fold (Text.trim t)
  contains : ∀ t, c.contains t = true ↔ c.canonical? t ≠ none
  size : c.size = (names.map Text.fold).toFinset.card
  listed : ∀ n ∈ names, Text.trim n = n → c.contains n = true
  self : ∀ t n, c.canonical? t = some n → c.canonical? n = some n

/-- However often names are listed, and in whatever letter case, the first one of a folding wins. -/
theorem ofNames_first_wins (names : List String) : (ofNames names).AnswersFor names := by
  have hcontains : ∀ t, (ofNames names).contains t = true ↔
      (ofNames names).canonical? t ≠ none := by
    intro t
    rw [contains_eq_isSome, Option.isSome_iff_ne_none]
  refine ⟨fun t n => canonical?_eq_some_iff, fun t => canonical?_eq_none_iff, hcontains,
    size_ofNames names, ?_, ?_⟩
  · intro n hn htrim
    rw [hcontains, ne_eq, canonical?_eq_none_iff]
    intro hnone
    exact hnone n hn (by rw [htrim])
  · intro t n h
    exact canonical?_eq_some_iff.mpr (canonical?_eq_some_iff.mp h).self

/-- Two names that fold alike, and a name that is found in other letters with blanks around it. -/
theorem first_of_three_wins :
    let names := ["Acme.Line", "ACME.LINE", "shop.Straße"]
    let c := ofNames names
    "ACME.LINE" ∈ names ∧ Text.trim "ACME.LINE" = "ACME.LINE" ∧ c.contains "ACME.LINE" = true ∧
    c.canonical? " SHOP.STRASSE\n" = some "shop.Straße" ∧
    c.canonical? "shop.Straße" = some "shop.Straße" ∧ c.size = 2 := by
  intro names c
  have hc : c.AnswersFor names := ofNames_first_wins names
  have hmem : "ACME.LINE" ∈ names := by decide
  have htrim : Text.trim "ACME.LINE" = "ACME.LINE" := by decide +kernel
  have hfound : c.canonical? " SHOP.STRASSE\n" = some "shop.Straße" := by decide +kernel
  exact ⟨hmem, htrim, hc.listed _ hmem htrim, hfound, hc.self _ _ hfound, by decide +kernel⟩

end Candidates

end ShadowTypes
