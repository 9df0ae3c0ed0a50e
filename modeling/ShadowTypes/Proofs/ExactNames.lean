import ShadowTypes.Proofs.Blanks
import ShadowTypes.Proofs.References

/-!
# Exact names among candidates

Candidates are looked up without regard to letter case, and the first model wins. A type that is
written exactly as a model of the pass therefore refers to that model unless a model whose name
differs in letter case alone comes first. The bare name of such a type is the name itself, with the
mark of nullable types or without it.
-/

namespace ShadowTypes

namespace Text

theorem isBlank_eq_false_of_isWord {c : Char} (h : isWord c = true) : isBlank c = false := by
  have hall : ∀ n ∈ blankCodes, isWord (Char.ofNat n) = false := by decide +kernel
  by_contra hb
  rw [Bool.not_eq_false] at hb
  have hw := hall c.toNat (toNat_mem_blankCodes hb)
  rw [Char.ofNat_toNat, h] at hw
  cases hw

theorem exists_mem_of_mem_joinWith {d c : Char} {ls : List (List Char)} (h : c ∈ joinWith d ls) :
    c = d ∨ ∃ l ∈ ls, c ∈ l := by
  induction ls with
  | nil => cases h
  | cons l ls ih =>
    cases ls with
    | nil => exact .inr ⟨l, List.mem_cons_self, h⟩
    | cons m ls =>
      rw [joinWith, List.mem_append, List.mem_cons] at h
      rcases h with h | rfl | h
      · exact .inr ⟨l, List.mem_cons_self, h⟩
      · exact .inl rfl
      · rcases ih h with hd | ⟨k, hk, hc⟩
        · exact .inl hd
        · exact .inr ⟨k, List.mem_cons_of_mem _ hk, hc⟩

end Text

/-! ## Bare names -/

namespace TypeName

open Text

/-- Neither a blank nor the mark of nullable types. -/
def IsPlain (c : Char) : Prop := isBlank c = false ∧ c ≠ marker

theorem isPlain_of_isWord {c : Char} (h : isWord c = true) : IsPlain c := by
  refine ⟨isBlank_eq_false_of_isWord h, ?_⟩
  rintro rfl
  exact absurd h (by decide)

theorem isPlain_point : IsPlain '.' := by
  constructor <;> decide

theorem isPlain_at : IsPlain '@' := by
  constructor <;> decide

variable {l : List Char}

theorem trimmed_of_isBlank_eq_false (h : ∀ c ∈ l, isBlank c = false) : Trimmed isBlank l where
  head := fun c hc => h c (List.mem_of_mem_head? hc)
  last := fun c hc => h c (List.mem_of_mem_getLast? hc)

theorem bareChars_of_isPlain (h : ∀ c ∈ l, IsPlain c) : bareChars l = l := by
  have ht : dropBothEnds isBlank l = l :=
    (trimmed_of_isBlank_eq_false fun c hc => (h c hc).1).dropBothEnds_eq
  have hm : l.getLast? ≠ some marker := by
    intro hl
    exact (h marker (List.mem_of_mem_getLast? hl)).2 rfl
  rw [bareChars, ht]
  exact if_neg hm

/-- One mark at the end is dropped, and nothing else. -/
theorem bareChars_concat_marker (h : ∀ c ∈ l, IsPlain c) : bareChars (l ++ [marker]) = l := by
  have hb : ∀ c ∈ l ++ [marker], isBlank c = false := by
    intro c hc
    rcases List.mem_append.mp hc with hc | hc
    · exact (h c hc).1
    · rw [List.mem_singleton.mp hc]
      decide
  have ht : dropBothEnds isBlank (l ++ [marker]) = l ++ [marker] :=
    (trimmed_of_isBlank_eq_false hb).dropBothEnds_eq
  rw [bareChars, ht]
  rw [if_pos List.getLast?_concat, List.dropLast_concat]
  exact dropWhileEnd_eq_self fun c hc => (h c (List.mem_of_mem_getLast? hc)).1

end TypeName

namespace Description

open Text ShadowTypes.TypeName

theorem isPlain_of_isName {l : List Char} (h : isName l = true) : ∀ c ∈ l, IsPlain c := by
  obtain ⟨w, hw, hl⟩ := exists_word_of_isName h
  have hword : ∀ c ∈ w, IsPlain c := fun c hc =>
    isPlain_of_isWord (all_isWord_of_isWordText hw c hc)
  rcases hl with rfl | rfl
  · exact hword
  · intro c hc
    rcases List.mem_cons.mp hc with rfl | hc
    · exact isPlain_at
    · exact hword c hc

theorem isPlain_of_isSpace {l : List Char} (h : isSpace l = true) : ∀ c ∈ l, IsPlain c := by
  intro c hc
  rw [isSpace, Bool.or_eq_true, List.isEmpty_iff, List.all_eq_true] at h
  rcases h with rfl | h
  · cases hc
  · rw [← joinWith_splitAt '.' l] at hc
    rcases exists_mem_of_mem_joinWith hc with rfl | ⟨w, hw, hc⟩
    · exact isPlain_point
    · exact isPlain_of_isWord (all_isWord_of_isWordText (h w hw) c hc)

end Description

namespace Model.WellFormed

open ShadowTypes.TypeName

variable {m : Model}

theorem isPlain_qualifiedName (h : m.WellFormed) : ∀ c ∈ m.qualifiedName.toList, IsPlain c := by
  intro c hc
  rw [qualifiedName, qualify] at hc
  split at hc
  · exact Description.isPlain_of_isName h.isName c hc
  · rw [String.toList_append, String.toList_append, List.mem_append, List.mem_append] at hc
    rcases hc with (hc | hc) | hc
    · exact Description.isPlain_of_isSpace h.isSpace c hc
    · rw [List.mem_singleton.mp hc]
      exact isPlain_point
    · exact Description.isPlain_of_isName h.isName c hc

theorem bare_eq (h : m.WellFormed) {t : String}
    (ht : t = m.qualifiedName ∨ t = m.qualifiedName ++ "?") : bare t = m.qualifiedName := by
  apply String.toList_inj.mp
  rw [toList_bare]
  rcases ht with rfl | rfl
  · exact bareChars_of_isPlain h.isPlain_qualifiedName
  · rw [String.toList_append]
    exact bareChars_concat_marker h.isPlain_qualifiedName

end Model.WellFormed

/-! ## Rivals -/

/-- Every model whose name differs from the given one in letter case alone comes after a model of
just this name. -/
def Unrivalled (models : List Model) (name : String) : Prop :=
  ∀ pre k post, models = pre ++ k :: post → Text.fold k.qualifiedName = Text.fold name →
    k.qualifiedName ≠ name → ∃ j ∈ pre, j.qualifiedName = name

theorem mem_or_eq_or_mem {α : Type} {pre post before after : List α} {k j : α}
    (h : pre ++ k :: post = before ++ j :: after) : j ∈ pre ∨ j = k ∨ k ∈ before := by
  rcases List.append_eq_append_iff.mp h with ⟨mid, rfl, hmid⟩ | ⟨mid, rfl, hmid⟩
  · cases mid with
    | nil => exact .inr (.inl (List.cons.inj hmid).1.symm)
    | cons i mid => simp [(List.cons.inj hmid).1]
  · cases mid with
    | nil => exact .inr (.inl (List.cons.inj hmid).1)
    | cons i mid => simp [(List.cons.inj hmid).1]

/-- The first model that folds like a name is of this very name unless a rival comes first. -/
theorem unrivalled_iff {pre post : List Model} {k : Model} {name : String}
    (hk : Text.fold k.qualifiedName = Text.fold name)
    (hpre : ∀ j ∈ pre, Text.fold j.qualifiedName ≠ Text.fold name) :
    Unrivalled (pre ++ k :: post) name ↔ k.qualifiedName = name := by
  constructor
  · intro h
    by_contra hne
    obtain ⟨j, hj, rfl⟩ := h pre k post rfl hk hne
    exact hpre j hj rfl
  · rintro rfl before j after hs hj hne
    rcases mem_or_eq_or_mem hs with hmem | rfl | hmem
    · exact absurd hj (hpre j hmem)
    · exact absurd rfl hne
    · exact ⟨k, hmem, rfl⟩

/-! ## Exactly named types -/

/-- In C# a shadow type is spelled as the qualified name of its model with the suffix. -/
theorem Emitter.reference_inj {e : Emitter} (he : e.dialect = .csharp) {k m : Model} :
    e.reference k = e.reference m ↔ k.qualifiedName = m.qualifiedName := by
  have hq : ∀ j : Model, e.reference j = j.qualifiedName ++ e.suffix := by
    intro j
    simp only [reference, he, shadowName, Model.qualifiedName, qualify_append]
  rw [hq, hq, String.append_left_inj]

/-- A type that is written exactly as a model of the pass, with the mark of nullable types or
without it, refers to the first model that goes by its name up to letter case. This is the model's
own name, and in C# its own shadow type, exactly if the name has no rival before it. -/
theorem exactly_named_iff_unrivalled {models : List Model} (h : ∀ m ∈ models, m.Accepted)
    {m : Model} (hm : m ∈ models) (p : Property)
    (hp : p.typeName = m.qualifiedName ∨ p.typeName = m.qualifiedName ++ "?") (e : Emitter)
    (he : e.dialect = .csharp) :
    let candidates := Candidates.ofModels models
    let base := TypeName.bare p.typeName
    base = m.qualifiedName ∧
    (∃ pre k post, models = pre ++ k :: post ∧
      Text.fold k.qualifiedName = Text.fold m.qualifiedName ∧
      (∀ j ∈ pre, Text.fold j.qualifiedName ≠ Text.fold m.qualifiedName) ∧
      candidates.canonical? base = some k.qualifiedName ∧
      e.typeExpression p.typeName candidates = e.reference k) ∧
    (candidates.canonical? base = some m.qualifiedName ↔ Unrivalled models m.qualifiedName) ∧
    (e.typeExpression p.typeName candidates = e.reference m ↔
      Unrivalled models m.qualifiedName) := by
  intro candidates base
  have hbase : TypeName.bare p.typeName = m.qualifiedName := (h m hm).wellFormed.bare_eq hp
  have hcontains : candidates.contains (TypeName.bare p.typeName) = true := by
    rw [Candidates.contains_ofModels_iff, TypeName.key_bare, hbase]
    exact ⟨m, hm, rfl⟩
  obtain ⟨pre, k, post, hsplit, hfold, hpre, hcanonical⟩ := exists_first_of_contains hcontains
  rw [hbase] at hfold hpre
  have hkw : k.WellFormed := (h k (by simp [hsplit])).wellFormed
  change candidates.canonical? base = some k.qualifiedName at hcanonical
  have hreference : e.typeExpression p.typeName candidates = e.reference k :=
    Emitter.typeExpression_of_canonical? hkw hcanonical
  have hrival : Unrivalled models m.qualifiedName ↔ k.qualifiedName = m.qualifiedName := by
    rw [hsplit]
    exact unrivalled_iff hfold hpre
  refine ⟨hbase, ⟨pre, k, post, hsplit, hfold, hpre, hcanonical, hreference⟩, ?_, ?_⟩
  · rw [hrival, hcanonical, Option.some_inj]
  · rw [hreference, hrival, Emitter.reference_inj he]

theorem exactly_named_before_rival :
    let models : List Model := [{ space := "shop", name := "Item" },
      { space := "shop", name := "item" }]
    (∀ m ∈ models, m.Accepted) ∧ { space := "shop", name := "Item" } ∈ models ∧
    (Emitter.ofDialect .csharp).typeExpression "shop.Item?" (Candidates.ofModels models) =
      "shop.ItemDTO" := by
  intro models
  have haccepted : ∀ m ∈ models, m.Accepted := by
    simp only [models, List.forall_mem_cons]
    exact ⟨⟨.mapping [(.text "namespace", .text "shop"), (.text "name", .text "Item")], false, rfl⟩,
      ⟨.mapping [(.text "namespace", .text "shop"), (.text "name", .text "item")], false, rfl⟩,
      by simp⟩
  refine ⟨haccepted, List.mem_cons_self, ?_⟩
  obtain ⟨-, -, -, ht⟩ := exactly_named_iff_unrivalled haccepted List.mem_cons_self
    ⟨"Lines", "shop.Item?", none⟩ (.inr (by decide +kernel)) (.ofDialect .csharp) rfl
  rw [ht.mpr]
  · rfl
  · change Unrivalled ([] ++ _ :: _) _
    exact (unrivalled_iff rfl (List.forall_mem_nil _)).mpr rfl

/-- A model of another spelling that comes first takes the references to an exact name. -/
theorem exactly_named_after_rival :
    let models : List Model := [{ space := "shop", name := "item" },
      { space := "shop", name := "Item" }]
    let candidates := Candidates.ofModels models
    let item : Model := { space := "shop", name := "Item" }
    let line : Property := ⟨"Line", item.qualifiedName, none⟩
    (∀ m ∈ models, m.Accepted) ∧ item ∈ models ∧
    candidates.canonical? (TypeName.bare line.typeName) = some "shop.item" ∧
    candidates.canonical? (TypeName.bare line.typeName) ≠ some item.qualifiedName ∧
    (Emitter.ofDialect .csharp).typeExpression line.typeName candidates = "shop.itemDTO" ∧
    (Emitter.ofDialect .csharp).typeExpression line.typeName candidates ≠
      (Emitter.ofDialect .csharp).reference item := by
  intro models candidates item line
  refine ⟨?_, by simp [models, item], ?_⟩
  · simp only [models, List.forall_mem_cons]
    exact ⟨⟨.mapping [(.text "namespace", .text "shop"), (.text "name", .text "item")], false, rfl⟩,
      ⟨.mapping [(.text "namespace", .text "shop"), (.text "name", .text "Item")], false, rfl⟩,
      by simp⟩
  · decide +kernel

end ShadowTypes
