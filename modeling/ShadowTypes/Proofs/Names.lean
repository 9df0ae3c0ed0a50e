import ShadowTypes.Proofs.Accepted
import ShadowTypes.Emitter

/-!
# Names of models and members

A name of an accepted model is a word, with at most one mark in front. It is therefore not empty
and holds no point, and as a member of a Python class it is a word that is not reserved.
-/

namespace ShadowTypes

namespace Text

variable {l : List Char}

theorem all_isWord_of_isWordText (h : isWordText l = true) : ∀ c ∈ l, isWord c = true := by
  cases l with
  | nil => simp
  | cons c r =>
    rw [isWordText_cons, Bool.and_eq_true, List.all_eq_true, isWordStart, Bool.and_eq_true] at h
    intro d hd
    rcases List.mem_cons.mp hd with rfl | hd
    · exact h.1.1
    · exact h.2 d hd

theorem ne_nil_of_isWordText (h : isWordText l = true) : l ≠ [] := by
  rintro rfl
  exact Bool.false_ne_true h

theorem isWord_at : isWord '@' = false := by decide

theorem isWord_point : isWord '.' = false := by decide

theorem notMem_of_isWordText {d : Char} (hd : isWord d = false) (h : isWordText l = true) :
    d ∉ l := by
  intro hmem
  have hw := all_isWord_of_isWordText h d hmem
  rw [hd] at hw
  cases hw

theorem isIdentifierPart_of_isIdentifierStart {c : Char} (h : isIdentifierStart c = true) :
    isIdentifierPart c = true := by
  unfold isIdentifierStart at h
  unfold isIdentifierPart
  split at h
  · next hc => rw [if_pos hc, h, Bool.true_or]
  · next hc => rw [if_neg hc, h, Bool.true_or]

theorem notMem_of_isIdentifier {d : Char} (hd : isIdentifierPart d = false)
    (h : isIdentifier l = true) : d ∉ l := by
  intro hmem
  cases l with
  | nil => exact absurd hmem List.not_mem_nil
  | cons c r =>
    rw [isIdentifier_cons, Bool.and_eq_true, List.all_eq_true] at h
    have hpart : isIdentifierPart d = true := by
      rcases List.mem_cons.mp hmem with rfl | hmem
      · exact isIdentifierPart_of_isIdentifierStart h.1
      · exact h.2 d hmem
    rw [hd] at hpart
    cases hpart

theorem dropWhile_mark_of_isWordText (h : isWordText l = true) :
    l.dropWhile (· == '@') = l := by
  apply dropWhile_eq_self
  intro c hc
  rw [beq_eq_false_iff_ne]
  rintro rfl
  exact notMem_of_isWordText isWord_at h (List.mem_of_mem_head? hc)

end Text

namespace Description

open Text

variable {l : List Char}

theorem exists_word_of_isName (h : isName l = true) :
    ∃ w, isWordText w = true ∧ (l = w ∨ l = '@' :: w) := by
  unfold isName at h
  split at h
  · exact ⟨_, h, .inr rfl⟩
  · exact ⟨_, h, .inl rfl⟩

theorem ne_nil_of_isName (h : isName l = true) : l ≠ [] := by
  obtain ⟨w, hw, rfl | rfl⟩ := exists_word_of_isName h
  · exact ne_nil_of_isWordText hw
  · exact List.cons_ne_nil _ _

theorem point_notMem_of_isName (h : isName l = true) : '.' ∉ l := by
  obtain ⟨w, hw, hl⟩ := exists_word_of_isName h
  have hp : '.' ∉ w := notMem_of_isWordText isWord_point hw
  rcases hl with rfl | rfl
  · exact hp
  · simpa using hp

theorem isWordText_unescaped {name : String} (h : isName name.toList = true) :
    isWordText (Dialect.unescaped name).toList = true := by
  obtain ⟨w, hw, hl | hl⟩ := exists_word_of_isName h
  · rwa [Dialect.toList_unescaped, hl, dropWhile_mark_of_isWordText hw]
  · rwa [Dialect.toList_unescaped, hl, List.dropWhile_cons_of_pos (by decide),
      dropWhile_mark_of_isWordText hw]

end Description

namespace Dialect

theorem isKeyword_append_underscore {s : String} (h : isKeyword s = true) :
    isKeyword (s ++ "_") = false := by
  have hall : ∀ k ∈ keywords, isKeyword (k ++ "_") = false := by decide +kernel
  exact hall s (List.contains_iff_mem.mp h)

theorem member_python {name : String} (h : Description.isName name.toList = true) :
    Text.isWordText (member .python name).toList = true ∧
      isKeyword (member .python name) = false := by
  have hw := Description.isWordText_unescaped h
  simp only [member]
  split
  · next hk =>
    refine ⟨?_, isKeyword_append_underscore hk⟩
    cases hl : (unescaped name).toList with
    | nil => exact absurd hl (Text.ne_nil_of_isWordText hw)
    | cons c r =>
      rw [hl, Text.isWordText_cons, Bool.and_eq_true] at hw
      have hu : Text.isWord '_' = true := by decide
      simp [hl, Text.isWordText_cons, hw.1, hw.2, hu]
  · next hk => exact ⟨hw, by simpa using hk⟩

end Dialect

namespace Property.WellFormed

variable {p : Property}

theorem isEmpty_typeName (h : p.WellFormed) : TypeName.isEmpty p.typeName = false := by
  rw [Bool.eq_false_iff, Ne, TypeName.isEmpty_iff_trim_eq, h.trim_typeName]
  exact h.typeName_ne

end Property.WellFormed

namespace Model.WellFormed

variable {m : Model}

theorem name_ne (h : m.WellFormed) : m.name ≠ "" := by
  intro hn
  exact Description.ne_nil_of_isName h.isName (by simp [hn])

theorem qualifiedName_ne (h : m.WellFormed) : m.qualifiedName ≠ "" := by
  rw [qualifiedName, qualify]
  split
  · exact h.name_ne
  · next hs =>
    intro hq
    have hl := congrArg String.toList hq
    simp at hl

end Model.WellFormed

end ShadowTypes
