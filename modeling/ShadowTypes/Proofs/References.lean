import ShadowTypes.Proofs.Candidates
import ShadowTypes.Proofs.Generation
import ShadowTypes.Proofs.Resolution

/-!
# References to shadow types

A property whose type names a model of the pass is declared with the shadow type of the first such
model. The reference is spelled as that shadow type declares itself, with its namespace in C#. Every
property that is checked as a nested object is declared so.
-/

namespace ShadowTypes

theorem qualify_append (space name suffix : String) :
    qualify space name ++ suffix = qualify space (name ++ suffix) := by
  unfold qualify
  split <;> simp [String.append_assoc]

theorem shortName_qualify {space name : String} (h : '.' ∉ name.toList) :
    TypeExpression.shortName (qualify space name) = name := by
  have hp : ∀ c ∈ name.toList.reverse, (c != '.') = true := by
    intro c hc
    rw [bne_iff_ne]
    rintro rfl
    exact h (List.mem_reverse.mp hc)
  apply String.toList_inj.mp
  unfold qualify
  split
  · simp [TypeExpression.shortName, List.takeWhile_eq_self_iff.mpr hp]
  · simp [TypeExpression.shortName, List.takeWhile_append_of_pos hp]

namespace Emitter

/-- The shadow type of a model as other shadow types spell it: with its namespace in C#, by its
name alone in Python. -/
def reference (e : Emitter) (k : Model) : String :=
  match e.dialect with
  | .csharp => qualify k.space (e.shadowName k.name)
  | .python => e.shadowName k.name

/-- The text declares a class of the given name, in the namespace of the model. -/
def Declares (e : Emitter) (k : Model) (name text : String) : Prop :=
  match e.dialect with
  | .csharp => ∃ rest, text =
      Source.csharpText k.space (Source.ofLines (("    public class " ++ name) :: rest))
  | .python => ∃ rest, text = Source.ofLines (
      ["\"\"\"Shadow type of " ++ k.qualifiedName ++ ".\"\"\"",
        "from __future__ import annotations", "", "from dataclasses import dataclass", "", "",
        "@dataclass", "class " ++ name ++ ":"] ++ rest)

theorem typeExpression_of_some {e : Emitter} {candidates : Candidates} {t declared : String}
    (h : candidates.canonical? (TypeName.bare t) = some declared) :
    e.typeExpression t candidates = (match e.dialect with
      | .csharp => declared
      | .python => TypeExpression.shortName declared) ++ e.suffix := by
  unfold typeExpression TypeExpression.write
  simp only [h]
  cases e.dialect <;> rfl

theorem typeExpression_of_none {e : Emitter} {candidates : Candidates} {t : String}
    (h : candidates.canonical? (TypeName.bare t) = none) :
    e.typeExpression t candidates = match e.dialect with
      | .csharp => TypeName.bare t
      | .python => TypeExpression.plain (TypeName.bare t) := by
  unfold typeExpression TypeExpression.write
  simp only [h]
  cases e.dialect <;> rfl

theorem typeExpression_of_canonical? {e : Emitter} {k : Model} {candidates : Candidates}
    {typeName : String} (hk : k.WellFormed)
    (h : candidates.canonical? (TypeName.bare typeName) = some k.qualifiedName) :
    e.typeExpression typeName candidates = e.reference k := by
  rw [typeExpression_of_some h, reference]
  cases e.dialect with
  | csharp => exact qualify_append _ _ _
  | python =>
    simp only [Model.qualifiedName, shadowName]
    rw [shortName_qualify (Description.point_notMem_of_isName hk.isName)]

theorem declares_frame (e : Emitter) (k : Model) (members fragments : List String)
    (candidates : Candidates) :
    e.Declares k (e.shadowName k.name) (e.frame k members fragments candidates) := by
  unfold Declares frame
  cases e.dialect with
  | csharp => exact ⟨_, rfl⟩
  | python =>
    simp only [Source.pythonLines, List.append_assoc]
    exact ⟨_, rfl⟩

end Emitter

theorem Model.WellFormed.declares_of_generate {k : Model} (hk : k.WellFormed) {e : Emitter}
    {candidates : Candidates} {names : StringNames} {s : Source}
    (h : (Workshop.mk e candidates names .none).generate k.toDraft = .ok s) :
    s.typeName = e.shadowName k.name ∧ e.Declares k (e.shadowName k.name) s.text := by
  rw [hk.generate_eq candidates names e] at h
  split at h
  · cases h
    exact ⟨rfl, e.declares_frame k _ _ _⟩
  · cases h

theorem find?_bare_eq_some_iff {models : List Model} {t : String} {k : Model} :
    (models.find? fun m => Text.fold m.qualifiedName == TypeName.key (TypeName.bare t)) = some k ↔
      Text.fold k.qualifiedName = Text.fold (TypeName.bare t) ∧
      ∃ pre post, models = pre ++ k :: post ∧
        ∀ m ∈ pre, Text.fold m.qualifiedName ≠ Text.fold (TypeName.bare t) := by
  rw [List.find?_eq_some_iff_append, TypeName.key_bare]
  simp

theorem exists_first_of_contains {models : List Model} {t : String}
    (h : (Candidates.ofModels models).contains (TypeName.bare t) = true) :
    ∃ pre k post, models = pre ++ k :: post ∧
      Text.fold k.qualifiedName = Text.fold (TypeName.bare t) ∧
      (∀ m ∈ pre, Text.fold m.qualifiedName ≠ Text.fold (TypeName.bare t)) ∧
      (Candidates.ofModels models).canonical? (TypeName.bare t) = some k.qualifiedName := by
  rw [Candidates.contains_eq_isSome, Candidates.canonical?_ofModels, Option.isSome_map] at h
  obtain ⟨k, hk⟩ := Option.isSome_iff_exists.mp h
  obtain ⟨hfold, pre, post, hsplit, hpre⟩ := find?_bare_eq_some_iff.mp hk
  refine ⟨pre, k, post, hsplit, hfold, hpre, ?_⟩
  rw [Candidates.canonical?_ofModels, hk]
  rfl

/-- A type that goes by the folded name of a model of the pass, or that is checked as nested, is
written as the shadow type of the first such model. What generates for that model has the same name
and declares it. -/
theorem typeExpression_eq_reference {models : List Model} (h : ∀ m ∈ models, m.Accepted)
    (e : Emitter) (names : StringNames) (p : Property)
    (hp : (∃ m ∈ models, Text.fold m.qualifiedName = Text.fold (TypeName.bare p.typeName)) ∨
      ∃ a v, (p.resolved (Candidates.ofModels models) names).check = .nested a v) :
    ∃ pre k post, models = pre ++ k :: post ∧
      Text.fold k.qualifiedName = Text.fold (TypeName.bare p.typeName) ∧
      (∀ m ∈ pre, Text.fold m.qualifiedName ≠ Text.fold (TypeName.bare p.typeName)) ∧
      e.typeExpression p.typeName (Candidates.ofModels models) = e.reference k ∧
      ∀ s, (Workshop.ofModels e names models).generate k.toDraft = .ok s →
        s.typeName = e.shadowName k.name ∧ e.Declares k (e.shadowName k.name) s.text := by
  have hc : (Candidates.ofModels models).contains (TypeName.bare p.typeName) = true := by
    rw [Candidates.contains_ofModels_iff, TypeName.key_bare]
    rcases hp with hp | ⟨a, v, hv⟩
    · exact hp
    · obtain ⟨hn, -, hc⟩ := Resolution.exists_check_nested_iff.mp ⟨a, v, hv⟩
      rw [Candidates.contains_ofModels_iff, TypeName.key_eq_key_bare (by simp [hn]),
        TypeName.key_bare] at hc
      exact hc
  rw [Candidates.contains_eq_isSome, Candidates.canonical?_ofModels, Option.isSome_map] at hc
  obtain ⟨k, hk⟩ := Option.isSome_iff_exists.mp hc
  have hkw : k.WellFormed := (h k (List.mem_of_find?_eq_some hk)).wellFormed
  obtain ⟨hfold, pre, post, hsplit, hpre⟩ := find?_bare_eq_some_iff.mp hk
  refine ⟨pre, k, post, hsplit, hfold, hpre, ?_, fun s hs => hkw.declares_of_generate hs⟩
  apply Emitter.typeExpression_of_canonical? hkw
  rw [Candidates.canonical?_ofModels, hk]
  rfl

theorem typeExpression_line_in_other_case :
    (Emitter.ofDialect .csharp).typeExpression " ACME.models.line ? "
      (Candidates.ofModels [{ space := "Acme.Models", name := "Line" }]) =
        "Acme.Models.LineDTO" := by
  have h : ∀ m ∈ [({ space := "Acme.Models", name := "Line" } : Model)], m.Accepted := by
    intro m hm
    rw [List.mem_singleton.mp hm]
    exact ⟨.mapping [(.text "name", .text "Line"), (.text "namespace", .text "Acme.Models")],
      false, rfl⟩
  obtain ⟨pre, k, post, hsplit, -, -, ht, -⟩ := typeExpression_eq_reference h
    (Emitter.ofDialect .csharp) .standard ⟨"Lines", " ACME.models.line ? ", none⟩
    (.inl ⟨_, List.mem_singleton_self _, by decide +kernel⟩)
  obtain rfl : k = { space := "Acme.Models", name := "Line" } := by
    cases pre <;> simp_all
  rw [ht]
  rfl

end ShadowTypes
