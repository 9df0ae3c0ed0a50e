import ShadowTypes.Proofs.Accepted
import ShadowTypes.Proofs.Candidates
import ShadowTypes.Proofs.Generation
import ShadowTypes.Proofs.Resolution

/-!
# Declared kinds and checked kinds

The type that a property is declared with and the check that it resolves to agree about its kind,
with one exception. A type that is the text type is checked as text, even if a model of the pass
goes by the same name; but it is declared with the shadow type of that model, for declarations do
not know the names of the text type.
-/

namespace ShadowTypes

/-- The type is declared by way of a candidate: with the shadow name of the candidate's declared
name, of which Python keeps the last part. -/
def Emitter.Rewrites (e : Emitter) (candidates : Candidates) (typeName : String) : Prop :=
  ∃ declared, candidates.canonical? (TypeName.bare typeName) = some declared ∧
    e.typeExpression typeName candidates = e.shadowName
      (match e.dialect with
      | .csharp => declared
      | .python => TypeExpression.shortName declared)

/-- The check is that of a nested object, or asks for nothing because the type is nullable. -/
def Check.FitsReference (typeName : String) (c : Check) : Prop :=
  (∃ a v, c = .nested a v) ∨ (TypeName.isNullable typeName = true ∧ c = .basic true)

theorem Emitter.rewrites_iff {e : Emitter} {candidates : Candidates} {typeName : String} :
    e.Rewrites candidates typeName ↔ candidates.contains (TypeName.bare typeName) = true := by
  rw [Candidates.contains_eq_isSome, Option.isSome_iff_exists]
  constructor
  · rintro ⟨declared, hd, -⟩
    exact ⟨declared, hd⟩
  · rintro ⟨declared, hd⟩
    refine ⟨declared, hd, ?_⟩
    unfold typeExpression TypeExpression.write
    simp only [hd]
    cases e.dialect <;> rfl

/-- Without the mark of nullable types a type name is looked up as its bare name is. -/
theorem Candidates.contains_bare {candidates : Candidates} {typeName : String}
    (h : TypeName.isNullable typeName = false) :
    candidates.contains (TypeName.bare typeName) = candidates.contains typeName := by
  rw [contains, contains, ← TypeName.key_eq_key_bare (by simp [h])]

/-- A declared reference fits the check unless the type is the text type, without the mark of
nullable types, and a model of the pass goes by its name. Exactly then a property that is checked as
text is declared with a shadow type. -/
theorem fitsReference_iff (e : Emitter) (names : StringNames) (models : List Model)
    (p : Property) :
    let candidates := Candidates.ofModels models
    let check := (p.resolved candidates names).check
    let confused := TypeName.isNullable p.typeName = false ∧ names.isString p.typeName = true ∧
      ∃ m ∈ models, Text.fold m.qualifiedName = TypeName.key p.typeName
    ((e.Rewrites candidates p.typeName → check.FitsReference p.typeName) ↔ ¬ confused) ∧
    (((∃ r, check = .text r) ∧ e.Rewrites candidates p.typeName) ↔ confused) := by
  intro candidates check confused
  have hconfused : confused ↔ TypeName.isNullable p.typeName = false ∧
      names.isString p.typeName = true ∧ candidates.contains p.typeName = true := by
    rw [Candidates.contains_ofModels_iff]
  have hkind : Resolution.Kind p.typeName candidates names check :=
    Resolution.kind_check _ p.directive _ _
  rw [hconfused, Emitter.rewrites_iff, Check.FitsReference]
  clear_value check
  cases hkind with
  | nullable hn => simp [hn]
  | text r hn hs => simp [hn, hs, Candidates.contains_bare hn]
  | nested a v hn hs hc => simp [hn, hs]
  | other hn hs hc => simp [hn, hs, hc, Candidates.contains_bare hn]

/-- A model that goes by the name of the text type. -/
theorem text_declared_as_shadow_type :
    let models : List Model := [{ name := "string" },
      { space := "shop", name := "Order", properties := [⟨"Title", "string", none⟩] }]
    let candidates := Candidates.ofModels models
    let title : Property := ⟨"Title", "string", none⟩
    (∀ m ∈ models, m.Accepted) ∧
    (title.resolved candidates .standard).check = .text .requireText ∧
    ∀ d, (Emitter.ofDialect d).Rewrites candidates title.typeName ∧
      (Emitter.ofDialect d).typeExpression title.typeName candidates = "stringDTO" ∧
      ¬ ((Emitter.ofDialect d).Rewrites candidates title.typeName →
        (title.resolved candidates .standard).check.FitsReference title.typeName) := by
  intro models candidates title
  have hcheck : (title.resolved candidates .standard).check = .text .requireText := by
    decide +kernel
  have hrewrites : ∀ d, (Emitter.ofDialect d).Rewrites candidates title.typeName := by
    intro d
    rw [Emitter.rewrites_iff]
    decide +kernel
  refine ⟨?_, hcheck, fun d => ⟨hrewrites d, ?_, ?_⟩⟩
  · intro m hm
    rcases List.mem_cons.mp hm with rfl | hm
    · exact ⟨.mapping [(.text "name", .text "string")], false, rfl⟩
    · rw [List.mem_singleton.mp hm]
      exact ⟨.mapping [(.text "namespace", .text "shop"), (.text "name", .text "Order"),
        (.text "properties", .list [
          .mapping [(.text "name", .text "Title"), (.text "typeName", .text "string")]])],
        false, rfl⟩
  · cases d <;> decide +kernel
  · intro h
    rcases h (hrewrites d) with ⟨a, v, hav⟩ | ⟨-, hb⟩
    · rw [hcheck] at hav
      cases hav
    · rw [hcheck] at hb
      cases hb

end ShadowTypes
