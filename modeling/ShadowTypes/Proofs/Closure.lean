import ShadowTypes.Proofs.Lookup
import ShadowTypes.Proofs.References

/-!
# Closed passes

The names of a pass are collected before any of its models generates. A shadow type therefore
refers to models of the pass only, whether or not these generate in their turn; a model that fails
loses its own shadow type, and the references to it stay. So a pass generates all that it refers to
exactly if every name that a generated shadow type refers to is that of a model with no fault of its
own.
-/

namespace ShadowTypes

/-- The shadow type of a model refers to that of the model with the given qualified name: the type
of one of its properties is declared so. -/
def Emitter.RefersTo (e : Emitter) (candidates : Candidates) (m : Model) (name : String) : Prop :=
  ∃ q ∈ m.properties, e.Rewrites candidates q.typeName ∧
    candidates.canonical? (TypeName.bare q.typeName) = some name

namespace Pass

/-- The outcome at a position of the model is a source. -/
def Generates (p : Pass) (models : List Model) (m : Model) : Prop :=
  ∃ (i : Nat) (o : Outcome) (s : Source),
    models[i]? = some m ∧ (p.runModels models).outcomes[i]? = some o ∧ o.result = .ok s

/-- Every shadow type that a generated one refers to is generated as well. -/
def Closed (p : Pass) (models : List Model) : Prop :=
  ∀ m, p.Generates models m → ∀ name, p.emitter.RefersTo (Candidates.ofModels models) m name →
    ∃ k, p.Generates models k ∧ k.qualifiedName = name

variable {p : Pass} {models : List Model} {m : Model}

theorem generates_iff : p.Generates models m ↔
    m ∈ models ∧ ∃ s, (p.workshop (Candidates.ofModels models)).generate m.toDraft = .ok s := by
  constructor
  · rintro ⟨i, o, s, h⟩
    obtain ⟨hm, hs⟩ := gives_iff.mp ⟨i, o, h⟩
    exact ⟨hm, s, hs⟩
  · rintro ⟨hm, s, hs⟩
    obtain ⟨i, o, h⟩ := gives_iff.mpr ⟨hm, hs⟩
    exact ⟨i, o, s, h⟩

theorem generates_iff_sound (h : ∀ m ∈ models, m.Accepted) :
    p.Generates models m ↔ m ∈ models ∧ p.Sound m := by
  rw [generates_iff]
  constructor
  · rintro ⟨hm, hs⟩
    exact ⟨hm, (p.exists_generate_iff_sound (h m hm).wellFormed _).mp hs⟩
  · rintro ⟨hm, hs⟩
    exact ⟨hm, (p.exists_generate_iff_sound (h m hm).wellFormed _).mpr hs⟩

end Pass

theorem Emitter.RefersTo.exists_model {e : Emitter} {models : List Model} {m : Model}
    {name : String} (h : e.RefersTo (Candidates.ofModels models) m name) :
    ∃ k ∈ models, k.qualifiedName = name := by
  obtain ⟨q, -, -, hq⟩ := h
  rw [Candidates.canonical?_ofModels, Option.map_eq_some_iff] at hq
  obtain ⟨k, hk, rfl⟩ := hq
  exact ⟨k, List.mem_of_find?_eq_some hk, rfl⟩

theorem Pass.GeneratesAll.closed {p : Pass} {models : List Model} (h : p.GeneratesAll models) :
    p.Closed models := by
  intro m _ name hname
  obtain ⟨k, hk, rfl⟩ := hname.exists_model
  exact ⟨k, Pass.generates_iff.mpr ⟨hk, h.exists_generate hk⟩, rfl⟩

theorem Emitter.rewrites_of_nested {e : Emitter} {candidates : Candidates} {names : StringNames}
    {q : Property} (h : ∃ a v, (q.resolved candidates names).check = .nested a v) :
    e.Rewrites candidates q.typeName := by
  obtain ⟨hn, -, hc⟩ := Resolution.exists_check_nested_iff.mp h
  rw [rewrites_iff, Candidates.contains_bare hn]
  exact hc

/-- A model of a pass generates exactly if nothing is wrong with the model itself, whatever the
others do. What is generated refers to models of the pass only: for each type that is declared or
checked so, to the first model that goes by its name. The pass is closed exactly if every name that
a model with no fault of its own refers to is that of such a model, in particular if all models
generate. -/
theorem closed_iff_referred_sound {models : List Model} (h : ∀ m ∈ models, m.Accepted) (p : Pass) :
    let candidates := Candidates.ofModels models
    (∀ m, p.Generates models m ↔ m ∈ models ∧ p.Sound m) ∧
    (∀ m, p.Generates models m → ∀ q ∈ m.properties,
      (p.emitter.Rewrites candidates q.typeName ∨
        ∃ a v, (q.resolved candidates p.names).check = .nested a v) →
      ∃ pre k post, models = pre ++ k :: post ∧
        Text.fold k.qualifiedName = Text.fold (TypeName.bare q.typeName) ∧
        (∀ j ∈ pre, Text.fold j.qualifiedName ≠ Text.fold (TypeName.bare q.typeName)) ∧
        p.emitter.RefersTo candidates m k.qualifiedName ∧
        p.emitter.typeExpression q.typeName candidates = p.emitter.reference k) ∧
    (p.Closed models ↔ ∀ m ∈ models, p.Sound m → ∀ name,
      p.emitter.RefersTo candidates m name →
        ∃ k ∈ models, k.qualifiedName = name ∧ p.Sound k) ∧
    (p.GeneratesAll models → p.Closed models) := by
  intro candidates
  have hgenerates : ∀ m, p.Generates models m ↔ m ∈ models ∧ p.Sound m :=
    fun m => Pass.generates_iff_sound h
  refine ⟨hgenerates, ?_, ?_, Pass.GeneratesAll.closed⟩
  · intro m _ q hq hr
    have hrewrites : p.emitter.Rewrites candidates q.typeName :=
      hr.elim id Emitter.rewrites_of_nested
    obtain ⟨pre, k, post, hsplit, hfold, hpre, hcanonical⟩ :=
      exists_first_of_contains (Emitter.rewrites_iff.mp hrewrites)
    have hk : k.WellFormed := (h k (by simp [hsplit])).wellFormed
    exact ⟨pre, k, post, hsplit, hfold, hpre, ⟨q, hq, hrewrites, hcanonical⟩,
      Emitter.typeExpression_of_canonical? hk hcanonical⟩
  · constructor
    · intro hclosed m hm hs name hname
      obtain ⟨k, hk, hkn⟩ := hclosed m ((hgenerates m).mpr ⟨hm, hs⟩) name hname
      obtain ⟨hmem, hsound⟩ := (hgenerates k).mp hk
      exact ⟨k, hmem, hkn, hsound⟩
    · intro hsound m hm name hname
      obtain ⟨hmem, hs⟩ := (hgenerates m).mp hm
      obtain ⟨k, hk, hkn, hks⟩ := hsound m hmem hs name hname
      exact ⟨k, (hgenerates k).mpr ⟨hk, hks⟩, hkn⟩

theorem closed_order_after_item :
    let order : Model :=
      { space := "shop", name := "Order", properties := [⟨"Line", "SHOP.item", none⟩] }
    let models : List Model := [{ space := "shop", name := "Item" }, order]
    let p : Pass := { emitter := .ofDialect .csharp }
    (∀ m ∈ models, m.Accepted) ∧ p.Generates models order ∧
    p.emitter.RefersTo (Candidates.ofModels models) order "shop.Item" ∧ p.Closed models := by
  intro order models p
  have haccepted : ∀ m ∈ models, m.Accepted := by
    simp only [models, order, List.forall_mem_cons]
    exact ⟨⟨.mapping [(.text "namespace", .text "shop"), (.text "name", .text "Item")], false, rfl⟩,
      ⟨.mapping [(.text "namespace", .text "shop"), (.text "name", .text "Order"),
        (.text "properties", .list [
          .mapping [(.text "name", .text "Line"), (.text "typeName", .text "SHOP.item")]])],
        false, rfl⟩, by simp⟩
  obtain ⟨hgenerates, -, hclosed, -⟩ := closed_iff_referred_sound haccepted p
  have hsound : ∀ m ∈ models, p.Sound m := by
    simp only [models, List.forall_mem_cons]
    exact ⟨⟨rfl, Emitter.forall_not_clashes_iff.mpr (by decide +kernel)⟩,
      ⟨rfl, Emitter.forall_not_clashes_iff.mpr (by decide +kernel)⟩, by simp⟩
  refine ⟨haccepted, (hgenerates order).mpr ⟨by simp [models], hsound _ (by simp [models])⟩, ?_, ?_⟩
  · refine ⟨_, List.mem_singleton_self _, Emitter.rewrites_iff.mpr ?_, ?_⟩ <;> decide +kernel
  · refine hclosed.mpr fun m _ _ name hname => ?_
    obtain ⟨k, hk, hkn⟩ := hname.exists_model
    exact ⟨k, hk, hkn, hsound k hk⟩

/-- A model that takes the names of both validity methods generates in neither dialect; a model that
refers to it does in both. -/
theorem not_closed_over_clash :
    let item : Model :=
      { space := "shop", name := "Item"
        properties := [⟨"check_is_valid", "int", none⟩, ⟨"CheckIsValid", "int", none⟩] }
    let order : Model :=
      { space := "shop", name := "Order", properties := [⟨"Line", "shop.Item", none⟩] }
    let models : List Model := [item, order]
    (∀ m ∈ models, m.Accepted) ∧ ∀ d, let p : Pass := { emitter := .ofDialect d }
      p.Generates models order ∧
      p.emitter.RefersTo (Candidates.ofModels models) order "shop.Item" ∧
      ¬ p.Generates models item ∧ ¬ p.Closed models := by
  intro item order models
  have haccepted : ∀ m ∈ models, m.Accepted := by
    simp only [models, item, order, List.forall_mem_cons]
    exact ⟨⟨.mapping [(.text "namespace", .text "shop"), (.text "name", .text "Item"),
        (.text "properties", .list [
          .mapping [(.text "name", .text "check_is_valid"), (.text "typeName", .text "int")],
          .mapping [(.text "name", .text "CheckIsValid"), (.text "typeName", .text "int")]])],
        false, rfl⟩,
      ⟨.mapping [(.text "namespace", .text "shop"), (.text "name", .text "Order"),
        (.text "properties", .list [
          .mapping [(.text "name", .text "Line"), (.text "typeName", .text "shop.Item")]])],
        false, rfl⟩, by simp⟩
  refine ⟨haccepted, ?_⟩
  intro d p
  have horder : p.Generates models order := by
    refine (Pass.generates_iff_sound haccepted).mpr ⟨by simp [models], rfl, ?_⟩
    rw [Emitter.forall_not_clashes_iff]
    cases d <;> decide +kernel
  have hitem : ¬ p.Generates models item := by
    rw [Pass.generates_iff_sound haccepted]
    rintro ⟨-, -, hd⟩
    rw [Emitter.forall_not_clashes_iff] at hd
    cases d <;> exact absurd hd.1 (by decide +kernel)
  have hrefers : p.emitter.RefersTo (Candidates.ofModels models) order "shop.Item" := by
    refine ⟨_, List.mem_singleton_self _, Emitter.rewrites_iff.mpr ?_, ?_⟩ <;> decide +kernel
  refine ⟨horder, hrefers, hitem, fun hclosed => ?_⟩
  obtain ⟨k, hk, hkn⟩ := hclosed order horder "shop.Item" hrefers
  rcases List.mem_cons.mp (Pass.generates_iff.mp hk).1 with rfl | hmem
  · exact hitem hk
  · rw [List.mem_singleton.mp hmem] at hkn
    exact absurd hkn (by decide)

end ShadowTypes
