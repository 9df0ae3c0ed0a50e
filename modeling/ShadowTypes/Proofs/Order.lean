import Mathlib.Data.List.Find
import Mathlib.Data.List.Nodup
import ShadowTypes.Proofs.Lookup

/-!
# Passes in another order

Candidates are added in the order of the models, and of several names that fold alike the first one
stays. The order can be told from the candidates only by such names. If the names of the models fold
differently, every model is given the same result in every order, also where it refers to models
that come after it or to itself.
-/

namespace ShadowTypes

/-- Qualified names that fold alike are spelled alike. -/
def OneSpelling (models : List Model) : Prop :=
  ∀ m ∈ models, ∀ k ∈ models,
    Text.fold m.qualifiedName = Text.fold k.qualifiedName → m.qualifiedName = k.qualifiedName

theorem OneSpelling.of_nodup {models : List Model}
    (h : (models.map fun m => Text.fold m.qualifiedName).Nodup) : OneSpelling models := by
  intro m hm k hk hfold
  have hmk : m = k := List.inj_on_of_nodup_map h hm hk hfold
  rw [hmk]

namespace Candidates

variable {models models' : List Model}

theorem canonical?_perm (h : OneSpelling models) (hp : models'.Perm models) (t : String) :
    (ofModels models').canonical? t = (ofModels models).canonical? t := by
  have hn : (models'.map Model.qualifiedName).Perm (models.map Model.qualifiedName) := hp.map _
  rw [ofModels, ofModels, canonical?_ofNames, canonical?_ofNames]
  refine (List.find?_eq_find?_of_perm hn.symm ?_).symm
  -- Two names that the look-up would take fold alike, so they are one name.
  rintro _ ⟨hq, hfound⟩ _ ⟨hq', hfound'⟩
  obtain ⟨m, hm, rfl⟩ := List.mem_map.mp hq
  obtain ⟨k, hk, rfl⟩ := List.mem_map.mp hq'
  exact h m hm k hk ((beq_iff_eq.mp hfound).trans (beq_iff_eq.mp hfound').symm)

theorem canonical?_ofModels_cons {m : Model} {t : String}
    (h : Text.fold m.qualifiedName = TypeName.key t) :
    (ofModels (m :: models)).canonical? t = some m.qualifiedName := by
  rw [canonical?_ofModels, List.find?_cons, beq_iff_eq.mpr h]
  rfl

/-- Look-up is the same in every order exactly if names that fold alike are spelled alike. -/
theorem forall_canonical?_perm_iff
    (ht : ∀ m ∈ models, Text.trim m.qualifiedName = m.qualifiedName) :
    (∀ models' : List Model, models'.Perm models → ∀ t,
      (ofModels models').canonical? t = (ofModels models).canonical? t) ↔ OneSpelling models := by
  constructor
  · intro h m hm k hk hfold
    -- Either model can come first, and then its name is the one that is found.
    have hkey : Text.fold m.qualifiedName = TypeName.key m.qualifiedName := by
      rw [TypeName.key, ht m hm]
    have hfirst := h _ (List.perm_cons_erase hm).symm m.qualifiedName
    have hsecond := h _ (List.perm_cons_erase hk).symm m.qualifiedName
    rw [canonical?_ofModels_cons hkey] at hfirst
    rw [canonical?_ofModels_cons (hfold.symm.trans hkey)] at hsecond
    exact Option.some.inj (hfirst.trans hsecond.symm)
  · intro h models' hp t
    exact canonical?_perm h hp t

end Candidates

namespace Pass

variable {p : Pass} {models models' : List Model}

theorem map_result_outcomes_runModels (p : Pass) (models : List Model) :
    (p.runModels models).outcomes.map Outcome.result =
      models.map fun m => (p.workshop (Candidates.ofModels models)).generate m.toDraft := by
  let w := p.workshop (Candidates.ofModels models)
  calc (p.runModels models).outcomes.map Outcome.result
    _ = (models.map Model.toDraft).zipIdx.map (w.generate ∘ Prod.fst) := by
      rw [runModels, generateAll, List.map_map]
      rfl
    _ = models.map fun m => w.generate m.toDraft := by
      rw [← List.map_map, List.zipIdx_map_fst, List.map_map]
      rfl

theorem perm_results (h : OneSpelling models) (hp : models'.Perm models) :
    ((p.runModels models').outcomes.map Outcome.result).Perm
      ((p.runModels models).outcomes.map Outcome.result) := by
  have hg : ∀ m ∈ models', (p.workshop (Candidates.ofModels models')).generate m.toDraft =
      (p.workshop (Candidates.ofModels models)).generate m.toDraft := by
    intro m _
    exact generate_congr fun _ _ t _ => (Candidates.canonical?_perm h hp _).symm
  rw [map_result_outcomes_runModels, map_result_outcomes_runModels, List.map_congr_left hg]
  exact hp.map _

end Pass

/-- If the qualified names of the models differ in folded case, then a pass gives each of them the
same result in every order, and the same results are given as often. -/
theorem givesAlike_of_perm {models models' : List Model}
    (hd : (models.map fun m => Text.fold m.qualifiedName).Nodup) (hp : models'.Perm models)
    (p : Pass) :
    (∀ m ∈ models, p.GivesAlike models models' m) ∧
    ((p.runModels models').outcomes.map Outcome.result).Perm
      ((p.runModels models).outcomes.map Outcome.result) := by
  have h : OneSpelling models := .of_nodup hd
  constructor
  · intro m hm
    refine Pass.givesAlike_of_agreeOn hm (hp.mem_iff.mpr hm) ?_
    intro _ _ t _
    exact (Candidates.canonical?_perm h hp _).symm
  · exact Pass.perm_results h hp

theorem givesAlike_later_and_self_reference :
    let item : Model := { space := "shop", name := "Item" }
    let order : Model := { space := "shop", name := "Order", properties :=
      [⟨"Line", "shop.Item", none⟩, ⟨"Previous", "SHOP.order", some (.nested true true)⟩] }
    let p : Pass := { emitter := .ofDialect .csharp }
    p.GivesAlike [order, item] [item, order] order ∧
    (p.emitter.typeExpression "shop.Item" (Candidates.ofModels [order, item]) = "shop.ItemDTO" ∧
      p.emitter.typeExpression "SHOP.order" (Candidates.ofModels [order, item]) =
        "shop.OrderDTO") := by
  intro item order p
  have hd : ([order, item].map fun m => Text.fold m.qualifiedName).Nodup := by decide +kernel
  have hp : [item, order].Perm [order, item] := List.Perm.swap order item []
  exact ⟨(givesAlike_of_perm hd hp p).1 order List.mem_cons_self, by decide +kernel⟩

end ShadowTypes
