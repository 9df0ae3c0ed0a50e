import ShadowTypes.Proofs.Lookup

/-!
# Larger passes

Models that are added to a pass, wherever they are put between its models, are more names to look
up. They bear on a model of the pass only where one of its types goes by the name of an added model.
A check that changes there is one of a type that was nothing but present before and is a nested
object now.
-/

namespace ShadowTypes

/-- The members of two lists in one, each list in its own order. -/
inductive Interleaves {α : Type} : List α → List α → List α → Prop
  | nil : Interleaves [] [] []
  | left {as bs cs : List α} (a : α) : Interleaves as bs cs → Interleaves (a :: as) bs (a :: cs)
  | right {as bs cs : List α} (b : α) : Interleaves as bs cs → Interleaves as (b :: bs) (b :: cs)

namespace Interleaves

variable {α : Type} {as bs cs : List α}

theorem mem_iff (h : Interleaves as bs cs) {x : α} : x ∈ cs ↔ x ∈ as ∨ x ∈ bs := by
  induction h with
  | nil => simp
  | left a _ ih => rw [List.mem_cons, List.mem_cons, ih, or_assoc]
  | right b _ ih => rw [List.mem_cons, List.mem_cons, ih, or_left_comm]

/-- A search that passes over all members of the second list ends as in the first one. -/
theorem find?_eq (h : Interleaves as bs cs) {f : α → Bool} (hf : ∀ b ∈ bs, f b = false) :
    cs.find? f = as.find? f := by
  induction h with
  | nil => rfl
  | left a _ ih => rw [List.find?_cons, List.find?_cons, ih hf]
  | right b _ ih =>
    have hb := hf b List.mem_cons_self
    rw [List.find?_cons, hb]
    exact ih fun c hc => hf c (List.mem_cons_of_mem _ hc)

end Interleaves

variable {models added larger : List Model}

namespace Candidates

theorem canonical?_larger (h : Interleaves models added larger) {t : String}
    (ht : ∀ k ∈ added, Text.fold k.qualifiedName ≠ TypeName.key t) :
    (ofModels larger).canonical? t = (ofModels models).canonical? t := by
  rw [canonical?_ofModels, canonical?_ofModels, h.find?_eq]
  intro k hk
  exact beq_eq_false_iff_ne.mpr (ht k hk)

theorem contains_larger_of_mem (h : Interleaves models added larger) {t : String} {k : Model}
    (hk : k ∈ added) (ht : Text.fold k.qualifiedName = TypeName.key t) :
    (ofModels larger).contains t = true := by
  rw [contains_ofModels_iff]
  exact ⟨k, h.mem_iff.mpr (.inr hk), ht⟩

end Candidates

namespace Resolution

variable {candidates candidates' : Candidates} {names : StringNames} {t : String}
  {directive : Option Directive}

theorem check_of_contains_eq_false (h : candidates.contains t = false)
    (hn : TypeName.isNullable t = false) (hs : names.isString t = false) :
    check t directive candidates names = .basic false := by
  simp [check, h, hn, hs]

theorem check_eq_of_not_looked_up
    (h : ¬ (TypeName.isNullable t = false ∧ names.isString t = false)) :
    check t directive candidates' names = check t directive candidates names := by
  unfold check
  by_cases hn : TypeName.isNullable t = true
  · rw [if_pos hn, if_pos hn]
  · have hs : names.isString t = true := by
      simpa [hn] using h
    rw [if_neg hn, if_neg hn, if_pos hs, if_pos hs]

end Resolution

/-- Where a type that is looked up becomes a candidate, a check for presence becomes one of a nested
object. -/
theorem Property.check_of_new_candidate {candidates candidates' : Candidates} {names : StringNames}
    {q : Property} (hn : TypeName.isNullable q.typeName = false)
    (hs : names.isString q.typeName = false)
    (hbefore : candidates.contains (TypeName.bare q.typeName) = false)
    (hafter : candidates'.contains (TypeName.bare q.typeName) = true) :
    (q.resolved candidates names).check = .basic false ∧
      ∃ a v, (q.resolved candidates' names).check = .nested a v := by
  rw [Candidates.contains_bare hn] at hbefore hafter
  exact ⟨Resolution.check_of_contains_eq_false hbefore hn hs,
    Resolution.exists_check_nested_iff.mpr ⟨hn, hs, hafter⟩⟩

/-- Models added to a pass leave the results of all models alone that do not refer to them. A check
of a type that refers to an added model, and to none before, changes only from presence to a nested
object, and it does so exactly if the type is neither nullable nor text. -/
theorem additions_bear_on_references (h : Interleaves models added larger) (p : Pass) :
    (∀ m ∈ models, (∀ q ∈ m.properties, ∀ k ∈ added,
        Text.fold k.qualifiedName ≠ Text.fold (TypeName.bare q.typeName)) →
      p.GivesAlike models larger m) ∧
    (∀ q : Property,
      (∃ k ∈ added, Text.fold k.qualifiedName = Text.fold (TypeName.bare q.typeName)) →
      (Candidates.ofModels models).contains (TypeName.bare q.typeName) = false →
      let before := (q.resolved (Candidates.ofModels models) p.names).check
      let after := (q.resolved (Candidates.ofModels larger) p.names).check
      (after ≠ before → before = .basic false ∧ ∃ a v, after = .nested a v) ∧
      (after ≠ before ↔
        TypeName.isNullable q.typeName = false ∧ p.names.isString q.typeName = false)) := by
  constructor
  · intro m hm hq
    refine Pass.givesAlike_of_agreeOn hm (h.mem_iff.mpr (.inl hm)) ?_
    refine Candidates.agreeOn_toDraft_iff.mpr fun q hqm => ?_
    refine (Candidates.canonical?_larger h fun k hk => ?_).symm
    rw [TypeName.key_bare]
    exact hq q hqm k hk
  · rintro q ⟨k, hk, hfold⟩ hbefore before after
    have hafter : (Candidates.ofModels larger).contains (TypeName.bare q.typeName) = true :=
      Candidates.contains_larger_of_mem h hk (hfold.trans (TypeName.key_bare _).symm)
    by_cases hlooked : TypeName.isNullable q.typeName = false ∧ p.names.isString q.typeName = false
    · obtain ⟨hb, a, v, ha⟩ :=
        Property.check_of_new_candidate hlooked.1 hlooked.2 hbefore hafter
      have hne : after ≠ before := by
        intro heq
        cases ha.symm.trans (heq.trans hb)
      exact ⟨fun _ => ⟨hb, a, v, ha⟩, fun _ => hlooked, fun _ => hne⟩
    · have heq : after = before := Resolution.check_eq_of_not_looked_up hlooked
      exact ⟨fun hne => absurd heq hne, fun hne => absurd heq hne, fun hl => absurd hl hlooked⟩

theorem additions_around_order :
    let item : Model := { space := "shop", name := "Item" }
    let order : Model := { space := "shop", name := "Order", properties :=
      [⟨"Line", "shop.Item", none⟩] }
    let customer : Model := { space := "shop", name := "Customer" }
    let buyer : Property := ⟨"Buyer", " Shop.Customer ", some (.basic true)⟩
    let p : Pass := { emitter := .ofDialect .python }
    p.GivesAlike [order, item] [customer, order, customer, item] order ∧
    ∃ a v, (buyer.resolved (Candidates.ofModels [customer, order, customer, item])
      p.names).check = .nested a v := by
  intro item order customer buyer p
  have h : Interleaves [order, item] [customer, customer] [customer, order, customer, item] :=
    .right customer (.left order (.right customer (.left item .nil)))
  obtain ⟨hresults, hchecks⟩ := additions_bear_on_references h p
  refine ⟨hresults order List.mem_cons_self (by decide +kernel), ?_⟩
  obtain ⟨hchange, hiff⟩ := hchecks buyer ⟨customer, List.mem_cons_self, by decide +kernel⟩
    (by decide +kernel)
  exact (hchange (hiff.mpr (by decide +kernel))).2

end ShadowTypes
