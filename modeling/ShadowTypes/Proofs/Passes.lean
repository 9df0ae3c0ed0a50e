import ShadowTypes.Pass
import ShadowTypes.Proofs.Drafts
import ShadowTypes.Proofs.Members

/-!
# Passes over models

Every model of a pass has an outcome. An accepted model generates exactly if its members are named
without a clash and no exception interrupts it, whatever the other models of the pass are. If no
outcome is a fault, this holds of every model.
-/

namespace ShadowTypes

namespace Workshop

variable {w : Workshop} {m : Model}

theorem exists_memberNames_of_render {fragments : List String} {text : String}
    (h : w.render m fragments = .ok text) : ∃ members, w.emitter.memberNames m = .ok members := by
  unfold render at h
  split at h
  · cases h
  · cases hm : w.emitter.memberNames m with
    | ok members => exact ⟨members, rfl⟩
    | error f =>
      rw [Emitter.render, hm] at h
      cases h

theorem exists_memberNames_of_generate {s : Source} (h : w.generate m.toDraft = .ok s) :
    ∃ members, w.emitter.memberNames m = .ok members := by
  rw [generate, buildDraft_toDraft, build] at h
  cases hr : m.resolve w.candidates w.names with
  | error f =>
    rw [hr] at h
    cases h
  | ok resolved =>
    rw [hr] at h
    cases ht : w.render m (w.emitter.fragments resolved) with
    | ok text => exact exists_memberNames_of_render ht
    | error x =>
      simp only [orRaise, bind, Except.bind, ht] at h
      cases h

end Workshop

theorem Emitter.not_clashes_of_memberNames {e : Emitter} {m : Model} {members : List String}
    (h : e.memberNames m = .ok members) {before after : List Property} {p : Property}
    (hs : m.properties = before ++ p :: after) : ¬ e.Clashes m before p := by
  intro hc
  obtain ⟨before, p, hp⟩ := e.exists_firstClash m hs hc
  obtain ⟨f, hf, -⟩ := hp.memberNames_eq
  rw [h] at hf
  cases hf

/-- No property clashes exactly if the names that the properties take are not reserved and are taken
once. -/
theorem Emitter.forall_not_clashes_iff {e : Emitter} {m : Model} :
    (∀ before q after, m.properties = before ++ q :: after → ¬ e.Clashes m before q) ↔
      (∀ q ∈ m.properties, e.taken q ∉ e.reserved m.name) ∧ (m.properties.map e.taken).Nodup := by
  rw [List.Nodup, List.pairwise_map, List.pairwise_iff_forall_sublist]
  constructor
  · intro h
    constructor
    · intro q hq hr
      obtain ⟨before, after, hs⟩ := List.append_of_mem hq
      exact h before q after hs (.inl hr)
    · intro r q hsub heq
      obtain ⟨front, rest, hs, hr, hq⟩ := List.cons_sublist_iff.mp hsub
      obtain ⟨mid, after, rfl⟩ := List.append_of_mem (List.singleton_sublist.mp hq)
      exact h (front ++ mid) q after (by rw [hs, List.append_assoc])
        (.inr ⟨r, List.mem_append_left _ hr, heq⟩)
  · rintro ⟨hreserved, hdistinct⟩ before q after hs (hr | ⟨r, hr, heq⟩)
    · exact hreserved q (by simp [hs]) hr
    · refine hdistinct (a := r) (b := q) ?_ heq
      rw [hs]
      exact List.cons_sublist_iff.mpr
        ⟨before, q :: after, rfl, hr, List.singleton_sublist.mpr List.mem_cons_self⟩

theorem Model.WellFormed.renders {m : Model} (h : m.WellFormed) (w : Workshop) :
    w.Renders m.toDraft where
  resolves := by
    have hn : ¬ m.toDraft.name.getD "" = "" := h.name_ne
    rw [Draft.resolve, if_neg hn]
    exact ⟨_, mapM_checks h.properties _ _ _⟩
  named := by
    intro _ p hp
    obtain ⟨q, -, rfl⟩ := List.mem_map.mp hp
    rfl

namespace Pass

/-- Neither an exception nor a clash of members keeps the model from being generated. -/
structure Sound (p : Pass) (m : Model) : Prop where
  uninterrupted : p.interruptions m.name = none
  distinct : ∀ before q after, m.properties = before ++ q :: after → ¬ p.emitter.Clashes m before q

theorem Sound.generate_eq {p : Pass} {m : Model} (h : p.Sound m) (hm : m.WellFormed)
    (candidates : Candidates) :
    (p.workshop candidates).generate m.toDraft =
      .ok (p.emitter.source m (p.emitter.frame m
        (m.properties.map fun q => p.emitter.dialect.member q.name)
        (p.emitter.fragments (m.properties.map (·.resolved candidates p.names))) candidates)) := by
  have hx : (p.workshop candidates).interruptions m.toDraft.shownName = none := h.uninterrupted
  have hg := hm.generate_eq candidates p.names p.emitter
  rw [Emitter.memberNames_eq_ok h.distinct] at hg
  rw [← Workshop.generate_interruptedBy, hx]
  exact hg

theorem exists_generate_iff_sound {m : Model} (h : m.WellFormed) (p : Pass)
    (candidates : Candidates) :
    (∃ s, (p.workshop candidates).generate m.toDraft = .ok s) ↔ p.Sound m := by
  constructor
  · rintro ⟨s, hs⟩
    obtain ⟨members, hmembers⟩ := Workshop.exists_memberNames_of_generate hs
    refine ⟨?_, fun before q after hsplit => Emitter.not_clashes_of_memberNames hmembers hsplit⟩
    cases hx : p.interruptions m.name with
    | none => rfl
    | some x =>
      change (p.workshop candidates).interruptions m.toDraft.shownName = some x at hx
      rw [Workshop.generate, Workshop.buildDraft_of_renders (h.renders _) hx] at hs
      cases hs
  · intro hsound
    exact ⟨_, hsound.generate_eq h candidates⟩

theorem getElem?_outcomes_runModels (p : Pass) {models : List Model} {m : Model} {i : Nat}
    (h : models[i]? = some m) : (p.runModels models).outcomes[i]? =
      some (outcome (p.workshop (Candidates.ofModels models)) i m.toDraft) := by
  rw [runModels, getElem?_outcomes_generateAll, List.getElem?_map, h]
  rfl

def GeneratesAll (p : Pass) (models : List Model) : Prop :=
  ∀ o ∈ (p.runModels models).outcomes, ∃ s, o.result = .ok s

variable {p : Pass} {models : List Model} {m : Model}

theorem GeneratesAll.exists_generate (h : p.GeneratesAll models) (hm : m ∈ models) :
    ∃ s, (p.workshop (Candidates.ofModels models)).generate m.toDraft = .ok s := by
  obtain ⟨i, hi⟩ := List.mem_iff_getElem?.mp hm
  exact h _ (List.mem_of_getElem? (p.getElem?_outcomes_runModels hi))

theorem GeneratesAll.taken_notMem_reserved (h : p.GeneratesAll models) (hm : m ∈ models)
    {q : Property} (hq : q ∈ m.properties) : p.emitter.taken q ∉ p.emitter.reserved m.name := by
  obtain ⟨s, hs⟩ := h.exists_generate hm
  obtain ⟨members, hmem⟩ := Workshop.exists_memberNames_of_generate hs
  obtain ⟨before, after, hsplit⟩ := List.append_of_mem hq
  exact fun hr => Emitter.not_clashes_of_memberNames hmem hsplit (.inl hr)

end Pass

end ShadowTypes
