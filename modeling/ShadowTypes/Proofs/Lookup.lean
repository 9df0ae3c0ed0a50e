import ShadowTypes.Proofs.DeclaredKinds
import ShadowTypes.Proofs.Passes

/-!
# What is looked up for a model

Candidates bear on a draft by the names that they stand for at its types, and by nothing else. What
a pass gives a model is therefore the same in two passes whose candidates agree at the types of this
model, whatever else the passes hold.
-/

namespace ShadowTypes

/-- The candidates stand for the same names at every type of the draft. -/
def Candidates.AgreeOn (c c' : Candidates) (d : Draft) : Prop :=
  ∀ p ∈ d.properties, ∀ t, p.typeName = some t →
    c.canonical? (TypeName.bare t) = c'.canonical? (TypeName.bare t)

namespace Resolution

theorem requireType_eq_ok {p : DraftProperty} {subject : Option String} {t : String}
    (h : requireType p subject = .ok t) : p.typeName = some t := by
  unfold requireType at h
  cases ht : p.typeName with
  | none =>
    rw [ht] at h
    cases h
  | some u =>
    simp only [ht] at h
    split at h <;> cases h
    rfl

theorem check_congr {c c' : Candidates} {t : String}
    (h : c.canonical? (TypeName.bare t) = c'.canonical? (TypeName.bare t))
    (directive : Option Directive) (names : StringNames) :
    check t directive c names = check t directive c' names := by
  unfold check
  -- A nullable type is not looked up; any other is looked up as its bare name is.
  cases hn : TypeName.isNullable t with
  | true => rfl
  | false =>
    have hc : c.contains t = c'.contains t := by
      rw [← Candidates.contains_bare hn, ← Candidates.contains_bare hn,
        Candidates.contains_eq_isSome, h, Candidates.contains_eq_isSome]
    rw [hc]

end Resolution

theorem Draft.resolve_congr {c c' : Candidates} {d : Draft} (h : c.AgreeOn c' d)
    (names : StringNames) : d.resolve c names = d.resolve c' names := by
  unfold resolve
  split
  · rfl
  · refine mapM_congr fun p hp => ?_
    cases ht : Resolution.requireType p d.qualifiedName? with
    | error f => rfl
    | ok t =>
      have hcheck := Resolution.check_congr (h p hp t (Resolution.requireType_eq_ok ht))
        p.directive names
      exact congrArg Except.ok hcheck

theorem TypeExpression.write_congr {c c' : Candidates} {t : String}
    (h : c.canonical? (TypeName.bare t) = c'.canonical? (TypeName.bare t)) (d : Dialect)
    (suffix : String) : write d suffix t c = write d suffix t c' := by
  unfold write
  simp only [h]

theorem Emitter.frame_congr {c c' : Candidates} {m : Model} (h : c.AgreeOn c' m.toDraft)
    (e : Emitter) (members fragments : List String) :
    e.frame m members fragments c = e.frame m members fragments c' := by
  have ht : (m.properties.map fun q => e.typeExpression q.typeName c) =
      m.properties.map fun q => e.typeExpression q.typeName c' := by
    refine List.map_congr_left fun q hq => ?_
    have hmem : q.toDraft ∈ m.toDraft.properties := List.mem_map.mpr ⟨q, hq, rfl⟩
    have hcanonical := h q.toDraft hmem q.typeName rfl
    exact TypeExpression.write_congr hcanonical _ _
  simp only [frame, ht]

namespace Workshop

variable {w : Workshop} {d : Draft}

/-- Candidates bear on a draft by the names that they stand for at its types. -/
theorem generate_congr {c : Candidates} (h : w.candidates.AgreeOn c d) :
    ({ w with candidates := c } : Workshop).generate d = w.generate d := by
  suffices hb : ({ w with candidates := c } : Workshop).buildDraft d = w.buildDraft d by
    simp only [generate, hb]
  have hr := Draft.resolve_congr h w.names
  cases hc : d.complete? with
  | none => simp only [buildDraft, hc, buildIncomplete, hr]
  | some m =>
    obtain rfl := Draft.eq_toDraft_of_complete? hc
    have hf := fun members fragments => w.emitter.frame_congr h members fragments
    simp only [buildDraft_toDraft, build, Model.resolve, render, Emitter.render, hr, hf]

end Workshop

/-! ## What a pass gives a model -/

theorem Candidates.agreeOn_toDraft_iff {c c' : Candidates} {m : Model} :
    c.AgreeOn c' m.toDraft ↔ ∀ q ∈ m.properties,
      c.canonical? (TypeName.bare q.typeName) = c'.canonical? (TypeName.bare q.typeName) := by
  constructor
  · intro h q hq
    exact h q.toDraft (List.mem_map_of_mem hq) q.typeName rfl
  · intro h p hp t ht
    obtain ⟨q, hq, rfl⟩ := List.mem_map.mp hp
    obtain rfl : q.typeName = t := Option.some.inj ht
    exact h q hq

namespace Pass

/-- The outcome at a position of the model has the given result. -/
def Gives (p : Pass) (models : List Model) (m : Model) (r : Except Fault Source) : Prop :=
  ∃ (i : Nat) (o : Outcome),
    models[i]? = some m ∧ (p.runModels models).outcomes[i]? = some o ∧ o.result = r

/-- Over either list of models the pass gives the model one result, and the same. -/
def GivesAlike (p : Pass) (models models' : List Model) (m : Model) : Prop :=
  ∃ r, ∀ s, (p.Gives models m s ↔ s = r) ∧ (p.Gives models' m s ↔ s = r)

variable {p : Pass} {models models' : List Model} {m : Model} {r : Except Fault Source}

theorem gives_iff : p.Gives models m r ↔
    m ∈ models ∧ (p.workshop (Candidates.ofModels models)).generate m.toDraft = r := by
  constructor
  · rintro ⟨i, o, hi, ho, hr⟩
    rw [p.getElem?_outcomes_runModels hi] at ho
    cases ho
    exact ⟨List.mem_of_getElem? hi, hr⟩
  · rintro ⟨hm, hr⟩
    obtain ⟨i, hi⟩ := List.mem_iff_getElem?.mp hm
    exact ⟨i, _, hi, p.getElem?_outcomes_runModels hi, hr⟩

theorem gives_iff_of_mem (hm : m ∈ models) : p.Gives models m r ↔
    r = (p.workshop (Candidates.ofModels models)).generate m.toDraft := by
  rw [gives_iff, and_iff_right hm, eq_comm]

theorem generate_congr
    (h : (Candidates.ofModels models).AgreeOn (Candidates.ofModels models') m.toDraft) :
    (p.workshop (Candidates.ofModels models')).generate m.toDraft =
      (p.workshop (Candidates.ofModels models)).generate m.toDraft :=
  Workshop.generate_congr (w := p.workshop (Candidates.ofModels models)) h

theorem givesAlike_of_agreeOn (hm : m ∈ models) (hm' : m ∈ models')
    (h : (Candidates.ofModels models).AgreeOn (Candidates.ofModels models') m.toDraft) :
    p.GivesAlike models models' m := by
  refine ⟨_, fun s => ⟨gives_iff_of_mem hm, ?_⟩⟩
  rw [gives_iff_of_mem hm', generate_congr h]

end Pass

end ShadowTypes
