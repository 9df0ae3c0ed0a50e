import Mathlib.Data.List.Nodup
import ShadowTypes.Proofs.Generation
import ShadowTypes.Proofs.Python.Evaluation
import ShadowTypes.Proofs.Python.Fragments

/-!
# The classes of a pass

The condition of a generated class is the conjunction of what its checks demand. If the names of the
shadow types of a pass differ, the class of every model is found by the name of its shadow type.
-/

namespace ShadowTypes

namespace Python

/-- What the check of a property demands, as an expression on its member. -/
def demanded? (names : StringNames) (models : List Model) (p : Property) : Option Expression :=
  (p.resolved (Candidates.ofModels models) names).check.demand?.map
    (.ofDemand (Dialect.python.member p.name))

def classOf (p : Pass) (models : List Model) (m : Model) : Class :=
  ⟨p.emitter.shadowName m.name, .all (m.properties.filterMap (demanded? p.names models))⟩

theorem mapM_read?_fragments {ps : List Property} (h : ∀ p ∈ ps, p.WellFormed)
    (names : StringNames) (models : List Model) :
    (Dialect.python.fragments
      ((ps.map (·.resolved (Candidates.ofModels models) names)).map fun r =>
        (Dialect.python.member r.name, r.check))).mapM read? =
      some (ps.filterMap (demanded? names models)) := by
  induction ps with
  | nil => rfl
  | cons p ps ih =>
    have hps := ih fun q hq => h q (List.mem_cons_of_mem _ hq)
    obtain ⟨hw, hk⟩ := Dialect.member_python (h p List.mem_cons_self).isName
    have hname : (p.resolved (Candidates.ofModels models) names).name = p.name := rfl
    unfold Dialect.fragments at hps ⊢
    cases hd : (p.resolved (Candidates.ofModels models) names).check.demand? with
    | none =>
      simp only [List.map_cons, List.filterMap_cons, Dialect.fragment?, demanded?, hd,
        Option.map_none]
      exact hps
    | some d =>
      simp only [List.map_cons, List.filterMap_cons, Dialect.fragment?, demanded?, hd, hname,
        Option.map_some, List.mapM_cons, read?_fragment hw hk d]
      simp only [Dialect.fragment?] at hps
      rw [hps]
      rfl

theorem ofModel?_eq {p : Pass} (hd : p.emitter.dialect = .python) {m : Model} (hm : m.WellFormed)
    (models : List Model) :
    Class.ofModel? (p.workshop (Candidates.ofModels models)) m = some (classOf p models m) := by
  unfold Class.ofModel?
  rw [hm.resolve_eq]
  simp only [Pass.workshop, Emitter.fragments, hd]
  rw [mapM_read?_fragments hm.properties]
  rfl

variable {p : Pass} {models : List Model}

theorem ofPass_eq (hd : p.emitter.dialect = .python) (hm : ∀ m ∈ models, m.WellFormed) :
    Program.ofPass p models = models.map (classOf p models) :=
  List.filterMap_eq_map_iff_forall_eq_some.mpr fun m h => ofModel?_eq hd (hm m h) models

theorem find?_class (hd : p.emitter.dialect = .python) (hm : ∀ m ∈ models, m.WellFormed)
    (hs : (models.map fun m => p.emitter.shadowName m.name).Nodup) {k : Model} (hk : k ∈ models) :
    (Program.ofPass p models).find? (·.name == p.emitter.shadowName k.name) =
      some (classOf p models k) := by
  have hc : classOf p models k ∈ Program.ofPass p models := by
    rw [ofPass_eq hd hm]
    exact List.mem_map_of_mem hk
  cases hf : (Program.ofPass p models).find? (·.name == p.emitter.shadowName k.name) with
  | none =>
    rw [List.find?_eq_none] at hf
    exact absurd (beq_self_eq_true _) (hf _ hc)
  | some c =>
    have hmem := List.mem_of_find?_eq_some hf
    rw [ofPass_eq hd hm, List.mem_map] at hmem
    obtain ⟨m, hmm, rfl⟩ := hmem
    have hname : p.emitter.shadowName m.name = p.emitter.shadowName k.name := by
      simpa [classOf] using List.find?_some hf
    rw [List.inj_on_of_nodup_map hs hmm hk hname]

end Python

end ShadowTypes
