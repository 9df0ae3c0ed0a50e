import ShadowTypes.Generation
import ShadowTypes.Proofs.Names

/-!
# Generating accepted models

Resolution of an accepted model never fails, and nothing after it fails but the naming of members.
The result of generating such a model is therefore the text that is framed around its members, or
the fault of a member, told for the model and for the origin of generated texts.
-/

namespace ShadowTypes

def Property.resolved (p : Property) (candidates : Candidates) (names : StringNames) : Resolved :=
  ⟨p.name, p.typeName, Resolution.check p.typeName p.directive candidates names⟩

/-- What the generations of a pass over the models share if nothing interrupts them. -/
def Workshop.ofModels (e : Emitter) (names : StringNames) (models : List Model) : Workshop :=
  ⟨e, Candidates.ofModels models, names, .none⟩

theorem requireType_toDraft {p : Property} (h : p.WellFormed) (model : Option String) :
    Resolution.requireType p.toDraft model = .ok p.typeName := by
  simp [Resolution.requireType, Property.toDraft, h.isEmpty_typeName]

theorem mapM_checks {ps : List Property} (h : ∀ p ∈ ps, p.WellFormed) (subject : Option String)
    (candidates : Candidates) (names : StringNames) :
    (ps.map Property.toDraft).mapM (m := Except Fault) (fun p => do
        let t ← Resolution.requireType p subject
        return Resolution.check t p.directive candidates names) =
      .ok (ps.map fun p => (p.resolved candidates names).check) := by
  induction ps with
  | nil => rfl
  | cons p ps ih =>
    have hp := requireType_toDraft (h p List.mem_cons_self) subject
    rw [List.map_cons, List.mapM_cons, hp, ih fun q hq => h q (List.mem_cons_of_mem _ hq)]
    rfl

namespace Model.WellFormed

variable {m : Model} (h : m.WellFormed) (candidates : Candidates) (names : StringNames)

include h

theorem resolve_eq :
    m.resolve candidates names = .ok (m.properties.map (·.resolved candidates names)) := by
  have hn : m.toDraft.name.getD "" ≠ "" := h.name_ne
  have hz : ∀ ps : List Property,
      (ps.zip (ps.map fun p => (p.resolved candidates names).check)).map
        (fun x => (⟨x.1.name, x.1.typeName, x.2⟩ : Resolved)) =
      ps.map (·.resolved candidates names) := by
    intro ps
    induction ps with
    | nil => rfl
    | cons p ps ih => simpa using ⟨rfl, ih⟩
  have hd : m.toDraft.resolve candidates names =
      .ok (m.properties.map fun p => (p.resolved candidates names).check) := by
    rw [Draft.resolve, if_neg hn]
    exact mapM_checks h.properties _ candidates names
  rw [Model.resolve, hd, ← hz]
  rfl

theorem reportName_eq : m.toDraft.reportName = m.qualifiedName := by
  simp [Draft.reportName, h.qualifiedName_ne]

/-- The result of generating an accepted model hangs on its members alone. -/
theorem generate_eq (e : Emitter) :
    (Workshop.mk e candidates names .none).generate m.toDraft =
      match e.memberNames m with
      | .ok members => .ok (e.source m (e.frame m members
          (e.fragments (m.properties.map (·.resolved candidates names))) candidates))
      | .error f =>
        .error ((Raised.fault f).toFault (some m.qualifiedName) (some "generation")) := by
  rw [Workshop.generate, Workshop.buildDraft_toDraft, h.reportName_eq, Workshop.build,
    h.resolve_eq candidates names]
  simp only [Workshop.render, Interruptions.none, Emitter.render]
  cases e.memberNames m <;> rfl

end Model.WellFormed

end ShadowTypes
