import ShadowTypes.Catalogue
import ShadowTypes.Proofs.Description.Success
import ShadowTypes.Proofs.Outcomes

/-!
# Models of classes

A class that is described and read as a model gives the model its namespace, its name and one
property for each hint that is shown, with the type name that the hint stands for. Nothing but
white space around these texts is lost on the way.
-/

namespace ShadowTypes

open Text Description

def Class.shown (hints : Keyed Hint) : Keyed Hint :=
  hints.filter fun e => !Class.isPrivate e.1 && !e.2.isClassVar

/-- A property with the name and the hint of a class. -/
structure Property.Represents (p : Property) (name : String) (h : Hint) : Prop where
  name_eq : p.name = trimSpace name
  typeName_eq : p.typeName = trim (trimSpace h.text)

/-- A model with the namespace, the name and the hints of a class. -/
structure Model.Represents (m : Model) (c : Class) (hints : Keyed Hint) : Prop where
  space_eq : m.space = trimSpace c.space
  name_eq : m.name = trimSpace c.name
  properties : List.Forall₂ (fun e p => Property.Represents p e.1 e.2) (Class.shown hints)
    m.properties

variable {k : Catalogue} {c : Class} {m : Model} {s t : String} {es : Entries}
  {evaluate : Evaluator}

theorem eq_trimSpace_of_readMatching {test : List Char → Bool} {rule : Rule}
    (h : readMatching false test rule (.text s) = .done t) : t = trimSpace s := by
  obtain ⟨u, hu, rfl, -⟩ := readMatching_eq_done_iff.mp h
  rw [readText] at hu
  split at hu
  · cases hu
  · cases hu
    rfl

theorem eq_trim_of_readFilled (h : readFilled false (.text s) = .done t) :
    t = trim (trimSpace s) := by
  obtain ⟨u, hu, rfl, -⟩ := readFilled_eq_done_iff.mp h
  rw [readText] at hu
  split at hu
  · cases hu
  · cases hu
    rfl

theorem readName_of_required (hfind : nameField.find? es = some ("name", .text s))
    (h : nameField.required es (readName false) = .done t) : t = trimSpace s := by
  obtain ⟨key, v, hv, hread⟩ := required_eq_done_iff.mp h
  cases hfind.symm.trans hv
  exact eq_trimSpace_of_readMatching hread

theorem represents_of_readProperty {name : String} {h : Hint} {p : Property}
    (hp : readProperty false (Class.describeProperty name h) = .done p) : p.Represents name h := by
  obtain ⟨es, hes, -, -, hname, htype, -⟩ := readProperty_eq_done_iff.mp hp
  cases hes
  obtain ⟨key, v, hv, hread⟩ := required_eq_done_iff.mp htype
  cases hv
  exact ⟨readName_of_required rfl hname, eq_trim_of_readFilled hread⟩

theorem represents_of_readModel {hints : Keyed Hint}
    (h : readModel false (.mapping [(.text "namespace", .text c.space),
      (.text "name", .text c.name), (.text "properties", .list ((Class.shown hints).map fun e =>
        Class.describeProperty e.1 e.2))]) = .done m) : m.Represents c hints := by
  obtain ⟨es, hes, -, hspace, hname, hproperties, -⟩ := readModel_eq_done_iff.mp h
  cases hes
  refine ⟨?_, readName_of_required rfl hname, ?_⟩
  · obtain ⟨hnone, -⟩ | ⟨key, v, hv, hread⟩ := optional_eq_done_iff.mp hspace
    · cases hnone
    · cases hv
      exact eq_trimSpace_of_readMatching hread
  · obtain ⟨hnone, -⟩ | ⟨key, v, hv, hread⟩ := optional_eq_done_iff.mp hproperties
    · cases hnone
    · cases hv
      obtain ⟨vs, hvs, hitems⟩ := exists_items_of_readProperties hread
      cases hvs
      exact (List.forall₂_map_left_iff.mp hitems).imp fun _ _ => represents_of_readProperty

theorem model_eq_ok_of_toOption
    (h : ((k.model c evaluate).toOption.bind Except.toOption) = some m) :
    k.model c evaluate = .ok (.ok m) := by
  obtain ⟨r, hr, hm⟩ := Option.bind_eq_some_iff.mp h
  rw [eq_ok_of_toOption hr, eq_ok_of_toOption hm]

theorem Catalogue.exists_describe_of_model (h : k.model c evaluate = .ok (.ok m)) :
    ∃ v, k.describe c evaluate = .ok v ∧ readModel false v = .done m := by
  rw [Catalogue.model] at h
  cases hv : k.describe c evaluate with
  | error x =>
    simp only [hv] at h
    split at h <;> cases h
  | ok v =>
    simp only [hv, Form.enter, modelForm] at h
    cases hread : readModel false v with
    | done a =>
      simp only [hread] at h
      cases h
      exact ⟨v, rfl, hread⟩
    | issues cs =>
      simp only [hread] at h
      cases h
    | halted e =>
      simp only [hread] at h
      cases h

theorem Class.exists_hints_of_describe {find : Class.Lookup} {v : Value}
    (h : c.describe find = .ok v) : ∃ hints, c.hints find = .ok hints ∧
      v = .mapping [(.text "namespace", .text c.space), (.text "name", .text c.name),
        (.text "properties", .list ((Class.shown hints).map fun e =>
          Class.describeProperty e.1 e.2))] := by
  obtain ⟨hints, hhints, h⟩ := exists_of_bind_eq_ok h
  dsimp only at h
  split at h
  · cases h
  · cases h
    exact ⟨hints, hhints, rfl⟩

theorem Catalogue.represents_of_model (h : k.model c evaluate = .ok (.ok m)) :
    m.Accepted ∧ ∃ hints, c.hints (k.lookup evaluate) = .ok hints ∧ m.Represents c hints := by
  obtain ⟨v, hv, hread⟩ := exists_describe_of_model h
  have haccepted : m.Accepted := ⟨v, false, by simp only [Form.parse, modelForm, hread]⟩
  rw [Catalogue.describe] at hv
  obtain ⟨hints, hhints, rfl⟩ := Class.exists_hints_of_describe hv
  exact ⟨haccepted, hints, hhints, represents_of_readModel hread⟩

end ShadowTypes
