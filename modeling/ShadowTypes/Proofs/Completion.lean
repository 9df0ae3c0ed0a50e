import Mathlib.Data.List.Find
import ShadowTypes.Proofs.Lookup

/-!
# Completion of passes

A pass over drafts folds their qualified names before it works on any of them. A draft with neither
a namespace nor a name has none to fold, and that ends the whole pass. Any other pass completes: a
draft without a name fails on its own, and what becomes of the rest is what becomes of it in a pass
without the nameless drafts, as long as no type goes by the qualified name of one of these.
-/

namespace ShadowTypes

/-! ## Drafts without a name -/

namespace Draft

/-- The name is neither missing nor empty. -/
def isNamed (d : Draft) : Bool := d.name.getD "" != ""

/-- The fault of a draft without a name. -/
def namelessFault (d : Draft) : Fault where
  code := .invalidModel
  message := "Invalid schema for '<unnamed model>': model name is empty"
  context :=
    { origin := some "generation", model := if d.reportName = "" then none else some d.reportName }

/-- No type of the draft goes by the qualified name of a draft without a name. -/
def Avoids (d : Draft) (drafts : List Draft) : Prop :=
  ∀ d' ∈ drafts, d'.isNamed = false → ∀ q, d'.qualifiedName? = some q →
    ∀ p ∈ d.properties, ∀ t, p.typeName = some t → Text.fold q ≠ Text.fold (TypeName.bare t)

variable {d : Draft} {drafts : List Draft}

theorem isSome_qualifiedName?_iff :
    d.qualifiedName?.isSome ↔ d.space ≠ "" ∨ d.name.isSome := by
  rw [Option.isSome_iff_ne_none, ne_eq, qualifiedName?_eq_none_iff, not_and_or, ← ne_eq d.name none,
    ← Option.isSome_iff_ne_none]

theorem isSome_qualifiedName?_of_isNamed (h : d.isNamed = true) : d.qualifiedName?.isSome := by
  rw [isSome_qualifiedName?_iff]
  right
  cases hn : d.name with
  | none =>
    rw [isNamed, hn] at h
    cases h
  | some n => rfl

theorem Avoids.agreeOn (h : d.Avoids drafts) :
    (Candidates.ofDrafts drafts).AgreeOn (Candidates.ofDrafts (drafts.filter isNamed)) d := by
  intro p hp t ht
  rw [Candidates.ofDrafts, Candidates.ofDrafts, Candidates.canonical?_ofNames,
    Candidates.canonical?_ofNames, List.find?_filterMap, List.find?_filterMap, List.find?_filter]
  congr 1
  refine List.find?_congr fun d' hd' => ?_
  cases hn : d'.isNamed with
  | true => simp
  | false =>
    cases hq : d'.qualifiedName? with
    | none => rfl
    | some q => simpa [TypeName.key_bare] using h d' hd' hn q hq p hp t ht

end Draft

/-- Without a name a draft fails before its properties are looked at. -/
theorem Workshop.generate_of_nameless {w : Workshop} {d : Draft} (h : d.isNamed = false) :
    w.generate d = .error d.namelessFault := by
  have hn : d.name.getD "" = "" := by simpa [Draft.isNamed] using h
  have hr : ∀ c names, d.resolve c names = .error (Fault.invalidModel none "model name is empty") :=
    fun c names => if_pos hn
  have hb : w.buildDraft d =
      .error (.fault (Fault.invalidModel none "model name is empty")) := by
    cases hc : d.complete? with
    | none =>
      simp only [buildDraft, hc, buildIncomplete, hr]
      rfl
    | some m =>
      obtain rfl := Draft.eq_toDraft_of_complete? hc
      simp only [buildDraft_toDraft, build, Model.resolve, hr]
      rfl
  rw [generate, hb]
  by_cases hq : d.reportName = "" <;>
    simp [Raised.toFault, Fault.invalidModel, Fault.invalid, Fault.withContext, isGiven, hq,
      Details.present, Draft.namelessFault, Fault.optional, Value.isNull]

/-! ## Completion -/

namespace Pass

/-- What a pass owes to the draft at a position: the fault of a draft without a name; to any other
the result that it has in the pass without the nameless drafts, unless a type goes by the name of
one of these; and to an accepted model a source, unless something is wrong with the model itself. -/
structure Serves (p : Pass) (drafts : List Draft) (candidates : Candidates) (i : Nat) (d : Draft)
    (o : Outcome) : Prop where
  index : o.index = i
  result : o.result = (p.workshop candidates).generate d
  nameless : d.isNamed = false → o.result = .error d.namelessFault
  named : d.isNamed = true → d.Avoids drafts → ∃ (r : PassResult) (j : Nat) (o' : Outcome),
    p.run (drafts.filter Draft.isNamed) = .ok r ∧ (drafts.filter Draft.isNamed)[j]? = some d ∧
    r.outcomes[j]? = some o' ∧ o'.result = o.result
  accepted : ∀ m : Model, m.Accepted → d = m.toDraft → ((∃ s, o.result = .ok s) ↔ p.Sound m)

/-- The pass completes, and every draft is served by the one outcome at its position. -/
def Completes (p : Pass) (drafts : List Draft) : Prop :=
  ∃ (candidates : Candidates) (r : PassResult),
    Pass.candidates drafts = .ok candidates ∧ p.run drafts = .ok r ∧
    r.outcomes.length = drafts.length ∧
    ∀ i d, drafts[i]? = some d → ∃ o, r.outcomes[i]? = some o ∧ p.Serves drafts candidates i d o

variable {p : Pass} {drafts : List Draft}

theorem run_eq_ok (h : ∀ d ∈ drafts, d.qualifiedName?.isSome) :
    p.run drafts = .ok (p.generateAll (Candidates.ofDrafts drafts) drafts) := by
  rw [run, candidates_eq_ok h]
  rfl

theorem run_eq_error (h : ∃ d ∈ drafts, d.qualifiedName? = none) :
    p.run drafts = .error (.missingText "casefold") := by
  rw [run, candidates_eq_error h]
  rfl

theorem exists_result_of_avoids {d : Draft} (hd : d ∈ drafts) (hn : d.isNamed = true)
    (ha : d.Avoids drafts) : ∃ (r : PassResult) (j : Nat) (o : Outcome),
      p.run (drafts.filter Draft.isNamed) = .ok r ∧
      (drafts.filter Draft.isNamed)[j]? = some d ∧ r.outcomes[j]? = some o ∧
      o.result = (p.workshop (Candidates.ofDrafts drafts)).generate d := by
  obtain ⟨j, hj⟩ := List.mem_iff_getElem?.mp (List.mem_filter.mpr ⟨hd, hn⟩)
  have hnamed : ∀ d' ∈ drafts.filter Draft.isNamed, d'.qualifiedName?.isSome := fun d' hd' =>
    Draft.isSome_qualifiedName?_of_isNamed (List.mem_filter.mp hd').2
  have hresult : (p.workshop (Candidates.ofDrafts (drafts.filter Draft.isNamed))).generate d =
      (p.workshop (Candidates.ofDrafts drafts)).generate d :=
    Workshop.generate_congr (w := p.workshop (Candidates.ofDrafts drafts)) ha.agreeOn
  refine ⟨_, j, outcome (p.workshop (Candidates.ofDrafts (drafts.filter Draft.isNamed))) j d,
    run_eq_ok hnamed, hj, ?_, hresult⟩
  rw [getElem?_outcomes_generateAll, hj]
  rfl

theorem serves_outcome {i : Nat} {d : Draft} (hd : d ∈ drafts) :
    p.Serves drafts (Candidates.ofDrafts drafts) i d
      (outcome (p.workshop (Candidates.ofDrafts drafts)) i d) where
  index := rfl
  result := rfl
  nameless := Workshop.generate_of_nameless
  named := exists_result_of_avoids hd
  accepted := by
    rintro m hm rfl
    exact p.exists_generate_iff_sound hm.wellFormed _

end Pass

/-- A pass completes exactly if each of its drafts has a namespace or a name. A draft without either
ends it before any draft is worked on. -/
theorem completes_iff_qualified (p : Pass) (drafts : List Draft) :
    (p.Completes drafts ↔ ∀ d ∈ drafts, d.space ≠ "" ∨ d.name.isSome) ∧
    ((∃ d ∈ drafts, d.space = "" ∧ d.name = none) →
      p.run drafts = .error (.missingText "casefold")) := by
  have hfails : (∃ d ∈ drafts, d.space = "" ∧ d.name = none) →
      p.run drafts = .error (.missingText "casefold") := by
    rintro ⟨d, hd, hq⟩
    exact Pass.run_eq_error ⟨d, hd, Draft.qualifiedName?_eq_none_iff.mpr hq⟩
  refine ⟨⟨?_, ?_⟩, hfails⟩
  · rintro ⟨candidates, r, -, hr, -⟩ d hd
    by_contra hq
    rw [not_or, not_not, Option.not_isSome_iff_eq_none] at hq
    rw [hfails ⟨d, hd, hq⟩] at hr
    cases hr
  · intro h
    have hq : ∀ d ∈ drafts, d.qualifiedName?.isSome := fun d hd =>
      Draft.isSome_qualifiedName?_iff.mpr (h d hd)
    refine ⟨_, _, Pass.candidates_eq_ok hq, Pass.run_eq_ok hq, by simp [Pass.generateAll], ?_⟩
    intro i d hd
    refine ⟨_, ?_, Pass.serves_outcome (List.mem_of_getElem? hd)⟩
    rw [Pass.getElem?_outcomes_generateAll, hd]
    rfl

/-- A draft without any name before one with a name and a namespace. -/
theorem not_completes_without_any_name :
    let p : Pass := { emitter := .ofDialect .python }
    let drafts : List Draft := [{ name := none }, { space := "shop", name := some "Item" }]
    p.run drafts = .error ⟨"AttributeError", "'NoneType' object has no attribute 'casefold'"⟩ ∧
    ¬ p.Completes drafts := by
  intro p drafts
  have hrun : p.run drafts = .error (.missingText "casefold") :=
    Pass.run_eq_error ⟨{ name := none }, List.mem_cons_self, rfl⟩
  refine ⟨hrun, ?_⟩
  rintro ⟨candidates, r, -, hr, -⟩
  rw [hrun] at hr
  cases hr

end ShadowTypes
