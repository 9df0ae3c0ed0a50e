import Mathlib.Data.List.Perm.Basic
import ShadowTypes.Proofs.Drafts

/-!
# Isolation of failures

A pass over drafts with qualified names completes, whichever of them fail. The outcome at a position
hangs on the draft there, on the exception that interrupts its rendering, if there is one, and on
the candidates; what ends the work on another draft does not reach it. The outcomes split into
generated sources and faults, both in the order of the drafts.

Here every position of a pass may have an exception of its own. A pass that is interrupted by the
names of models is one of these.
-/

namespace ShadowTypes

/-! ## The parts of a result -/

namespace PassResult

variable (r : PassResult)

def successes : List Outcome := r.outcomes.filter (·.result.toOption.isSome)

def failures : List Outcome := r.outcomes.filter (·.result.toOption.isNone)

theorem successes_append_failures_perm : (r.successes ++ r.failures).Perm r.outcomes := by
  have hn : (fun o : Outcome => o.result.toOption.isNone) =
      fun o => !o.result.toOption.isSome := by
    funext o
    simp
  rw [successes, failures, hn]
  exact List.filter_append_perm _ _

theorem forall₂_filter_filterMap {α β : Type} {R : α → β → Prop} {q : α → Bool} {f : α → Option β}
    (hsome : ∀ a b, f a = some b → q a = true ∧ R a b) (hnone : ∀ a, f a = none → ¬ q a = true)
    (as : List α) : List.Forall₂ R (as.filter q) (as.filterMap f) := by
  induction as with
  | nil => exact .nil
  | cons a as ih =>
    cases hf : f a with
    | none =>
      rw [List.filter_cons_of_neg (hnone a hf), List.filterMap_cons_none hf]
      exact ih
    | some b =>
      obtain ⟨hq, hr⟩ := hsome a b hf
      rw [List.filter_cons_of_pos hq, List.filterMap_cons_some hf]
      exact .cons hr ih

theorem forall₂_successes_sources :
    List.Forall₂ (fun o s => o.result = .ok s) r.successes r.sources := by
  apply forall₂_filter_filterMap
  · intro o s h
    cases hr : o.result <;> simp_all [Except.toOption]
  · intro o h
    cases hr : o.result <;> simp_all [Except.toOption]

theorem forall₂_failures_faults :
    List.Forall₂ (fun o f => o.result = .error f) r.failures r.faults := by
  apply forall₂_filter_filterMap
  · intro o s h
    cases hr : o.result <;> simp_all [Except.toOption]
  · intro o h
    cases hr : o.result <;> simp_all [Except.toOption]

/-- The outcomes split into successes with their sources and failures with their faults, each in
ascending order of positions. -/
structure Splits : Prop where
  perm : (r.successes ++ r.failures).Perm r.outcomes
  sources : List.Forall₂ (fun o s => o.result = .ok s) r.successes r.sources
  faults : List.Forall₂ (fun o f => o.result = .error f) r.failures r.faults
  successes_ascend : r.successes.Pairwise fun o o' => o.index < o'.index
  failures_ascend : r.failures.Pairwise fun o o' => o.index < o'.index

theorem splits_of_pairwise (h : r.outcomes.Pairwise fun o o' => o.index < o'.index) :
    r.Splits where
  perm := r.successes_append_failures_perm
  sources := r.forall₂_successes_sources
  faults := r.forall₂_failures_faults
  successes_ascend := h.filter _
  failures_ascend := h.filter _

end PassResult

/-! ## Passes with an exception for every position -/

namespace Pass

/-- Generates every draft with the given candidates and the exception for its position. -/
def generateWith (p : Pass) (candidates : Candidates) (raised : Nat → Option Raised)
    (drafts : List Draft) : PassResult :=
  let workshopAt (i : Nat) : Workshop := (p.workshop candidates).interruptedBy (raised i)
  let outcomes := drafts.mapIdx fun i d => outcome (workshopAt i) i d
  { outcomes
    events := p.startEvent drafts.length ::
      ((drafts.mapIdx fun i d => (workshopAt i).generationEvents d).flatten ++
        outcomes.map outcomeEvent ++ [endEvent outcomes]) }

/-- Runs the pass over the drafts with an exception for every position, or with none. -/
def runWith (p : Pass) (raised : Nat → Option Raised) (drafts : List Draft) :
    Except Failure PassResult := do
  let candidates ← candidates drafts
  return p.generateWith candidates raised drafts

variable {p : Pass} {candidates : Candidates} {drafts : List Draft}

theorem getElem?_outcomes (raised : Nat → Option Raised) (i : Nat) :
    (p.generateWith candidates raised drafts).outcomes[i]? =
      drafts[i]?.map (outcome ((p.workshop candidates).interruptedBy (raised i)) i) :=
  List.getElem?_mapIdx

theorem outcome_interruptedBy (w : Workshop) (i : Nat) (d : Draft) :
    outcome (w.interruptedBy (w.interruptions d.shownName)) i d = outcome w i d := by
  simp only [outcome, w.generate_interruptedBy]

theorem generationEvents_interruptedBy (w : Workshop) (d : Draft) :
    (w.interruptedBy (w.interruptions d.shownName)).generationEvents d = w.generationEvents d := by
  simp only [Workshop.generationEvents, w.buildDraft_interruptedBy]

/-- The exceptions that a pass raises by the names of the models, by their positions. -/
def raisedAt (p : Pass) (drafts : List Draft) (i : Nat) : Option Raised :=
  drafts[i]?.bind fun d => p.interruptions d.shownName

/-- Generating with exceptions by position is generating with exceptions by name. -/
theorem generateAll_eq_generateWith (p : Pass) (candidates : Candidates) (drafts : List Draft) :
    p.generateAll candidates drafts =
      p.generateWith candidates (p.raisedAt drafts) drafts := by
  have hat : ∀ (i : Nat) (d : Draft), drafts[i]? = some d →
      p.raisedAt drafts i = (p.workshop candidates).interruptions d.shownName := by
    intro i d hd
    rw [raisedAt, hd]
    rfl
  have houtcomes : (p.generateAll candidates drafts).outcomes =
      (p.generateWith candidates (p.raisedAt drafts) drafts).outcomes := by
    refine List.ext_getElem? fun i => ?_
    rw [getElem?_outcomes_generateAll, getElem?_outcomes]
    cases hd : drafts[i]? with
    | none => rfl
    | some d => rw [hat i d hd, Option.map_some, Option.map_some, outcome_interruptedBy]
  have hevents : drafts.map (p.workshop candidates).generationEvents =
      drafts.mapIdx fun i d =>
        ((p.workshop candidates).interruptedBy (p.raisedAt drafts i)).generationEvents d := by
    refine List.ext_getElem? fun i => ?_
    rw [List.getElem?_map, List.getElem?_mapIdx]
    cases hd : drafts[i]? with
    | none => rfl
    | some d => rw [hat i d hd, Option.map_some, Option.map_some, generationEvents_interruptedBy]
  calc p.generateAll candidates drafts
    _ = ⟨(p.generateAll candidates drafts).outcomes, p.startEvent drafts.length ::
          (drafts.flatMap (p.workshop candidates).generationEvents ++
            (p.generateAll candidates drafts).outcomes.map outcomeEvent ++
            [endEvent (p.generateAll candidates drafts).outcomes])⟩ := rfl
    _ = p.generateWith candidates (p.raisedAt drafts) drafts := by
      rw [houtcomes, List.flatMap_def, hevents]
      rfl

theorem run_eq_runWith (p : Pass) (drafts : List Draft) :
    p.run drafts = p.runWith (p.raisedAt drafts) drafts := by
  rw [run, runWith]
  simp only [generateAll_eq_generateWith]

theorem runWith_eq_ok {raised : Nat → Option Raised}
    (h : Pass.candidates drafts = .ok candidates) :
    p.runWith raised drafts = .ok (p.generateWith candidates raised drafts) := by
  rw [runWith, h]
  rfl

theorem pairwise_index_outcomes (raised : Nat → Option Raised) :
    (p.generateWith candidates raised drafts).outcomes.Pairwise
      fun o o' => o.index < o'.index := by
  rw [List.pairwise_iff_getElem]
  intro i j hi hj hij
  simpa [generateWith, outcome] using hij

theorem result_outcome_of_error {w : Workshop} {d : Draft} {x : Raised} (i : Nat)
    (hq : d.qualifiedName?.isSome) (hx : w.buildDraft d = .error x) :
    (outcome w i d).result = .error (x.toFault d.qualifiedName? (some "generation")) := by
  obtain ⟨q, hq⟩ := Option.isSome_iff_exists.mp hq
  simp only [outcome, Workshop.generate, hx, Draft.reportName_of_qualifiedName? hq, hq]

end Pass

/-- A pass over drafts with qualified names completes. Every draft has one outcome, which the draft,
its own exception and the candidates decide, so that it is the same in every pass with the same
candidates, whatever ends the work on the other drafts. An exception that meets a draft when it is
rendered is told as the fault of that draft; so is what ends the work before. -/
theorem outcomes_isolated (p : Pass) {drafts : List Draft}
    (h : ∀ d ∈ drafts, d.qualifiedName?.isSome) :
    p.run drafts = p.runWith (p.raisedAt drafts) drafts ∧
    ∃ candidates, Pass.candidates drafts = .ok candidates ∧
    ∀ raised : Nat → Option Raised, ∃ r, p.runWith raised drafts = .ok r ∧
      r.outcomes.length = drafts.length ∧
      (∀ i d, drafts[i]? = some d →
        let w := (p.workshop candidates).interruptedBy (raised i)
        ∃ o, r.outcomes[i]? = some o ∧ o.index = i ∧ o = Pass.outcome w i d ∧
          (∀ x, w.buildDraft d = .error x →
            o.result = .error (x.toFault d.qualifiedName? (some "generation"))) ∧
          (∀ x, raised i = some x → w.Renders d →
            o.result = .error (x.toFault d.qualifiedName? (some "generation"))) ∧
          (¬ w.Renders d → ∀ x, o = Pass.outcome (w.interruptedBy x) i d)) ∧
      (∀ raised' drafts' r', Pass.candidates drafts' = .ok candidates →
        p.runWith raised' drafts' = .ok r' → ∀ i, drafts'[i]? = drafts[i]? →
          raised' i = raised i → r'.outcomes[i]? = r.outcomes[i]?) ∧
      r.Splits := by
  obtain ⟨candidates, hc⟩ : ∃ c, Pass.candidates drafts = .ok c := ⟨_, Pass.candidates_eq_ok h⟩
  refine ⟨p.run_eq_runWith drafts, candidates, hc, fun raised => ?_⟩
  refine ⟨_, Pass.runWith_eq_ok hc, by simp [Pass.generateWith], ?_, ?_,
    PassResult.splits_of_pairwise _ (Pass.pairwise_index_outcomes raised)⟩
  · intro i d hd w
    have hq := h d (List.mem_of_getElem? hd)
    refine ⟨Pass.outcome w i d, ?_, rfl, rfl, fun x => Pass.result_outcome_of_error i hq, ?_, ?_⟩
    · rw [Pass.getElem?_outcomes, hd]
      rfl
    · intro x hx hr
      exact Pass.result_outcome_of_error i hq (Workshop.buildDraft_of_renders hr hx)
    · intro hr x
      simp only [Pass.outcome, Workshop.generate, Workshop.buildDraft_of_not_renders hr x]
  · intro raised' drafts' r' hc' hr' i hd hx
    rw [Pass.runWith_eq_ok hc'] at hr'
    cases hr'
    rw [Pass.getElem?_outcomes, Pass.getElem?_outcomes, hd, hx]

/-- The last of four drafts is interrupted; two of the others fail on their own. -/
theorem last_outcome_interrupted :
    let p : Pass := { emitter := .ofDialect .python }
    let drafts : List Draft := [
      { space := "Acme", name := some "First", properties := [⟨some "A", some "int", none⟩] },
      { space := "Acme", name := some "Broken", properties := [⟨some "Oops", some "", none⟩] },
      { name := some "" },
      { space := "Acme", name := some "Last" }]
    let boom : Raised := .failure ⟨"RuntimeError", "boom"⟩
    (∀ d ∈ drafts, d.qualifiedName?.isSome) ∧
    ∃ r, p.runWith (fun i => if i = 3 then some boom else none) drafts = .ok r ∧
      r.outcomes.length = 4 ∧
      ∃ o, r.outcomes[3]? = some o ∧ o.index = 3 ∧
        o.result = .error (boom.toFault (some "Acme.Last") (some "generation")) := by
  intro p drafts boom
  have hnamed : ∀ d ∈ drafts, d.qualifiedName?.isSome := by decide
  obtain ⟨-, candidates, -, hrun⟩ := outcomes_isolated p hnamed
  obtain ⟨r, hr, hlength, hat, -, -⟩ := hrun fun i => if i = 3 then some boom else none
  obtain ⟨o, ho, hi, -, -, hx, -⟩ := hat 3 _ rfl
  exact ⟨hnamed, r, hr, hlength, o, ho, hi, hx boom rfl ⟨⟨[], rfl⟩, fun _ => by simp⟩⟩

end ShadowTypes
