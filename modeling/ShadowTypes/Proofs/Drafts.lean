import ShadowTypes.Pass

/-!
# Drafts

What ends the work on a draft is told under its qualified name, if it has one. An exception from
outside interrupts the rendering of one model: it ends the work on the draft if nothing ends it
before, and is without effect otherwise. A pass collects the names of its drafts before it starts,
and a draft without any name ends it there.
-/

namespace ShadowTypes

/-! ## Complete drafts -/

theorem DraftProperty.eq_toDraft_of_complete? {p : DraftProperty} {q : Property}
    (h : p.complete? = some q) : p = q.toDraft := by
  unfold complete? at h
  split at h
  · next hn ht =>
    cases h
    rw [Property.toDraft, ← hn, ← ht]
  · cases h

theorem DraftProperty.complete?_isSome {p : DraftProperty} :
    p.complete?.isSome ↔ p.name.isSome ∧ p.typeName.isSome := by
  obtain ⟨name, typeName, directive⟩ := p
  cases name <;> cases typeName <;> simp [complete?]

theorem eq_map_toDraft_of_complete? {ps : List DraftProperty} {qs : List Property}
    (h : ps.mapM DraftProperty.complete? = some qs) : ps = qs.map Property.toDraft := by
  induction ps generalizing qs with
  | nil =>
    cases h
    rfl
  | cons p ps ih =>
    rw [List.mapM_cons] at h
    obtain ⟨q, hp, h⟩ := Option.bind_eq_some_iff.mp h
    obtain ⟨rest, hps, h⟩ := Option.bind_eq_some_iff.mp h
    cases h
    rw [DraftProperty.eq_toDraft_of_complete? hp, ih hps, List.map_cons]

theorem exists_mapM_complete? {ps : List DraftProperty} (h : ∀ p ∈ ps, p.complete?.isSome) :
    ∃ qs, ps.mapM DraftProperty.complete? = some qs := by
  induction ps with
  | nil => exact ⟨[], rfl⟩
  | cons p ps ih =>
    obtain ⟨q, hq⟩ := Option.isSome_iff_exists.mp (h p List.mem_cons_self)
    obtain ⟨qs, hqs⟩ := ih fun r hr => h r (List.mem_cons_of_mem _ hr)
    exact ⟨q :: qs, by simp [List.mapM_cons, hq, hqs]⟩

namespace Draft

variable {d : Draft}

theorem eq_toDraft_of_complete? {m : Model} (h : d.complete? = some m) : d = m.toDraft := by
  unfold complete? at h
  split at h
  · next hn hp =>
    cases h
    rw [Model.toDraft, ← hn, ← eq_map_toDraft_of_complete? hp]
  · cases h

theorem exists_complete? (hn : d.name.isSome) (hp : ∀ p ∈ d.properties, p.complete?.isSome) :
    ∃ m, d.complete? = some m := by
  obtain ⟨name, hname⟩ := Option.isSome_iff_exists.mp hn
  obtain ⟨qs, hqs⟩ := exists_mapM_complete? hp
  exact ⟨⟨d.space, name, qs⟩, by rw [complete?, hname, hqs]⟩

theorem reportName_of_qualifiedName? {q : String} (h : d.qualifiedName? = some q) :
    d.reportName = q := by
  rw [reportName, h]
  dsimp only
  split
  · next hq =>
    subst hq
    rw [qualifiedName?] at h
    split at h
    · rw [h]
      rfl
    · next hs =>
      have hl := congrArg String.toList (Option.some.inj h)
      simp [qualify, hs] at hl
  · rfl

theorem qualifiedName?_eq_none_iff : d.qualifiedName? = none ↔ d.space = "" ∧ d.name = none := by
  rw [qualifiedName?]
  split
  · next hs => simp [hs]
  · next hs => simp [hs]

end Draft

/-! ## What ends the work on a draft -/

section Mapping

variable {α β ε : Type} {f : α → Except ε β} {as : List α}

theorem exists_of_mapM_ok {bs : List β} (h : as.mapM f = .ok bs) : ∀ a ∈ as, ∃ b, f a = .ok b := by
  induction as generalizing bs with
  | nil => simp
  | cons a as ih =>
    rw [List.mapM_cons] at h
    intro c hc
    cases ha : f a with
    | error e =>
      rw [ha] at h
      cases h
    | ok b =>
      rcases List.mem_cons.mp hc with rfl | hc
      · exact ⟨b, ha⟩
      · cases has : as.mapM f with
        | error e =>
          rw [ha, has] at h
          cases h
        | ok bs => exact ih has c hc

theorem mapM_eq_ok {g : α → Option β} (h : ∀ a ∈ as, ∃ b, g a = some b ∧ f a = .ok b) :
    as.mapM f = .ok (as.filterMap g) := by
  induction as with
  | nil => rfl
  | cons a as ih =>
    obtain ⟨b, hg, hf⟩ := h a List.mem_cons_self
    rw [List.mapM_cons, hf, ih fun c hc => h c (List.mem_cons_of_mem _ hc),
      List.filterMap_cons_some hg]
    rfl

theorem mapM_congr {g : α → Except ε β} (h : ∀ a ∈ as, f a = g a) : as.mapM f = as.mapM g := by
  induction as with
  | nil => rfl
  | cons a as ih =>
    rw [List.mapM_cons, List.mapM_cons, h a List.mem_cons_self,
      ih fun c hc => h c (List.mem_cons_of_mem _ hc)]

theorem mapM_eq_error {e : ε} (h : ∀ a ∈ as, (∃ b, f a = .ok b) ∨ f a = .error e)
    (he : ∃ a ∈ as, f a = .error e) : as.mapM f = .error e := by
  induction as with
  | nil =>
    obtain ⟨a, ha, -⟩ := he
    cases ha
  | cons a as ih =>
    rw [List.mapM_cons]
    rcases h a List.mem_cons_self with ⟨b, hb⟩ | ha
    · obtain ⟨c, hc, hce⟩ := he
      rcases List.mem_cons.mp hc with rfl | hc
      · rw [hb] at hce
        cases hce
      · rw [hb, ih (fun d hd => h d (List.mem_cons_of_mem _ hd)) ⟨c, hc, hce⟩]
        rfl
    · rw [ha]
      rfl

end Mapping

theorem Draft.isSome_of_resolve {d : Draft} {candidates : Candidates} {names : StringNames}
    {checks : List Check} (h : d.resolve candidates names = .ok checks) :
    d.name.isSome ∧ ∀ p ∈ d.properties, p.typeName.isSome := by
  unfold resolve at h
  split at h
  · cases h
  · next hn =>
    constructor
    · cases hd : d.name with
      | none => exact absurd (by rw [hd]; rfl) hn
      | some n => rfl
    · intro p hp
      obtain ⟨c, hc⟩ := exists_of_mapM_ok h p hp
      cases ht : p.typeName with
      | none =>
        rw [Resolution.requireType, ht] at hc
        cases hc
      | some t => rfl

namespace Workshop

/-- The workshop in which rendering ends with the given exception, or with none, whatever the
model. -/
def interruptedBy (w : Workshop) (x : Option Raised) : Workshop :=
  { w with interruptions := fun _ => x }

/-- Nothing ends the work on the draft before it is rendered. -/
structure Renders (w : Workshop) (d : Draft) : Prop where
  resolves : ∃ checks, d.resolve w.candidates w.names = .ok checks
  named : w.emitter.dialect = .python → ∀ p ∈ d.properties, p.name.isSome

variable {w : Workshop} {d : Draft} {m : Model}

@[simp] theorem emitter_interruptedBy (x : Option Raised) :
    (w.interruptedBy x).emitter = w.emitter := rfl

@[simp] theorem candidates_interruptedBy (x : Option Raised) :
    (w.interruptedBy x).candidates = w.candidates := rfl

@[simp] theorem names_interruptedBy (x : Option Raised) :
    (w.interruptedBy x).names = w.names := rfl

theorem buildDraft_interruptedBy (w : Workshop) (d : Draft) :
    (w.interruptedBy (w.interruptions d.shownName)).buildDraft d = w.buildDraft d := by
  cases hc : d.complete? with
  | none =>
    rw [buildDraft, buildDraft, hc]
    rfl
  | some m =>
    rw [Draft.eq_toDraft_of_complete? hc, buildDraft_toDraft, buildDraft_toDraft]
    rfl

theorem generate_interruptedBy (w : Workshop) (d : Draft) :
    (w.interruptedBy (w.interruptions d.shownName)).generate d = w.generate d := by
  simp only [generate, w.buildDraft_interruptedBy]

theorem resolve_eq_ok {checks : List Check}
    (h : m.toDraft.resolve w.candidates w.names = .ok checks) :
    ∃ resolved, m.resolve w.candidates w.names = .ok resolved := by
  rw [Model.resolve, h]
  exact ⟨_, rfl⟩

/-- An exception ends the work on a draft that comes to be rendered. -/
theorem buildDraft_of_renders (h : w.Renders d) {x : Raised}
    (hx : w.interruptions d.shownName = some x) : w.buildDraft d = .error x := by
  obtain ⟨checks, hr⟩ := h.resolves
  cases hc : d.complete? with
  | none =>
    rw [buildDraft, hc]
    simp only [buildIncomplete, hr]
    -- Fragments are written over names in Python: with a name missing there is nothing to render.
    cases hd : w.emitter.dialect with
    | python =>
      obtain ⟨hn, ht⟩ := Draft.isSome_of_resolve hr
      obtain ⟨m, hm⟩ := Draft.exists_complete? hn fun p hp =>
        DraftProperty.complete?_isSome.mpr ⟨h.named hd p hp, ht p hp⟩
      rw [hc] at hm
      cases hm
    | csharp =>
      simp only [hx]
      rfl
  | some m =>
    obtain rfl := Draft.eq_toDraft_of_complete? hc
    obtain ⟨resolved, hm⟩ := resolve_eq_ok hr
    change w.interruptions m.name = some x at hx
    rw [buildDraft_toDraft, build, hm]
    simp only [orRaise, bind, Except.bind, render, hx]

/-- What ends the work before rendering ends it with any exceptions, and with none. -/
theorem buildDraft_of_not_renders (h : ¬ w.Renders d) (x : Option Raised) :
    (w.interruptedBy x).buildDraft d = w.buildDraft d := by
  cases hr : d.resolve w.candidates w.names with
  | error f =>
    cases hc : d.complete? with
    | none => simp only [buildDraft, hc, buildIncomplete, candidates_interruptedBy,
        names_interruptedBy, hr, orRaise, bind, Except.bind]
    | some m =>
      obtain rfl := Draft.eq_toDraft_of_complete? hc
      rw [buildDraft_toDraft, buildDraft_toDraft, build, build, candidates_interruptedBy,
        names_interruptedBy, Model.resolve, hr]
      rfl
  | ok checks =>
    have hd : w.emitter.dialect = .python := by
      cases hd : w.emitter.dialect with
      | python => rfl
      | csharp => exact absurd ⟨⟨checks, hr⟩, by simp [hd]⟩ h
    cases hc : d.complete? with
    | none =>
      simp only [buildDraft, hc, buildIncomplete, emitter_interruptedBy, candidates_interruptedBy,
        names_interruptedBy, hr, orRaise, hd, bind, Except.bind]
    | some m =>
      obtain rfl := Draft.eq_toDraft_of_complete? hc
      refine absurd ⟨⟨checks, hr⟩, fun _ p hp => ?_⟩ h
      obtain ⟨q, -, rfl⟩ := List.mem_map.mp hp
      rfl

end Workshop

/-! ## The names and the outcomes of a pass -/

def Candidates.ofDrafts (drafts : List Draft) : Candidates :=
  ofNames (drafts.filterMap Draft.qualifiedName?)

namespace Pass

variable {drafts : List Draft}

theorem candidates_eq_ok (h : ∀ d ∈ drafts, d.qualifiedName?.isSome) :
    candidates drafts = .ok (Candidates.ofDrafts drafts) := by
  rw [candidates, mapM_eq_ok (g := Draft.qualifiedName?)]
  · rfl
  · intro d hd
    obtain ⟨q, hq⟩ := Option.isSome_iff_exists.mp (h d hd)
    exact ⟨q, hq, by rw [hq]⟩

/-- One draft without a name leaves the pass without candidates. -/
theorem candidates_eq_error (h : ∃ d ∈ drafts, d.qualifiedName? = none) :
    candidates drafts = .error (.missingText "casefold") := by
  rw [candidates, mapM_eq_error]
  · rfl
  · intro d hd
    cases hq : d.qualifiedName? with
    | none => exact .inr rfl
    | some q => exact .inl ⟨q, rfl⟩
  · obtain ⟨d, hd, hq⟩ := h
    exact ⟨d, hd, by rw [hq]⟩

theorem getElem?_outcomes_generateAll (p : Pass) (candidates : Candidates) (drafts : List Draft)
    (i : Nat) : (p.generateAll candidates drafts).outcomes[i]? =
      drafts[i]?.map (outcome (p.workshop candidates) i) := by
  simp only [generateAll, ← List.mapIdx_eq_zipIdx_map, List.getElem?_mapIdx]

end Pass

end ShadowTypes
