import ShadowTypes.Proofs.LoggedPool
import ShadowTypes.Proofs.Records

/-!
# The log of a pass

A pass logs its start, what goes wrong from outside while its drafts generate, the outcomes in order
and its end. Several workers log into one log while they generate, so that only there the order is
left to them. Whoever asks for all levels down to `DEBUG` reads every event, and reads the truth.
-/

namespace ShadowTypes

variable {p : Pass} {candidates : Candidates} {raised : Nat → Option Raised} {drafts : List Draft}
  {outcomes : List Outcome} {log : List Event} {r : PassResult}

/-! ## Passes that log -/

namespace Pass

/-- The workshop for a position, where rendering ends with the exception for the position. -/
def workshopAt (p : Pass) (candidates : Candidates) (raised : Nat → Option Raised) (i : Nat) :
    Workshop :=
  (p.workshop candidates).interruptedBy (raised i)

/-- The work on a draft with the workshop for its position. -/
def workWith (p : Pass) (candidates : Candidates) (raised : Nat → Option Raised)
    (x : Draft × Nat) : Outcome :=
  outcome (p.workshopAt candidates raised x.2) x.2 x.1

/-- What is logged during the work on a draft. -/
def emitWith (p : Pass) (candidates : Candidates) (raised : Nat → Option Raised)
    (x : Draft × Nat) : List Event :=
  (p.workshopAt candidates raised x.2).generationEvents x.1

/-- The result of a pass, given what is logged while its drafts generate. -/
def resultWith (p : Pass) (models : Nat) (outcomes : List Outcome) (log : List Event) :
    PassResult where
  outcomes
  events := p.startEvent models :: (log ++ outcomes.map outcomeEvent ++ [endEvent outcomes])

/-- What a pass can give and log, by any doing of its workers. -/
inductive Logs (p : Pass) (raised : Nat → Option Raised) (drafts : List Draft) : PassResult → Prop
  | single {c : Candidates} (named : Pass.candidates drafts = .ok c) (alone : ¬p.Pooled drafts) :
      Logs p raised drafts (p.resultWith drafts.length (drafts.zipIdx.map (p.workWith c raised))
        (drafts.zipIdx.flatMap (p.emitWith c raised)))
  | pooled {c : Candidates} {s : Pool (Draft × Nat) Outcome} {log : List Event}
      (named : Pass.candidates drafts = .ok c) (shared : p.Pooled drafts)
      (logged : Pool.Logged (p.workWith c raised) (p.emitWith c raised) p.workers.toNat
        drafts.zipIdx s log) (done : s.Done) :
      Logs p raised drafts (p.resultWith drafts.length s.collected log)

theorem generateWith_eq (p : Pass) (candidates : Candidates) (raised : Nat → Option Raised)
    (drafts : List Draft) : p.generateWith candidates raised drafts =
      p.resultWith drafts.length (drafts.zipIdx.map (p.workWith candidates raised))
        (drafts.zipIdx.flatMap (p.emitWith candidates raised)) := by
  rw [generateWith, resultWith, List.flatMap_def]
  simp only [List.mapIdx_eq_zipIdx_map]
  rfl

/-- Whatever the workers do, the outcomes are those of the drafts in order, and while the drafts
generate all that they log is logged. -/
theorem Logs.exists_log (h : p.Logs raised drafts r)
    (hc : Pass.candidates drafts = .ok candidates) :
    ∃ log, log.Perm (drafts.zipIdx.flatMap (p.emitWith candidates raised)) ∧
      r = p.resultWith drafts.length (drafts.zipIdx.map (p.workWith candidates raised)) log := by
  cases h with
  | single named alone =>
    cases hc.symm.trans named
    exact ⟨_, .refl _, rfl⟩
  | pooled named shared logged done =>
    cases hc.symm.trans named
    refine ⟨_, logged.perm done, ?_⟩
    rw [logged.reaches.invariant.collected_eq done]

theorem exists_logs (hc : Pass.candidates drafts = .ok candidates) :
    ∃ r, p.Logs raised drafts r := by
  by_cases hp : p.Pooled drafts
  · have hstart : Pool.Reaches (p.workWith candidates raised) p.workers.toNat
        (Pool.start drafts.zipIdx) (Pool.start drafts.zipIdx) := Relation.ReflTransGen.refl
    obtain ⟨s, hs, hd⟩ := Pool.exists_done hstart hp.toNat_pos
    obtain ⟨log, hlog⟩ := hs.exists_logged (p.emitWith candidates raised)
    exact ⟨_, .pooled hc hp hlog hd⟩
  · exact ⟨_, .single hc hp⟩

end Pass

/-! ## Records -/

theorem Pass.writes_startEvent (p : Pass) (models : Nat) : (p.startEvent models).Writes := by
  apply Event.writes_of_plain <;> simp [startEvent, Keyed.keys, Event.common, Json.shape?]

theorem Pass.writes_endEvent (outcomes : List Outcome) : (Pass.endEvent outcomes).Writes := by
  apply Event.writes_of_plain <;> simp [endEvent, Keyed.keys, Event.common, Json.shape?]

theorem Pass.writes_outcomeEvent (o : Outcome) : (Pass.outcomeEvent o).Writes := by
  rw [outcomeEvent]
  cases o.result with
  | ok s => apply Event.writes_of_plain <;> simp [Keyed.keys, Event.common, Json.shape?]
  | error f => apply Event.writes_of_plain <;> simp [Keyed.keys, Event.common, Json.shape?]

theorem Event.writes_ofFailure (x : Failure) (model : String) :
    (Event.ofFailure x (some model)).Writes := by
  apply Event.writes_of_plain <;>
    simp [ofFailure, Keyed.keys, Event.common, Fault.optional, Json.shape?]

/-! ## What the log tells -/

/-- The failure from outside that ends the work on the draft, if one does. -/
def Workshop.foreign? (w : Workshop) (d : Draft) : Option Failure :=
  match w.buildDraft d with
  | .error (.failure x) => some x
  | _ => none

/-- The event tells the outcome: a source by its name and file, a fault by its name, code, category
and message. -/
inductive Outcome.ToldBy (o : Outcome) (e : Event) : Prop
  | generated {s : Source} (result : o.result = .ok s) (name : e.name = "model_generated")
      (fields : e.fields = [("model", .text o.qualifiedName), ("file", .text s.fileName)])
  | skipped {f : Fault} (result : o.result = .error f) (name : e.name = "model_skipped")
      (fields : e.fields = [("model", .text o.qualifiedName), ("error_code", .text f.code.name),
        ("category", .text f.code.category.text), ("message", .text f.message)])

namespace Pass

/-- The reports of the failures from outside that end the work on drafts, in the order of the
drafts. -/
def reports (w : Nat → Workshop) (drafts : List Draft) : List Event :=
  drafts.zipIdx.filterMap fun x =>
    ((w x.2).foreign? x.1).map fun y => Event.ofFailure y (some x.1.reportName)

/-- The log of a pass over drafts, with a workshop for each position, tells the truth. Whoever asks
for `DEBUG` gets a record of every event. The events of the pass are its start with the number of
drafts, the outcomes in order and its end with the numbers of sources and faults, which make up the
number of drafts. Each failure from outside that ends the work on a draft is reported once, and it
is what causes the fault of the draft. -/
structure TellsTruth (w : Nat → Workshop) (drafts : List Draft) (r : PassResult) : Prop where
  records : ∃ threshold, Level.threshold "DEBUG" = .ok threshold ∧
    List.Forall₂ Event.Recorded r.events (Event.records threshold r.events)
  told : ∃ started told completed, r.events.filter (·.logger == logger) =
      started :: (told ++ [completed]) ∧
    started.name = "pass_started" ∧ ("models", .int drafts.length) ∈ started.fields ∧
    List.Forall₂ Outcome.ToldBy r.outcomes told ∧
    completed.name = "pass_completed" ∧
    completed.fields = [("generated", .int r.successes.length), ("skipped", .int r.failures.length)]
  total : r.successes.length + r.failures.length = drafts.length
  reported : (r.events.filter (·.name == "unexpected_exception")).Perm (reports w drafts)
  wrapped : ∀ (i : Nat) (d : Draft) (x : Failure), drafts[i]? = some d →
    (w i).foreign? d = some x → ∃ o f, r.outcomes[i]? = some o ∧ o.result = .error f ∧
      f.code = .unexpected ∧ f.cause = some x

theorem toldBy_outcomeEvent (o : Outcome) : o.ToldBy (outcomeEvent o) := by
  rw [outcomeEvent]
  cases h : o.result with
  | ok s => exact .generated h rfl rfl
  | error f => exact .skipped h rfl rfl

theorem generationEvents_eq (w : Workshop) (d : Draft) : w.generationEvents d =
    ((w.foreign? d).map fun x => Event.ofFailure x (some d.reportName)).toList := by
  rw [Workshop.generationEvents, Workshop.foreign?]
  cases w.buildDraft d with
  | ok s => rfl
  | error x => cases x <;> rfl

theorem flatMap_emitWith : drafts.zipIdx.flatMap (p.emitWith candidates raised) =
    reports (p.workshopAt candidates raised) drafts := by
  rw [reports, List.filterMap_eq_flatMap_toList]
  exact congrArg (List.flatMap · drafts.zipIdx) (funext fun x => generationEvents_eq _ _)

/-- The log holds reports of failures from outside and nothing else. -/
def Reports (log : List Event) : Prop := ∀ e ∈ log, ∃ x model, e = Event.ofFailure x (some model)

theorem reports_perm {w : Nat → Workshop} (h : log.Perm (reports w drafts)) : Reports log := by
  intro e he
  obtain ⟨x, -, hx⟩ := List.mem_filterMap.mp (h.mem_iff.mp he)
  obtain ⟨y, -, rfl⟩ := Option.map_eq_some_iff.mp hx
  exact ⟨y, _, rfl⟩

theorem wrapped_of_foreign {w : Workshop} {d : Draft} {x : Failure} (i : Nat)
    (h : w.foreign? d = some x) :
    ∃ f, (outcome w i d).result = .error f ∧ f.code = .unexpected ∧ f.cause = some x := by
  have hbuild : w.buildDraft d = .error (.failure x) := by
    rw [Workshop.foreign?] at h
    split at h
    · cases h
      assumption
    · cases h
  refine ⟨(Raised.failure x).toFault (some d.reportName) (some "generation"), ?_, rfl, rfl⟩
  rw [outcome, Workshop.generate, hbuild]

theorem writes_resultWith (n : Nat) (hlog : Reports log) :
    ∀ e ∈ (p.resultWith n outcomes log).events, e.Writes := by
  intro e he
  simp only [resultWith, List.mem_cons, List.mem_append, List.mem_map, List.not_mem_nil,
    or_false] at he
  rcases he with rfl | (he | ⟨o, -, rfl⟩) | rfl
  · exact p.writes_startEvent n
  · obtain ⟨x, model, rfl⟩ := hlog e he
    exact Event.writes_ofFailure x model
  · exact writes_outcomeEvent o
  · exact writes_endEvent outcomes

theorem events_resultWith (n : Nat) : (p.resultWith n outcomes log).events =
    p.startEvent n :: (log ++ outcomes.map outcomeEvent ++ [endEvent outcomes]) := rfl

theorem logger_outcomeEvent (o : Outcome) : (outcomeEvent o).logger = logger := by
  rw [outcomeEvent]
  cases o.result <;> rfl

theorem name_outcomeEvent_ne (o : Outcome) : (outcomeEvent o).name ≠ "unexpected_exception" := by
  rw [outcomeEvent]
  cases o.result <;> simp

theorem filter_logger_resultWith (n : Nat) (hlog : Reports log) :
    (p.resultWith n outcomes log).events.filter (·.logger == logger) =
      p.startEvent n :: (outcomes.map outcomeEvent ++ [endEvent outcomes]) := by
  have hreports : log.filter (·.logger == logger) = [] := by
    rw [List.filter_eq_nil_iff]
    intro e he
    obtain ⟨x, model, rfl⟩ := hlog e he
    change ¬(Event.faultLogger == logger) = true
    decide
  have houtcomes : (outcomes.map outcomeEvent).filter (·.logger == logger) =
      outcomes.map outcomeEvent := by
    rw [List.filter_eq_self, List.forall_mem_map]
    intro o _
    rw [logger_outcomeEvent]
    exact beq_self_eq_true logger
  rw [events_resultWith, List.filter_cons_of_pos (by rfl), List.filter_append,
    List.filter_append, hreports, houtcomes]
  rfl

theorem filter_name_resultWith (n : Nat) (hlog : Reports log) :
    (p.resultWith n outcomes log).events.filter (·.name == "unexpected_exception") = log := by
  have hreports : log.filter (·.name == "unexpected_exception") = log := by
    rw [List.filter_eq_self]
    intro e he
    obtain ⟨x, model, rfl⟩ := hlog e he
    rfl
  have houtcomes : (outcomes.map outcomeEvent).filter (·.name == "unexpected_exception") = [] := by
    rw [List.filter_eq_nil_iff, List.forall_mem_map]
    intro o _ hname
    exact name_outcomeEvent_ne o (beq_iff_eq.mp hname)
  have hstart : [p.startEvent n].filter (·.name == "unexpected_exception") = [] := rfl
  have hend : [endEvent outcomes].filter (·.name == "unexpected_exception") = [] := rfl
  rw [events_resultWith, ← List.singleton_append, List.filter_append, List.filter_append,
    List.filter_append, hstart, hreports, houtcomes, hend, List.append_nil, List.append_nil,
    List.nil_append]

theorem tellsTruth_resultWith
    (hlog : log.Perm (reports (p.workshopAt candidates raised) drafts)) :
    TellsTruth (p.workshopAt candidates raised) drafts
      (p.resultWith drafts.length (drafts.zipIdx.map (p.workWith candidates raised)) log) := by
  have hreports : Reports log := reports_perm hlog
  constructor
  · exact ⟨10, by decide, Event.forall₂_recorded (fun e _ => e.level.debug_le_rank)
      (writes_resultWith drafts.length hreports)⟩
  · refine ⟨_, _, _, filter_logger_resultWith drafts.length hreports, rfl, List.mem_cons_self, ?_,
      rfl, rfl⟩
    rw [List.forall₂_map_right_iff]
    exact List.forall₂_same.mpr fun o _ => toldBy_outcomeEvent o
  · rw [← List.length_append, (PassResult.successes_append_failures_perm _).length_eq]
    simp [resultWith]
  · rw [filter_name_resultWith drafts.length hreports]
    exact hlog
  · intro i d x hd hx
    obtain ⟨f, hf⟩ := wrapped_of_foreign i hx
    refine ⟨outcome (p.workshopAt candidates raised i) i d, f, ?_, hf⟩
    simp [resultWith, workWith, hd]

end Pass

/-- The log of a pass tells the truth. A pass over drafts with qualified names has a result, and so
has one whose workers share the drafts, however they go about it. All these results have the same
outcomes and log the same, but for the order of what is logged while drafts generate, and whatever
exceptions meet the drafts when they are rendered, the log tells the truth about the outcomes. -/
theorem log_tells_truth (p : Pass) {drafts : List Draft}
    (h : ∀ d ∈ drafts, d.qualifiedName?.isSome) :
    p.run drafts = p.runWith (p.raisedAt drafts) drafts ∧
    ∃ candidates, Pass.candidates drafts = .ok candidates ∧
    ∀ raised : Nat → Option Raised, ∃ r, p.runWith raised drafts = .ok r ∧
      Pass.TellsTruth (p.workshopAt candidates raised) drafts r ∧
      (¬p.Pooled drafts → p.Logs raised drafts r) ∧
      (∃ r', p.Logs raised drafts r') ∧
      ∀ r', p.Logs raised drafts r' → r'.outcomes = r.outcomes ∧ r'.events.Perm r.events ∧
        Pass.TellsTruth (p.workshopAt candidates raised) drafts r' := by
  obtain ⟨candidates, hc⟩ : ∃ c, Pass.candidates drafts = .ok c := ⟨_, Pass.candidates_eq_ok h⟩
  refine ⟨p.run_eq_runWith drafts, candidates, hc, fun raised => ?_⟩
  refine ⟨_, Pass.runWith_eq_ok hc, ?_, ?_, Pass.exists_logs hc, ?_⟩
  · rw [Pass.generateWith_eq]
    apply Pass.tellsTruth_resultWith
    rw [Pass.flatMap_emitWith]
  · intro halone
    rw [Pass.generateWith_eq]
    exact .single hc halone
  · intro r' hr'
    obtain ⟨log, hlog, rfl⟩ := hr'.exists_log hc
    rw [Pass.generateWith_eq]
    refine ⟨rfl, ?_, ?_⟩
    · exact ((hlog.append_right _).append_right _).cons _
    · rw [Pass.flatMap_emitWith] at hlog
      exact Pass.tellsTruth_resultWith hlog

/-- Two workers share three drafts. One has a source, one fails on its own, and one is interrupted,
which alone is reported. -/
theorem log_of_two_workers :
    let p : Pass := { emitter := .ofDialect .python, workers := 2 }
    let drafts : List Draft := [
      { space := "Acme", name := some "First", properties := [⟨some "A", some "int", none⟩] },
      { space := "Acme", name := some "Broken", properties := [⟨some "Oops", some "", none⟩] },
      { space := "Acme", name := some "Last" }]
    let boom : Failure := ⟨"RuntimeError", "boom"⟩
    let raised : Nat → Option Raised := fun i => if i = 2 then some (.failure boom) else none
    (∀ d ∈ drafts, d.qualifiedName?.isSome) ∧ p.Pooled drafts ∧
    ∃ candidates r, Pass.candidates drafts = .ok candidates ∧ p.Logs raised drafts r ∧
      Pass.TellsTruth (p.workshopAt candidates raised) drafts r ∧
      r.events.filter (·.name == "unexpected_exception") =
        [Event.ofFailure boom (some "Acme.Last")] := by
  intro p drafts boom raised
  have hnamed : ∀ d ∈ drafts, d.qualifiedName?.isSome := by decide
  obtain ⟨-, candidates, hc, hlogs⟩ := log_tells_truth p hnamed
  obtain ⟨_, -, -, -, ⟨r, hr⟩, htruth⟩ := hlogs raised
  obtain ⟨-, -, htells⟩ := htruth r hr
  refine ⟨hnamed, ⟨by decide, by decide⟩, candidates, r, hc, hr, htells, ?_⟩
  have hnames : candidates = Candidates.ofNames ["Acme.First", "Acme.Broken", "Acme.Last"] :=
    (Except.ok.inj hc).symm
  have hforeign : drafts.zipIdx.map (fun x =>
      (p.workshopAt candidates raised x.2).foreign? x.1) = [none, none, some boom] := by
    rw [hnames]
    decide +kernel
  have hreports : Pass.reports (p.workshopAt candidates raised) drafts =
      [Event.ofFailure boom (some "Acme.Last")] := by
    simp only [drafts, List.zipIdx_cons, List.zipIdx_nil, List.map_cons, List.map_nil,
      List.cons.injEq] at hforeign
    obtain ⟨hfirst, hbroken, hlast, -⟩ := hforeign
    simp only [Pass.reports, drafts, List.zipIdx_cons, List.zipIdx_nil, List.filterMap_cons,
      List.filterMap_nil, hfirst, hbroken, hlast, Option.map_none, Option.map_some]
    rfl
  rw [← List.perm_singleton, ← hreports]
  exact htells.reported

end ShadowTypes
