import ShadowTypes.Proofs.CommandLine.Accounting

/-!
# The parts of a run

A run completes exactly if each of its parts does: the settings are loaded, the options are read,
the level of the log is known, the models are taken in and generated, the sources are kept, and the
summary is printed.
-/

namespace ShadowTypes.CommandLine

variable {s : Settings} {o : Options} {q : Request} {host : Host} {r : Result} {report : Report}

/-! ## Options -/

namespace Options

/-- The options of switches that make sense, with the sources that were read beside them. -/
def finish (r : Sorted) (fault : Option UsageFault) (o : Options) : Except Stop Options :=
  match fault with
  | some f => .error (.usage f)
  | none =>
    if !r.strays.isEmpty then .error (.usage (.unknown r.strays))
    else check { o with sources := r.sources.map .ofText }

theorem read_eq_of_ofTexts {texts : List String} {words : List Word}
    (h : Word.ofTexts texts = .ok words) :
    read s texts = (Sorted.sort {} words).1.given.foldlM apply (ofSettings s) >>=
      finish (Sorted.sort {} words).1 (Sorted.sort {} words).2 := by
  rw [read, h]
  change Except.bind (List.foldlM apply _ _) _ = Except.bind _ _
  refine congrArg (Except.bind _) (funext fun o => ?_)
  unfold finish
  cases (Sorted.sort {} words).2 with
  | some f => rfl
  | none =>
    dsimp only
    split <;> rfl

end Options

/-! ## Results and reports -/

/-- What was done, from what was taken in, generated and kept. -/
def Result.ofParts (o : Options) (i : Intake) (p : PassResult) (st : Stored) : Result :=
  let rejected := i.faults.map fun f => Event.ofFault f "model_source_rejected"
  let unwritten := st.faults.map fun f => Event.ofFault f "write_failed"
  let r : Result :=
    { generated := st.sources, faults := i.faults ++ p.faults ++ st.faults
      tree := st.tree, events := i.events ++ rejected ++ p.events ++ unwritten }
  { r with events := r.events ++ [finished o r] }

theorem perform_eq_ok_iff :
    perform s o q host = .ok r ↔ ∃ i p st, intake o q host = .ok i ∧ generate s o i = .ok p ∧
      keep o q.tree p.sources = .ok st ∧ r = .ofParts o i p st := by
  constructor
  · intro h
    obtain ⟨i, hi, h⟩ := exists_of_bind_eq_ok h
    obtain ⟨p, hp, h⟩ := exists_of_bind_eq_ok h
    obtain ⟨st, hst, h⟩ := exists_of_bind_eq_ok h
    exact ⟨i, p, st, hi, hp, hst, (Except.ok.inj h).symm⟩
  · rintro ⟨i, p, st, hi, hp, hst, rfl⟩
    rw [perform, hi]
    change (generate s o i >>= _) = _
    rw [hp]
    change (keep o q.tree p.sources >>= _) = _
    rw [hst]
    rfl

def Result.exitCode (r : Result) : Nat := if r.faults.isEmpty then 0 else 1

theorem Result.exitCode_eq_of_length {a b : Result} (h : a.faults.length = b.faults.length) :
    a.exitCode = b.exitCode := by
  have hempty : a.faults.isEmpty = b.faults.isEmpty := by
    rw [Bool.eq_iff_iff, List.isEmpty_iff_length_eq_zero, List.isEmpty_iff_length_eq_zero, h]
  rw [exitCode, exitCode, hempty]

def Report.ofResult (o : Options) (threshold : Nat) (r : Result) (output : String) : Report where
  exitCode := r.exitCode
  output
  tree := r.tree
  records := if o.jsonLogs then Event.records threshold r.events else []

theorem run_of_read_eq_error {stop : Stop}
    (hs : Settings.load q.environment q.tree host.settingsDepth = .ok s)
    (h : Options.read s q.arguments = .error stop) :
    run q host = (refused q.tree stop).mapError .failure := by
  simp only [run, hs, bind, Except.bind, h]

theorem run_of_read_eq_ok
    (hs : Settings.load q.environment q.tree host.settingsDepth = .ok s)
    (ho : Options.read s q.arguments = .ok o) :
    run q host = (do
      let threshold ← (Level.threshold s.logLevel).mapError .failure
      let r ← (perform s o q host).mapError .failure
      let output ← (host.console.print (summary o r)).mapError .failure
      return .ofResult o threshold r output) := by
  simp only [run, hs, bind, Except.bind, ho]
  rfl

theorem run_eq_ok_iff (hs : Settings.load q.environment q.tree host.settingsDepth = .ok s)
    (ho : Options.read s q.arguments = .ok o) :
    run q host = .ok report ↔ ∃ threshold r output, Level.threshold s.logLevel = .ok threshold ∧
      perform s o q host = .ok r ∧ host.console.print (summary o r) = .ok output ∧
      report = .ofResult o threshold r output := by
  rw [run_of_read_eq_ok hs ho]
  constructor
  · intro h
    obtain ⟨threshold, hthreshold, h⟩ := exists_of_bind_eq_ok h
    obtain ⟨r, hr, h⟩ := exists_of_bind_eq_ok h
    obtain ⟨output, houtput, h⟩ := exists_of_bind_eq_ok h
    cases h
    exact ⟨threshold, r, output, eq_ok_of_mapError hthreshold, eq_ok_of_mapError hr,
      eq_ok_of_mapError houtput, rfl⟩
  · rintro ⟨threshold, r, output, hthreshold, hr, houtput, rfl⟩
    rw [hthreshold, hr]
    simp only [Except.mapError, bind, Except.bind, houtput]
    rfl

end ShadowTypes.CommandLine
