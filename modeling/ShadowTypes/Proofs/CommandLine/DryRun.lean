import ShadowTypes.Proofs.CommandLine.Printing
import ShadowTypes.Proofs.CommandLine.Runs

/-!
# Dry runs

A dry run takes in and generates what the run without the switch does, and leaves the files alone.
What it prints can be printed if the other run could print its own summary, which names each of the
generated types as well.
-/

namespace ShadowTypes.CommandLine

/-! ## The switch -/

def Options.dry (o : Options) : Options := { o with dryRun := true }

namespace Sorted

def after (given : List Given) (r : Sorted) : Sorted := { r with given := given ++ r.given }

variable (given : List Given) (r : Sorted)

theorem after_plain (s : String) : (r.after given).plain s = (r.plain s).after given := by
  unfold plain
  cases h : r.phase <;> simp [after, h]

theorem after_separator : (r.after given).separator = r.separator.after given := by
  unfold separator
  cases h : r.phase <;> simp [after, h]

theorem after_close : (r.after given).close = r.close.after given := by
  unfold close
  cases h : r.phase <;> simp [after, h]

theorem after_give (more : List Given) : (r.after given).give more = (r.give more).after given := by
  rw [give, give, after_close]
  simp [after, List.append_assoc]

theorem after_stray (s : String) : (r.after given).stray s = (r.stray s).after given := by
  rw [stray, stray, after_close]
  rfl

theorem sort_switch {sw : Switch} (h : ¬sw.takesValue = true) (r : Sorted) (short : Bool)
    (ws : List Word) : sort r (.switch sw short none :: ws) = sort (r.give [(sw, none)]) ws := by
  rw [sort.eq_def]
  exact if_neg h

/-- Switches that were given before change nothing about what comes later. -/
theorem sort_after (ws : List Word) :
    sort (r.after given) ws = ((sort r ws).1.after given, (sort r ws).2) := by
  induction r, ws using sort.induct with
  | case1 r => rfl
  | case2 r s ws ih => rw [sort, sort, after_plain, ih]
  | case3 r ws ih => rw [sort, sort, after_separator, ih]
  | case4 r s ws ih => rw [sort, sort, after_stray, ih]
  | case5 r sw short hsw v ws ih =>
    simp only [sort, hsw, if_true]
    rw [after_give, ih]
  | case6 r sw short ws hsw hws => simp only [sort, hsw, if_true]
  | case7 r sw short ws hsw ih => rw [sort_switch hsw, sort_switch hsw, after_give, ih]
  | case8 r sw short value ws f hf => simp only [sort, hf]
  | case9 r sw short value ws e he hnone ih =>
    simp only [sort, he, hnone]
    rw [after_give, ih]
  | case10 r sw short value e he last hlast v ws ih =>
    simp only [sort, he, hlast]
    rw [after_give, ih]
  | case11 r sw short value ws e he last hlast hws =>
    simp only [sort, he, hlast]

end Sorted

namespace Options

variable {s : Settings} {o : Options}

theorem apply_dry (o : Options) (g : Given) : o.dry.apply g = (o.apply g).map dry := by
  obtain ⟨sw, value⟩ := g
  cases sw with
  | help | module | out | suffix | jsonLogs | dryRun => rfl
  | dialect =>
    cases value with
    | none => rfl
    | some name =>
      simp only [apply]
      split <;> rfl
  | workers =>
    cases value with
    | none => rfl
    | some text =>
      simp only [apply]
      cases Numeral.readInt 10 text <;> rfl

theorem foldlM_apply_dry (o : Options) (given : List Given) :
    given.foldlM apply o.dry = (given.foldlM apply o).map dry := by
  induction given generalizing o with
  | nil => rfl
  | cons g given ih =>
    rw [List.foldlM_cons, List.foldlM_cons, apply_dry]
    cases o.apply g with
    | ok o' => exact ih o'
    | error stop => rfl

theorem check_dry (o : Options) : o.dry.check = o.check.map dry := by
  obtain ⟨sources, modules, out, dialect, suffix, workers, jsonLogs, dryRun⟩ := o
  by_cases hsources : (sources.isEmpty && modules.isEmpty) = true
  · rw [check, check, if_pos hsources]
    exact if_pos hsources
  · rw [check, check, if_neg hsources]
    refine (if_neg hsources).trans ?_
    cases workers with
    | none => rfl
    | some n =>
      change (if n < 1 then _ else _) = Except.map dry (if n < 1 then _ else _)
      split <;> rfl

theorem finish_dry (given : List Given) (r : Sorted) (fault : Option UsageFault) (o : Options) :
    finish (r.after given) fault o.dry = (finish r fault o).map dry := by
  unfold finish
  cases fault with
  | some f => rfl
  | none =>
    obtain ⟨phase, sources, given', strays⟩ := r
    cases strays with
    | nil => exact check_dry { o with sources := sources.map .ofText }
    | cons s strays => rfl

/-- The switch in front of everything else asks for a dry run, and changes nothing else. -/
theorem read_dryRun_cons (s : Settings) (texts : List String) :
    read s ("--dry-run" :: texts) = (read s texts).map dry := by
  have hwords : Word.ofTexts ("--dry-run" :: texts) =
      (Word.ofTexts texts).map (.switch .dryRun false none :: ·) := by
    rw [Word.ofTexts, if_neg (by decide)]
    have hword : Word.ofText "--dry-run" = .ok (.switch .dryRun false none) := by decide +kernel
    rw [hword]
    cases Word.ofTexts texts <;> rfl
  have hsort (words : List Word) :
      Sorted.sort {} (.switch .dryRun false none :: words) =
        ((Sorted.sort {} words).1.after [(.dryRun, none)], (Sorted.sort {} words).2) :=
    (Sorted.sort_switch (by decide) ..).trans (Sorted.sort_after [(.dryRun, none)] {} words)
  cases hold : Word.ofTexts texts with
  | error f =>
    rw [read, read, hwords, hold]
    rfl
  | ok words =>
    rw [hold] at hwords
    rw [read_eq_of_ofTexts hwords, read_eq_of_ofTexts hold, hsort]
    change List.foldlM apply (ofSettings s).dry (Sorted.sort {} words).1.given >>= _ = _
    rw [foldlM_apply_dry]
    cases (Sorted.sort {} words).1.given.foldlM apply (ofSettings s) with
    | error stop => rfl
    | ok o => exact finish_dry ..

end Options

/-! ## Runs -/

/-- The system refused no file: what was not written has the name of an earlier source. -/
def Result.Unhindered (r : Result) : Prop :=
  ∀ f ∈ r.faults, f.code = .fileUnwritable → ∃ owner, f.cause = some (Stored.taken owner)

variable {s : Settings} {o : Options} {q : Request} {host : Host} {r : Result} {i : Intake}
  {p : PassResult}

theorem perform_dry (hi : intake o q host = .ok i) (hp : generate s o i = .ok p)
    (arguments : List String) :
    perform s o.dry { q with arguments } host =
      .ok (.ofParts o.dry i p { tree := q.tree, sources := p.sources }) :=
  perform_eq_ok_iff.mpr ⟨i, p, _, hi, hp, rfl, rfl⟩

theorem exists_store_of_keep {t : FileTree} {sources : List Source} {st : Stored}
    (hdry : o.dryRun = false) (h : keep o t sources = .ok st) :
    ∃ out, o.out = some out ∧ Stored.store out t (sources.map .plain) = .ok st := by
  rw [keep, hdry] at h
  cases hout : o.out with
  | none =>
    rw [hout] at h
    cases h
  | some out =>
    rw [hout] at h
    exact ⟨out, rfl, h⟩

/-- What a run with the switch and the run without it tell about each other. -/
structure Compare (o : Options) (real dry : Result) : Prop where
  accounted : dry.generated.length + dry.faults.length =
    real.generated.length + real.faults.length
  distinct : o.dryRun = false → real.generated.length = (fileKeys dry.generated).dedup.length
  same : o.dryRun = true → real.generated = dry.generated ∧ real.faults = dry.faults
  printed : ∀ (c : Console) output, c.print (summary o real) = .ok output →
    ∃ output, c.print (summary o.dry dry) = .ok output

/-- Every source that was to be stored is named in the summary, with its file. At least one of them
was stored, so that there is a line with the marks for it. -/
theorem takes_dry_of_leads {out : PathName} {sources : List Source} {t : FileTree} {st : Stored}
    {c : Console} (hdry : o.dryRun = false) (hout : o.out = some out)
    (hleads : Stored.Leads out sources { tree := t } st) (htaken : st.OnlyTaken)
    (hsources : ∀ source ∈ st.sources, c.Takes (generatedLine o source))
    (hfaults : ∀ f ∈ st.faults, c.Takes (faultLine f)) :
    ∀ source ∈ sources, c.Takes (generatedLine o.dry source) := by
  simp only [takes_generatedLine_of_out hdry hout] at hsources
  have hdryRun : o.dry.dryRun = true := rfl
  simp only [takes_generatedLine_of_dry hdryRun]
  intro source hsource
  obtain ⟨first, hfirst⟩ : ∃ first, first ∈ st.sources := by
    have hmem : Text.fold source.fileName ∈ (fileKeys sources).dedup :=
      List.mem_dedup.mpr (List.mem_map_of_mem hsource)
    exact List.exists_mem_of_length_pos (hleads.length_sources htaken ▸ List.length_pos_of_mem hmem)
  obtain ⟨hmark, harrow, -⟩ := hsources first hfirst
  refine ⟨hmark, harrow, ?_⟩
  rcases hleads.told source hsource with hstored | ⟨cause, hfault⟩
  · obtain ⟨-, -, hname, htarget⟩ := hsources source hstored
    exact ⟨hname, Console.takes_of_takes_join htarget⟩
  · exact takes_of_takes_fault (hfaults _ hfault)

theorem exists_dry_of_perform (h : perform s o q host = .ok r) (hr : r.Unhindered)
    (arguments : List String) :
    ∃ r', perform s o.dry { q with arguments } host = .ok r' ∧ r'.tree = q.tree ∧
      Compare o r r' := by
  obtain ⟨i, p, st, hi, hp, hst, rfl⟩ := perform_eq_ok_iff.mp h
  refine ⟨_, perform_dry hi hp arguments, rfl, ?_⟩
  cases hdry : o.dryRun with
  | true =>
    rw [keep, hdry] at hst
    cases hst
    have hsame : o.dry = o := by rw [Options.dry, ← hdry]
    refine ⟨rfl, fun h => absurd (hdry.symm.trans h) (by decide), fun _ => ⟨rfl, rfl⟩, ?_⟩
    rw [hsame]
    exact fun c output houtput => ⟨output, houtput⟩
  | false =>
    obtain ⟨out, hout, hstore⟩ := exists_store_of_keep hdry hst
    obtain ⟨t, hleads⟩ := Stored.leads_of_store hstore
    obtain ⟨fs, hfs, hcode⟩ := hleads.faults
    have htaken : st.OnlyTaken := fun f hf =>
      hr f (List.mem_append_right _ hf) (hcode f (by rwa [hfs] at hf))
    refine ⟨?_, fun _ => hleads.length_sources htaken,
      fun h => absurd (hdry.symm.trans h) (by decide), fun c output houtput => ?_⟩
    · have hcount := hleads.accounted
      simp only [Result.ofParts, List.length_append, List.length_nil] at hcount ⊢
      omega
    · obtain ⟨hgenerated, hfaults⟩ := exists_print_summary_iff.mp ⟨output, houtput⟩
      simp only [Result.ofParts, List.forall_mem_append] at hgenerated hfaults
      rw [exists_print_summary_iff]
      simp only [Result.ofParts, List.append_nil, List.forall_mem_append]
      exact ⟨takes_dry_of_leads hdry hout hleads htaken hgenerated hfaults.2, hfaults.1⟩

/-- One run tells the same numbers and ends with the same exit code as another one. -/
def Foretells (dry real : Result) : Prop :=
  dry.generated.length = real.generated.length ∧ dry.faults.length = real.faults.length ∧
    dry.exitCode = real.exitCode

theorem Compare.foretells_iff {real dry : Result} (h : Compare o real dry) :
    Foretells dry real ↔ o.dryRun = true ∨ (fileKeys dry.generated).Nodup := by
  cases hdry : o.dryRun with
  | true =>
    obtain ⟨hgenerated, hfaults⟩ := h.same hdry
    rw [Foretells, Result.exitCode_eq_of_length (congrArg List.length hfaults), hgenerated, hfaults]
    simp
  | false =>
    have hkeys : (fileKeys dry.generated).length = dry.generated.length := List.length_map _
    have hcount := h.accounted
    have hdistinct := h.distinct hdry
    constructor
    · rintro ⟨hlength, -⟩
      refine .inr (List.dedup_eq_self.mp ((List.dedup_sublist _).eq_of_length ?_))
      rw [hkeys, hlength, hdistinct]
    · rintro (hfalse | hnodup)
      · cases hfalse
      · rw [hnodup.dedup, hkeys] at hdistinct
        have hfaults : dry.faults.length = real.faults.length := by omega
        exact ⟨hdistinct.symm, hfaults, Result.exitCode_eq_of_length hfaults⟩

/-- Texts that ask for what other texts ask for, but as a dry run. -/
def AsksDry (s : Settings) (dry texts : List String) : Prop :=
  Options.read s dry = (Options.read s texts).map Options.dry

theorem tree_of_refused {t : FileTree} {stop : Stop} {report : Report}
    (h : refused t stop = .ok report) : report.tree = t := by
  cases stop <;> cases h <;> rfl

/-- Take a run that completes and in which the system refuses no file. With the switch for dry runs
in front, or with any other arguments that ask for the same as a dry run, the run completes too and
leaves the tree as it is. If there is nothing to do, because the arguments are wrong or ask for
help, it reports the same. Else it tells of as many types and faults together, and every file name,
up to letter case, is that of one type which the run without the switch stores. So the numbers and
the exit codes are the same exactly if no two of the generated types have the same file name. -/
theorem dryRun_foretells_iff {report : Report}
    (hs : Settings.load q.environment q.tree host.settingsDepth = .ok s)
    (h : run q host = .ok report)
    (hr : ∀ o r, Options.read s q.arguments = .ok o → perform s o q host = .ok r →
      r.Unhindered) :
    AsksDry s ("--dry-run" :: q.arguments) q.arguments ∧
      ∀ arguments, AsksDry s arguments q.arguments →
        ∃ report', run { q with arguments } host = .ok report' ∧ report'.tree = q.tree ∧
          ((∃ stop, Options.read s q.arguments = .error stop ∧ report' = report) ∨
            ∃ o threshold r r' output output', Options.read s q.arguments = .ok o ∧
              perform s o q host = .ok r ∧ perform s o.dry { q with arguments } host = .ok r' ∧
              host.console.print (summary o r) = .ok output ∧
              host.console.print (summary o.dry r') = .ok output' ∧
              report = .ofResult o threshold r output ∧
              report' = .ofResult o.dry threshold r' output' ∧
              r'.generated.length + r'.faults.length = r.generated.length + r.faults.length ∧
              (o.dryRun = false → r.generated.length = (fileKeys r'.generated).dedup.length) ∧
              (Foretells r' r ↔ o.dryRun = true ∨ (fileKeys r'.generated).Nodup)) := by
  refine ⟨Options.read_dryRun_cons s q.arguments, fun arguments hasks => ?_⟩
  have hs' : Settings.load (Request.mk arguments q.environment q.tree q.modules).environment
      (Request.mk arguments q.environment q.tree q.modules).tree host.settingsDepth = .ok s := hs
  cases hread : Options.read s q.arguments with
  | error stop =>
    rw [AsksDry, hread] at hasks
    have heq : run { q with arguments } host = run q host :=
      (run_of_read_eq_error hs' hasks).trans (run_of_read_eq_error hs hread).symm
    refine ⟨report, heq.trans h, ?_, .inl ⟨stop, rfl, rfl⟩⟩
    rw [run_of_read_eq_error hs hread] at h
    exact tree_of_refused (eq_ok_of_mapError h)
  | ok o =>
    rw [AsksDry, hread] at hasks
    obtain ⟨threshold, r, output, hthreshold, hperform, houtput, rfl⟩ :=
      (run_eq_ok_iff hs hread).mp h
    obtain ⟨r', hperform', htree, hcompare⟩ :=
      exists_dry_of_perform hperform (hr o r hread hperform) arguments
    obtain ⟨output', houtput'⟩ := hcompare.printed host.console output houtput
    exact ⟨.ofResult o.dry threshold r' output',
      (run_eq_ok_iff hs' hasks).mpr ⟨threshold, r', output', hthreshold, hperform', houtput', rfl⟩,
      htree, .inr ⟨o, threshold, r, r', output, output', rfl, hperform, hperform', houtput,
        houtput', rfl, rfl, hcompare.accounted, hcompare.distinct, hcompare.foretells_iff⟩⟩

/-- Two types whose files differ. -/
theorem dryRun_foretells_shop :
    let q : Request :=
      { arguments := ["shop.json"]
        tree := { root := .folder [("shop.json", .file (Text.Utf8.encode
          "[\x7b\"name\": \"Order\"\x7d, \x7b\"name\": \"Item\"\x7d]"))] } }
    let host : Host := { console := .utf8 }
    ∃ s report, Settings.load q.environment q.tree host.settingsDepth = .ok s ∧
      run q host = .ok report ∧
      (∀ o r, Options.read s q.arguments = .ok o → perform s o q host = .ok r →
        r.Unhindered) ∧
      ∃ report', run { q with arguments := "--dry-run" :: q.arguments } host = .ok report' ∧
        report'.tree = q.tree := by
  intro q host
  have hload : (Settings.load q.environment q.tree host.settingsDepth).toOption.isSome = true := by
    decide +kernel
  have hcode : (run q host).toOption.map Report.exitCode = some 0 := by decide +kernel
  obtain ⟨s, hs⟩ := Option.isSome_iff_exists.mp hload
  obtain ⟨report, hreport, hzero⟩ := Option.map_eq_some_iff.mp hcode
  replace hs := eq_ok_of_toOption hs
  replace hreport := eq_ok_of_toOption hreport
  have hr : ∀ o r, Options.read s q.arguments = .ok o → perform s o q host = .ok r →
      r.Unhindered := by
    intro o r ho hr
    obtain ⟨_, r', _, _, hr', _, rfl⟩ := (run_eq_ok_iff hs ho).mp hreport
    cases hr.symm.trans hr'
    cases hfaults : r.faults with
    | nil => simp [Result.Unhindered, hfaults]
    | cons f fs => simp [Report.ofResult, Result.exitCode, hfaults] at hzero
  obtain ⟨hasks, hforetells⟩ := dryRun_foretells_iff hs hreport hr
  obtain ⟨report', hreport', htree, -⟩ := hforetells _ hasks
  exact ⟨s, report, hs, hreport, hr, report', hreport', htree⟩

/-- Two types with the same file: the run stores one of them, and the dry run tells of both. -/
theorem not_foretold_of_clash :
    let q : Request :=
      { arguments := ["clash.json"]
        tree := { root := .folder [("clash.json", .file (Text.Utf8.encode
          ("[\x7b\"namespace\": \"A\", \"name\": \"Item\"\x7d, " ++
            "\x7b\"namespace\": \"B\", \"name\": \"Item\"\x7d]")))] } }
    ∃ s o r r', Settings.load q.environment q.tree = .ok s ∧
      Options.read s q.arguments = .ok o ∧
      Options.read s ("--dry-run" :: q.arguments) = .ok o.dry ∧
      perform s o q = .ok r ∧ r.Unhindered ∧
      perform s o.dry { q with arguments := "--dry-run" :: q.arguments } = .ok r' ∧
      (r.generated.length, r.faults.length, r.exitCode) = (1, 1, 1) ∧
      (r'.generated.length, r'.faults.length, r'.exitCode) = (2, 0, 0) ∧ ¬Foretells r' r := by
  intro q
  have hparts : ((Settings.load q.environment q.tree).toOption.bind fun s =>
      (Options.read s q.arguments).toOption.bind fun o => (perform s o q).toOption.bind fun r =>
        (perform s o.dry { q with arguments := "--dry-run" :: q.arguments }).toOption.map fun r' =>
          (decide (r.faults.map Fault.cause = r.generated.map fun s => some (Stored.taken s)),
            (r.generated.length, r.faults.length, r.exitCode),
            (r'.generated.length, r'.faults.length, r'.exitCode))) =
      some (true, (1, 1, 1), (2, 0, 0)) := by decide +kernel
  obtain ⟨s, hs, hparts⟩ := Option.bind_eq_some_iff.mp hparts
  obtain ⟨o, ho, hparts⟩ := Option.bind_eq_some_iff.mp hparts
  obtain ⟨r, hr, hparts⟩ := Option.bind_eq_some_iff.mp hparts
  obtain ⟨r', hr', hparts⟩ := Option.map_eq_some_iff.mp hparts
  rw [Prod.mk.injEq, decide_eq_true_eq, Prod.mk.injEq] at hparts
  obtain ⟨hcauses, hreal, hdry⟩ := hparts
  replace ho := eq_ok_of_toOption ho
  refine ⟨s, o, r, r', eq_ok_of_toOption hs, ho, ?_, eq_ok_of_toOption hr, ?_,
    eq_ok_of_toOption hr', hreal, hdry, ?_⟩
  · rw [Options.read_dryRun_cons, ho]
    rfl
  · intro f hf _
    have hcause : f.cause ∈ r.faults.map Fault.cause := List.mem_map_of_mem hf
    rw [hcauses] at hcause
    obtain ⟨owner, -, howner⟩ := List.mem_map.mp hcause
    exact ⟨owner, howner.symm⟩
  · rintro ⟨hlength, -⟩
    simp only [Prod.mk.injEq] at hreal hdry
    omega

end ShadowTypes.CommandLine
