import ShadowTypes.Proofs.CommandLine.Storing
import ShadowTypes.CommandLine.Run
import ShadowTypes.Proofs.Document.Contents
import ShadowTypes.Proofs.Order

/-!
# What a run accounts for

A completed run loses nothing. A path name leads to the descriptions that the bytes of its file
spell or to one fault, and a module is imported or is one fault. Every description and every class
that opted in has one fate: it is a generated source, or the fault of its reading, of its generation
or of its file.
-/

namespace ShadowTypes

open Description (partition)

section Lists

variable {α β : Type}

/-- What is right among results. -/
def successes (rs : List (Except Fault α)) : List α := rs.filterMap Except.toOption

/-- What is wrong among results. -/
def failures (rs : List (Except Fault α)) : List Fault :=
  rs.filterMap fun
    | .error f => some f
    | .ok _ => none

@[simp]
theorem successes_cons_ok (a : α) (rs : List (Except Fault α)) :
    successes (.ok a :: rs) = a :: successes rs := rfl

@[simp]
theorem successes_cons_error (f : Fault) (rs : List (Except Fault α)) :
    successes (.error f :: rs) = successes rs := rfl

@[simp]
theorem failures_cons_ok (a : α) (rs : List (Except Fault α)) :
    failures (.ok a :: rs) = failures rs := rfl

@[simp]
theorem failures_cons_error (f : Fault) (rs : List (Except Fault α)) :
    failures (.error f :: rs) = f :: failures rs := rfl

theorem successes_append (rs ss : List (Except Fault α)) :
    successes (rs ++ ss) = successes rs ++ successes ss := List.filterMap_append

theorem failures_append (rs ss : List (Except Fault α)) :
    failures (rs ++ ss) = failures rs ++ failures ss := List.filterMap_append

theorem length_successes_add (rs : List (Except Fault α)) :
    (successes rs).length + (failures rs).length = rs.length := by
  induction rs with
  | nil => rfl
  | cons r rs ih =>
    cases r with
    | ok a =>
      simp only [successes_cons_ok, failures_cons_ok, List.length_cons]
      omega
    | error f =>
      simp only [successes_cons_error, failures_cons_error, List.length_cons]
      omega

theorem failures_eq_nil_iff {rs : List (Except Fault α)} :
    failures rs = [] ↔ ∀ r ∈ rs, ∃ a, r = .ok a := by
  induction rs with
  | nil => simp [failures]
  | cons r rs ih => cases r <;> simp [ih]

end Lists

namespace Pass

variable (p : Pass) (models : List Model)

theorem sources_runModels : (p.runModels models).sources =
    successes (models.map fun m =>
      (p.workshop (Candidates.ofModels models)).generate m.toDraft) := by
  rw [← map_result_outcomes_runModels, successes, List.filterMap_map]
  rfl

theorem faults_runModels : (p.runModels models).faults =
    failures (models.map fun m =>
      (p.workshop (Candidates.ofModels models)).generate m.toDraft) := by
  rw [← map_result_outcomes_runModels, failures, List.filterMap_map, PassResult.faults]
  refine congrArg (List.filterMap · _) ?_
  funext o
  cases h : o.result <;> simp [h]

end Pass

namespace CommandLine

/-! ## Modules -/

section Modules

variable (modules : Modules)

/-- The modules in turn, each with the failure of its import if there is one. -/
def attempts (s : Imports) : List String → List (String × Option Failure)
  | [] => []
  | n :: ns => (n, (s.importModule modules n).2) :: attempts (s.importModule modules n).1 ns

/-- What is imported after all modules were tried. -/
def importedAll (s : Imports) (ns : List String) : Imports :=
  ns.foldl (fun s n => (s.importModule modules n).1) s

def unimported (attempts : List (String × Option Failure)) : List Fault :=
  attempts.filterMap fun a => a.2.map fun x => Fault.moduleUnusable a.1 x Intake.origin

theorem unimported_eq_nil_iff {as : List (String × Option Failure)} :
    unimported as = [] ↔ ∀ a ∈ as, a.2 = none := by
  simp [unimported, List.filterMap_eq_nil_iff]

variable {modules}

theorem exists_names_of_importAll {s s' : Imports} {names : List (Option String)}
    {faults : List Fault} (h : Intake.importAll modules s names = .ok (s', faults)) :
    ∃ ns, names = ns.map some ∧ s' = importedAll modules s ns ∧
      faults = unimported (attempts modules s ns) := by
  induction names generalizing s s' faults with
  | nil =>
    cases h
    exact ⟨[], rfl, rfl, rfl⟩
  | cons name names ih =>
    cases name with
    | none => cases h
    | some n =>
      unfold Intake.importAll at h
      rcases hi : s.importModule modules n with ⟨u, failure⟩
      rw [hi] at h
      -- A failure that is not one of importing ends the run, so that every one here is a fault.
      have hrun : ∃ fault more, Intake.importAll modules u names = .ok (s', more) ∧
          faults = fault ++ more ∧ fault = unimported [(n, failure)] := by
        cases failure with
        | none =>
          obtain ⟨_, ⟨⟩, h⟩ := exists_of_bind_eq_ok h
          obtain ⟨⟨_, more⟩, hrest, h⟩ := exists_of_bind_eq_ok h
          cases h
          exact ⟨[], more, hrest, rfl, rfl⟩
        | some x =>
          dsimp only at h
          split at h
          · obtain ⟨_, ⟨⟩, h⟩ := exists_of_bind_eq_ok h
            obtain ⟨⟨_, more⟩, hrest, h⟩ := exists_of_bind_eq_ok h
            cases h
            exact ⟨_, more, hrest, rfl, rfl⟩
          · cases h
      obtain ⟨fault, more, hrest, rfl, rfl⟩ := hrun
      obtain ⟨ns, rfl, rfl, rfl⟩ := ih hrest
      refine ⟨n :: ns, rfl, ?_, ?_⟩
      · rw [importedAll, importedAll, List.foldl_cons, hi]
      · rw [attempts, hi, unimported, unimported, unimported, ← List.filterMap_append]
        rfl

/-- The models of modules are those among what the classes that opted in are read as; the faults
are those of the imports and of the other classes. -/
theorem exists_classes_of_ofModules {names : List (Option String)} {evaluate : Evaluator}
    {i : Intake} (h : Intake.ofModules modules names evaluate = .ok i) :
    ∃ (ns : List String) (classes : List (Class × Except Fault Model)), names = ns.map some ∧
      let k := (importedAll modules {} ns).catalogue
      classes.map Prod.fst = k.registered ∧ (∀ c ∈ classes, k.model c.1 evaluate = .ok c.2) ∧
        i.models = successes (classes.map Prod.snd) ∧
        i.faults = unimported (attempts modules {} ns) ++ failures (classes.map Prod.snd) := by
  rw [Intake.ofModules] at h
  split at h
  · next hempty =>
    cases h
    exact ⟨[], [], List.isEmpty_iff.mp hempty, rfl, List.forall_mem_nil _, rfl, rfl⟩
  · obtain ⟨⟨s, faults⟩, hall, h⟩ := exists_of_bind_eq_ok h
    obtain ⟨⟨ms, event⟩, hclasses, h⟩ := exists_of_bind_eq_ok h
    obtain ⟨_, hread, heq⟩ := exists_of_bind_eq_ok hclasses
    cases heq
    cases h
    obtain ⟨ns, rfl, rfl, rfl⟩ := exists_names_of_importAll hall
    obtain ⟨hlength, hmodels⟩ := List.forall₂_iff_zip.mp (forall₂_of_mapM_eq_ok hread)
    refine ⟨ns, List.zip _ ms, rfl, List.map_fst_zip hlength.le, fun c hc => hmodels hc, ?_, ?_⟩
    · rw [List.map_snd_zip hlength.ge]
      rfl
    · rw [List.map_snd_zip hlength.ge]
      rfl

end Modules

/-! ## Documents -/

section Documents

theorem foldl_append (parts : List Intake) (i : Intake) :
    (parts.foldl Intake.append i).models = i.models ++ parts.flatMap Intake.models ∧
      (parts.foldl Intake.append i).faults = i.faults ++ parts.flatMap Intake.faults := by
  induction parts generalizing i with
  | nil => simp
  | cons part parts ih =>
    obtain ⟨hmodels, hfaults⟩ := ih (i.append part)
    constructor
    · rw [List.foldl_cons, hmodels, Intake.append, List.flatMap_cons, List.append_assoc]
    · rw [List.foldl_cons, hfaults, Intake.append, List.flatMap_cons, List.append_assoc]

variable {t : FileTree} {depths : Document.Depths}

/-- The models of documents are those among the entries of the documents that were loaded; the
faults are those of the other documents and of the other entries. -/
theorem exists_documents_of_forall₂ {paths : List PathName} {parts : List Intake}
    (h : List.Forall₂ (fun p i => Intake.ofDocument t p depths = .ok i) paths parts) :
    ∃ documents : List (PathName × Except Fault (List Document.Item)),
      paths = documents.map Prod.fst ∧
      (∀ d ∈ documents, DocumentFile.Yields t depths d.1 d.2) ∧
      let items := (successes (documents.map Prod.snd)).flatten
      parts.flatMap Intake.models = successes (items.map Document.Item.result) ∧
        (parts.flatMap Intake.faults).Perm (failures (documents.map Prod.snd) ++
          failures (items.map Document.Item.result)) := by
  induction h with
  | nil => exact ⟨[], rfl, by simp, rfl, .refl _⟩
  | @cons p part paths parts hpart _ ih =>
    obtain ⟨documents, rfl, hyields, hmodels, hfaults⟩ := ih
    obtain ⟨⟨load, events⟩, hload, hpart⟩ := exists_of_bind_eq_ok hpart
    obtain ⟨d, hd, rfl⟩ := DocumentFile.exists_yields_of_load hload
    refine ⟨(p, d) :: documents, rfl, List.forall_mem_cons.mpr ⟨hd, hyields⟩, ?_⟩
    cases d with
    | ok items =>
      cases hpart
      simp only [List.map_cons, successes_cons_ok, failures_cons_ok, List.flatten_cons,
        List.map_append, successes_append, failures_append]
      refine ⟨congrArg (_ ++ ·) hmodels, ?_⟩
      refine (hfaults.append_left _).trans ?_
      rw [← List.append_assoc, ← List.append_assoc]
      exact List.perm_append_comm.append_right _
    | error f =>
      cases hpart
      simp only [List.map_cons, successes_cons_error, failures_cons_error]
      exact ⟨hmodels, hfaults.cons f⟩

theorem exists_documents_of_ofDocuments {ps : List PathName} {i : Intake}
    (h : Intake.ofDocuments t ps depths = .ok i) :
    ∃ documents : List (PathName × Except Fault (List Document.Item)),
      DocumentFile.expand t ps = .ok (documents.map Prod.fst) ∧
      (∀ d ∈ documents, DocumentFile.Yields t depths d.1 d.2) ∧
      let items := (successes (documents.map Prod.snd)).flatten
      i.models = successes (items.map Document.Item.result) ∧
        i.faults.Perm (failures (documents.map Prod.snd) ++
          failures (items.map Document.Item.result)) := by
  obtain ⟨paths, hpaths, h⟩ := exists_of_bind_eq_ok h
  obtain ⟨parts, hparts, h⟩ := exists_of_bind_eq_ok h
  cases h
  obtain ⟨documents, rfl, hyields, hmodels, hfaults⟩ :=
    exists_documents_of_forall₂ (forall₂_of_mapM_eq_ok hparts)
  have hparts := foldl_append parts {}
  rw [List.nil_append, List.nil_append] at hparts
  rw [hparts.1, hparts.2]
  exact ⟨documents, hpaths, hyields, hmodels, hfaults⟩

end Documents

/-! ## Entries -/

/-- What becomes of entries in turn, from the sources that are stored already and the tree at that
time to the tree in the end. Without a folder nothing is stored. -/
inductive Fates (w : Workshop) (folder : Option PathName) :
    List Source → FileTree → Models → List (Except Fault Source) → FileTree → Prop
  | nil {stored t} : Fates w folder stored t [] [] t
  | rejected {stored t u entries fates f} : Fates w folder stored t entries fates u →
      Fates w folder stored t (.error f :: entries) (.error f :: fates) u
  | failed {stored t u entries fates m f} : w.generate m.toDraft = .error f →
      Fates w folder stored t entries fates u →
      Fates w folder stored t (.ok m :: entries) (.error f :: fates) u
  | shown {stored t u entries fates m source} : w.generate m.toDraft = .ok source →
      folder = none → Fates w folder stored t entries fates u →
      Fates w folder stored t (.ok m :: entries) (.ok source :: fates) u
  | stored {stored t t' u entries fates m source out} : w.generate m.toDraft = .ok source →
      folder = some out → Text.fold source.fileName ∉ fileKeys stored →
      t.write (Stored.target out source) (Text.Utf8.encode source.text) = .ok t' →
      Fates w folder (stored ++ [source]) t' entries fates u →
      Fates w folder stored t (.ok m :: entries) (.ok source :: fates) u
  | refused {stored t u entries fates m source out cause} : w.generate m.toDraft = .ok source →
      folder = some out → Stored.Refused out stored t source cause →
      Fates w folder stored t entries fates u →
      Fates w folder stored t (.ok m :: entries) (.error (Stored.fault out source cause) :: fates) u

section Fates

variable {w : Workshop} {folder : Option PathName} {out : PathName} {kept : List Source}
  {t u : FileTree} {entries : Models} {fates : List (Except Fault Source)} {st st' : Stored}

theorem Fates.length_eq (h : Fates w folder kept t entries fates u) :
    fates.length = entries.length := by
  induction h with
  | nil => rfl
  | rejected _ ih | failed _ _ ih | shown _ _ _ ih | stored _ _ _ _ _ ih | refused _ _ _ _ ih =>
    rw [List.length_cons, List.length_cons, ih]

def generated (w : Workshop) (entries : Models) : List (Except Fault Source) :=
  (successes entries).map fun m => w.generate m.toDraft

theorem exists_fates_of_foldlM
    (h : ((successes (generated w entries)).map Attempt.plain).foldlM (Stored.step out) st =
      .ok st') :
    ∃ fates more, Fates w (some out) st.sources st.tree entries fates st'.tree ∧
      st'.sources = st.sources ++ successes fates ∧ st'.faults = st.faults ++ more ∧
      (failures entries ++ failures (generated w entries) ++ more).Perm (failures fates) := by
  -- What is stored so far decides which files are taken, so it is general here, and only what an
  -- entry adds to it is told.
  induction entries generalizing st with
  | nil =>
    cases h
    exact ⟨[], [], .nil, (List.append_nil _).symm, (List.append_nil _).symm, .refl _⟩
  | cons entry entries ih =>
    cases entry with
    | error f =>
      obtain ⟨fates, more, hfates, hsources, hfaults, hperm⟩ := ih h
      exact ⟨.error f :: fates, more, .rejected hfates, hsources, hfaults, hperm.cons f⟩
    | ok m =>
      have hgenerated : generated w (.ok m :: entries) =
        w.generate m.toDraft :: generated w entries := rfl
      rw [hgenerated] at h ⊢
      cases hm : w.generate m.toDraft with
      | error f =>
        rw [hm, successes_cons_error] at h
        obtain ⟨fates, more, hfates, hsources, hfaults, hperm⟩ := ih h
        refine ⟨.error f :: fates, more, .failed hm hfates, hsources, hfaults, ?_⟩
        rw [failures_cons_ok, failures_cons_error, failures_cons_error, List.append_assoc,
          List.cons_append]
        refine List.perm_middle.trans (.cons f ?_)
        rwa [← List.append_assoc]
      | ok source =>
        rw [hm, successes_cons_ok, List.map_cons, List.foldlM_cons] at h
        obtain ⟨next, hnext, h⟩ := exists_of_bind_eq_ok h
        obtain ⟨fates, more, hfates, hsources, hfaults, hperm⟩ := ih h
        rcases Stored.plain_cases hnext with ⟨t, hfree, hwrite, rfl⟩ | ⟨cause, hcause, rfl⟩
        · refine ⟨.ok source :: fates, more, .stored hm rfl hfree hwrite hfates, ?_, hfaults, hperm⟩
          rw [hsources, successes_cons_ok, List.append_assoc, List.singleton_append]
        · refine ⟨.error (Stored.fault out source cause) :: fates,
            Stored.fault out source cause :: more, .refused hm rfl hcause hfates, hsources, ?_, ?_⟩
          · rw [hfaults, List.append_assoc, List.singleton_append]
          · exact List.perm_middle.trans (hperm.cons _)

theorem exists_fates_of_dry (w : Workshop) (kept : List Source) (t : FileTree) (entries : Models) :
    ∃ fates, Fates w none kept t entries fates t ∧
      successes (generated w entries) = successes fates ∧
      (failures entries ++ failures (generated w entries)).Perm (failures fates) := by
  induction entries with
  | nil => exact ⟨[], .nil, rfl, .refl _⟩
  | cons entry entries ih =>
    obtain ⟨fates, hfates, hsources, hperm⟩ := ih
    -- Faults of generation are kept apart from those of the entries, so the order is lost.
    cases entry with
    | error f => exact ⟨.error f :: fates, .rejected hfates, hsources, hperm.cons f⟩
    | ok m =>
      have hgenerated : generated w (.ok m :: entries) =
        w.generate m.toDraft :: generated w entries := rfl
      rw [hgenerated]
      cases hm : w.generate m.toDraft with
      | error f => exact ⟨.error f :: fates, .failed hm hfates, hsources,
          List.perm_middle.trans (hperm.cons f)⟩
      | ok source => exact ⟨.ok source :: fates, .shown hm rfl hfates,
          congrArg (source :: ·) hsources, hperm⟩

end Fates

/-! ## Runs -/

/-- Where a run stores what it generates, unless it is dry. -/
def Options.folder (o : Options) : Option PathName := if o.dryRun then none else o.out

/-- What a run took in, and what became of it. -/
structure Ledger where
  /-- The path names of the sources, each with the items of its document or its fault. -/
  documents : List (PathName × Except Fault (List Document.Item))
  names : List String
  /-- The classes that opted in, each with what it is read as. -/
  classes : List (Class × Except Fault Model)
  workshop : Workshop
  /-- The tree before anything is stored. -/
  start : FileTree
  /-- What became of the items of the documents and then of the classes. -/
  fates : List (Except Fault Source)

namespace Ledger

variable (l : Ledger) (q : Request)

/-- The faults of the path names without a document. -/
def rejected : List Fault := failures (l.documents.map Prod.snd)

def items : List Document.Item := (successes (l.documents.map Prod.snd)).flatten

def entries : Models := l.items.map Document.Item.result ++ l.classes.map Prod.snd

def attempts : List (String × Option Failure) := CommandLine.attempts q.modules {} l.names

def catalogue : Catalogue := (importedAll q.modules {} l.names).catalogue

/-- The ledger is that of a run. -/
structure Tells (s : Settings) (o : Options) (host : Host) (r : Result) : Prop where
  expanded : DocumentFile.expand q.tree o.sources = .ok (l.documents.map Prod.fst)
  yielded : ∀ d ∈ l.documents, DocumentFile.Yields q.tree host.depths d.1 d.2
  named : o.modules = l.names.map some
  registered : l.classes.map Prod.fst = (l.catalogue q).registered
  modelled : ∀ c ∈ l.classes, (l.catalogue q).model c.1 host.evaluate = .ok c.2
  emitter : ∃ dialect, o.dialect = some dialect ∧
    Emitter.ofName dialect o.suffix = .ok l.workshop.emitter
  workshop : l.workshop = ⟨l.workshop.emitter, Candidates.ofModels (successes l.entries),
    .ofNames s.stringNames, .none⟩
  start : (o.folder = none ∧ o.dryRun = true ∧ l.start = q.tree) ∨
    ∃ out, o.folder = some out ∧ q.tree.makeFolders out = .ok l.start
  fates : Fates l.workshop o.folder [] l.start l.entries l.fates r.tree
  generated : r.generated = successes l.fates
  faults : r.faults.Perm (l.rejected ++ unimported (l.attempts q) ++ failures l.fates)

end Ledger

section Runs

variable {s : Settings} {o : Options} {q : Request} {host : Host} {r : Result} {l : Ledger}

theorem exists_fates_of_keep {w : Workshop} {entries : Models} {t : FileTree} {st : Stored}
    (h : keep o t (successes (generated w entries)) = .ok st) :
    ∃ start fates, ((o.folder = none ∧ o.dryRun = true ∧ start = t) ∨
        ∃ out, o.folder = some out ∧ t.makeFolders out = .ok start) ∧
      Fates w o.folder [] start entries fates st.tree ∧ st.sources = successes fates ∧
      (failures entries ++ failures (generated w entries) ++ st.faults).Perm (failures fates) := by
  rw [keep] at h
  split at h
  · next hdry =>
    cases h
    have hfolder : o.folder = none := if_pos hdry
    rw [hfolder]
    obtain ⟨fates, hfates, hsources, hperm⟩ := exists_fates_of_dry w [] t entries
    refine ⟨t, fates, .inl ⟨rfl, hdry, rfl⟩, hfates, hsources, ?_⟩
    rwa [List.append_nil]
  · next hdry =>
    cases hout : o.out with
    | none =>
      rw [hout] at h
      cases h
    | some out =>
      rw [hout] at h
      obtain ⟨start, hstart, h⟩ := exists_of_bind_eq_ok h
      obtain ⟨fates, more, hfates, hsources, hfaults, hperm⟩ := exists_fates_of_foldlM h
      have hfolder : o.folder = some out := (if_neg hdry).trans hout
      rw [hfolder]
      refine ⟨start, fates, .inr ⟨out, rfl, hstart⟩, hfates, hsources, ?_⟩
      rwa [hfaults]

theorem exists_emitter_of_generate {i : Intake} {p : PassResult} (h : generate s o i = .ok p) :
    ∃ emitter, (∃ dialect, o.dialect = some dialect ∧
        Emitter.ofName dialect o.suffix = .ok emitter) ∧
      let results := i.models.map fun m =>
        Workshop.generate ⟨emitter, .ofModels i.models, .ofNames s.stringNames, .none⟩ m.toDraft
      p.sources = successes results ∧ p.faults = failures results := by
  rw [generate] at h
  cases hdialect : o.dialect with
  | none =>
    rw [hdialect] at h
    cases h
  | some dialect =>
    rw [hdialect] at h
    obtain ⟨emitter, hemitter, h⟩ := exists_of_bind_eq_ok h
    cases h
    exact ⟨emitter, ⟨dialect, rfl, hemitter⟩, Pass.sources_runModels _ _, Pass.faults_runModels _ _⟩

/-- The models of a run are those among the items of its documents and its classes; the faults are
those of path names, of imports and of the other items and classes. -/
theorem exists_entries_of_intake {i : Intake} (h : intake o q host = .ok i) :
    ∃ (documents : List (PathName × Except Fault (List Document.Item))) (names : List String)
      (classes : List (Class × Except Fault Model)),
      DocumentFile.expand q.tree o.sources = .ok (documents.map Prod.fst) ∧
      (∀ d ∈ documents, DocumentFile.Yields q.tree host.depths d.1 d.2) ∧
      o.modules = names.map some ∧
      let k := (importedAll q.modules {} names).catalogue
      let items := (successes (documents.map Prod.snd)).flatten
      let entries := items.map Document.Item.result ++ classes.map Prod.snd
      classes.map Prod.fst = k.registered ∧
      (∀ c ∈ classes, k.model c.1 host.evaluate = .ok c.2) ∧
      i.models = successes entries ∧
      i.faults.Perm (failures (documents.map Prod.snd) ++
        unimported (attempts q.modules {} names) ++ failures entries) := by
  obtain ⟨a, ha, h⟩ := exists_of_bind_eq_ok h
  obtain ⟨b, hb, h⟩ := exists_of_bind_eq_ok h
  cases h
  obtain ⟨documents, hexpanded, hyields, hamodels, hafaults⟩ := exists_documents_of_ofDocuments ha
  obtain ⟨names, classes, hnamed, hregistered, hmodelled, hbmodels, hbfaults⟩ :=
    exists_classes_of_ofModules hb
  refine ⟨documents, names, classes, hexpanded, hyields, hnamed, hregistered, hmodelled, ?_, ?_⟩
  · rw [successes_append, Intake.append, hamodels, hbmodels]
  · rw [failures_append, Intake.append, hbfaults]
    refine (hafaults.append_right _).trans ?_
    rw [List.append_assoc, List.append_assoc]
    refine List.Perm.append_left _ ?_
    rw [← List.append_assoc, ← List.append_assoc]
    exact List.perm_append_comm.append_right _

theorem exists_ledger_of_perform (h : perform s o q host = .ok r) :
    ∃ l : Ledger, l.Tells q s o host r := by
  obtain ⟨i, hi, h⟩ := exists_of_bind_eq_ok h
  obtain ⟨p, hp, h⟩ := exists_of_bind_eq_ok h
  obtain ⟨st, hst, h⟩ := exists_of_bind_eq_ok h
  cases h
  obtain ⟨documents, names, classes, hexpanded, hyields, hnamed, hregistered, hmodelled, hmodels,
    hfaults⟩ := exists_entries_of_intake hi
  obtain ⟨emitter, hemitter, hsources, hfailures⟩ := exists_emitter_of_generate hp
  rw [hmodels] at hsources hfailures
  rw [hsources] at hst
  obtain ⟨start, fates, hstart, hfates, hstored, hperm⟩ := exists_fates_of_keep hst
  refine ⟨⟨documents, names, classes, _, start, fates⟩, hexpanded, hyields, hnamed, hregistered,
    hmodelled, hemitter, rfl, hstart, hfates, hstored, ?_⟩
  refine ((hfaults.append_right _).append_right _).trans ?_
  rw [List.append_assoc, List.append_assoc]
  refine List.Perm.append_left _ ?_
  rw [← List.append_assoc, hfailures]
  exact hperm

theorem perform_of_run {report : Report}
    (hs : Settings.load q.environment q.tree host.settingsDepth = .ok s)
    (ho : Options.read s q.arguments = .ok o) (h : run q host = .ok report) :
    ∃ r, perform s o q host = .ok r ∧ host.console.print (summary o r) = .ok report.output ∧
      report.tree = r.tree ∧ report.exitCode = if r.faults.isEmpty then 0 else 1 := by
  obtain ⟨s', hs', h⟩ := exists_of_bind_eq_ok h
  cases hs.symm.trans hs'
  rw [ho] at h
  obtain ⟨threshold, -, h⟩ := exists_of_bind_eq_ok h
  obtain ⟨r, hr, h⟩ := exists_of_bind_eq_ok h
  obtain ⟨output, houtput, h⟩ := exists_of_bind_eq_ok h
  cases h
  exact ⟨r, eq_ok_of_mapError hr, eq_ok_of_mapError houtput, rfl, rfl⟩

theorem Ledger.Tells.length_fates (h : l.Tells q s o host r) :
    l.fates.length = l.items.length + (l.catalogue q).registered.length := by
  rw [h.fates.length_eq, entries, List.length_append, List.length_map, ← h.registered,
    List.length_map, List.length_map]

theorem Ledger.Tells.length_add_length (h : l.Tells q s o host r) :
    r.generated.length + r.faults.length = l.rejected.length +
      (unimported (l.attempts q)).length + l.fates.length := by
  rw [h.generated, h.faults.length_eq, List.length_append, List.length_append,
    ← length_successes_add l.fates]
  omega

/-- There is no fault exactly if every document is loaded, every module is imported, and every fate
is a source. -/
theorem Ledger.Tells.faults_eq_nil_iff (h : l.Tells q s o host r) :
    r.faults = [] ↔ (∀ d ∈ l.documents, ∃ items, d.2 = .ok items) ∧
      (∀ a ∈ l.attempts q, a.2 = none) ∧ ∀ f ∈ l.fates, ∃ source, f = .ok source := by
  have hperm : r.faults = [] ↔ _ := ⟨fun hnil => (hnil ▸ h.faults).nil_eq.symm, fun hnil =>
    (hnil ▸ h.faults).eq_nil⟩
  rw [hperm, List.append_eq_nil_iff, List.append_eq_nil_iff, rejected, failures_eq_nil_iff,
    unimported_eq_nil_iff, failures_eq_nil_iff, List.forall_mem_map, and_assoc]

/-- Nothing is lost in a run that completes. Its path names, the modules that are asked for, the
descriptions that the bytes of its documents hold and the classes that opted in are all told: a path
name without a document and a module that cannot be imported are one fault each, and every
description and every class has one fate, which is a generated source or a fault. The exit code is
zero exactly if there is no fault, and so exactly if all documents were loaded, all modules were
imported and every model was generated and, unless the run is dry, stored. -/
theorem run_accounts {report : Report}
    (hs : Settings.load q.environment q.tree host.settingsDepth = .ok s)
    (ho : Options.read s q.arguments = .ok o) (h : run q host = .ok report) :
    ∃ (r : Result) (l : Ledger), perform s o q host = .ok r ∧
      host.console.print (summary o r) = .ok report.output ∧
      report.tree = r.tree ∧ l.Tells q s o host r ∧
      l.fates.length = l.items.length + (l.catalogue q).registered.length ∧
      r.generated.length + r.faults.length =
        l.rejected.length + (unimported (l.attempts q)).length + l.items.length +
          (l.catalogue q).registered.length ∧
      (report.exitCode = 0 ↔ r.faults = []) ∧
      (report.exitCode = 0 ↔ (∀ d ∈ l.documents, ∃ items, d.2 = .ok items) ∧
        (∀ a ∈ l.attempts q, a.2 = none) ∧ ∀ f ∈ l.fates, ∃ source, f = .ok source) := by
  obtain ⟨r, hr, houtput, htree, hcode⟩ := perform_of_run hs ho h
  obtain ⟨l, hl⟩ := exists_ledger_of_perform hr
  have hzero : report.exitCode = 0 ↔ r.faults = [] := by
    rw [hcode]
    cases r.faults <;> simp
  refine ⟨r, l, hr, houtput, htree, hl, hl.length_fates, ?_, hzero,
    hzero.trans hl.faults_eq_nil_iff⟩
  rw [hl.length_add_length, hl.length_fates]
  omega

/-- A run with a file that is not there, a module that cannot be imported, an entry that is no
description, and a model. -/
theorem run_accounts_shop :
    let q : Request :=
      { arguments := ["gone.json", "shop.json", "--module", "app"]
        tree := { root := .folder [("shop.json",
          .file (Text.Utf8.encode "[\x7b\"name\": \"Order\"\x7d, 7]"))] }
        modules := [("app", .refuses "no")] }
    let host : Host := { console := .utf8 }
    ∃ s o report, Settings.load q.environment q.tree host.settingsDepth = .ok s ∧
      Options.read s q.arguments = .ok o ∧ run q host = .ok report ∧ report.exitCode = 1 ∧
      ∃ (r : Result) (l : Ledger), l.Tells q s o host r ∧
        (r.generated.length, r.faults.length) = (1, 3) ∧
        l.rejected.length + (unimported (l.attempts q)).length + l.items.length +
          (l.catalogue q).registered.length = 4 := by
  intro q host
  have hparts : ((Settings.load q.environment q.tree host.settingsDepth).toOption.bind fun s =>
      (Options.read s q.arguments).toOption.bind fun o =>
        (perform s o q host).toOption.map fun r => (r.generated.length, r.faults.length)) =
      some (1, 3) := by decide +kernel
  have hcode : (run q host).toOption.map Report.exitCode = some 1 := by decide +kernel
  obtain ⟨report, hreport, hone⟩ := Option.map_eq_some_iff.mp hcode
  obtain ⟨s, hs, hparts⟩ := Option.bind_eq_some_iff.mp hparts
  obtain ⟨o, ho, hparts⟩ := Option.bind_eq_some_iff.mp hparts
  obtain ⟨r', hr', hcounts⟩ := Option.map_eq_some_iff.mp hparts
  replace hs := eq_ok_of_toOption hs
  replace ho := eq_ok_of_toOption ho
  replace hreport := eq_ok_of_toOption hreport
  obtain ⟨r, l, hr, -, -, hl, -, hcount, -⟩ := run_accounts hs ho hreport
  rw [hr] at hr'
  obtain rfl : r = r' := Option.some.inj hr'
  obtain ⟨hgenerated, hfaults⟩ := Prod.mk.inj hcounts
  refine ⟨s, o, report, hs, ho, hreport, hone, r, l, hl, hcounts, ?_⟩
  rw [← hcount, hgenerated, hfaults]

end Runs

end CommandLine

end ShadowTypes
