import Mathlib.Data.List.Dedup
import ShadowTypes.CommandLine.Store
import ShadowTypes.Proofs.FileTree.Files
import ShadowTypes.Proofs.Outcomes

/-!
# Storing

One source is stored under each file name, up to letter case. Another source with the name is
refused without asking the system, whose refusals are never mistaken for this one. The work goes on
unless the system cannot be asked about a file, or bytes are missing for a text.
-/

namespace ShadowTypes.CommandLine

/-- The names of the files of sources, up to letter case. -/
def fileKeys (sources : List Source) : List String := sources.map fun s => Text.fold s.fileName

theorem isSome_owner?_iff {st : Stored} {source : Source} :
    (st.owner? source).isSome = true ↔ Text.fold source.fileName ∈ fileKeys st.sources := by
  simp [Stored.owner?, fileKeys]

theorem writeFrom_ne_occupied (t : FileNode) (bytes : List UInt8) (qs way : List String) :
    FileTree.writeFrom t bytes way qs ≠ .error .occupied := by
  induction qs generalizing way with
  | nil => rintro ⟨⟩
  | cons q qs ih =>
    rw [FileTree.writeFrom]
    split
    · exact ih _
    · split
      · rintro ⟨⟩
      · dsimp only
        split
        · split <;> rintro ⟨⟩
        · split
          · rintro ⟨⟩
          · rintro ⟨⟩
          · exact ih _

theorem kind_failure_eq_iff (o : FileTree.Obstacle) (path : String) :
    (o.failure path).kind = "FileExistsError" ↔ o = .occupied := by
  cases o <;> simp [FileTree.Obstacle.failure, Failure.system, Failure.systemKind]

/-- A file that is there is written anew, so that it is never in the way of a file. -/
theorem kind_of_write_eq_error {p : PathName} {bytes : List UInt8} {t : FileTree} {x : Failure}
    (h : t.write p bytes = .error x) : x.kind ≠ "FileExistsError" := by
  have hobstacle : ∃ o : FileTree.Obstacle, o ≠ .occupied ∧ x = o.failure p.text := by
    rw [FileTree.write] at h
    split at h
    · cases h
      exact ⟨.nameTooLong, by rintro ⟨⟩, rfl⟩
    · cases hway : FileTree.writeFrom t.root bytes [] (t.steps p) with
      | ok u =>
        rw [hway] at h
        cases h
      | error o =>
        rw [hway] at h
        cases h
        refine ⟨o, ?_, rfl⟩
        rintro rfl
        exact writeFrom_ne_occupied _ _ _ _ hway
  obtain ⟨o, ho, rfl⟩ := hobstacle
  rwa [Ne, kind_failure_eq_iff]

/-- What the system is asked to write: the bytes of the text, or none if no bytes spell it. -/
def Attempt.bytes (a : Attempt) : List UInt8 :=
  match Text.surrogates? (fun _ => true) a.source.text with
  | none => Text.Utf8.encode a.source.text
  | some _ => []

theorem Attempt.bytes_of_spelt {a : Attempt}
    (h : Text.surrogates? (fun _ => true) a.source.text = none) :
    a.bytes = Text.Utf8.encode a.source.text := by
  rw [bytes, h]

/-- A file is written, or the system refuses it; if no bytes spell the text it must refuse. -/
theorem Attempt.carryOut_eq_ok_iff {x : Attempt} {file : PathName} {t u : FileTree}
    {refusal : Option Failure} : x.carryOut file t = .ok (u, refusal) ↔
      FileTree.unspeakable? file = none ∧
        (Text.surrogates? (fun _ => true) x.source.text = none ∨ refusal ≠ none) ∧
        x.write file x.bytes t = (u, refusal) := by
  rw [carryOut, bytes]
  cases FileTree.unspeakable? file with
  | some y => simp
  | none =>
    cases Text.surrogates? (fun _ => true) x.source.text with
    | none => simp
    | some place =>
      rcases x.write file [] t with ⟨v, _ | y⟩
      · simp only [reduceCtorEq, false_or, true_and, false_iff, Prod.mk.injEq, not_and]
        exact fun hrefusal _ hnone => hrefusal hnone.symm
      · simp only [reduceCtorEq, false_or, true_and, Except.ok.injEq, Prod.mk.injEq]
        exact ⟨fun h => ⟨h.2 ▸ nofun, h⟩, And.right⟩

/-- A file can be asked for, and if the system takes it, bytes spell the text. -/
theorem Attempt.exists_carryOut_iff {x : Attempt} {file : PathName} {t : FileTree} :
    (∃ r, x.carryOut file t = .ok r) ↔ FileTree.unspeakable? file = none ∧
      (Text.surrogates? (fun _ => true) x.source.text = none ∨ (x.write file [] t).2 ≠ none) := by
  rw [carryOut]
  cases FileTree.unspeakable? file with
  | some y => simp
  | none =>
    cases Text.surrogates? (fun _ => true) x.source.text with
    | none => simp
    | some place => rcases x.write file [] t with ⟨v, _ | y⟩ <;> simp

namespace Stored

variable {out : PathName} {a b c : Stored} {x : Attempt} {t u : FileTree} {refusal : Option Failure}
  {attempts : List Attempt} {sources more : List Source}

/-! ## One source -/

theorem owner?_eq_none_iff {source : Source} :
    a.owner? source = none ↔ Text.fold source.fileName ∉ fileKeys a.sources := by
  rw [← isSome_owner?_iff, Option.not_isSome_iff_eq_none]

theorem mem_of_owner? {source owner : Source} (h : a.owner? source = some owner) :
    owner ∈ a.sources ∧ Text.fold owner.fileName = Text.fold source.fileName := by
  have hfold := List.find?_some h
  rw [beq_iff_eq] at hfold
  exact ⟨List.mem_of_find?_eq_some h, hfold⟩

/-- What becomes of a source. -/
inductive Fate
  | written
  | taken (owner : Source)
  | refused (cause : Failure)

/-- A source meets its fate: an earlier one has its file, or the system writes the file, or the
system refuses it. -/
inductive Meets (out : PathName) (s : Stored) (x : Attempt) : Fate → Stored → Prop
  | taken {owner : Source} : s.owner? x.source = some owner →
      Meets out s x (.taken owner)
        { s with faults := s.faults ++ [fault out x.source (taken owner)] }
  | written {t : FileTree} : s.owner? x.source = none →
      FileTree.unspeakable? (target out x.source) = none →
      Text.surrogates? (fun _ => true) x.source.text = none →
      x.write (target out x.source) (Text.Utf8.encode x.source.text) s.tree = (t, none) →
      Meets out s x .written { s with tree := t, sources := s.sources ++ [x.source] }
  | refused {t : FileTree} {cause : Failure} : s.owner? x.source = none →
      FileTree.unspeakable? (target out x.source) = none →
      x.write (target out x.source) x.bytes s.tree = (t, some cause) →
      Meets out s x (.refused cause)
        { s with tree := t, faults := s.faults ++ [fault out x.source cause] }

theorem step_eq_ok_iff : step out a x = .ok b ↔ ∃ f, Meets out a x f b := by
  constructor
  · intro h
    rw [step] at h
    cases howner : a.owner? x.source with
    | some owner =>
      rw [howner] at h
      cases h
      exact ⟨_, .taken howner⟩
    | none =>
      rw [howner] at h
      rcases hcarry : x.carryOut (target out x.source) a.tree with y | ⟨t, _ | cause⟩
      · rw [hcarry] at h
        cases h
      all_goals
        rw [hcarry] at h
        cases h
        obtain ⟨hspeak, htext, hwrite⟩ := Attempt.carryOut_eq_ok_iff.mp hcarry
      · have hspelt := htext.resolve_right (not_not_intro rfl)
        rw [Attempt.bytes_of_spelt hspelt] at hwrite
        exact ⟨_, .written howner hspeak hspelt hwrite⟩
      · exact ⟨_, .refused howner hspeak hwrite⟩
  · rintro ⟨f, h⟩
    cases h with
    | taken howner => rw [step, howner]
    | written howner hspeak hspelt hwrite =>
      rw [← Attempt.bytes_of_spelt hspelt] at hwrite
      have hcarry := Attempt.carryOut_eq_ok_iff.mpr ⟨hspeak, .inl hspelt, hwrite⟩
      rw [step, howner]
      dsimp only
      rw [hcarry]
    | refused howner hspeak hwrite =>
      have hcarry := Attempt.carryOut_eq_ok_iff.mpr ⟨hspeak, .inr (Option.some_ne_none _), hwrite⟩
      rw [step, howner]
      dsimp only
      rw [hcarry]

/-- The work goes on at a source: an earlier source has its file, or the system can be asked about
the file and then bytes spell the text, unless the system refuses the file. -/
def Admits (out : PathName) (s : Stored) (x : Attempt) : Prop :=
  Text.fold x.source.fileName ∈ fileKeys s.sources ∨
    FileTree.unspeakable? (target out x.source) = none ∧
      (Text.surrogates? (fun _ => true) x.source.text = none ∨
        (x.write (target out x.source) [] s.tree).2 ≠ none)

theorem exists_step_iff : (∃ b, step out a x = .ok b) ↔ Admits out a x := by
  rw [Admits, ← isSome_owner?_iff, ← Attempt.exists_carryOut_iff, step]
  cases a.owner? x.source with
  | some owner => exact iff_of_true ⟨_, rfl⟩ (.inl rfl)
  | none => rcases x.carryOut (target out x.source) a.tree with y | ⟨t, _ | cause⟩ <;> simp

/-- The work goes on at every source in turn. -/
def AdmitsAll (out : PathName) : Stored → List Attempt → Prop
  | _, [] => True
  | s, x :: attempts => Admits out s x ∧ ∀ s', step out s x = .ok s' → AdmitsAll out s' attempts

theorem exists_foldlM_step_iff :
    (∃ b, attempts.foldlM (step out) a = .ok b) ↔ AdmitsAll out a attempts := by
  induction attempts generalizing a with
  | nil => exact iff_of_true ⟨a, rfl⟩ trivial
  | cons x attempts ih =>
    rw [List.foldlM_cons, exists_bind_eq_ok_iff, AdmitsAll, ← exists_step_iff]
    simp only [ih]
    constructor
    · rintro ⟨s, hs, hall⟩
      refine ⟨⟨s, hs⟩, fun s' hs' => ?_⟩
      cases hs.symm.trans hs'
      exact hall
    · rintro ⟨⟨s, hs⟩, hall⟩
      exact ⟨s, hs, hall s hs⟩

/-- Sources are stored exactly if the folder can be made and the work goes on at each of them. -/
theorem exists_store_iff : (∃ b, store out t attempts = .ok b) ↔ FileTree.CanMake t out ∧
    ∀ u, t.makeFolders out = .ok u → AdmitsAll out { tree := u } attempts := by
  rw [store, exists_bind_eq_ok_iff, ← FileTree.exists_makeFolders_iff]
  simp only [exists_foldlM_step_iff]
  constructor
  · rintro ⟨u, hu, hall⟩
    refine ⟨⟨u, hu⟩, fun u' hu' => ?_⟩
    cases hu.symm.trans hu'
    exact hall
  · rintro ⟨⟨u, hu⟩, hall⟩
    exact ⟨u, hu, hall u hu⟩

/-! ## Sources that are written plainly -/

/-- Every file that was not written is that of an earlier source. -/
def OnlyTaken (s : Stored) : Prop := ∀ f ∈ s.faults, ∃ owner, f.cause = some (taken owner)

theorem plainWriter_eq_some {p : PathName} {bytes : List UInt8} {x : Failure}
    (h : plainWriter p bytes t = (u, some x)) : t.write p bytes = .error x ∧ u = t := by
  rw [plainWriter] at h
  split at h
  · cases h
  · next hwrite =>
    cases h
    exact ⟨hwrite, rfl⟩

theorem plainWriter_eq_none {p : PathName} {bytes : List UInt8}
    (h : plainWriter p bytes t = (u, none)) : t.write p bytes = .ok u := by
  rw [plainWriter] at h
  split at h
  · next hwrite =>
    cases h
    exact hwrite
  · cases h

/-- Why a source is not stored: an earlier one has its file, or the file cannot be written. -/
inductive Refused (out : PathName) (stored : List Source) (t : FileTree) (source : Source) :
    Failure → Prop
  | taken {owner : Source} : owner ∈ stored →
      Text.fold owner.fileName = Text.fold source.fileName →
      Refused out stored t source (Stored.taken owner)
  | unwritable {bytes : List UInt8} {cause : Failure} :
      Text.fold source.fileName ∉ fileKeys stored →
      t.write (Stored.target out source) bytes = .error cause → Refused out stored t source cause

@[simp]
theorem plain_write (source : Source) : (Attempt.plain source).write = plainWriter := rfl

@[simp]
theorem plain_source (source : Source) : (Attempt.plain source).source = source := rfl

theorem plain_cases {source : Source} (h : step out a (.plain source) = .ok b) :
    (∃ t, Text.fold source.fileName ∉ fileKeys a.sources ∧
      a.tree.write (target out source) (Text.Utf8.encode source.text) = .ok t ∧
      b = { a with tree := t, sources := a.sources ++ [source] }) ∨
    ∃ cause, Refused out a.sources a.tree source cause ∧
      b = { a with faults := a.faults ++ [fault out source cause] } := by
  obtain ⟨f, hmeets⟩ := step_eq_ok_iff.mp h
  cases hmeets with
  | taken howner =>
    obtain ⟨hmem, hfold⟩ := mem_of_owner? howner
    exact .inr ⟨_, .taken hmem hfold, rfl⟩
  | written howner _ _ hwrite =>
    rw [plain_write] at hwrite
    exact .inl ⟨_, owner?_eq_none_iff.mp howner, plainWriter_eq_none hwrite, rfl⟩
  | refused howner _ hwrite =>
    rw [plain_write] at hwrite
    obtain ⟨herror, rfl⟩ := plainWriter_eq_some hwrite
    exact .inr ⟨_, .unwritable (owner?_eq_none_iff.mp howner) herror, rfl⟩

/-- What storing sources in turn leads to. -/
structure Leads (out : PathName) (sources : List Source) (a b : Stored) : Prop where
  accounted : b.sources.length + b.faults.length =
    a.sources.length + a.faults.length + sources.length
  kept : ∃ more, b.sources = a.sources ++ more
  told : ∀ source ∈ sources, source ∈ b.sources ∨ ∃ cause, fault out source cause ∈ b.faults
  faults : ∃ fs, b.faults = a.faults ++ fs ∧ ∀ f ∈ fs, f.code = .fileUnwritable
  nodup : (fileKeys a.sources).Nodup → (fileKeys b.sources).Nodup
  mem_keys : b.OnlyTaken → ∀ k,
    k ∈ fileKeys b.sources ↔ k ∈ fileKeys a.sources ∨ k ∈ fileKeys sources

theorem Leads.refl (a : Stored) : Leads out [] a a where
  accounted := rfl
  kept := ⟨[], (List.append_nil _).symm⟩
  told := List.forall_mem_nil _
  faults := ⟨[], (List.append_nil _).symm, fun _ hf => absurd hf List.not_mem_nil⟩
  nodup := id
  mem_keys _ k := by simp [fileKeys]

theorem Leads.onlyTaken (h : Leads out sources a b) (hb : b.OnlyTaken) : a.OnlyTaken := by
  obtain ⟨fs, hfs, -⟩ := h.faults
  exact fun f hf => hb f (hfs ▸ List.mem_append_left fs hf)

theorem Leads.trans (hab : Leads out sources a b) (hbc : Leads out more b c) :
    Leads out (sources ++ more) a c where
  accounted := by
    rw [hbc.accounted, hab.accounted, List.length_append]
    omega
  kept := by
    obtain ⟨ss, hss⟩ := hab.kept
    obtain ⟨ts, hts⟩ := hbc.kept
    exact ⟨ss ++ ts, by rw [hts, hss, List.append_assoc]⟩
  told := by
    obtain ⟨ss, hss⟩ := hbc.kept
    obtain ⟨fs, hfs, -⟩ := hbc.faults
    rw [List.forall_mem_append]
    refine ⟨fun source hsource => ?_, hbc.told⟩
    rcases hab.told source hsource with hmem | ⟨cause, hmem⟩
    · exact .inl (hss ▸ List.mem_append_left _ hmem)
    · exact .inr ⟨cause, hfs ▸ List.mem_append_left _ hmem⟩
  faults := by
    obtain ⟨fs, hfs, hfcode⟩ := hab.faults
    obtain ⟨gs, hgs, hgcode⟩ := hbc.faults
    refine ⟨fs ++ gs, by rw [hgs, hfs, List.append_assoc], fun f hf => ?_⟩
    exact (List.mem_append.mp hf).elim (hfcode f) (hgcode f)
  nodup ha := hbc.nodup (hab.nodup ha)
  mem_keys hc k := by
    rw [hbc.mem_keys hc, hab.mem_keys (hbc.onlyTaken hc), fileKeys, fileKeys, fileKeys, fileKeys,
      List.map_append, List.mem_append, or_assoc]

theorem leads_of_step {source : Source} (h : step out a (.plain source) = .ok b) :
    Leads out [source] a b := by
  rcases plain_cases h with ⟨t, hfree, -, rfl⟩ | ⟨cause, hcause, rfl⟩
  · constructor
    · dsimp only
      rw [List.length_append]
      omega
    · exact ⟨_, rfl⟩
    · exact List.forall_mem_singleton.mpr (.inl (by simp))
    · exact ⟨[], (List.append_nil _).symm, fun _ hf => absurd hf List.not_mem_nil⟩
    · intro ha
      dsimp only
      rw [fileKeys, List.map_append, List.map_singleton, ← List.concat_eq_append]
      exact ha.concat hfree
    · intro _ k
      dsimp only
      rw [fileKeys, List.map_append, List.mem_append]
      rfl
  · constructor
    · dsimp only
      rw [List.length_append]
      rfl
    · exact ⟨[], (List.append_nil _).symm⟩
    · exact List.forall_mem_singleton.mpr (.inr ⟨cause, by simp⟩)
    · exact ⟨_, rfl, by simp [fault, Fault.fileUnwritable]⟩
    · exact id
    · intro hb k
      -- A name that the system refused would be missing, but then the fault would not be that of
      -- an earlier source.
      obtain ⟨owner, howner⟩ := hb (fault out source cause) (by simp)
      have htaken : Text.fold source.fileName ∈ fileKeys a.sources := by
        cases hcause with
        | taken hmem hfold => exact List.mem_map.mpr ⟨_, hmem, hfold⟩
        | unwritable _ hwrite =>
          refine absurd ?_ (kind_of_write_eq_error hwrite)
          rw [Option.some.inj howner, taken]
      rw [fileKeys, fileKeys, List.map_singleton, List.mem_singleton]
      exact ⟨.inl, Or.rec id (· ▸ htaken)⟩

theorem leads_of_foldlM (h : (sources.map Attempt.plain).foldlM (step out) a = .ok b) :
    Leads out sources a b := by
  induction sources generalizing a with
  | nil =>
    cases h
    exact .refl _
  | cons source sources ih =>
    rw [List.map_cons, List.foldlM_cons] at h
    obtain ⟨c, hc, h⟩ := exists_of_bind_eq_ok h
    exact (leads_of_step hc).trans (ih h)

theorem leads_of_store (h : store out t (sources.map .plain) = .ok b) :
    ∃ t, Leads out sources { tree := t } b := by
  obtain ⟨t', -, h⟩ := exists_of_bind_eq_ok h
  exact ⟨t', leads_of_foldlM h⟩

theorem Leads.length_sources {t : FileTree} (h : Leads out sources { tree := t } b)
    (hb : b.OnlyTaken) : b.sources.length = (fileKeys sources).dedup.length := by
  have hperm : (fileKeys b.sources).Perm (fileKeys sources).dedup := by
    refine (List.perm_ext_iff_of_nodup (h.nodup .nil) (List.nodup_dedup _)).mpr fun k => ?_
    rw [h.mem_keys hb, List.mem_dedup]
    exact ⟨Or.rec nofun id, .inr⟩
  rw [← hperm.length_eq, fileKeys, List.length_map]

end Stored

end ShadowTypes.CommandLine
