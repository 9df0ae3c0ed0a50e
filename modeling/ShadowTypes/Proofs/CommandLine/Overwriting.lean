import ShadowTypes.Proofs.CommandLine.Storing

/-!
# No source takes another's file

Sources are stored in turn, and the system may refuse to write any of them. A name is taken once a
source was written under it, up to letter case, and not before. So a source whose file the system
refused leaves the name to a later one, and the file of a source that was written is not written
again: in the end it holds the text of this source.
-/

namespace ShadowTypes.CommandLine

namespace Stored

/-! ## Sources in turn -/

/-- Why a source is not stored, if it is not. -/
def Fate.cause? : Fate → Option Failure
  | .written => none
  | .taken owner => some (Stored.taken owner)
  | .refused cause => some cause

/-- Each source meets its fate after those before it. -/
inductive Stores (out : PathName) : Stored → List Attempt → List Fate → Stored → Prop
  | nil (s : Stored) : Stores out s [] [] s
  | cons {s s' b a f attempts fates} : Meets out s a f s' → Stores out s' attempts fates b →
      Stores out s (a :: attempts) (f :: fates) b

def keptOf (attempts : List Attempt) (fates : List Fate) : List Source :=
  ((attempts.zip fates).filter fun x => x.2.cause?.isNone).map fun x => x.1.source

def faultsOf (out : PathName) (attempts : List Attempt) (fates : List Fate) : List Fault :=
  (attempts.zip fates).filterMap fun x => x.2.cause?.map (fault out x.1.source)

variable {out : PathName} {s s' b : Stored} {a : Attempt} {f : Fate} {attempts : List Attempt}
  {fates : List Fate} {owner : Source}

theorem foldlM_step_eq_ok_iff :
    attempts.foldlM (step out) s = .ok b ↔ ∃ fates, Stores out s attempts fates b := by
  induction attempts generalizing s with
  | nil =>
    constructor
    · intro h
      cases h
      exact ⟨[], .nil _⟩
    · rintro ⟨fates, h⟩
      cases h
      rfl
  | cons a attempts ih =>
    rw [List.foldlM_cons]
    constructor
    · intro h
      obtain ⟨c, hc, h⟩ := exists_of_bind_eq_ok h
      obtain ⟨f, hmeets⟩ := step_eq_ok_iff.mp hc
      obtain ⟨fates, hrest⟩ := ih.mp h
      exact ⟨f :: fates, .cons hmeets hrest⟩
    · rintro ⟨fates, h⟩
      cases h with
      | cons hmeets hrest =>
        rw [step_eq_ok_iff.mpr ⟨_, hmeets⟩]
        exact ih.mpr ⟨_, hrest⟩

theorem store_eq_ok_iff {t : FileTree} : store out t attempts = .ok b ↔
    ∃ u fates, t.makeFolders out = .ok u ∧ Stores out { tree := u } attempts fates b := by
  constructor
  · intro h
    obtain ⟨u, hu, h⟩ := exists_of_bind_eq_ok h
    obtain ⟨fates, hstores⟩ := foldlM_step_eq_ok_iff.mp h
    exact ⟨u, fates, hu, hstores⟩
  · rintro ⟨u, fates, hu, hstores⟩
    rw [store, hu]
    exact foldlM_step_eq_ok_iff.mpr ⟨fates, hstores⟩

/-- The work goes on at every source if all files can be asked for and all texts have bytes. -/
theorem admitsAll_of_forall (h : ∀ a ∈ attempts,
    FileTree.unspeakable? (target out a.source) = none ∧
      Text.surrogates? (fun _ => true) a.source.text = none) : AdmitsAll out s attempts := by
  induction attempts generalizing s with
  | nil => trivial
  | cons a attempts ih =>
    obtain ⟨⟨hspeak, hspelt⟩, hrest⟩ := List.forall_mem_cons.mp h
    exact ⟨.inr ⟨hspeak, .inl hspelt⟩, fun _ _ => ih hrest⟩

/-! ## One source -/

theorem owner?_eq_some_iff {source : Source} (h : (fileKeys s.sources).Nodup) :
    s.owner? source = some owner ↔
      owner ∈ s.sources ∧ Text.fold owner.fileName = Text.fold source.fileName := by
  refine ⟨mem_of_owner?, ?_⟩
  rintro ⟨hmem, hfold⟩
  cases hfound : s.owner? source with
  | none =>
    rw [owner?_eq_none_iff, ← hfold] at hfound
    exact absurd (List.mem_map_of_mem hmem) hfound
  | some other =>
    obtain ⟨hother, hsame⟩ := mem_of_owner? hfound
    rw [List.inj_on_of_nodup_map h hother hmem (hsame.trans hfold.symm)]

theorem Meets.eq_taken_iff (h : Meets out s a f s') (hs : (fileKeys s.sources).Nodup) :
    f = .taken owner ↔
      owner ∈ s.sources ∧ Text.fold owner.fileName = Text.fold a.source.fileName := by
  rw [← owner?_eq_some_iff hs]
  cases h with
  | taken howner => rw [howner, Fate.taken.injEq, Option.some_inj]
  | written howner => simp [howner]
  | refused howner => simp [howner]

theorem Meets.mem_sources_iff (h : Meets out s a f s') :
    owner ∈ s'.sources ↔ owner ∈ s.sources ∨ f = .written ∧ a.source = owner := by
  cases h with
  | taken => simp
  | written => simp [eq_comm]
  | refused => simp

theorem Meets.nodup (h : Meets out s a f s') (hs : (fileKeys s.sources).Nodup) :
    (fileKeys s'.sources).Nodup := by
  cases h with
  | taken => exact hs
  | written howner =>
    rw [fileKeys, List.map_append, List.map_singleton, ← List.concat_eq_append]
    exact hs.concat (owner?_eq_none_iff.mp howner)
  | refused => exact hs

/-! ## All sources -/

theorem Stores.length_eq (h : Stores out s attempts fates b) :
    fates.length = attempts.length := by
  induction h with
  | nil => rfl
  | cons _ _ ih => rw [List.length_cons, List.length_cons, ih]

theorem Stores.split (h : Stores out s attempts fates b) :
    b.sources = s.sources ++ keptOf attempts fates ∧
      b.faults = s.faults ++ faultsOf out attempts fates := by
  induction h with
  | nil => simp [keptOf, faultsOf]
  | cons hmeets _ ih =>
    obtain ⟨hsources, hfaults⟩ := ih
    rw [hsources, hfaults, keptOf, keptOf, faultsOf, faultsOf, List.zip_cons_cons]
    cases hmeets with
    | taken => simp [Fate.cause?]
    | written => simp [Fate.cause?]
    | refused => simp [Fate.cause?]

theorem Stores.nodup (h : Stores out s attempts fates b) (hs : (fileKeys s.sources).Nodup) :
    (fileKeys b.sources).Nodup := by
  induction h with
  | nil => exact hs
  | cons hmeets _ ih => exact ih (hmeets.nodup hs)

theorem Stores.getElem?_eq_taken_iff (h : Stores out s attempts fates b)
    (hs : (fileKeys s.sources).Nodup) {i : Nat} (hi : attempts[i]? = some a) :
    fates[i]? = some (.taken owner) ↔
      Text.fold owner.fileName = Text.fold a.source.fileName ∧ (owner ∈ s.sources ∨
        ∃ j c, j < i ∧ attempts[j]? = some c ∧ fates[j]? = some .written ∧ c.source = owner) := by
  induction h generalizing i with
  | nil => simp at hi
  | @cons s s' b c f attempts fates hmeets _ ih =>
    cases i with
    | zero =>
      obtain rfl : c = a := by simpa using hi
      rw [List.getElem?_cons_zero, Option.some_inj, hmeets.eq_taken_iff hs, and_comm]
      simp
    | succ i =>
      rw [List.getElem?_cons_succ] at hi
      rw [List.getElem?_cons_succ, ih (hmeets.nodup hs) hi]
      refine and_congr_right fun _ => ?_
      -- The sources that are stored before the rest are those from before, and the first if it was
      -- written.
      rw [hmeets.mem_sources_iff, or_assoc]
      refine or_congr_right ?_
      constructor
      · rintro (⟨rfl, howner⟩ | ⟨j, d, hj, hd, hfate, howner⟩)
        · exact ⟨0, c, Nat.succ_pos i, rfl, rfl, howner⟩
        · exact ⟨j + 1, d, Nat.succ_lt_succ hj, hd, hfate, howner⟩
      · rintro ⟨j, d, hj, hd, hfate, howner⟩
        cases j with
        | zero =>
          obtain rfl : c = d := by simpa using hd
          exact .inl ⟨by simpa using hfate, howner⟩
        | succ j => exact .inr ⟨j, d, Nat.lt_of_succ_lt_succ hj, hd, hfate, howner⟩

end Stored

/-! ## What the system does to a file -/

open FileTree (IsEntry)

/-- The system writes the file of a source or refuses to. Either way the folder stays, and no file
under another name is touched, letter case aside. -/
structure Attempt.Faithful (out : PathName) (a : Attempt) : Prop where
  folder : ∀ (bytes : List UInt8) (t : FileTree), t.isFolder out = true →
    (a.write (Stored.target out a.source) bytes t).1.isFolder out = true
  written : ∀ (bytes : List UInt8) (t : FileTree), t.isFolder out = true →
    (a.write (Stored.target out a.source) bytes t).2 = none →
    (a.write (Stored.target out a.source) bytes t).1.find? (Stored.target out a.source) =
      some (.file bytes)
  others : ∀ (bytes : List UInt8) (t : FileTree) (o : Source), t.isFolder out = true →
    IsEntry o.fileName → Text.fold o.fileName ≠ Text.fold a.source.fileName →
    (a.write (Stored.target out a.source) bytes t).1.find? (Stored.target out o) =
      t.find? (Stored.target out o)

/-- Bytes are written to a file, and the system refuses to go on. -/
def brokenOff (left : List UInt8) (cause : Failure) : Writer := fun p _ t =>
  ((plainWriter p left t).1, some cause)

theorem isEntry_fileName {e : Emitter} {name : String} (h : '/' ∉ (e.fileName name).toList) :
    IsEntry (e.fileName name) := by
  have hlast : (e.fileName name).toList.getLast? = some 'y' ∨
      (e.fileName name).toList.getLast? = some 's' := by
    rw [Emitter.fileName, String.toList_append, List.getLast?_append]
    cases e.dialect with
    | csharp => exact .inr rfl
    | python => exact .inl rfl
  refine ⟨?_, ?_, ?_, h⟩ <;>
  · intro heq
    rw [heq] at hlast
    revert hlast
    decide

section Plain

variable {out : PathName} {source : Source}

theorem plainWriter_spec (hname : IsEntry source.fileName) (bytes : List UInt8) {t : FileTree}
    (ht : t.isFolder out = true) :
    (plainWriter (Stored.target out source) bytes t).1.isFolder out = true ∧
    ∀ o : Source, IsEntry o.fileName → o.fileName ≠ source.fileName →
      (plainWriter (Stored.target out source) bytes t).1.find? (Stored.target out o) =
        t.find? (Stored.target out o) := by
  rw [plainWriter]
  cases hwrite : t.write (Stored.target out source) bytes with
  | error x => exact ⟨ht, fun _ _ _ => rfl⟩
  | ok u =>
    have hleads := FileTree.isFolder_iff_leadsTo.mp ht
    refine ⟨FileTree.isFolder_iff_leadsTo.mpr (FileTree.leadsTo_of_write hleads hname hwrite), ?_⟩
    intro o ho hne
    exact FileTree.find?_other_of_write hleads hname hwrite ho hne

theorem ne_of_fold_ne {s t : String} (h : Text.fold s ≠ Text.fold t) : s ≠ t :=
  fun heq => h (congrArg Text.fold heq)

theorem faithful_plainWriter (hname : IsEntry source.fileName)
    (hspeak : FileTree.unspeakable? (Stored.target out source) = none) :
    Attempt.Faithful out ⟨source, plainWriter⟩ where
  folder bytes t ht := (plainWriter_spec hname bytes ht).1
  written bytes t ht hwritten := by
    dsimp only at hwritten ⊢
    rw [plainWriter] at hwritten ⊢
    cases hwrite : t.write (Stored.target out source) bytes with
    | error x =>
      rw [hwrite] at hwritten
      cases hwritten
    | ok u =>
      have hleads := FileTree.isFolder_iff_leadsTo.mp ht
      exact FileTree.find?_of_write hleads hname hwrite hspeak
  others bytes t o ht ho hne := (plainWriter_spec hname bytes ht).2 o ho (ne_of_fold_ne hne)

theorem faithful_brokenOff (hname : IsEntry source.fileName) (left : List UInt8) (cause : Failure) :
    Attempt.Faithful out ⟨source, brokenOff left cause⟩ where
  folder bytes t ht := by
    simp only [brokenOff]
    exact (plainWriter_spec hname left ht).1
  written bytes t ht hwritten := by
    simp only [brokenOff] at hwritten
    cases hwritten
  others bytes t o ht ho hne := by
    simp only [brokenOff]
    exact (plainWriter_spec hname left ht).2 o ho (ne_of_fold_ne hne)

end Plain

namespace Stored

variable {out : PathName} {s s' b : Stored} {a : Attempt} {f : Fate} {attempts : List Attempt}
  {fates : List Fate}

/-- Each source that was stored has its text in its file. -/
structure Holds (out : PathName) (s : Stored) : Prop where
  folder : s.tree.isFolder out = true
  entries : ∀ o ∈ s.sources, IsEntry o.fileName
  held : ∀ o ∈ s.sources, s.tree.find? (target out o) = some (.file (Text.Utf8.encode o.text))

theorem Holds.meets (h : s.Holds out) (hname : IsEntry a.source.fileName) (ha : a.Faithful out)
    (hmeets : Meets out s a f s') : s'.Holds out := by
  have hkeep (bytes : List UInt8) (howner : s.owner? a.source = none) : ∀ o ∈ s.sources,
      (a.write (target out a.source) bytes s.tree).1.find? (target out o) =
        some (.file (Text.Utf8.encode o.text)) := by
    intro o ho
    rw [← h.held o ho]
    refine ha.others _ _ o h.folder (h.entries o ho) fun hfold => ?_
    exact owner?_eq_none_iff.mp howner (List.mem_map.mpr ⟨o, ho, hfold⟩)
  cases hmeets with
  | taken => exact ⟨h.folder, h.entries, h.held⟩
  | written howner _ _ hwrite =>
    have hfolder := ha.folder (Text.Utf8.encode a.source.text) s.tree h.folder
    have hheld := hkeep (Text.Utf8.encode a.source.text) howner
    have hnew := ha.written (Text.Utf8.encode a.source.text) s.tree h.folder (by rw [hwrite])
    rw [hwrite] at hfolder hheld hnew
    refine ⟨hfolder, ?_, ?_⟩
    · rw [List.forall_mem_append, List.forall_mem_singleton]
      exact ⟨h.entries, hname⟩
    · rw [List.forall_mem_append, List.forall_mem_singleton]
      exact ⟨hheld, hnew⟩
  | refused howner _ hwrite =>
    have hfolder := ha.folder a.bytes s.tree h.folder
    have hheld := hkeep a.bytes howner
    rw [hwrite] at hfolder hheld
    exact ⟨hfolder, h.entries, hheld⟩

theorem Holds.stores (h : s.Holds out) (hstores : Stores out s attempts fates b)
    (hattempts : ∀ a ∈ attempts, IsEntry a.source.fileName ∧ a.Faithful out) : b.Holds out := by
  induction hstores with
  | nil => exact h
  | cons hmeets _ ih =>
    obtain ⟨⟨hname, ha⟩, hattempts⟩ := List.forall_mem_cons.mp hattempts
    exact ih (h.meets hname ha hmeets) hattempts

/-- Whichever files the system refuses to write: once the folder was made, the sources meet their
fates in turn. The work ends if the folder can be made, all files can be asked for and all texts
have bytes. Then the sources that are stored and one fault for each other source are those of the
fates, in order. No two stored sources have one file name up to letter case, and a name is taken
exactly by a source that was written under it before. Where no attempt touches a file of another
name, each stored source has its text in its file in the end. -/
theorem stored_sources_hold (out : PathName) (t : FileTree) (attempts : List Attempt) :
    (∀ done, store out t attempts = .ok done ↔
      ∃ u fates, t.makeFolders out = .ok u ∧ Stores out { tree := u } attempts fates done) ∧
    (FileTree.CanMake t out → (∀ a ∈ attempts,
        FileTree.unspeakable? (target out a.source) = none ∧
          Text.surrogates? (fun _ => true) a.source.text = none) →
      ∃ done, store out t attempts = .ok done) ∧
    ∀ u fates done, t.makeFolders out = .ok u → Stores out { tree := u } attempts fates done →
      fates.length = attempts.length ∧ done.sources = keptOf attempts fates ∧
      done.faults = faultsOf out attempts fates ∧ (∀ f ∈ done.faults, f.code = .fileUnwritable) ∧
      (fileKeys done.sources).Nodup ∧
      (∀ (i : Nat) (a : Attempt) (owner : Source), attempts[i]? = some a →
        (fates[i]? = some (.taken owner) ↔
          Text.fold owner.fileName = Text.fold a.source.fileName ∧
          ∃ j b, j < i ∧ attempts[j]? = some b ∧ fates[j]? = some .written ∧ b.source = owner)) ∧
      ((∀ a ∈ attempts, (∃ (e : Emitter) (name : String), a.source.fileName = e.fileName name) ∧
          '/' ∉ a.source.fileName.toList ∧ a.Faithful out) →
        ∀ o ∈ done.sources,
          done.tree.find? (target out o) = some (.file (Text.Utf8.encode o.text))) := by
  refine ⟨fun _ => store_eq_ok_iff, ?_, ?_⟩
  · intro hmake hattempts
    exact exists_store_iff.mpr ⟨hmake, fun _ _ => admitsAll_of_forall hattempts⟩
  · intro u fates done hu hstores
    obtain ⟨hsources, hfaults⟩ := hstores.split
    rw [List.nil_append] at hsources hfaults
    refine ⟨hstores.length_eq, hsources, hfaults, ?_, hstores.nodup .nil, ?_, ?_⟩
    · intro f hf
      rw [hfaults, faultsOf, List.mem_filterMap] at hf
      obtain ⟨x, -, hf⟩ := hf
      obtain ⟨cause, -, rfl⟩ := Option.map_eq_some_iff.mp hf
      rfl
    · intro i a owner hi
      have hnone : owner ∉ ({ tree := u } : Stored).sources := List.not_mem_nil
      rw [hstores.getElem?_eq_taken_iff .nil hi, or_iff_right hnone]
    · intro hattempts
      have hfolder := FileTree.isFolder_iff_leadsTo.mpr (FileTree.leadsTo_of_makeFolders hu)
      have hstart : Holds out { tree := u } :=
        ⟨hfolder, List.forall_mem_nil _, List.forall_mem_nil _⟩
      refine (hstart.stores hstores fun a ha => ?_).held
      obtain ⟨⟨e, name, hfile⟩, hslash, hfaithful⟩ := hattempts a ha
      rw [hfile] at hslash ⊢
      exact ⟨isEntry_fileName hslash, hfaithful⟩

/-- A first source is refused in the middle of its file, so that the name is left to a second one in
another letter case. A third one finds the name taken. The folder lies above the working folder. -/
theorem stored_after_broken_off :
    let out : PathName := .ofText "../generated"
    let t : FileTree := { root := .folder [("srv", .empty)], here := ["srv"] }
    let source (space name : String) : Source :=
      ⟨space ++ "." ++ name, name ++ "DTO", name ++ "DTO.py", "# " ++ space ++ "\n"⟩
    let full : Failure := .system 28 "No space left on device" ["../generated/ItemDTO.py"]
    let attempts : List Attempt := [⟨source "a" "Item", brokenOff [35] full⟩,
      ⟨source "b" "ITEM", plainWriter⟩, ⟨source "c" "Item", plainWriter⟩]
    FileTree.CanMake t out ∧
    (∀ a ∈ attempts, FileTree.unspeakable? (target out a.source) = none ∧
      Text.surrogates? (fun _ => true) a.source.text = none) ∧
    (∀ a ∈ attempts, (∃ (e : Emitter) (name : String), a.source.fileName = e.fileName name) ∧
      '/' ∉ a.source.fileName.toList ∧ a.Faithful out) ∧
    ∃ done, store out t attempts = .ok done ∧ done.sources = [source "b" "ITEM"] ∧
      done.faults.map Fault.cause = [some full, some (taken (source "b" "ITEM"))] ∧
      done.tree.find? (target out (source "b" "ITEM")) =
        some (.file (Text.Utf8.encode "# b\n")) := by
  intro out t source full attempts
  have hmake : FileTree.CanMake t out := by
    have hmade : (t.makeFolders out).toOption.isSome = true := by decide +kernel
    obtain ⟨u, hu⟩ := Option.isSome_iff_exists.mp hmade
    exact FileTree.exists_makeFolders_iff.mp ⟨u, eq_ok_of_toOption hu⟩
  have hasked : ∀ a ∈ attempts, FileTree.unspeakable? (target out a.source) = none ∧
      Text.surrogates? (fun _ => true) a.source.text = none := by
    decide +kernel
  have hentry : ∀ x ∈ [source "a" "Item", source "b" "ITEM", source "c" "Item"],
      (∃ (e : Emitter) (name : String), x.fileName = e.fileName name) ∧
        '/' ∉ x.fileName.toList := by
    simp only [List.forall_mem_cons]
    exact ⟨⟨⟨.ofDialect .python, "Item", rfl⟩, by decide⟩,
      ⟨⟨.ofDialect .python, "ITEM", rfl⟩, by decide⟩,
      ⟨⟨.ofDialect .python, "Item", rfl⟩, by decide⟩, by simp⟩
  have hname : ∀ x ∈ [source "a" "Item", source "b" "ITEM", source "c" "Item"],
      IsEntry x.fileName := by
    intro x hx
    obtain ⟨⟨e, name, hfile⟩, hslash⟩ := hentry x hx
    rw [hfile] at hslash ⊢
    exact isEntry_fileName hslash
  have hattempts : ∀ a ∈ attempts,
      (∃ (e : Emitter) (name : String), a.source.fileName = e.fileName name) ∧
        '/' ∉ a.source.fileName.toList ∧ a.Faithful out := by
    simp only [List.forall_mem_cons] at hentry hname
    simp only [attempts, List.forall_mem_cons] at hasked ⊢
    obtain ⟨⟨hfa, hsa⟩, ⟨hfb, hsb⟩, ⟨hfc, hsc⟩, -⟩ := hentry
    obtain ⟨ha, hb, hc, -⟩ := hname
    obtain ⟨-, ⟨hpb, -⟩, ⟨hpc, -⟩, -⟩ := hasked
    exact ⟨⟨hfa, hsa, faithful_brokenOff ha _ _⟩, ⟨hfb, hsb, faithful_plainWriter hb hpb⟩,
      ⟨hfc, hsc, faithful_plainWriter hc hpc⟩, by simp⟩
  obtain ⟨hstore, hreturns, hall⟩ := stored_sources_hold out t attempts
  obtain ⟨done, hdone⟩ := hreturns hmake hasked
  obtain ⟨u, fates, hu, hstores⟩ := (hstore done).mp hdone
  obtain ⟨-, -, -, -, -, -, hheld⟩ := hall u fates done hu hstores
  have hoption : (store out t attempts).toOption.map
      (fun d => (d.sources, d.faults.map Fault.cause)) =
        some ([source "b" "ITEM"], [some full, some (taken (source "b" "ITEM"))]) := by
    decide +kernel
  rw [hdone] at hoption
  obtain ⟨hsources, hcauses⟩ := Prod.mk.inj (Option.some.inj hoption)
  exact ⟨hmake, hasked, hattempts, done, hdone, hsources, hcauses,
    hheld hattempts _ (hsources ▸ List.mem_singleton_self _)⟩

end Stored

end ShadowTypes.CommandLine
