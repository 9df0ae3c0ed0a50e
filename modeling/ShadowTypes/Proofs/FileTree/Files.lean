import ShadowTypes.Proofs.FileTree.Folders
import ShadowTypes.Proofs.Lines

/-!
# Files in a folder

A path name that leads to a folder takes a way through folders, back and forth. A file that is
written into the folder is found there again. The other entries of the folder stay as they are, and
so do all folders of the tree, so that the path name leads to the folder as before.
-/

namespace ShadowTypes

namespace FileNode

open FileTree (isTooLong next route)

variable {t u c : FileNode} {p name other : String} {way w names : List String}
  {bytes : List UInt8}

/-! ## Putting a file into a folder -/

theorem at?_concat (t : FileNode) (way : List String) (p : String) :
    t.at? (way ++ [p]) =
      (t.at? way).bind fun c => if isTooLong p then none else c.child? p := by
  rw [at?_append]
  congr 1
  funext c
  rw [at?]
  split
  · rfl
  · cases c.child? p <;> rfl

theorem at?_put_file (hway : HasFolder t way) (hname : isTooLong name = false) :
    (put (.file bytes) (way ++ [name]) t).at? (way ++ [name]) = some (.file bytes) := by
  induction way generalizing t with
  | nil =>
    rw [List.nil_append, at?, if_neg (by simp [hname]), child?_put, if_pos rfl]
    rfl
  | cons p way ih =>
    obtain ⟨hp, c, hc, hrest⟩ := hasFolder_cons_iff.mp hway
    rw [List.cons_append, at?, if_neg (by simp [hp]), child?_put, if_pos rfl, hc]
    exact ih hrest

theorem at?_put_other (hway : HasFolder t way) (hne : other ≠ name) :
    (put (.file bytes) (way ++ [name]) t).at? (way ++ [other]) = t.at? (way ++ [other]) := by
  induction way generalizing t with
  | nil =>
    rw [List.nil_append, List.nil_append, at?, at?, child?_put, if_neg hne]
  | cons p way ih =>
    obtain ⟨hp, c, hc, hrest⟩ := hasFolder_cons_iff.mp hway
    rw [List.cons_append, List.cons_append, at?, at?, if_neg (by simp [hp]),
      if_neg (by simp [hp]), child?_put, if_pos rfl, hc]
    exact ih hrest

/-- All folders stay, unless the file takes the place of one. -/
theorem HasFolder.put_file (hw : HasFolder t w) (hway : HasFolder t way)
    (hfree : ¬ HasFolder t (way ++ [name])) :
    HasFolder (put (.file bytes) (way ++ [name]) t) w := by
  induction way generalizing t w with
  | nil =>
    cases w with
    | nil => exact ⟨_, rfl⟩
    | cons r rs =>
      rw [hasFolder_cons_iff] at hw ⊢
      obtain ⟨hr, c, hc, hrs⟩ := hw
      refine ⟨hr, c, ?_, hrs⟩
      rw [List.nil_append, child?_put, if_neg, hc]
      rintro rfl
      -- What leads to a folder is a folder itself.
      exact hfree (hasFolder_cons_iff.mpr ⟨hr, c, hc, hrs.nil⟩)
  | cons p way ih =>
    obtain ⟨hp, c, hc, hrest⟩ := hasFolder_cons_iff.mp hway
    cases w with
    | nil => exact ⟨_, rfl⟩
    | cons r rs =>
      rw [hasFolder_cons_iff] at hw ⊢
      obtain ⟨hr, d, hd, hrs⟩ := hw
      refine ⟨hr, ?_⟩
      rw [List.cons_append, child?_put]
      by_cases hrp : r = p
      · subst hrp
        obtain rfl : c = d := Option.some.inj (hc.symm.trans hd)
        rw [if_pos rfl, hc]
        exact ⟨_, rfl, ih hrs hrest fun h => hfree (hasFolder_cons_iff.mpr ⟨hr, c, hc, h⟩)⟩
      · rw [if_neg hrp]
        exact ⟨d, hd, hrs⟩

/-! ## Walking -/

/-- A node at a way with the folders above it, the nearest first. -/
inductive Located (t : FileNode) : List String → List FileNode → FileNode → Prop
  | root : Located t [] [] t
  | step {way above d c p} : Located t way above d → isTooLong p = false →
      d.child? p = some c → Located t (way ++ [p]) (d :: above) c

theorem Located.at?_eq {above : List FileNode} (h : Located t way above c) :
    t.at? way = some c := by
  induction h with
  | root => rfl
  | step hd hp hc ih => rw [at?_concat, ih, Option.bind_some, if_neg (by simp [hp]), hc]

theorem Passes.isSome_at? (h : Passes t way names)
    (hc : (t.at? (route way names)).isSome = true) : (t.at? way).isSome = true := by
  cases names with
  | nil => exact hc
  | cons q qs =>
    obtain ⟨es, hes⟩ := h.1
    rw [hes]
    rfl

/-- Names lead to what their way leads to, as long as they pass through folders. -/
theorem walk_eq_ok_iff {above : List FileNode} {d : FileNode} (h : Located t way above d) :
    walk above d names = .ok c ↔ Passes t way names ∧ t.at? (route way names) = some c := by
  induction names generalizing way above d with
  | nil =>
    rw [walk, Passes, route, List.foldl_nil, h.at?_eq, Except.ok.injEq, Option.some_inj, true_and]
  | cons q qs ih =>
    rw [Passes, FileTree.route_cons]
    cases d with
    | file bytes =>
      have hfolder : ¬ HasFolder t way := by
        rintro ⟨es, hes⟩
        rw [h.at?_eq] at hes
        cases hes
      simp [walk, hfolder]
    | folder es =>
      have hfolder : HasFolder t way := ⟨es, h.at?_eq⟩
      rw [and_iff_right hfolder]
      unfold walk
      dsimp only
      split
      · next hq =>
        subst hq
        rw [FileTree.next_points]
        cases h with
        | root => exact ih .root
        | step hd hp hc =>
          rw [List.dropLast_concat]
          exact ih hd
      · next hq =>
        rw [FileTree.next_of_ne hq]
        have hnext := at?_concat t way q
        rw [h.at?_eq, Option.bind_some] at hnext
        have hstuck : t.at? (way ++ [q]) = none →
            ¬(Passes t (way ++ [q]) qs ∧ t.at? (route (way ++ [q]) qs) = some c) := by
          rintro hnone ⟨hpasses, hc⟩
          have hsome := hpasses.isSome_at? (by rw [hc]; rfl)
          rw [hnone] at hsome
          cases hsome
        split
        · next hlong =>
          exact iff_of_false (by rintro ⟨⟩) (hstuck (by rw [hnext, if_pos hlong]))
        · next hlong =>
          rw [if_neg hlong] at hnext
          cases hchild : (folder es).child? q with
          | none => exact iff_of_false (by rintro ⟨⟩) (hstuck (hnext.trans hchild))
          | some d => exact ih (.step h (eq_false_of_ne_true hlong) hchild)

theorem passes_append_iff {more : List String} :
    Passes t way (names ++ more) ↔ Passes t way names ∧ Passes t (route way names) more := by
  induction names generalizing way with
  | nil => exact (and_iff_right trivial).symm
  | cons q qs ih =>
    rw [List.cons_append, Passes, Passes, FileTree.route_cons, ih, and_assoc]

theorem Passes.hasFolder (h : Passes t way names) (hroute : HasFolder t (route way names)) :
    HasFolder t way := by
  cases names with
  | nil => exact hroute
  | cons q qs => exact h.1

end FileNode

namespace FileTree

open FileNode (HasFolder HasFile Passes)

variable {t u : FileTree} {n m c : FileNode} {name other : String} {way names : List String}
  {bytes : List UInt8}

theorem route_append (way names more : List String) :
    route way (names ++ more) = route (route way names) more := List.foldl_append

theorem route_concat (hname : name ≠ "..") :
    route way (names ++ [name]) = route way names ++ [name] := by
  rw [route_append, route_cons, next_of_ne hname]
  rfl

theorem writeFrom_concat (h : Passes n way names) (hroute : HasFolder n (route way names)) :
    writeFrom n bytes way (names ++ [name]) = writeFrom n bytes (route way names) [name] := by
  induction names generalizing way with
  | nil => rfl
  | cons q qs ih =>
    rw [List.cons_append, writeFrom, route_cons]
    obtain ⟨hfolder, hrest⟩ := h
    rw [route_cons] at hroute
    by_cases hq : q = ".."
    · subst hq
      rw [next_points] at hrest hroute ⊢
      rw [if_pos rfl, ih hrest hroute]
    · rw [next_of_ne hq] at hrest hroute ⊢
      have hnext : HasFolder n (way ++ [q]) := hrest.hasFolder hroute
      have hshort : isTooLong q = false := hnext.short q (by simp)
      obtain ⟨es, hes⟩ := hnext
      rw [if_neg hq, if_neg (by simp [hshort])]
      dsimp only
      rw [if_neg (by simp), hes]
      exact ih hrest hroute

theorem writeFrom_name_eq_ok (hname : name ≠ "..") (h : writeFrom n bytes way [name] = .ok m) :
    isTooLong name = false ∧ ¬ HasFolder n (way ++ [name]) ∧
      m = .put (.file bytes) (way ++ [name]) n := by
  rw [writeFrom, if_neg hname] at h
  split at h
  · cases h
  · next hshort =>
    dsimp only at h
    rw [if_pos List.isEmpty_nil] at h
    refine ⟨eq_false_of_ne_true hshort, ?_⟩
    split at h
    · cases h
    · next hfree =>
      refine ⟨?_, (Except.ok.inj h).symm⟩
      rintro ⟨es, hes⟩
      exact hfree es hes

/-! ## Path names -/

/-- A name that an entry of a folder can have. -/
structure IsEntry (name : String) : Prop where
  ne_empty : name ≠ ""
  ne_point : name ≠ "."
  ne_points : name ≠ ".."
  slash_notMem : '/' ∉ name.toList

theorem join_ofText (h : IsEntry name) (out : PathName) :
    out.join (.ofText name) = out.append [name] := by
  have hfirst : name.toList.takeWhile (· == '/') = [] := by
    cases hl : name.toList with
    | nil => rfl
    | cons c r =>
      refine List.takeWhile_cons_of_neg ?_
      rw [beq_iff_eq]
      rintro rfl
      exact h.slash_notMem (hl ▸ List.mem_cons_self)
  have hstart : PathName.startOf name.toList = .here := by rw [PathName.startOf, hfirst]; rfl
  have hparts : PathName.partsOf name.toList = [name] := by
    rw [PathName.partsOf, Text.splitAt_of_notMem h.slash_notMem, List.map_singleton,
      String.ofList_toList]
    simp [h.ne_empty, h.ne_point]
  simp only [PathName.ofText, hstart, hparts, PathName.join, PathName.isAbsolute, bne_self_eq_false,
    Bool.false_eq_true, if_false, PathName.append]

variable {out : PathName}

theorem steps_append (t : FileTree) (out : PathName) (names : List String) :
    t.steps (out.append names) = t.steps out ++ names := by
  rw [steps, steps, PathName.parts_append]
  change (if out.isAbsolute then _ else _) = _
  split
  · rfl
  · rw [List.append_assoc]

theorem steps_beginning (t : FileTree) (out : PathName) :
    t.steps out = t.steps out.beginning ++ out.parts :=
  steps_append t out.beginning out.parts

theorem reach_eq_ok_iff : t.reach out = .ok c ↔ unspeakable? out = none ∧ isOverlong out = false ∧
    Passes t.root [] (t.steps out) ∧ t.root.at? (t.way out) = some c := by
  rw [way, ← FileNode.walk_eq_ok_iff .root, reach]
  cases unspeakable? out with
  | some x => simp
  | none => cases isOverlong out <;> simp

/-- The way to a folder of the tree that a path name leads to. -/
structure LeadsTo (t : FileTree) (out : PathName) : Prop where
  speakable : unspeakable? out = none
  short : isOverlong out = false
  passes : Passes t.root [] (t.steps out)
  folder : HasFolder t.root (t.way out)

theorem isFolder_iff_reach : t.isFolder out = true ↔ ∃ es, t.reach out = .ok (.folder es) := by
  rw [isFolder, find?]
  cases t.reach out with
  | error o => simp [Except.toOption]
  | ok c => cases c <;> simp [Except.toOption]

theorem isFile_iff_reach : t.isFile out = true ↔ ∃ bytes, t.reach out = .ok (.file bytes) := by
  rw [isFile, find?]
  cases t.reach out with
  | error o => simp [Except.toOption]
  | ok c => cases c <;> simp [Except.toOption]

theorem isFolder_iff_leadsTo : t.isFolder out = true ↔ LeadsTo t out := by
  simp only [isFolder_iff_reach, reach_eq_ok_iff]
  constructor
  · rintro ⟨es, hspeak, hshort, hpasses, hfolder⟩
    exact ⟨hspeak, hshort, hpasses, es, hfolder⟩
  · rintro ⟨hspeak, hshort, hpasses, es, hfolder⟩
    exact ⟨es, hspeak, hshort, hpasses, hfolder⟩

/-! ## Folders that were made -/

theorem exists_makeFolders_iff : (∃ u, makeFolders out t = .ok u) ↔ CanMake t out := by
  have hmade (h : t.isFolder out.beginning = true) :
      (∃ root, makeFoldersFrom out t.root (t.way out.beginning) false [] out.parts = .ok root) ↔
        Clear t.root (t.way out.beginning) out.parts :=
    exists_makeFoldersFrom_iff out false [] out.parts (fun _ => .rfl)
      (isFolder_iff_leadsTo.mp h).folder
  simp only [makeFolders_eq_ok_iff]
  constructor
  · rintro ⟨u, hspeak, hshort, hstart, root, hroot, -⟩
    exact ⟨hspeak, hshort, hstart, (hmade hstart).mp ⟨root, hroot⟩⟩
  · rintro ⟨hspeak, hshort, hstart, hclear⟩
    obtain ⟨root, hroot⟩ := (hmade hstart).mpr hclear
    exact ⟨_, hspeak, hshort, hstart, root, hroot, rfl⟩

/-- The path name along which folders were made leads to a folder. -/
theorem leadsTo_of_makeFolders (h : makeFolders out t = .ok u) : LeadsTo u out := by
  obtain ⟨hspeak, hshort, hstart, root, hroot, rfl⟩ := makeFolders_eq_ok_iff.mp h
  have hleads := isFolder_iff_leadsTo.mp hstart
  obtain ⟨hkeep, hpasses, hfolder⟩ := spec_makeFoldersFrom hroot hleads.folder
  refine ⟨hspeak, hshort, ?_, ?_⟩
  · change Passes root [] (t.steps out)
    rw [steps_beginning, FileNode.passes_append_iff]
    exact ⟨hleads.passes.mono hkeep, hpasses⟩
  · change HasFolder root (route [] (t.steps out))
    rw [steps_beginning, route_append]
    exact hfolder

/-! ## Writing into a folder -/

/-- An entry of a folder is found by its name, if the system can be asked about the path name. -/
theorem find?_entry (h : LeadsTo t out) (hname : IsEntry name) :
    t.find? (out.join (.ofText name)) =
      if (unspeakable? (out.join (.ofText name))).isSome then none
      else if isOverlong (out.join (.ofText name)) then none
      else t.root.at? (t.way out ++ [name]) := by
  have hsteps : t.steps (out.join (.ofText name)) = t.steps out ++ [name] := by
    rw [join_ofText hname, steps_append]
  have hpasses : Passes t.root [] (t.steps out ++ [name]) :=
    FileNode.passes_append_iff.mpr ⟨h.passes, h.folder, trivial⟩
  rw [find?, reach]
  split
  · rfl
  · split
    · rfl
    · ext c
      have hwalk : t.root.walk [] (t.steps out ++ [name]) = .ok c ↔ _ :=
        FileNode.walk_eq_ok_iff .root
      rw [and_iff_right hpasses, route_concat hname.ne_points] at hwalk
      rw [hsteps, way, ← hwalk]
      cases t.root.walk [] (t.steps out ++ [name]) <;> simp [Except.toOption]

theorem write_entry_eq_ok (h : LeadsTo t out) (hname : IsEntry name)
    (hwrite : t.write (out.join (.ofText name)) bytes = .ok u) :
    isOverlong (out.join (.ofText name)) = false ∧ isTooLong name = false ∧
      ¬ HasFolder t.root (t.way out ++ [name]) ∧
      u = { t with root := .put (.file bytes) (t.way out ++ [name]) t.root } := by
  rw [write] at hwrite
  split at hwrite
  · cases hwrite
  · next hshort =>
    refine ⟨eq_false_of_ne_true hshort, ?_⟩
    rw [join_ofText hname, steps_append, writeFrom_concat h.passes h.folder] at hwrite
    split at hwrite
    · next root hroot =>
      obtain ⟨hlong, hfree, rfl⟩ := writeFrom_name_eq_ok hname.ne_points hroot
      exact ⟨hlong, hfree, (Except.ok.inj hwrite).symm⟩
    · cases hwrite

section Write

variable (h : LeadsTo t out) (hname : IsEntry name)
  (hwrite : t.write (out.join (.ofText name)) bytes = .ok u)

include h hname hwrite

theorem leadsTo_of_write : LeadsTo u out := by
  obtain ⟨-, -, hfree, rfl⟩ := write_entry_eq_ok h hname hwrite
  have hfolders : ∀ w, HasFolder t.root w →
      HasFolder (.put (.file bytes) (t.way out ++ [name]) t.root) w :=
    fun w hw => hw.put_file h.folder hfree
  exact ⟨h.speakable, h.short, h.passes.mono hfolders, hfolders _ h.folder⟩

theorem find?_of_write (hspeak : unspeakable? (out.join (.ofText name)) = none) :
    u.find? (out.join (.ofText name)) = some (.file bytes) := by
  have hu := leadsTo_of_write h hname hwrite
  obtain ⟨hshort, hlong, -, rfl⟩ := write_entry_eq_ok h hname hwrite
  rw [find?_entry hu hname, hspeak, hshort]
  exact FileNode.at?_put_file h.folder hlong

theorem find?_other_of_write (hother : IsEntry other) (hne : other ≠ name) :
    u.find? (out.join (.ofText other)) = t.find? (out.join (.ofText other)) := by
  have hu := leadsTo_of_write h hname hwrite
  obtain ⟨-, -, -, rfl⟩ := write_entry_eq_ok h hname hwrite
  have hat : (FileNode.put (.file bytes) (t.way out ++ [name]) t.root).at? (t.way out ++ [other]) =
      t.root.at? (t.way out ++ [other]) := FileNode.at?_put_other h.folder hne
  rw [find?_entry hu hother, find?_entry h hother, ← hat]
  rfl

end Write

end FileTree

end ShadowTypes
