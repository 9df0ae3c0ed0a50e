import Mathlib.Data.List.Nodup
import ShadowTypes.Proofs.FileTree.Files
import ShadowTypes.Proofs.Halves

/-!
# What is below a folder

In a file tree no two entries of a folder have one name, the system takes every name, and the
working folder is there. The listed ways then lead to all that is below a folder, and those of its files are
listed once each. A path name that leads to a folder leads, with such a way after it, to what the
way leads to.
-/

namespace ShadowTypes

/-! ## Names that the system takes -/

namespace PathName

variable {allowed : Nat → Prop}

theorem within_start (hslash : allowed '/'.toNat) (start : PathStart) (s : String) :
    Text.Within allowed (start.text ++ s) ↔ Text.Within allowed s := by
  have hone (t : String) : Text.Within allowed ("/" ++ t) ↔ Text.Within allowed t := by
    have hsplit := Text.within_append_cons (by decide) hslash "" t
    rwa [String.empty_append, and_iff_right Text.within_empty] at hsplit
  cases start with
  | here => rw [PathStart.text, String.empty_append]
  | root => exact hone s
  | doubleRoot =>
    have htwo : "//" ++ s = "/" ++ ("/" ++ s) := by rw [← String.append_assoc]; rfl
    rw [PathStart.text, htwo, hone, hone]

theorem within_text (hslash : allowed '/'.toNat) (hpoint : allowed '.'.toNat) (p : PathName) :
    Text.Within allowed p.text ↔ ∀ q ∈ p.parts, Text.Within allowed q := by
  have hempty : Text.Within allowed "." := by
    have hpoints : Text.codePoints "." = ['.'.toNat] := by decide +kernel
    rw [Text.Within, hpoints]
    simpa using hpoint
  have hbody : Text.Within allowed (p.start.text ++ "/".intercalate p.parts) ↔
      ∀ q ∈ p.parts, Text.Within allowed q := by
    rw [within_start hslash]
    exact Text.within_intercalate (by decide) hslash p.parts
  rw [← hbody, text]
  split
  · next h => rw [h]; exact iff_of_true hempty Text.within_empty
  · rfl

end PathName

namespace FileTree

/-- The only halves of surrogate pairs in the text are those that stand for bytes of file names. -/
def IsSpeakable (s : String) : Prop :=
  Text.Within (fun n => Text.isSurrogate n = true → Text.isFileByte n = true) s

instance (s : String) : Decidable (IsSpeakable s) := inferInstanceAs (Decidable (Text.Within _ s))

/-- The system can be asked about a path name exactly if it takes all of its parts. -/
theorem unspeakable?_eq_none_iff {p : PathName} :
    unspeakable? p = none ↔ ∀ q ∈ p.parts, IsSpeakable q ∧ '\x00' ∉ q.toList := by
  have htext :
      Text.surrogates? (fun n => !Text.isFileByte n) p.text = none ↔ IsSpeakable p.text := by
    rw [Text.surrogates?, Text.run?_eq_none_iff, IsSpeakable]
    apply forall₂_congr
    intro n _
    cases Text.isSurrogate n <;> simp
  have hnull : p.hasNull = false ↔ ∀ q ∈ p.parts, '\x00' ∉ q.toList := by
    simp [PathName.hasNull, List.any_eq_false]
  have hparts : IsSpeakable p.text ↔ ∀ q ∈ p.parts, IsSpeakable q :=
    p.within_text (by decide) (by decide)
  rw [forall₂_and, ← hnull, ← hparts, ← htext, unspeakable?]
  cases Text.surrogates? (fun n => !Text.isFileByte n) p.text with
  | some place => simp
  | none => simp

/-- A name that the system takes for an entry of a folder. -/
structure IsEntryName (name : String) : Prop extends IsEntry name where
  null_notMem : '\x00' ∉ name.toList
  speakable : IsSpeakable name
  short : isTooLong name = false

instance (name : String) : Decidable (IsEntryName name) :=
  decidable_of_iff (((name ≠ "" ∧ name ≠ ".") ∧ name ≠ ".." ∧ '/' ∉ name.toList) ∧
      '\x00' ∉ name.toList ∧ IsSpeakable name ∧ isTooLong name = false)
    ⟨fun h => ⟨⟨h.1.1.1, h.1.1.2, h.1.2.1, h.1.2.2⟩, h.2.1, h.2.2.1, h.2.2.2⟩,
      fun h => ⟨⟨⟨h.ne_empty, h.ne_point⟩, h.ne_points, h.slash_notMem⟩, h.null_notMem, h.speakable,
        h.short⟩⟩

end FileTree

namespace FileNode

open FileTree (IsEntryName next route)

/-- No two entries of a folder have one name, and the system takes every name. -/
inductive WellFormed : FileNode → Prop
  | file (bytes : List UInt8) : WellFormed (.file bytes)
  | folder {es : List (String × FileNode)} (distinct : (es.map fun e => Text.codePoints e.1).Nodup)
      (names : ∀ e ∈ es, IsEntryName e.1) (entries : ∀ e ∈ es, WellFormed e.2) :
      WellFormed (.folder es)

/-! ## The ways that are listed -/

variable {t c d : FileNode} {es : List (String × FileNode)} {name : String}
  {way parts : List String}

theorem entryFiles_eq (es : List (String × FileNode)) :
    entryFiles es = es.flatMap fun e => e.2.files.map (e.1 :: ·) := by
  induction es with
  | nil => rfl
  | cons e es ih => rw [entryFiles, ih, List.flatMap_cons]

theorem entryWays_eq (es : List (String × FileNode)) :
    entryWays es = es.flatMap fun e => e.2.ways.map (e.1 :: ·) := by
  induction es with
  | nil => rfl
  | cons e es ih => rw [entryWays, ih, List.flatMap_cons]

theorem cons_mem_flatMap_iff {f : FileNode → List (List String)} :
    name :: way ∈ es.flatMap (fun e => (f e.2).map (e.1 :: ·)) ↔
      ∃ d, (name, d) ∈ es ∧ way ∈ f d := by
  constructor
  · intro h
    obtain ⟨⟨q, d⟩, he, hw⟩ := List.mem_flatMap.mp h
    obtain ⟨w, hmem, heq⟩ := List.mem_map.mp hw
    obtain ⟨rfl, rfl⟩ := List.cons.inj heq
    exact ⟨d, he, hmem⟩
  · rintro ⟨d, he, hw⟩
    exact List.mem_flatMap.mpr ⟨_, he, List.mem_map_of_mem hw⟩

theorem child?_folder_eq_some_iff (h : (es.map fun e => Text.codePoints e.1).Nodup) :
    (folder es).child? name = some d ↔ (name, d) ∈ es := by
  have hname : ∀ e ∈ es, ∀ e' ∈ es, e.1 = e'.1 → e = e' := fun e he e' he' heq =>
    List.inj_on_of_nodup_map h he he' (congrArg Text.codePoints heq)
  rw [child?, entries, Option.map_eq_some_iff]
  constructor
  · rintro ⟨⟨q, d⟩, hfound, rfl⟩
    have hq : q = name := by simpa using List.find?_some hfound
    exact hq ▸ List.mem_of_find?_eq_some hfound
  · intro hmem
    have hsome : (es.find? fun e => e.1 == name).isSome := by
      rw [List.find?_isSome]
      exact ⟨_, hmem, beq_self_eq_true name⟩
    obtain ⟨e, he⟩ := Option.isSome_iff_exists.mp hsome
    have heq : e = (name, d) := hname e (List.mem_of_find?_eq_some he) _ hmem
      (by simpa using List.find?_some he)
    exact ⟨e, he, congrArg Prod.snd heq⟩

namespace WellFormed

theorem at?_cons_eq_some_iff (h : WellFormed (.folder es)) :
    (FileNode.folder es).at? (name :: way) = some c ↔
      ∃ d, (name, d) ∈ es ∧ d.at? way = some c := by
  cases h with
  | folder distinct names _ =>
    rw [at?]
    split
    · next hlong =>
      constructor
      · intro hnone
        cases hnone
      · rintro ⟨d, hd, -⟩
        rw [(names _ hd).short] at hlong
        cases hlong
    · rw [Option.bind_eq_some_iff]
      simp only [child?_folder_eq_some_iff distinct]

theorem mem_files_iff (h : t.WellFormed) : way ∈ t.files ↔ HasFile t way := by
  induction h generalizing way with
  | file bytes =>
    cases way with
    | nil => simp [files, HasFile, at?]
    | cons name way => simp [files, HasFile, at?_file_cons]
  | @folder es distinct names entries ih =>
    have hfolder := WellFormed.folder distinct names entries
    rw [files, entryFiles_eq]
    cases way with
    | nil => simp [HasFile, at?]
    | cons name way =>
      rw [cons_mem_flatMap_iff, HasFile]
      simp only [hfolder.at?_cons_eq_some_iff]
      constructor
      · rintro ⟨d, hd, hw⟩
        obtain ⟨bytes, hbytes⟩ := (ih _ hd).mp hw
        exact ⟨bytes, d, hd, hbytes⟩
      · rintro ⟨bytes, d, hd, hbytes⟩
        exact ⟨d, hd, (ih _ hd).mpr ⟨bytes, hbytes⟩⟩

theorem mem_ways_iff (h : t.WellFormed) :
    way ∈ t.ways ↔ way ≠ [] ∧ (t.at? way).isSome = true := by
  induction h generalizing way with
  | file bytes =>
    cases way with
    | nil => simp [ways]
    | cons name way => simp [ways, at?_file_cons]
  | @folder es distinct names entries ih =>
    have hfolder := WellFormed.folder distinct names entries
    rw [ways, entryWays_eq, List.mem_append]
    cases way with
    | nil => simp
    | cons name way =>
      simp only [cons_mem_flatMap_iff, Option.isSome_iff_exists, hfolder.at?_cons_eq_some_iff]
      constructor
      · intro hw
        refine ⟨List.cons_ne_nil _ _, ?_⟩
        rcases hw with hw | ⟨d, hd, hw⟩
        · obtain ⟨⟨q, d⟩, hd, heq⟩ := List.mem_map.mp hw
          obtain ⟨rfl, rfl⟩ := List.cons.inj heq
          exact ⟨d, d, hd, rfl⟩
        · obtain ⟨c, hc⟩ := Option.isSome_iff_exists.mp ((ih _ hd).mp hw).2
          exact ⟨c, d, hd, hc⟩
      · rintro ⟨-, c, d, hd, hc⟩
        cases way with
        | nil => exact .inl (List.mem_map.mpr ⟨_, hd, rfl⟩)
        | cons q way =>
          exact .inr ⟨d, hd, (ih _ hd).mpr ⟨List.cons_ne_nil _ _, by simp [hc]⟩⟩

/-- What is below a node has names that the system takes. -/
theorem isEntryName_of_at? (h : t.WellFormed) (hc : t.at? way = some c) :
    ∀ name ∈ way, IsEntryName name := by
  induction h generalizing way with
  | file bytes =>
    cases way with
    | nil => nofun
    | cons name way =>
      rw [at?_file_cons] at hc
      cases hc
  | @folder es distinct names entries ih =>
    have hfolder := WellFormed.folder distinct names entries
    cases way with
    | nil => nofun
    | cons name way =>
      obtain ⟨d, hd, hc⟩ := hfolder.at?_cons_eq_some_iff.mp hc
      exact List.forall_mem_cons.mpr ⟨names _ hd, ih _ hd hc⟩

theorem of_at? (h : t.WellFormed) (hc : t.at? way = some c) : c.WellFormed := by
  induction h generalizing way with
  | file bytes =>
    cases way with
    | nil =>
      cases hc
      exact .file bytes
    | cons name way =>
      rw [at?_file_cons] at hc
      cases hc
  | @folder es distinct names entries ih =>
    have hfolder := WellFormed.folder distinct names entries
    cases way with
    | nil =>
      cases hc
      exact hfolder
    | cons name way =>
      obtain ⟨d, hd, hc⟩ := hfolder.at?_cons_eq_some_iff.mp hc
      exact ih _ hd hc

/-- The ways to files differ in a name each, and so each file is listed once. -/
theorem nodup_files (h : t.WellFormed) : (t.files.map (·.map Text.codePoints)).Nodup := by
  induction h with
  | file bytes => exact List.nodup_singleton _
  | @folder es distinct names entries ih =>
    have hblock : ∀ e : String × FileNode,
        (e.2.files.map (e.1 :: ·)).map (·.map Text.codePoints) =
          (e.2.files.map (·.map Text.codePoints)).map (Text.codePoints e.1 :: ·) := by
      intro e
      simp [Function.comp_def]
    -- ways through two entries differ in their first names
    have hdisjoint : ∀ {e e' : String × FileNode}, Text.codePoints e.1 ≠ Text.codePoints e'.1 →
        ((e.2.files.map (e.1 :: ·)).map (·.map Text.codePoints)).Disjoint
          ((e'.2.files.map (e'.1 :: ·)).map (·.map Text.codePoints)) := by
      intro e e' hne
      rw [hblock, hblock]
      intro w hw hw'
      obtain ⟨u, -, rfl⟩ := List.mem_map.mp hw
      obtain ⟨u', -, heq⟩ := List.mem_map.mp hw'
      exact hne (List.cons.inj heq).1.symm
    rw [files, entryFiles_eq, List.map_flatMap, List.nodup_flatMap]
    constructor
    · intro e he
      rw [hblock]
      exact (ih e he).map fun _ _ heq => (List.cons.inj heq).2
    · exact (List.pairwise_map.mp distinct).imp hdisjoint

end WellFormed

/-- Names pass through folders if they lead anywhere. -/
theorem passes_of_at? (h : ".." ∉ parts) (hc : (t.at? (way ++ parts)).isSome = true) :
    Passes t way parts := by
  induction parts generalizing way with
  | nil => trivial
  | cons q qs ih =>
    obtain ⟨hq, hqs⟩ := List.ne_and_not_mem_of_not_mem_cons h
    rw [Passes, FileTree.next_of_ne hq.symm]
    refine ⟨?_, ih hqs (by rwa [List.append_assoc, List.singleton_append])⟩
    rw [at?_append] at hc
    cases hd : t.at? way with
    | none =>
      rw [hd] at hc
      cases hc
    | some d =>
      rw [hd, Option.bind_some] at hc
      cases d with
      | folder es => exact ⟨es, hd⟩
      | file bytes =>
        rw [at?_file_cons] at hc
        cases hc

end FileNode

namespace FileTree

/-! ## Path names below a folder -/

variable {t : FileTree} {p : PathName} {c d : FileNode} {way parts : List String}

/-- What lies below the root is in order, and the working folder is there. -/
structure WellFormed (t : FileTree) : Prop where
  nodes : t.root.WellFormed
  here : FileNode.HasFolder t.root t.here

theorem route_of_notMem (h : ".." ∉ parts) : route way parts = way ++ parts := by
  induction parts generalizing way with
  | nil => rw [List.append_nil]; rfl
  | cons q qs ih =>
    obtain ⟨hq, hqs⟩ := List.ne_and_not_mem_of_not_mem_cons h
    rw [route_cons, next_of_ne hq.symm, ih hqs, List.append_assoc, List.singleton_append]

theorem way_append (h : ".." ∉ parts) (t : FileTree) (p : PathName) :
    t.way (p.append parts) = t.way p ++ parts := by
  rw [way, way, steps_append, route_append, route_of_notMem h]

/-- Names after a path name that leads to a folder lead to what is below the folder. -/
theorem LeadsTo.reach_append_eq_ok_iff (h : LeadsTo t p) (hd : t.root.at? (t.way p) = some d)
    (hway : ∀ name ∈ way, IsEntryName name) (hshort : isOverlong (p.append way) = false) :
    t.reach (p.append way) = .ok c ↔ d.at? way = some c := by
  have hpoints : ".." ∉ way := fun hmem => (hway _ hmem).ne_points rfl
  have hspeak : unspeakable? (p.append way) = none := by
    rw [unspeakable?_eq_none_iff, PathName.parts_append, List.forall_mem_append]
    exact ⟨unspeakable?_eq_none_iff.mp h.speakable,
      fun q hq => ⟨(hway q hq).speakable, (hway q hq).null_notMem⟩⟩
  rw [reach_eq_ok_iff, and_iff_right hspeak, and_iff_right hshort, way_append hpoints,
    steps_append, FileNode.passes_append_iff, FileNode.at?_append, hd, Option.bind_some]
  apply and_iff_right_of_imp
  intro hc
  refine ⟨h.passes, FileNode.passes_of_at? hpoints ?_⟩
  change ((t.root.at? (t.way p ++ way)).isSome) = true
  rw [FileNode.at?_append, hd, Option.bind_some, hc]
  rfl

end FileTree

end ShadowTypes
