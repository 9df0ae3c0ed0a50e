import Mathlib.Data.List.Lex
import Mathlib.Order.Lattice
import ShadowTypes.DocumentFile
import ShadowTypes.Proofs.FileTree.Ways
import ShadowTypes.Proofs.Outcomes

/-!
# Folders of documents

A folder stands for the documents below it, each once and in ascending order of their path names. A
document that is found so is there and has a format; only a path name that was given itself can lead
nowhere or to a file of no format. Names that are too long, given or found, are a failure.
-/

namespace ShadowTypes

open FileTree (IsEntryName route)

variable {t : FileTree} {p q : PathName} {ps : List PathName}

/-- A path name comes before another one in the order of their parts. -/
def PathName.Precedes (p q : PathName) : Prop :=
  p.parts.map Text.codePoints < q.parts.map Text.codePoints

namespace DocumentFile

/-! ## What can be expanded -/

/-- A path name can be asked for, and so can all that is below it if it leads to a folder. -/
structure CanExpand (t : FileTree) (p : PathName) : Prop where
  named : t.reach p ≠ .error .nameTooLong
  below : ∀ es, t.reach p = .ok (.folder es) → ∀ way ∈ (FileNode.folder es).ways,
    FileTree.isOverlong (p.append way) = false

def segment (t : FileTree) (p : PathName) : List PathName :=
  match t.reach p with
  | .ok (.folder es) => below (.folder es) p
  | _ => [p]

theorem overlong?_eq_none_iff {d : FileNode} :
    overlong? d p = none ↔ ∀ way ∈ d.ways, FileTree.isOverlong (p.append way) = false := by
  simp [overlong?, List.find?_eq_none]

theorem expandOne_folder {es : List (String × FileNode)} (h : t.reach p = .ok (.folder es)) :
    expandOne t p = match overlong? (.folder es) p with
      | some q => .error (FileTree.Obstacle.nameTooLong.failure q.text)
      | none => .ok (below (.folder es) p) := by
  rw [expandOne, FileTree.look, h]
  change (match overlong? (.folder es) p with | some q => _ | none => _) = _
  cases overlong? (.folder es) p <;> rfl

theorem expandOne_of_canExpand (h : CanExpand t p) : expandOne t p = .ok (segment t p) := by
  obtain ⟨hnamed, hbelow⟩ := h
  cases hreach : t.reach p with
  | ok d =>
    cases d with
    | file bytes => rw [expandOne, FileTree.look, segment, hreach]; rfl
    | folder es =>
      rw [expandOne_folder hreach, overlong?_eq_none_iff.mpr (hbelow es hreach), segment, hreach]
  | error o =>
    rw [expandOne, FileTree.look, segment, hreach]
    cases o with
    | nameTooLong => exact absurd hreach hnamed
    | missing | occupied | notFolder | isFolder => rfl

theorem expandOne_of_not_canExpand (h : ¬ CanExpand t p) :
    ∃ q : PathName, expandOne t p = .error (FileTree.Obstacle.nameTooLong.failure q.text) := by
  cases hreach : t.reach p with
  | ok d =>
    cases d with
    | file bytes => exact absurd ⟨by simp [hreach], by simp [hreach]⟩ h
    | folder es =>
      rw [expandOne_folder hreach]
      cases hlong : overlong? (.folder es) p with
      | some q => exact ⟨q, rfl⟩
      | none =>
        apply absurd _ h
        refine ⟨by simp [hreach], ?_⟩
        intro es' hes'
        cases hreach.symm.trans hes'
        exact overlong?_eq_none_iff.mp hlong
  | error o =>
    cases o with
    | nameTooLong => exact ⟨p, by rw [expandOne, FileTree.look, hreach]; rfl⟩
    | missing | occupied | notFolder | isFolder =>
      exact absurd ⟨by simp [hreach], by simp [hreach]⟩ h

theorem exists_expandOne_iff : (∃ qs, expandOne t p = .ok qs) ↔ CanExpand t p := by
  constructor
  · rintro ⟨qs, hqs⟩
    by_contra h
    obtain ⟨q, hq⟩ := expandOne_of_not_canExpand h
    cases hqs.symm.trans hq
  · intro h
    exact ⟨_, expandOne_of_canExpand h⟩

theorem exists_expand_iff : (∃ paths, expand t ps = .ok paths) ↔ ∀ p ∈ ps, CanExpand t p := by
  rw [expand, exists_bind_eq_ok_iff]
  simp only [← exists_expandOne_iff, ← exists_mapM_eq_ok_iff]
  exact exists_congr fun paths => and_iff_left ⟨_, rfl⟩

/-! ## The documents below a folder -/

/-- A document below a path name: more names after it lead to a file, whose suffix is in any letter
case that of a document. -/
def IsBelow (t : FileTree) (p q : PathName) : Prop :=
  ∃ way, way ≠ [] ∧ ".." ∉ way ∧ q = p.append way ∧ t.isFile q = true ∧
    q.suffix ∈ [".yaml", ".yml", ".json"]

theorem hasSuffix_iff : hasSuffix q = true ↔ q.suffix ∈ [".yaml", ".yml", ".json"] := by
  rw [hasSuffix, format?]
  simp only [Bool.or_eq_true, decide_eq_true_eq, List.mem_cons, List.not_mem_nil, or_false]
  split
  · next h => simp [h]
  · next hjson =>
    split
    · next h => rcases h with h | h <;> simp [h]
    · next h => simpa [hjson] using h

theorem mem_below_iff {es : List (String × FileNode)} (ht : t.WellFormed) (hp : CanExpand t p)
    (hreach : t.reach p = .ok (.folder es)) : q ∈ below (.folder es) p ↔ IsBelow t p q := by
  have hleads : FileTree.LeadsTo t p :=
    FileTree.isFolder_iff_leadsTo.mp (FileTree.isFolder_iff_reach.mpr ⟨es, hreach⟩)
  obtain ⟨-, -, -, hat⟩ := FileTree.reach_eq_ok_iff.mp hreach
  have hes : (FileNode.folder es).WellFormed := ht.nodes.of_at? hat
  -- what is listed is asked for under names that the system takes, and is then found as it is
  have hfile (way : List String) : way ∈ (FileNode.folder es).files ↔
      way ≠ [] ∧ ".." ∉ way ∧ t.isFile (p.append way) = true := by
    rw [hes.mem_files_iff, FileTree.isFile_iff_reach]
    constructor
    · rintro ⟨bytes, hbytes⟩
      have hnames := hes.isEntryName_of_at? hbytes
      have hne : way ≠ [] := by
        rintro rfl
        cases hbytes
      have hshort := hp.below es hreach way (hes.mem_ways_iff.mpr ⟨hne, by simp [hbytes]⟩)
      exact ⟨hne, fun hmem => (hnames _ hmem).ne_points rfl, bytes,
        (hleads.reach_append_eq_ok_iff hat hnames hshort).mpr hbytes⟩
    · rintro ⟨-, hpoints, bytes, hbytes⟩
      obtain ⟨-, -, -, hway⟩ := FileTree.reach_eq_ok_iff.mp hbytes
      rw [FileTree.way_append hpoints, FileNode.at?_append, hat, Option.bind_some] at hway
      exact ⟨bytes, hway⟩
  rw [below, List.mem_mergeSort, List.mem_filter, List.mem_map, IsBelow]
  constructor
  · rintro ⟨⟨way, hway, rfl⟩, hsuffix⟩
    obtain ⟨hne, hpoints, hway⟩ := (hfile way).mp hway
    exact ⟨way, hne, hpoints, rfl, hway, hasSuffix_iff.mp hsuffix⟩
  · rintro ⟨way, hne, hpoints, rfl, hway, hsuffix⟩
    exact ⟨⟨way, (hfile way).mpr ⟨hne, hpoints, hway⟩, rfl⟩, hasSuffix_iff.mpr hsuffix⟩

theorem le_iff {r : PathName} :
    q.le r = true ↔ q.parts.map Text.codePoints ≤ r.parts.map Text.codePoints := by
  rw [← not_lt]
  simp [PathName.le]

/-- The documents below a folder are in ascending order, and so none is there twice. -/
theorem pairwise_below {d : FileNode} (hd : d.WellFormed) :
    (below d p).Pairwise PathName.Precedes := by
  have htrans (a b c : PathName) (hab : a.le b = true) (hbc : b.le c = true) : a.le c = true :=
    le_iff.mpr ((le_iff.mp hab).trans (le_iff.mp hbc))
  have htotal (a b : PathName) : (a.le b || b.le a) = true := by
    rw [Bool.or_eq_true, le_iff, le_iff]
    exact le_total _ _
  have hsorted : (below d p).Pairwise fun q r => q.le r = true :=
    List.pairwise_mergeSort htrans htotal _
  have hdistinct : (below d p).Pairwise fun q r =>
      q.parts.map Text.codePoints ≠ r.parts.map Text.codePoints := by
    have hlisted : (d.files.map p.append).Pairwise fun q r =>
        q.parts.map Text.codePoints ≠ r.parts.map Text.codePoints := by
      rw [List.pairwise_map]
      apply (List.pairwise_map.mp hd.nodup_files).imp
      intro way way' hne heq
      apply hne
      simpa using heq
    exact (List.mergeSort_perm _ _).symm.pairwise (hlisted.filter _) fun h => h.symm
  exact (hsorted.and hdistinct).imp fun h => lt_of_le_of_ne (le_iff.mp h.1) h.2

/-! ## Path names that are refused -/

/-- What the reasons begin with for which the text of a document is not used. -/
def reasonStarts : List String :=
  ["cannot parse ", "unexpected top-level keys: ", "'models' must be a list",
    "expected a mapping with a 'models' list, got "]

theorem exists_reason_of_parse {v : Value} {origin : String} {f : Fault}
    (h : Document.parse v origin = .error f) :
    ∃ start ∈ reasonStarts, ∃ rest, f = .invalidDocument origin (start ++ rest) := by
  rw [Document.parse] at h
  split at h
  · cases h
  · cases h
  · simp only at h
    split at h
    · cases h
      exact ⟨_, by simp [reasonStarts], _, rfl⟩
    · split at h
      · cases h
      · split at h
        · cases h
        · split at h
          · cases h
          · cases h
            exact ⟨"'models' must be a list", by simp [reasonStarts], "",
              by rw [String.append_empty]⟩
  · cases h
    exact ⟨_, by simp [reasonStarts], _, rfl⟩

theorem exists_reason_of_decode {format : Document.Format} {name s origin : String} {f : Fault}
    (h : Document.decode format name s origin = .ok (.error f)) :
    ∃ start ∈ reasonStarts, ∃ rest, f = .invalidDocument origin (start ++ rest) := by
  have hrefused (rest : String)
      (hf : Fault.invalidDocument origin ("cannot parse " ++ name ++ rest) = f) :
      ∃ start ∈ reasonStarts, ∃ rest, f = .invalidDocument origin (start ++ rest) :=
    ⟨"cannot parse ", by simp [reasonStarts], name ++ rest, by rw [← hf, String.append_assoc]⟩
  cases format with
  | json =>
    simp only [Document.decode] at h
    split at h
    · cases h
    · split at h
      · cases h
      · cases h
        exact hrefused _ rfl
  | yaml =>
    simp only [Document.decode] at h
    split at h
    · cases h
    · cases h
    · cases h
      exact hrefused _ rfl

theorem exists_reason_of_load {s name origin : String} {f : Fault}
    (h : Document.load s name origin = .ok (.error f)) :
    ∃ start ∈ reasonStarts, ∃ rest, f = .invalidDocument origin (start ++ rest) := by
  rw [Document.load] at h
  obtain ⟨r, hr, h⟩ := exists_of_bind_eq_ok h
  cases r with
  | error f' =>
    cases h
    exact exists_reason_of_decode hr
  | ok v =>
    change Document.receive v origin = _ at h
    rw [Document.receive] at h
    split at h
    · cases h
    · exact exists_reason_of_parse (Except.ok.inj h)

/-- The loading of a path name ends with the fault that there is no such file, or that its format is
not supported. -/
def Refused (t : FileTree) (p : PathName) : Prop :=
  ∃ f events, load t p = .ok (.error f, events) ∧ (f.code = .fileNotFound ∨
    ∃ suffix, f = .invalidDocument p.text ("unsupported file type '" ++ suffix ++ "'"))

theorem invalidDocument_inj {path r r' : String}
    (h : Fault.invalidDocument path r = Fault.invalidDocument path r') : r = r' := by
  have hmessage := congrArg Fault.message h
  simpa [Fault.invalidDocument, Fault.invalid] using hmessage

theorem reason_ne_unsupported {start rest suffix : String} (h : start ∈ reasonStarts) :
    start ++ rest ≠ "unsupported file type '" ++ suffix ++ "'" := by
  -- the first three characters tell the reasons apart
  have hstart : ∀ start ∈ reasonStarts,
      3 ≤ start.toList.length ∧ start.toList.take 3 ≠ "uns".toList := by
    decide +kernel
  have hunsupported : 3 ≤ "unsupported file type '".toList.length := by decide +kernel
  obtain ⟨hlength, hne⟩ := hstart start h
  intro heq
  have htake := congrArg (·.toList.take 3) heq
  rw [String.toList_append, List.take_append_of_le_length hlength, String.append_assoc,
    String.toList_append, List.take_append_of_le_length hunsupported] at htake
  exact hne (htake.trans (by decide +kernel))

theorem load_of_reach_file {bytes : List UInt8} (h : t.reach p = .ok (.file bytes)) :
    load t p = read p bytes := by
  simp only [load, FileTree.look, h, bind, Except.bind]

theorem not_refused_of_format {bytes : List UInt8} {format : Document.Format}
    (hreach : t.reach p = .ok (.file bytes)) (hformat : format? p.suffix = some format) :
    ¬Refused t p := by
  rintro ⟨f, events, hf, hrefused⟩
  rw [load_of_reach_file hreach, read, hformat] at hf
  cases htext : FileTree.textOf bytes with
  | error x =>
    simp only [htext] at hf
    cases hf
    obtain hcode | ⟨suffix, hreason⟩ := hrefused
    · cases hcode
    · cases congrArg Fault.code hreason
  | ok s =>
    simp only [htext] at hf
    obtain ⟨r, hr, hf⟩ := exists_of_bind_eq_ok hf
    cases hf
    obtain ⟨start, hstart, rest, rfl⟩ := exists_reason_of_load hr
    obtain hcode | ⟨suffix, hreason⟩ := hrefused
    · cases hcode
    · exact reason_ne_unsupported hstart (invalidDocument_inj hreason)

/-- A path name is refused exactly if it leads to no file or has not the suffix of a document. -/
theorem refused_iff (h : t.reach p ≠ .error .nameTooLong) :
    Refused t p ↔ ¬(t.isFile p = true ∧ hasSuffix p = true) := by
  rw [FileTree.isFile_iff_reach, hasSuffix]
  cases hreach : t.reach p with
  | error o =>
    refine iff_of_true ⟨.fileNotFound p.text "documents", [], ?_, .inl rfl⟩ (by simp)
    rw [load, FileTree.look, hreach]
    cases o with
    | nameTooLong => exact absurd hreach h
    | missing | occupied | notFolder | isFolder => rfl
  | ok d =>
    cases d with
    | folder es =>
      refine iff_of_true ⟨.fileNotFound p.text "documents", [], ?_, .inl rfl⟩ (by simp)
      rw [load, FileTree.look, hreach]
      rfl
    | file bytes =>
      cases hformat : format? p.suffix with
      | some format => exact iff_of_false (not_refused_of_format hreach hformat) (by simp)
      | none =>
        refine iff_of_true ?_ (by simp)
        rw [Refused, load_of_reach_file hreach, read, hformat]
        exact ⟨_, [], rfl, .inr ⟨_, rfl⟩⟩

/-! ## Expanding path names -/

/-- What a path name contributes: itself, or in ascending order the documents below the folder that
it leads to. -/
inductive Contributes (t : FileTree) (p : PathName) : List PathName → Prop
  | itself : t.isFolder p = false → Contributes t p [p]
  | folder {qs : List PathName} : t.isFolder p = true → qs.Pairwise PathName.Precedes →
      (∀ q, q ∈ qs ↔ IsBelow t p q) → Contributes t p qs

/-- Path names are expanded in their order, and none of the documents that are found is refused, but
only a path name that was given. -/
structure Expands (t : FileTree) (ps paths : List PathName) : Prop where
  contributions : ∃ parts, List.Forall₂ (Contributes t) ps parts ∧ paths = parts.flatten
  found : ∀ p ∈ ps, t.isFolder p = true → ∀ q, IsBelow t p q → q ∈ paths ∧ ¬Refused t q
  refused_iff : ∀ q ∈ paths, Refused t q ↔ q ∈ ps ∧ ¬(t.isFile q = true ∧ hasSuffix q = true)

theorem contributes_segment (ht : t.WellFormed) (hp : CanExpand t p) :
    Contributes t p (segment t p) := by
  rw [segment]
  split
  · next es hreach =>
    have hfolder : t.isFolder p = true := FileTree.isFolder_iff_reach.mpr ⟨es, hreach⟩
    obtain ⟨-, -, -, hat⟩ := FileTree.reach_eq_ok_iff.mp hreach
    exact .folder hfolder (pairwise_below (ht.nodes.of_at? hat)) fun q =>
      mem_below_iff ht hp hreach
  · next hreach =>
    apply Contributes.itself
    apply eq_false_of_ne_true
    intro hfolder
    obtain ⟨es, hes⟩ := FileTree.isFolder_iff_reach.mp hfolder
    exact hreach es hes

theorem expand_of_canExpand (h : ∀ p ∈ ps, CanExpand t p) :
    expand t ps = .ok (ps.map (segment t)).flatten := by
  have hmap : ps.mapM (expandOne t) = .ok (ps.map (segment t)) := by
    induction ps with
    | nil => rfl
    | cons p ps ih =>
      obtain ⟨hp, hps⟩ := List.forall_mem_cons.mp h
      rw [List.mapM_cons, expandOne_of_canExpand hp, ih hps]
      rfl
  rw [expand, hmap]
  rfl

theorem IsBelow.isFile_and_hasSuffix (h : IsBelow t p q) :
    t.isFile q = true ∧ hasSuffix q = true := by
  obtain ⟨-, -, -, -, hfile, hsuffix⟩ := h
  exact ⟨hfile, hasSuffix_iff.mpr hsuffix⟩

theorem IsBelow.refused_iff (h : IsBelow t p q) :
    Refused t q ↔ ¬(t.isFile q = true ∧ hasSuffix q = true) := by
  refine DocumentFile.refused_iff ?_
  obtain ⟨bytes, hbytes⟩ := FileTree.isFile_iff_reach.mp h.isFile_and_hasSuffix.1
  simp [hbytes]

theorem Contributes.eq_or_isBelow {qs : List PathName} (h : Contributes t p qs) (hq : q ∈ qs) :
    q = p ∨ IsBelow t p q := by
  cases h with
  | itself => exact .inl (List.mem_singleton.mp hq)
  | folder _ _ hmem => exact .inr ((hmem q).mp hq)

theorem Contributes.mem_of_isBelow {qs : List PathName} (h : Contributes t p qs)
    (hp : t.isFolder p = true) (hq : IsBelow t p q) : q ∈ qs := by
  cases h with
  | itself hother => simp [hp] at hother
  | folder _ _ hmem => exact (hmem q).mpr hq

theorem expands_segments (ht : t.WellFormed) (h : ∀ p ∈ ps, CanExpand t p) :
    Expands t ps (ps.map (segment t)).flatten where
  contributions := by
    refine ⟨_, ?_, rfl⟩
    rw [List.forall₂_map_right_iff, List.forall₂_same]
    exact fun p hp => contributes_segment ht (h p hp)
  found := by
    intro p hp hfolder q hq
    have hmem : q ∈ segment t p := (contributes_segment ht (h p hp)).mem_of_isBelow hfolder hq
    exact ⟨List.mem_flatten_of_mem (List.mem_map_of_mem hp) hmem,
      fun hrefused => hq.refused_iff.mp hrefused hq.isFile_and_hasSuffix⟩
  refused_iff := by
    intro q hq
    obtain ⟨qs, hqs, hq⟩ := List.mem_flatten.mp hq
    obtain ⟨p, hp, rfl⟩ := List.mem_map.mp hqs
    rcases (contributes_segment ht (h p hp)).eq_or_isBelow hq with rfl | hbelow
    · rw [DocumentFile.refused_iff (h q hp).named, and_iff_right hp]
    · have hgood := hbelow.isFile_and_hasSuffix
      rw [hbelow.refused_iff]
      exact iff_of_false (fun hbad => hbad hgood) fun hbad => hbad.2 hgood

theorem expand_of_not_canExpand (h : ¬∀ p ∈ ps, CanExpand t p) : ∃ q : PathName,
    expand t ps = .error (FileTree.Obstacle.nameTooLong.failure q.text) := by
  cases hparts : ps.mapM (expandOne t) with
  | ok parts =>
    apply absurd _ h
    apply exists_expand_iff.mp
    rw [expand, hparts]
    exact ⟨parts.flatten, rfl⟩
  | error x =>
    obtain ⟨p, -, hp⟩ := exists_of_mapM_eq_error hparts
    have hcannot : ¬CanExpand t p := by
      intro hcan
      cases hp.symm.trans (expandOne_of_canExpand hcan)
    obtain ⟨q, hq⟩ := expandOne_of_not_canExpand hcannot
    cases hp.symm.trans hq
    rw [expand, hparts]
    exact ⟨q, rfl⟩

/-- In a tree that is in order, path names are expanded exactly if none of them, and nothing that is
below one, has too long a name. Such a name is a failure of the system that ends the expansion. -/
theorem expands_iff (ht : t.WellFormed) (ps : List PathName) :
    ((∃ paths, expand t ps = .ok paths ∧ Expands t ps paths) ↔ ∀ p ∈ ps, CanExpand t p) ∧
    (¬(∀ p ∈ ps, CanExpand t p) → ∃ q : PathName,
      expand t ps = .error (FileTree.Obstacle.nameTooLong.failure q.text)) := by
  refine ⟨?_, expand_of_not_canExpand⟩
  constructor
  · rintro ⟨paths, hpaths, -⟩
    exact exists_expand_iff.mp ⟨paths, hpaths⟩
  · intro h
    exact ⟨_, expand_of_canExpand h, expands_segments ht h⟩

/-- A folder with a document in it, another one in a folder below it, and a file of another kind;
they are named from the working folder, from the root, and through the folder above. -/
theorem expands_folder :
    let t : FileTree := {
      root := .folder [("srv", .folder [("d", .folder [("b.yaml", .file []),
        ("notes.txt", .file []), ("a", .folder [("c.YML", .file [])])])])]
      here := ["srv"] }
    let ps : List PathName := [.ofText "d", .ofText "/srv", .ofText "d/../..", .ofText "gone.json"]
    t.WellFormed ∧ ∃ paths, expand t ps = .ok paths ∧ Expands t ps paths := by
  intro t ps
  have hinner : (FileNode.folder [("c.YML", .file [])]).WellFormed :=
    .folder (by decide +kernel) (by decide +kernel) (by simpa using .file _)
  have hd : (FileNode.folder [("b.yaml", .file []), ("notes.txt", .file []),
      ("a", .folder [("c.YML", .file [])])]).WellFormed :=
    .folder (by decide +kernel) (by decide +kernel) (by simpa using ⟨.file _, hinner⟩)
  have hsrv : (FileNode.folder [("d", .folder [("b.yaml", .file []), ("notes.txt", .file []),
      ("a", .folder [("c.YML", .file [])])])]).WellFormed :=
    .folder (by decide +kernel) (by decide +kernel) (by simpa using hd)
  have hhere : FileNode.HasFolder t.root t.here := by
    rw [FileNode.HasFolder, FileNode.at?, if_neg (by decide +kernel)]
    exact ⟨_, rfl⟩
  have ht : t.WellFormed :=
    ⟨.folder (by decide +kernel) (by decide +kernel) (by simpa using hsrv), hhere⟩
  have hsome : (expand t ps).toOption.isSome = true := by decide +kernel
  obtain ⟨paths, hpaths⟩ := Option.isSome_iff_exists.mp hsome
  exact ⟨ht, (expands_iff ht ps).1.mpr (exists_expand_iff.mp ⟨paths, eq_ok_of_toOption hpaths⟩)⟩

theorem reach_eq_nameTooLong {name : String} (hspeak : FileTree.IsSpeakable name)
    (hnull : '\x00' ∉ name.toList) (hlong : FileTree.isTooLong name = true) :
    FileTree.empty.reach ⟨.here, [name]⟩ = .error .nameTooLong := by
  have hpoints : name ≠ ".." := by
    rintro rfl
    exact absurd hlong (by decide +kernel)
  have hnone : FileTree.unspeakable? ⟨.here, [name]⟩ = none := by
    rw [FileTree.unspeakable?_eq_none_iff]
    simpa using ⟨hspeak, hnull⟩
  rw [FileTree.reach, hnone, if_neg (by decide)]
  split
  · rfl
  · change FileNode.walk [] (.folder []) [name] = _
    rw [FileNode.walk, if_neg hpoints, if_pos hlong]

/-- A name of 256 letters leads to nothing in an empty folder. The system call about it fails. -/
theorem not_expands_of_long_name :
    let long : PathName := ⟨.here, [Text.ofCharacters (List.replicate 256 'a')]⟩
    FileTree.empty.isFolder long = false ∧ FileTree.empty.isFile long = false ∧
    expand .empty [long] = .error (.system 36 "File name too long" [long.text]) ∧
    ¬∃ paths, expand .empty [long] = .ok paths ∧ Expands .empty [long] paths := by
  intro long
  have hpoints : Text.codePoints (Text.ofCharacters (List.replicate 256 'a')) =
      List.replicate 256 97 := by
    rw [Text.codePoints_ofCharacters, List.map_replicate]
    rfl
  have hletters : (Text.ofCharacters (List.replicate 256 'a')).toList = List.replicate 256 'a' := by
    have hspell : Text.spell 'a'.toNat = ['a'] := by decide
    rw [Text.ofCharacters, Text.ofCodePoints, String.toList_ofList, List.map_replicate,
      List.flatMap_replicate, hspell, List.flatten_replicate_singleton]
  have hbyte : (Text.Utf8.encodePoint 97).length = 1 := by decide +kernel
  have hreach : FileTree.empty.reach long = .error .nameTooLong := by
    apply reach_eq_nameTooLong
    · intro n hn
      rw [hpoints] at hn
      rw [List.eq_of_mem_replicate hn]
      decide
    · rw [hletters]
      intro hnull
      exact absurd (List.eq_of_mem_replicate hnull) (by decide)
    · rw [FileTree.isTooLong, Text.Utf8.encode, hpoints, List.length_flatMap, List.map_replicate,
        hbyte, List.sum_replicate_nat]
      decide
  have hexpand : expand .empty [long] = .error (.system 36 "File name too long" [long.text]) := by
    rw [expand, List.mapM_cons, expandOne, FileTree.look, hreach]
    rfl
  refine ⟨?_, ?_, hexpand, ?_⟩
  · rw [FileTree.isFolder, FileTree.find?, hreach]
    rfl
  · rw [FileTree.isFile, FileTree.find?, hreach]
    rfl
  · rintro ⟨paths, hpaths, -⟩
    rw [hexpand] at hpaths
    cases hpaths

end DocumentFile

end ShadowTypes
