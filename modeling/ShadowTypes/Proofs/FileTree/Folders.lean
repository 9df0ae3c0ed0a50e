import ShadowTypes.FileTree.Writing

/-!
# Making folders

Whether folders can be made along a path name is a matter of the tree as it was: the folders that
are made on the way stand in nobody's way. Once they are made, the path name leads to the last of
them.
-/

namespace ShadowTypes

namespace FileNode

open FileTree (isTooLong)

/-! ## Ways -/

theorem child?_file (bytes : List UInt8) (name : String) : child? (.file bytes) name = none := rfl

theorem at?_append (t : FileNode) (a b : List String) :
    t.at? (a ++ b) = (t.at? a).bind (at? · b) := by
  induction a generalizing t with
  | nil => rfl
  | cons p ps ih =>
    rw [List.cons_append, at?, at?]
    split
    · rfl
    · cases t.child? p with
      | none => rfl
      | some c => exact ih c

theorem at?_file_cons (bytes : List UInt8) (name : String) (way : List String) :
    at? (.file bytes) (name :: way) = none := by
  rw [at?, child?_file]
  split <;> rfl

theorem at?_empty_cons (name : String) (way : List String) : empty.at? (name :: way) = none := by
  rw [at?]
  split <;> rfl

/-- A file is at the end of a way. -/
def HasFile (t : FileNode) (way : List String) : Prop := ∃ bytes, t.at? way = some (.file bytes)

/-- A folder is at the end of a way. -/
def HasFolder (t : FileNode) (way : List String) : Prop := ∃ es, t.at? way = some (.folder es)

section Ways

variable {t : FileNode} {p : String} {way w : List String}

theorem HasFolder.not_hasFile (h : HasFolder t way) : ¬HasFile t way := by
  rintro ⟨bytes, hfile⟩
  obtain ⟨es, h⟩ := h
  rw [h] at hfile
  cases hfile

theorem HasFolder.of_append (h : HasFolder t (way ++ w)) : HasFolder t way := by
  obtain ⟨es, h⟩ := h
  rw [at?_append] at h
  obtain ⟨u, hu, h⟩ := Option.bind_eq_some_iff.mp h
  cases u with
  | folder fs => exact ⟨fs, hu⟩
  | file bytes =>
    cases w with
    | nil => cases h
    | cons p ps =>
      rw [at?_file_cons] at h
      cases h

theorem HasFolder.nil (h : HasFolder t way) : HasFolder t [] :=
  HasFolder.of_append (by rwa [List.nil_append])

theorem HasFolder.dropLast (h : HasFolder t way) : HasFolder t way.dropLast := by
  rcases List.eq_nil_or_concat way with rfl | ⟨front, last, rfl⟩
  · exact h
  · rw [List.concat_eq_append] at h ⊢
    rw [List.dropLast_concat]
    exact h.of_append

theorem hasFolder_cons_iff : HasFolder t (p :: w) ↔
    isTooLong p = false ∧ ∃ c, t.child? p = some c ∧ HasFolder c w := by
  rw [HasFolder, at?]
  cases hp : isTooLong p with
  | true => simp
  | false => simp [HasFolder, Option.bind_eq_some_iff, exists_comm]

theorem hasFile_cons_iff : HasFile t (p :: w) ↔
    isTooLong p = false ∧ ∃ c, t.child? p = some c ∧ HasFile c w := by
  rw [HasFile, at?]
  cases hp : isTooLong p with
  | true => simp
  | false => simp [HasFile, Option.bind_eq_some_iff, exists_comm]

theorem HasFolder.short (h : HasFolder t way) : ∀ p ∈ way, isTooLong p = false := by
  induction way generalizing t with
  | nil => nofun
  | cons p ps ih =>
    obtain ⟨hp, c, -, hc⟩ := hasFolder_cons_iff.mp h
    exact List.forall_mem_cons.mpr ⟨hp, ih hc⟩

end Ways

/-! ## Putting an empty folder at the end of a way -/

section Put

variable {t new : FileNode} {p q : String} {ps way w : List String}

theorem find?_changeEntry (f : FileNode → FileNode) (es : List (String × FileNode)) :
    ((changeEntry p f es).find? (·.1 == q)).map (·.2) =
      if q = p then some (f (((es.find? (·.1 == p)).map (·.2)).getD empty))
      else (es.find? (·.1 == q)).map (·.2) := by
  induction es with
  | nil =>
    by_cases hq : q = p
    · simp [changeEntry, hq]
    · simp [changeEntry, hq, Ne.symm hq]
  | cons e es ih =>
    obtain ⟨name, u⟩ := e
    rw [changeEntry]
    by_cases hname : name = p
    · by_cases hq : q = p
      · simp [hname, hq]
      · simp [hname, hq, Ne.symm hq]
    · rw [if_neg hname]
      by_cases hq : q = p
      · simp only [hq, if_true] at ih ⊢
        simpa [List.find?_cons, hname] using ih
      · simp only [hq, if_false] at ih ⊢
        by_cases hnameq : name = q
        · simp [hnameq]
        · simpa [List.find?_cons, hnameq] using ih

theorem child?_put :
    (put new (p :: ps) t).child? q =
      if q = p then some (put new ps ((t.child? p).getD empty)) else t.child? q := by
  rw [put, child?, entries, find?_changeEntry, child?, child?]

theorem hasFolder_put (h : ∀ p ∈ way, isTooLong p = false) : HasFolder (put empty way t) way := by
  induction way generalizing t with
  | nil => exact ⟨[], rfl⟩
  | cons p ps ih =>
    rw [List.forall_mem_cons] at h
    rw [hasFolder_cons_iff, child?_put, if_pos rfl]
    exact ⟨h.1, _, rfl, ih h.2⟩

/-- A new folder beside what is there leaves all files in their places. -/
theorem hasFile_put_iff (hway : HasFolder t way) (hnone : t.at? (way ++ [q]) = none)
    (hq : isTooLong q = false) :
    HasFile (put empty (way ++ [q]) t) w ↔ HasFile t w := by
  induction way generalizing t w with
  | nil =>
    cases w with
    | nil => exact iff_of_false nofun hway.not_hasFile
    | cons r rs =>
      rw [List.nil_append, at?, if_neg (by simp [hq])] at hnone
      have hchild : t.child? q = none := by
        cases hc : t.child? q with
        | none => rfl
        | some c => rw [hc] at hnone; cases hnone
      rw [List.nil_append, hasFile_cons_iff, hasFile_cons_iff, child?_put, hchild]
      by_cases hr : r = q
      · have hempty : ¬HasFile empty rs := by
          rintro ⟨bytes, hbytes⟩
          cases rs with
          | nil => cases hbytes
          | cons s ss =>
            rw [at?_empty_cons] at hbytes
            cases hbytes
        simp [hr, hchild, put, hempty]
      · simp [hr]
  | cons p ps ih =>
    obtain ⟨hp, c, hc, hrest⟩ := hasFolder_cons_iff.mp hway
    rw [List.cons_append, at?, if_neg (by simp [hp]), hc, Option.bind_some] at hnone
    cases w with
    | nil => exact iff_of_false nofun hway.nil.not_hasFile
    | cons r rs =>
      rw [List.cons_append, hasFile_cons_iff, hasFile_cons_iff, child?_put, hc]
      by_cases hr : r = p
      · simp [hr, hc, ih hrest hnone]
      · simp [hr]

theorem HasFolder.put_empty (hw : HasFolder t w) (hway : HasFolder t way)
    (hnone : t.at? (way ++ [q]) = none) : HasFolder (put empty (way ++ [q]) t) w := by
  induction way generalizing t w with
  | nil =>
    cases w with
    | nil => exact ⟨_, rfl⟩
    | cons r rs =>
      rw [hasFolder_cons_iff] at hw ⊢
      obtain ⟨hr, c, hc, hrs⟩ := hw
      refine ⟨hr, c, ?_, hrs⟩
      rw [List.nil_append, child?_put, if_neg, hc]
      rintro rfl
      rw [List.nil_append, at?, if_neg (by simp [hr]), hc] at hnone
      cases hnone
  | cons p ps ih =>
    obtain ⟨hp, c, hc, hrest⟩ := hasFolder_cons_iff.mp hway
    rw [List.cons_append, at?, if_neg (by simp [hp]), hc, Option.bind_some] at hnone
    cases w with
    | nil => exact ⟨_, rfl⟩
    | cons r rs =>
      rw [hasFolder_cons_iff] at hw ⊢
      obtain ⟨hr, d, hd, hrs⟩ := hw
      refine ⟨hr, ?_⟩
      rw [List.cons_append, child?_put]
      by_cases hrp : r = p
      · subst hrp
        obtain rfl : c = d := Option.some.inj (hc.symm.trans hd)
        rw [if_pos rfl, hc]
        exact ⟨_, rfl, ih hrs hrest hnone⟩
      · rw [if_neg hrp]
        exact ⟨d, hd, hrs⟩

end Put

/-! ## Names that pass through folders -/

/-- The names pass through folders only. -/
def Passes (t : FileNode) (way : List String) : List String → Prop
  | [] => True
  | q :: qs => HasFolder t way ∧ Passes t (FileTree.next way q) qs

theorem Passes.mono {t u : FileNode} {way names : List String}
    (hfolders : ∀ w, HasFolder t w → HasFolder u w) (h : Passes t way names) :
    Passes u way names := by
  induction names generalizing way with
  | nil => trivial
  | cons q qs ih => exact ⟨hfolders _ h.1, ih h.2⟩

end FileNode

namespace FileTree

open FileNode (HasFile HasFolder Passes)

/-! ## Folders along a path name -/

theorem next_points (way : List String) : next way ".." = way.dropLast := if_pos rfl

theorem next_of_ne {q : String} (h : q ≠ "..") (way : List String) : next way q = way ++ [q] :=
  if_neg h

theorem route_cons (way : List String) (q : String) (qs : List String) :
    route way (q :: qs) = route (next way q) qs := rfl

/-- Folders can be made along names from the folder at a way: no name is too long, and no file is
where a folder has to be. -/
def Clear (t : FileNode) (way : List String) : List String → Prop
  | [] => True
  | q :: qs => (q ≠ ".." → isTooLong q = false ∧ ¬HasFile t (way ++ [q])) ∧ Clear t (next way q) qs

section Making

variable {t u : FileNode} {way : List String}

/-- The folders that were made so far lie at the way, and the files are those of the tree in the
beginning, so that what is clear in the one tree is clear in the other. -/
theorem exists_makeFoldersFrom_iff (p : PathName) (made : Bool) (done qs : List String)
    (hfiles : ∀ w, HasFile u w ↔ HasFile t w) (hway : HasFolder u way) :
    (∃ v, makeFoldersFrom p u way made done qs = .ok v) ↔ Clear t way qs := by
  induction qs generalizing u way made done with
  | nil => simp [makeFoldersFrom, Clear]
  | cons q qs ih =>
    rw [makeFoldersFrom, Clear]
    by_cases hq : q = ".."
    · subst hq
      rw [if_pos rfl, ih _ _ hfiles hway.dropLast, next_points]
      simp
    · rw [if_neg hq, next_of_ne hq]
      cases hlong : isTooLong q with
      | true => simp [hq]
      | false =>
        have hshort : ∀ r ∈ way ++ [q], isTooLong r = false := by
          rw [List.forall_mem_append, List.forall_mem_singleton]
          exact ⟨hway.short, hlong⟩
        simp only [Bool.false_eq_true, if_false, true_and, ← hfiles, Ne, hq, not_false_eq_true,
          forall_const]
        cases hat : u.at? (way ++ [q]) with
        | none =>
          have hput := fun w => FileNode.hasFile_put_iff (w := w) hway hat hlong
          dsimp only
          rw [ih _ _ (fun w => (hput w).trans (hfiles w)) (FileNode.hasFolder_put hshort)]
          simp [HasFile, hat]
        | some c =>
          cases c with
          | folder es =>
            dsimp only
            rw [ih _ _ hfiles ⟨es, hat⟩]
            simp [HasFile, hat]
          | file bytes =>
            dsimp only
            split <;> simp [HasFile, hat]

/-- Making folders keeps those that there are, and the names then lead through folders to one. -/
theorem spec_makeFoldersFrom {p : PathName} {made : Bool} {done qs : List String} {v : FileNode}
    (h : makeFoldersFrom p u way made done qs = .ok v) (hway : HasFolder u way) :
    (∀ w, HasFolder u w → HasFolder v w) ∧ Passes v way qs ∧ HasFolder v (route way qs) := by
  induction qs generalizing u way made done with
  | nil =>
    cases h
    exact ⟨fun _ => id, trivial, hway⟩
  | cons q qs ih =>
    rw [makeFoldersFrom] at h
    rw [Passes, route_cons]
    by_cases hq : q = ".."
    · subst hq
      rw [if_pos rfl] at h
      obtain ⟨hkeep, hpasses, hfolder⟩ := ih h hway.dropLast
      rw [next_points]
      exact ⟨hkeep, ⟨hkeep _ hway, hpasses⟩, hfolder⟩
    · rw [if_neg hq] at h
      rw [next_of_ne hq]
      split at h
      · cases h
      · next hlong =>
        dsimp only at h
        split at h
        · next hnone =>
          have hshort : ∀ r ∈ way ++ [q], isTooLong r = false := by
            rw [List.forall_mem_append, List.forall_mem_singleton]
            exact ⟨hway.short, eq_false_of_ne_true hlong⟩
          obtain ⟨hkeep, hpasses, hfolder⟩ := ih h (FileNode.hasFolder_put hshort)
          have hold : ∀ w, HasFolder u w → HasFolder v w :=
            fun w hw => hkeep w (hw.put_empty hway hnone)
          exact ⟨hold, ⟨hold _ hway, hpasses⟩, hfolder⟩
        · next es hes =>
          obtain ⟨hkeep, hpasses, hfolder⟩ := ih h ⟨es, hes⟩
          exact ⟨hkeep, ⟨hkeep _ hway, hpasses⟩, hfolder⟩
        · split at h <;> cases h

end Making

/-- The system can be asked about the path name, which begins at a folder, and nothing is in the way
of the folders. -/
structure CanMake (t : FileTree) (p : PathName) : Prop where
  speakable : unspeakable? p = none
  short : isOverlong p = false
  beginning : t.isFolder p.beginning = true
  clear : Clear t.root (t.way p.beginning) p.parts

theorem makeFolders_eq_ok_iff {t u : FileTree} {p : PathName} : makeFolders p t = .ok u ↔
    unspeakable? p = none ∧ isOverlong p = false ∧ t.isFolder p.beginning = true ∧
      ∃ root, makeFoldersFrom p t.root (t.way p.beginning) false [] p.parts = .ok root ∧
        { t with root } = u := by
  unfold makeFolders
  cases unspeakable? p with
  | some x => simp
  | none =>
    cases isOverlong p with
    | true => simp
    | false =>
      cases t.isFolder p.beginning with
      | false => simp
      | true =>
        cases makeFoldersFrom p t.root (t.way p.beginning) false [] p.parts with
        | ok root => simp
        | error x => simp

end FileTree

end ShadowTypes
