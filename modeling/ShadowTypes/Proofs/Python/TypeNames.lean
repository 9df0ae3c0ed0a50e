import ShadowTypes.PathName
import ShadowTypes.Proofs.Closure
import ShadowTypes.Proofs.ExactNames
import ShadowTypes.Proofs.Lines
import ShadowTypes.Proofs.Lookup

/-!
# Names of Python classes

The class of a model, its file and the references to it all go by the name of the model with the
suffix. If the suffix is made of letters, this is a word exactly if the name of the model has no
mark in front. Members of classes drop the mark; the names of classes keep it.
-/

namespace ShadowTypes

namespace Text

variable {l : List Char}

theorem isWord_of_isAlpha {c : Char} (h : c.isAlpha = true) : isWord c = true := by
  have hletter : ('A' ≤ c ∧ c ≤ 'Z') ∨ ('a' ≤ c ∧ c ≤ 'z') := by
    change (decide ('A' ≤ c ∧ c ≤ 'Z') || (decide ('a' ≤ c) && decide (c ≤ 'z'))) = true at h
    simpa using h
  have hlt : c.toNat < 128 := by
    change (65 ≤ c.toNat ∧ c.toNat ≤ 90) ∨ (97 ≤ c.toNat ∧ c.toNat ≤ 122) at hletter
    omega
  simp only [isWord, if_pos hlt, isAsciiStart, Bool.or_eq_true, Bool.and_eq_true,
    decide_eq_true_eq]
  exact .inl (.inl hletter.symm)

theorem isWordText_append {w : List Char} (hw : isWordText w = true)
    (hl : ∀ c ∈ l, isWord c = true) : isWordText (w ++ l) = true := by
  cases w with
  | nil => cases hw
  | cons c w =>
    rw [isWordText_cons, Bool.and_eq_true, List.all_eq_true] at hw
    rw [List.cons_append, isWordText_cons, Bool.and_eq_true, List.all_append, Bool.and_eq_true,
      List.all_eq_true, List.all_eq_true]
    exact ⟨hw.1, hw.2, hl⟩

end Text

/-- A file name without its suffix. -/
def PathName.stemOf (l : List Char) : List Char := l.take (l.length - (suffixOf l).length)

theorem PathName.stemOf_append {w e : List Char} (hw : w ≠ []) (he : e ≠ []) (hp : '.' ∉ e) :
    stemOf (w ++ '.' :: e) = w := by
  have hreverse : (w ++ '.' :: e).reverse = e.reverse ++ '.' :: w.reverse := by
    simp
  have hafter : (w ++ '.' :: e).reverse.takeWhile (· != '.') = e.reverse := by
    rw [hreverse, List.takeWhile_append_of_pos]
    · simp
    · intro c hc
      rw [bne_iff_ne]
      rintro rfl
      exact hp (List.mem_reverse.mp hc)
  have hlength : 0 < w.length := List.length_pos_iff.mpr hw
  have hsuffix : suffixOf (w ++ '.' :: e) = '.' :: e := by
    simp only [suffixOf, hafter, List.reverse_reverse]
    rw [if_neg]
    simp only [Bool.or_eq_true, List.isEmpty_iff, List.reverse_eq_nil_iff, decide_eq_true_eq,
      List.length_append, List.length_cons, List.length_reverse, not_or]
    exact ⟨he, by omega⟩
  rw [stemOf, hsuffix, List.length_append, Nat.add_sub_cancel, List.take_left]

namespace Python

/-- A word without the mark, as a class of Python may be named. -/
def IsTypeName (s : String) : Prop := '@' ∉ s.toList ∧ Text.isWordText s.toList = true

instance (s : String) : Decidable (IsTypeName s) := inferInstanceAs (Decidable (_ ∧ _))

/-- What begins the first line of a class. -/
def classWord : List Char := "class ".toList

/-- The name of the first class that a text declares. -/
def className? (text : String) : Option String :=
  ((Text.splitLines text.toList).find? classWord.isPrefixOf).map fun line =>
    String.ofList ((line.drop classWord.length).takeWhile (· != ':'))

/-! ## Reading the name of a class -/

theorem splitLines_ofLines_cons {s : String} (h : '\n' ∉ s.toList) (ls : List String) :
    ∃ rest, Text.splitLines (Source.ofLines (s :: ls)).toList = s.toList :: rest ∧
      (ls ≠ [] → rest = Text.splitLines (Source.ofLines ls).toList) := by
  cases ls with
  | nil =>
    refine ⟨[], ?_, fun hls => absurd rfl hls⟩
    rw [Source.ofLines, String.intercalate_singleton]
    exact Text.splitAt_of_notMem h
  | cons t ls =>
    refine ⟨_, ?_, fun _ => rfl⟩
    have hnewline : "\n".toList = ['\n'] := rfl
    rw [Source.ofLines, String.intercalate_cons_cons, String.toList_append, String.toList_append,
      hnewline, List.append_assoc, List.singleton_append]
    exact Text.splitAt_append_cons h

/-- The first line that passes a test, if no line up to it holds a break. -/
theorem find?_splitLines_ofLines {f : List Char → Bool} {before : List String} {s : String}
    (hbefore : ∀ t ∈ before, '\n' ∉ t.toList ∧ f t.toList = false) (hs : '\n' ∉ s.toList)
    (hf : f s.toList = true) (after : List String) :
    (Text.splitLines (Source.ofLines (before ++ s :: after)).toList).find? f = some s.toList := by
  induction before with
  | nil =>
    obtain ⟨rest, hrest, -⟩ := splitLines_ofLines_cons hs after
    rw [List.nil_append, hrest, List.find?_cons, hf]
  | cons t before ih =>
    obtain ⟨ht, hbefore⟩ := List.forall_mem_cons.mp hbefore
    obtain ⟨rest, hrest, hnext⟩ := splitLines_ofLines_cons ht.1 (before ++ s :: after)
    rw [List.cons_append, hrest, List.find?_cons, ht.2, hnext (by simp)]
    exact ih hbefore

theorem className?_ofLines {before : List String} {name : String}
    (hbefore : ∀ t ∈ before, '\n' ∉ t.toList ∧ classWord.isPrefixOf t.toList = false)
    (hname : '\n' ∉ name.toList ∧ ':' ∉ name.toList) (after : List String) :
    className? (Source.ofLines (before ++ ("class " ++ name ++ ":") :: after)) = some name := by
  have hline : ("class " ++ name ++ ":").toList = classWord ++ (name.toList ++ [':']) := by
    rw [String.toList_append, String.toList_append, List.append_assoc]
    rfl
  have hbreak : '\n' ∉ ("class " ++ name ++ ":").toList := by
    rw [hline, List.mem_append, List.mem_append]
    rintro (h | h | h)
    · exact absurd h (by decide)
    · exact hname.1 h
    · exact absurd h (by decide)
  have hprefix : classWord.isPrefixOf ("class " ++ name ++ ":").toList = true := by
    rw [hline, List.isPrefixOf_iff_prefix]
    exact List.prefix_append _ _
  have hcolon : ∀ c ∈ name.toList, (c != ':') = true := by
    intro c hc
    rw [bne_iff_ne]
    rintro rfl
    exact hname.2 hc
  rw [className?, find?_splitLines_ofLines hbefore hbreak hprefix, Option.map_some, hline,
    List.drop_left, List.takeWhile_append_of_pos hcolon]
  simp

/-! ## The name of a class -/

variable {m : Model} {e : Emitter}

theorem eq_mark_or_isWord (hm : m.WellFormed) (hs : ∀ c ∈ e.suffix.toList, Text.isWord c = true) :
    ∀ c ∈ (e.shadowName m.name).toList, c = '@' ∨ Text.isWord c = true := by
  intro c hc
  rw [Emitter.shadowName, String.toList_append, List.mem_append] at hc
  rcases hc with hc | hc
  · obtain ⟨w, hw, hl⟩ := Description.exists_word_of_isName hm.isName
    rcases hl with hl | hl
    · exact .inr (Text.all_isWord_of_isWordText hw c (hl ▸ hc))
    · rw [hl, List.mem_cons] at hc
      exact hc.imp_right (Text.all_isWord_of_isWordText hw c)
  · exact .inr (hs c hc)

/-- With letters after it, the name of a model names a class exactly if it has no mark. -/
theorem isTypeName_shadowName_iff (hm : m.WellFormed)
    (hs : ∀ c ∈ e.suffix.toList, c.isAlpha = true) :
    IsTypeName (e.shadowName m.name) ↔ '@' ∉ m.name.toList := by
  have hsplit : (e.shadowName m.name).toList = m.name.toList ++ e.suffix.toList := by
    rw [Emitter.shadowName, String.toList_append]
  constructor
  · rintro ⟨h, -⟩ hmark
    rw [hsplit] at h
    exact h (List.mem_append_left _ hmark)
  · intro h
    obtain ⟨w, hw, hl⟩ := Description.exists_word_of_isName hm.isName
    have hword : Text.isWordText m.name.toList = true := by
      rcases hl with hl | hl
      · rwa [hl]
      · exact absurd (hl ▸ List.mem_cons_self) h
    have hshadow : Text.isWordText (e.shadowName m.name).toList = true := by
      rw [hsplit]
      exact Text.isWordText_append hword fun c hc => Text.isWord_of_isAlpha (hs c hc)
    exact ⟨Text.notMem_of_isWordText Text.isWord_at hshadow, hshadow⟩

theorem className?_frame (hd : e.dialect = .python) (hm : m.WellFormed)
    (hs : ∀ c ∈ e.suffix.toList, c.isAlpha = true) (members fragments : List String)
    (candidates : Candidates) :
    className? (e.frame m members fragments candidates) = some (e.shadowName m.name) := by
  have hname : '\n' ∉ (e.shadowName m.name).toList ∧ ':' ∉ (e.shadowName m.name).toList := by
    have hword : ∀ c ∈ e.suffix.toList, Text.isWord c = true :=
      fun c hc => Text.isWord_of_isAlpha (hs c hc)
    constructor <;>
    · intro hc
      exact absurd (eq_mark_or_isWord hm hword _ hc) (by decide)
  have hqualified : '\n' ∉ m.qualifiedName.toList := by
    intro hc
    exact absurd (hm.isPlain_qualifiedName _ hc).1 (by decide)
  obtain ⟨rest, htext⟩ : ∃ rest, e.frame m members fragments candidates = Source.ofLines (
      ["\"\"\"Shadow type of " ++ m.qualifiedName ++ ".\"\"\"",
        "from __future__ import annotations", "", "from dataclasses import dataclass", "", "",
        "@dataclass"] ++ ("class " ++ e.shadowName m.name ++ ":") :: rest) := by
    have hdeclares := e.declares_frame m members fragments candidates
    unfold Emitter.Declares at hdeclares
    rw [hd] at hdeclares
    exact hdeclares
  rw [htext]
  refine className?_ofLines ?_ hname rest
  rw [List.forall_mem_cons]
  refine ⟨⟨?_, ?_⟩, by decide⟩
  · rw [String.toList_append, String.toList_append, List.mem_append, List.mem_append]
    rintro ((h | h) | h)
    · exact absurd h (by decide)
    · exact hqualified h
    · exact absurd h (by decide)
  · rw [String.toList_append, String.toList_append]
    rfl

theorem stemOf_fileName (hd : e.dialect = .python) (hm : m.WellFormed) :
    PathName.stemOf (e.fileName m.name).toList = (e.shadowName m.name).toList := by
  have hfile : (e.fileName m.name).toList =
      (e.shadowName m.name).toList ++ '.' :: "py".toList := by
    rw [Emitter.fileName, hd, String.toList_append, String.toList_append, List.append_assoc]
    rfl
  have hne : (e.shadowName m.name).toList ≠ [] := by
    rw [Emitter.shadowName, String.toList_append]
    exact List.append_ne_nil_of_left_ne_nil (Description.ne_nil_of_isName hm.isName) _
  rw [hfile, PathName.stemOf_append hne (by decide) (by decide)]

theorem names_of_generate (hm : m.WellFormed) {p : Pass} (hd : p.emitter.dialect = .python)
    (hs : ∀ c ∈ p.emitter.suffix.toList, c.isAlpha = true) {candidates : Candidates} {s : Source}
    (h : (p.workshop candidates).generate m.toDraft = .ok s) :
    s.typeName = p.emitter.shadowName m.name ∧ s.fileName = p.emitter.fileName m.name ∧
      className? s.text = some (p.emitter.shadowName m.name) := by
  have hsound : p.Sound m := (p.exists_generate_iff_sound hm candidates).mp ⟨s, h⟩
  obtain rfl := Except.ok.inj (h.symm.trans (hsound.generate_eq hm candidates))
  exact ⟨rfl, rfl, className?_frame hd hm hs _ _ _⟩

/-- The class of an accepted model, its file and its source go by the name of the model with the
suffix. Such a name is a word without the mark exactly if the model's own name has no mark, and so
is each reference from a property that is checked as a nested object, by the name of the model that
it refers to. -/
theorem isTypeName_iff_unmarked {models : List Model} (h : ∀ m ∈ models, m.Accepted) {p : Pass}
    (hd : p.emitter.dialect = .python) (hs : ∀ c ∈ p.emitter.suffix.toList, c.isAlpha = true)
    {m : Model} {s : Source} (hg : p.Gives models m (.ok s)) :
    let candidates := Candidates.ofModels models
    s.typeName = m.name ++ p.emitter.suffix ∧ className? s.text = some s.typeName ∧
    PathName.stemOf s.fileName.toList = s.typeName.toList ∧
    (IsTypeName s.typeName ↔ '@' ∉ m.name.toList) ∧
    ∀ q ∈ m.properties, (∃ a v, (q.resolved candidates p.names).check = .nested a v) →
      ∃ pre k post, models = pre ++ k :: post ∧
        Text.fold k.qualifiedName = Text.fold (TypeName.bare q.typeName) ∧
        (∀ j ∈ pre, Text.fold j.qualifiedName ≠ Text.fold (TypeName.bare q.typeName)) ∧
        p.emitter.typeExpression q.typeName candidates = k.name ++ p.emitter.suffix ∧
        (IsTypeName (p.emitter.typeExpression q.typeName candidates) ↔ '@' ∉ k.name.toList) := by
  intro candidates
  obtain ⟨hmem, hgenerate⟩ := Pass.gives_iff.mp hg
  have hm : m.WellFormed := (h m hmem).wellFormed
  obtain ⟨htype, hfile, hclass⟩ := names_of_generate hm hd hs hgenerate
  rw [htype, hfile]
  refine ⟨rfl, hclass, stemOf_fileName hd hm, isTypeName_shadowName_iff hm hs, ?_⟩
  intro q _ hq
  have hrewrites : p.emitter.Rewrites candidates q.typeName := Emitter.rewrites_of_nested hq
  obtain ⟨pre, k, post, hsplit, hfold, hpre, hcanonical⟩ :=
    exists_first_of_contains (Emitter.rewrites_iff.mp hrewrites)
  have hk : k.WellFormed := (h k (by simp [hsplit])).wellFormed
  have hreference : p.emitter.typeExpression q.typeName candidates =
      p.emitter.shadowName k.name := by
    rw [Emitter.typeExpression_of_canonical? hk hcanonical]
    simp only [Emitter.reference, hd]
  refine ⟨pre, k, post, hsplit, hfold, hpre, hreference, ?_⟩
  rw [hreference]
  exact isTypeName_shadowName_iff hk hs

theorem isAlpha_defaultSuffix : ∀ c ∈ Emitter.defaultSuffix.toList, c.isAlpha = true :=
  List.all_eq_true.mp (by decide)

theorem isTypeName_order_and_item :
    let item : Model := { space := "shop", name := "Item" }
    let line : Property := ⟨"Line", "shop.item", none⟩
    let order : Model := { space := "shop", name := "Order", properties := [line] }
    let p : Pass := { emitter := .ofDialect .python }
    ∃ s, p.Gives [order, item] order (.ok s) ∧ className? s.text = some "OrderDTO" ∧
      IsTypeName "OrderDTO" ∧
      IsTypeName (p.emitter.typeExpression line.typeName (Candidates.ofModels [order, item])) := by
  intro item line order p
  have haccepted : ∀ m ∈ [order, item], m.Accepted := by
    simp only [order, item, List.forall_mem_cons]
    exact ⟨⟨.mapping [(.text "namespace", .text "shop"), (.text "name", .text "Order"),
        (.text "properties", .list [
          .mapping [(.text "name", .text "Line"), (.text "typeName", .text "shop.item")]])],
        false, rfl⟩,
      ⟨.mapping [(.text "namespace", .text "shop"), (.text "name", .text "Item")], false, rfl⟩,
      by simp⟩
  have hsound : p.Sound order :=
    ⟨rfl, Emitter.forall_not_clashes_iff.mpr (by decide +kernel)⟩
  obtain ⟨s, hs⟩ := (p.exists_generate_iff_sound (haccepted order List.mem_cons_self).wellFormed
    (Candidates.ofModels [order, item])).mpr hsound
  have hg : p.Gives [order, item] order (.ok s) := Pass.gives_iff.mpr ⟨List.mem_cons_self, hs⟩
  obtain ⟨hname, hclass, -, htype, hreferences⟩ :=
    isTypeName_iff_unmarked haccepted rfl isAlpha_defaultSuffix hg
  have hline : (line.resolved (Candidates.ofModels [order, item]) p.names).check =
      .nested false true := by decide +kernel
  obtain ⟨pre, k, post, hsplit, -, -, -, hreference⟩ :=
    hreferences line (List.mem_singleton_self _) ⟨false, true, hline⟩
  have hunmarked : ∀ j ∈ [order, item], '@' ∉ j.name.toList := by decide
  have hk : '@' ∉ k.name.toList := hunmarked k (by simp [hsplit])
  rw [show s.typeName = "OrderDTO" from hname] at hclass htype
  exact ⟨s, hg, hclass, htype.mpr (by decide), hreference.mpr hk⟩

/-- A model whose name has the mark, and one that refers to it. -/
theorem not_isTypeName_of_marked :
    let marked : Model := { name := "@class" }
    let kind : Property := ⟨"Kind", "@class", none⟩
    let order : Model := { space := "shop", name := "Order", properties := [kind] }
    let models : List Model := [marked, order]
    let p : Pass := { emitter := .ofDialect .python }
    (∀ m ∈ models, m.Accepted) ∧
    (∃ s, p.Gives models marked (.ok s) ∧ s.typeName = "@classDTO" ∧
      s.fileName = "@classDTO.py" ∧ className? s.text = some "@classDTO") ∧
    (kind.resolved (Candidates.ofModels models) p.names).check = .nested false true ∧
    p.emitter.typeExpression kind.typeName (Candidates.ofModels models) = "@classDTO" ∧
    ¬ IsTypeName "@classDTO" := by
  intro marked kind order models p
  have haccepted : ∀ m ∈ models, m.Accepted := by
    simp only [models, marked, order, kind, List.forall_mem_cons]
    exact ⟨⟨.mapping [(.text "name", .text "@class")], false, rfl⟩,
      ⟨.mapping [(.text "namespace", .text "shop"), (.text "name", .text "Order"),
        (.text "properties", .list [
          .mapping [(.text "name", .text "Kind"), (.text "typeName", .text "@class")]])],
        false, rfl⟩, by simp⟩
  have hmarked : marked.WellFormed := (haccepted marked List.mem_cons_self).wellFormed
  have hsound : p.Sound marked :=
    ⟨rfl, Emitter.forall_not_clashes_iff.mpr (by decide +kernel)⟩
  obtain ⟨s, hs⟩ := (p.exists_generate_iff_sound hmarked (Candidates.ofModels models)).mpr hsound
  have hg : p.Gives models marked (.ok s) := Pass.gives_iff.mpr ⟨List.mem_cons_self, hs⟩
  obtain ⟨htype, hfile, hclass⟩ := names_of_generate hmarked rfl isAlpha_defaultSuffix hs
  have hshadow : p.emitter.shadowName marked.name = "@classDTO" := by decide +kernel
  have hsuffixed : p.emitter.fileName marked.name = "@classDTO.py" := by decide +kernel
  rw [hshadow] at htype hclass
  rw [hsuffixed] at hfile
  exact ⟨haccepted, ⟨s, hg, htype, hfile, hclass⟩, by decide +kernel⟩

end Python

end ShadowTypes
