import ShadowTypes.Proofs.Declarations
import ShadowTypes.Proofs.Quoted

/-!
# Lines of Python texts

No part of the text of a Python class holds a line break: names are words, and a type that is
neither a word nor a path of words is quoted, with an escape for each break. So the lines of the
text are its parts, and its members, their types and the fragments of its condition are read back
from the lines alone, whatever the names of the types are.
-/

namespace ShadowTypes

/-! ## Texts on one line -/

/-- The text holds no line break. -/
def OneLine (s : String) : Prop := '\n' ∉ s.toList

instance (s : String) : Decidable (OneLine s) := inferInstanceAs (Decidable (¬ _))

theorem OneLine.append {s t : String} (hs : OneLine s) (ht : OneLine t) : OneLine (s ++ t) := by
  rw [OneLine, String.toList_append, List.mem_append, not_or]
  exact ⟨hs, ht⟩

theorem oneLine_ofList {l : List Char} (h : '\n' ∉ l) : OneLine (String.ofList l) := by
  rwa [OneLine, String.toList_ofList]

namespace Text

/-- However many lines a text has, its quoted form has one. -/
theorem oneLine_quoted (s : String) : OneLine (quoted s) := by
  rw [OneLine, toList_quoted]
  intro hmem
  exact absurd (isLineEnd_of_mem_quoteChars hmem) (by decide)

end Text

/-! ## Types on one line -/

namespace TypeExpression

theorem oneLine_shortName {s : String} (h : OneLine s) : OneLine (shortName s) := by
  apply oneLine_ofList
  intro hmem
  have htaken := List.takeWhile_prefix (· != '.') |>.subset (List.mem_reverse.mp hmem)
  exact h (List.mem_reverse.mp htaken)

theorem oneLine_common? {base t : String} (h : common? base = some t) : OneLine t := by
  have hall : ∀ x ∈ commonTypes, OneLine x.2 := by decide
  unfold common? at h
  obtain ⟨x, hx, rfl⟩ := Option.map_eq_some_iff.mp h
  exact hall x (List.mem_of_find?_eq_some hx)

theorem oneLine_of_isPath {s : String} (h : isPath s.toList = true) : OneLine s := by
  rw [isPath, List.all_eq_true] at h
  rw [OneLine, ← Text.joinWith_splitAt '.' s.toList]
  intro hmem
  rcases Text.exists_mem_of_mem_joinWith hmem with hpoint | ⟨part, hpart, hmem⟩
  · exact absurd hpoint (by decide)
  · have hidentifier := h part hpart
    rw [Bool.and_eq_true] at hidentifier
    exact Text.notMem_of_isIdentifier (by decide) hidentifier.1 hmem

/-- A type that is no candidate is a common type, a path, or quoted. -/
theorem oneLine_plain (base : String) : OneLine (plain base) := by
  unfold plain
  split
  · next h => exact oneLine_common? h
  · split
    · next h => exact oneLine_of_isPath h
    · exact Text.oneLine_quoted base

end TypeExpression

namespace Model.WellFormed

variable {m : Model}

theorem oneLine_qualifiedName (h : m.WellFormed) : OneLine m.qualifiedName := by
  intro hmem
  exact absurd (h.isPlain_qualifiedName _ hmem).1 (by decide)

theorem oneLine_name (h : m.WellFormed) : OneLine m.name := by
  intro hmem
  exact absurd (Description.isPlain_of_isName h.isName _ hmem).1 (by decide)

end Model.WellFormed

namespace Python

variable {m : Model} {e : Emitter} {models : List Model} {fragments : List String}

theorem oneLine_typeExpression (hd : e.dialect = .python) (hs : OneLine e.suffix)
    (hmodels : ∀ k ∈ models, k.WellFormed) (t : String) :
    OneLine (e.typeExpression t (Candidates.ofModels models)) := by
  cases hc : (Candidates.ofModels models).canonical? (TypeName.bare t) with
  | none =>
    rw [Emitter.typeExpression_of_none hc, hd]
    exact TypeExpression.oneLine_plain _
  | some declared =>
    rw [Emitter.typeExpression_of_some hc, hd]
    rw [Candidates.canonical?_ofModels] at hc
    obtain ⟨k, hk, rfl⟩ := Option.map_eq_some_iff.mp hc
    have hname := (hmodels k (List.mem_of_find?_eq_some hk)).oneLine_qualifiedName
    exact (TypeExpression.oneLine_shortName hname).append hs

theorem oneLine_member {p : Property} (h : p.WellFormed) :
    OneLine (Dialect.python.member p.name) := by
  have hbreak : Text.isWord '\n' = false := by decide
  obtain ⟨hword, -⟩ := Dialect.member_python h.isName
  intro hmem
  exact Text.notMem_of_isWordText hbreak hword hmem

/-! ## The lines of a text -/

def linesOf (text : String) : List String := (Text.splitLines text.toList).map String.ofList

theorem linesOf_ofLines {ls : List String} (hne : ls ≠ []) (h : ∀ l ∈ ls, OneLine l) :
    linesOf (Source.ofLines ls) = ls := by
  induction ls with
  | nil => exact absurd rfl hne
  | cons l ls ih =>
    obtain ⟨hl, hls⟩ := List.forall_mem_cons.mp h
    obtain ⟨rest, hrest, hnext⟩ := splitLines_ofLines_cons hl ls
    rw [linesOf, hrest, List.map_cons, String.ofList_toList]
    cases ls with
    | nil =>
      rw [Source.ofLines, String.intercalate_singleton, Text.splitLines,
        Text.splitAt_of_notMem hl] at hrest
      rw [← (List.cons.inj hrest).2, List.map_nil]
    | cons k ls =>
      rw [hnext (List.cons_ne_nil _ _)]
      exact congrArg _ (ih (List.cons_ne_nil _ _) hls)

theorem oneLine_pythonReturn {l : Layout} (hp : OneLine l.property) (hc : OneLine l.check)
    (hf : ∀ f ∈ fragments, OneLine f) : ∀ s ∈ Source.pythonReturn l fragments, OneLine s := by
  cases fragments with
  | nil =>
    intro s hs
    rw [List.mem_singleton.mp hs]
    exact (hp.append hp).append (by decide)
  | cons f fs =>
    obtain ⟨hfirst, hrest⟩ := List.forall_mem_cons.mp hf
    intro s hs
    simp only [Source.pythonReturn, List.mem_append, List.mem_cons, List.not_mem_nil, or_false,
      List.mem_map] at hs
    rcases hs with ((rfl | rfl) | ⟨g, hg, rfl⟩) | rfl
    · exact (hp.append hp).append (by decide)
    · exact hc.append hfirst
    · exact (hc.append (by decide)).append (hrest g hg)
    · exact (hp.append hp).append (by decide)

theorem oneLine_opening (hd : e.dialect = .python) (hm : m.WellFormed) (hs : OneLine e.suffix) :
    ∀ s ∈ e.opening m, OneLine s := by
  have hfixed : ∀ s ∈ ["from __future__ import annotations", "",
      "from dataclasses import dataclass", "", "", "@dataclass"], OneLine s := by decide
  intro s hmem
  simp only [Emitter.opening, hd, List.mem_cons, List.not_mem_nil, or_false] at hmem
  rcases hmem with rfl | rfl | rfl | rfl | rfl | rfl | rfl | rfl
  · exact ((by decide : OneLine _).append hm.oneLine_qualifiedName).append (by decide)
  iterate 6 exact hfixed _ (by decide)
  · exact ((by decide : OneLine _).append (hm.oneLine_name.append hs)).append (by decide)

theorem linesOf_render (hd : e.dialect = .python) (hl : e.layout = Dialect.python.layout)
    (hs : OneLine e.suffix) (hm : m.WellFormed) (hmodels : ∀ k ∈ models, k.WellFormed)
    (hf : ∀ f ∈ fragments, OneLine f) {text : String}
    (h : e.render m fragments (Candidates.ofModels models) = .ok text) :
    linesOf text = e.opening m ++ (m.properties.map fun p =>
      Source.pythonField e.layout (Dialect.python.member p.name)
        (e.typeExpression p.typeName (Candidates.ofModels models))) ++ e.ending m fragments := by
  have hproperty : OneLine e.layout.property := by
    rw [hl]
    decide
  have hcheck : OneLine e.layout.check := by
    rw [hl]
    decide
  have hdeclaration : ∀ member type, e.declaration m member type =
      Source.pythonField e.layout member type := by
    intro member type
    simp only [Emitter.declaration, e.place_eq_id (.inl hd), hd, id]
  have hending : ∀ s ∈ e.ending m fragments, OneLine s := by
    intro s hmem
    simp only [Emitter.ending, hd, List.mem_append, List.mem_singleton] at hmem
    rcases hmem with ((hmem | rfl) | hmem) | rfl
    · split at hmem
      · cases hmem
      · rw [List.mem_singleton.mp hmem]
        decide
    · exact ((hproperty.append (by decide)).append (by decide)).append (by decide)
    · exact oneLine_pythonReturn hproperty hcheck hf s hmem
    · decide
  rw [← (e.render_eq_ok_iff.mp h).2, e.frame_eq_ofLines fragments]
  simp only [hdeclaration, hd]
  refine linesOf_ofLines (by simp [Emitter.opening, hd]) ?_
  intro s hmem
  rw [List.mem_append, List.mem_append, List.mem_map] at hmem
  rcases hmem with (hmem | ⟨p, hp, rfl⟩) | hmem
  · exact oneLine_opening hd hm hs s hmem
  · have hmember := oneLine_member (hm.properties p hp)
    have htype := oneLine_typeExpression hd hs hmodels p.typeName
    exact (((hproperty.append hmember).append (by decide)).append htype).append (by decide)
  · exact hending s hmem

/-! ## Reading the lines back -/

def methodLine : String := "    def check_is_valid(self) -> bool:"

/-- The member that a line declares, and its type. -/
def fieldOf (line : String) : String × String :=
  let content := line.toList.drop 4
  let member := content.takeWhile (· != ':')
  let type := content.drop (member.length + 2)
  (String.ofList member, String.ofList (type.take (type.length - " | None = None".length)))

/-- The fragments on the lines of a statement that returns their conjunction. -/
def fragmentsOf (block : List String) : List String :=
  match (block.drop 1).dropLast with
  | [] => []
  | f :: fs => String.ofList (f.toList.drop 12) :: fs.map fun g => String.ofList (g.toList.drop 16)

/-- What the lines of a class hold. -/
structure Listing where
  fields : List (String × String)
  fragments : List String
  deriving DecidableEq, Repr

/-- Reads a text by its lines: the declarations come after eight lines and end at the first line
that is empty or begins the validity method. -/
def Listing.read (text : String) : Listing :=
  let body := (linesOf text).drop 8
  ⟨(body.takeWhile fun l => l != "" && l != methodLine).map fieldOf,
    fragmentsOf ((body.dropWhile (· != methodLine)).drop 1).dropLast⟩

variable {member type : String}

theorem toList_pythonField {l : Layout} (hl : l = Dialect.python.layout) (member type : String) :
    (Source.pythonField l member type).toList = List.replicate 4 ' ' ++
      (member.toList ++ ':' :: ' ' :: (type.toList ++ " | None = None".toList)) := by
  subst hl
  have hcolon : ": ".toList = [':', ' '] := rfl
  have hindent : Dialect.python.layout.property.toList = List.replicate 4 ' ' := rfl
  simp only [Source.pythonField, String.toList_append, hcolon, hindent, List.append_assoc,
    List.cons_append, List.nil_append]

/-- A declaration is read back for its member and its type, whatever stands in the type. -/
theorem fieldOf_pythonField {l : Layout} (hl : l = Dialect.python.layout)
    (hm : Text.isWordText member.toList = true) :
    fieldOf (Source.pythonField l member type) = (member, type) := by
  have hword : ∀ c ∈ member.toList, (c != ':') = true := by
    have hcolon : Text.isWord ':' = false := by decide
    intro c hc
    rw [bne_iff_ne]
    rintro rfl
    exact Text.notMem_of_isWordText hcolon hm hc
  have hmember : (member.toList ++ ':' :: ' ' :: (type.toList ++ " | None = None".toList)).takeWhile
      (· != ':') = member.toList := by
    rw [List.takeWhile_append_of_pos hword]
    simp
  have htype : (member.toList ++ ':' :: ' ' :: (type.toList ++ " | None = None".toList)).drop
      (member.toList.length + 2) = type.toList ++ " | None = None".toList := by
    rw [← List.drop_drop, List.drop_left]
    rfl
  simp only [fieldOf]
  rw [toList_pythonField hl, List.drop_left' List.length_replicate, hmember, htype]
  simp [← String.length_toList]

theorem pythonField_ne {l : Layout} (hl : l = Dialect.python.layout)
    (hm : Text.isWordText member.toList = true) :
    Source.pythonField l member type ≠ "" ∧ Source.pythonField l member type ≠ methodLine := by
  have hfield : fieldOf (Source.pythonField l member type) = (member, type) :=
    fieldOf_pythonField hl hm
  constructor
  · intro h
    rw [h] at hfield
    have hnil : [] = member.toList := congrArg (fun x => x.1.toList) hfield
    exact Text.ne_nil_of_isWordText hm hnil.symm
  · intro h
    rw [h] at hfield
    have hmethod : "def check_is_valid(self) -> bool".toList = member.toList :=
      congrArg (fun x => x.1.toList) hfield
    rw [← hmethod] at hm
    exact absurd hm (by decide)

theorem ofList_drop_append (front s : String) :
    String.ofList ((front ++ s).toList.drop front.length) = s := by
  rw [String.toList_append, ← String.length_toList, List.drop_left, String.ofList_toList]

theorem fragmentsOf_pythonReturn {l : Layout} (hl : l = Dialect.python.layout)
    (fragments : List String) : fragmentsOf (Source.pythonReturn l fragments) = fragments := by
  subst hl
  cases fragments with
  | nil => rfl
  | cons f fs =>
    have hfirst : String.ofList ((Dialect.python.layout.check ++ f).toList.drop 12) = f :=
      ofList_drop_append Dialect.python.layout.check f
    have hnext : ∀ g : String,
        String.ofList ((Dialect.python.layout.check ++ "and " ++ g).toList.drop 16) = g :=
      fun g => ofList_drop_append (Dialect.python.layout.check ++ "and ") g
    have hlines : ((Source.pythonReturn Dialect.python.layout (f :: fs)).drop 1).dropLast =
        (Dialect.python.layout.check ++ f) ::
          fs.map fun g => Dialect.python.layout.check ++ "and " ++ g := by
      simp only [Source.pythonReturn, List.cons_append, List.nil_append, List.drop_one,
        List.tail_cons]
      rw [← List.cons_append, List.dropLast_concat]
    rw [fragmentsOf, hlines]
    simp only [hfirst, List.map_map, Function.comp_def, hnext, List.map_id']

theorem length_pythonReturn (l : Layout) {fragments : List String} (h : fragments ≠ []) :
    (Source.pythonReturn l fragments).length = fragments.length + 2 := by
  obtain ⟨f, fs, rfl⟩ := List.exists_cons_of_ne_nil h
  simp [Source.pythonReturn]

theorem Listing.read_of_lines {l : Layout} (hl : l = Dialect.python.layout) {text : String}
    {header gap : List String} {fields : List (String × String)} (hheader : header.length = 8)
    (hfields : ∀ f ∈ fields, Text.isWordText f.1.toList = true) (hgap : gap = [] ∨ gap = [""])
    (h : linesOf text = header ++ (fields.map fun f => Source.pythonField l f.1 f.2) ++ gap ++
      [methodLine] ++ Source.pythonReturn l fragments ++ [""]) :
    read text = ⟨fields, fragments⟩ := by
  have hbody : (linesOf text).drop 8 = (fields.map fun f => Source.pythonField l f.1 f.2) ++
      (gap ++ methodLine :: (Source.pythonReturn l fragments ++ [""])) := by
    rw [h, ← hheader]
    simp only [List.append_assoc, List.cons_append, List.nil_append, List.drop_left]
  have hne : ∀ s ∈ fields.map fun f => Source.pythonField l f.1 f.2,
      (s != "") = true ∧ (s != methodLine) = true := by
    intro s hs
    obtain ⟨f, hf, rfl⟩ := List.mem_map.mp hs
    simp only [bne_iff_ne]
    exact pythonField_ne hl (hfields f hf)
  have hread : (fields.map fun f => Source.pythonField l f.1 f.2).map fieldOf = fields := by
    rw [List.map_map]
    refine (List.map_congr_left fun f hf => ?_).trans (List.map_id fields)
    exact fieldOf_pythonField hl (hfields f hf)
  have hfirst : ((linesOf text).drop 8).takeWhile (fun l => l != "" && l != methodLine) =
      fields.map fun f => Source.pythonField l f.1 f.2 := by
    rw [hbody, List.takeWhile_append_of_pos]
    · rcases hgap with rfl | rfl <;> simp
    · intro s hs
      rw [Bool.and_eq_true]
      exact hne s hs
  have hrest : ((linesOf text).drop 8).dropWhile (· != methodLine) =
      methodLine :: (Source.pythonReturn l fragments ++ [""]) := by
    rw [hbody, List.dropWhile_append_of_pos fun s hs => (hne s hs).2]
    have hempty : ("" != methodLine) = true := by decide
    rcases hgap with rfl | rfl <;> simp [hempty]
  simp only [read]
  rw [hfirst, hrest, hread, List.drop_one, List.tail_cons, List.dropLast_concat,
    fragmentsOf_pythonReturn hl]

/-- Wherever an accepted model is rendered in Python with the usual layout, over the candidates of
accepted models, the text has a fixed number of lines before the declarations, one line for each
declaration, one that is empty if there is any, and the validity method. Members, types and
fragments are read back from the text in order, whatever the types are named. -/
theorem lines_of_accepted_model (h : m.Accepted) (hd : e.dialect = .python)
    (hl : e.layout = Dialect.python.layout) (hs : OneLine e.suffix)
    (hmodels : ∀ k ∈ models, k.Accepted) (hf : ∀ f ∈ fragments, OneLine f) {text : String}
    (hr : e.render m fragments (Candidates.ofModels models) = .ok text) :
    let member (p : Property) := Dialect.python.member p.name
    let type (p : Property) := e.typeExpression p.typeName (Candidates.ofModels models)
    ∃ header block : List String,
      header.length = 8 ∧ header.getLast? = some ("class " ++ e.shadowName m.name ++ ":") ∧
      (fragments = [] → block = ["        return True"]) ∧
      (fragments ≠ [] → block.length = fragments.length + 2) ∧
      linesOf text = header ++
        (m.properties.map fun p => "    " ++ member p ++ ": " ++ type p ++ " | None = None") ++
        (if m.properties = [] then [] else [""]) ++ ["    def check_is_valid(self) -> bool:"] ++
        block ++ [""] ∧
      Listing.read text = ⟨m.properties.map fun p => (member p, type p), fragments⟩ := by
  intro member type
  have hm : m.WellFormed := h.wellFormed
  have hlines := linesOf_render hd hl hs hm (fun k hk => (hmodels k hk).wellFormed) hf hr
  have hmethod : e.layout.property ++ "def " ++ Dialect.python.validityMethod ++
      "(self) -> bool:" = methodLine := by
    rw [hl]
    decide
  have hending : e.ending m fragments = (if m.properties = [] then [] else [""]) ++
      [methodLine] ++ Source.pythonReturn e.layout fragments ++ [""] := by
    simp only [Emitter.ending, List.isEmpty_iff, hd, hmethod]
  rw [hending] at hlines
  have hlines : linesOf text = e.opening m ++
      ((m.properties.map fun p => (member p, type p)).map fun f =>
        Source.pythonField e.layout f.1 f.2) ++
      (if m.properties = [] then [] else [""]) ++ [methodLine] ++
      Source.pythonReturn e.layout fragments ++ [""] := by
    rw [hlines, List.map_map]
    simp only [List.append_assoc, Function.comp_def, member, type]
  have hheader : (e.opening m).length = 8 := by simp [Emitter.opening, hd]
  refine ⟨e.opening m, Source.pythonReturn e.layout fragments, hheader, ?_, ?_,
    length_pythonReturn _, ?_, ?_⟩
  · simp [Emitter.opening, hd]
  · rintro rfl
    rw [hl]
    decide
  · rw [hlines, hl, List.map_map]
    rfl
  · refine Listing.read_of_lines hl hheader ?_ ?_ hlines
    · intro f hmem
      obtain ⟨p, hp, rfl⟩ := List.mem_map.mp hmem
      exact (Dialect.member_python (hm.properties p hp).isName).1
    · split
      · exact .inl rfl
      · exact .inr rfl

/-- A keyword as a member, a type of two lines with both quotes, and a reference. -/
theorem lines_of_odd_types :
    let item : Model := { space := "shop", name := "Item" }
    let order : Model := { space := "shop", name := "Order", properties := [
      ⟨"class", "string", none⟩, ⟨"Odd", "it's \"a\"\n: type", none⟩,
      ⟨"Line", "shop.ITEM?", none⟩] }
    let fragments := ["self.class_ is not None", "self.Odd is not None"]
    let e := Emitter.ofDialect .python
    order.Accepted ∧ (∀ k ∈ [order, item], k.Accepted) ∧ (∀ f ∈ fragments, OneLine f) ∧
    ∃ text, e.render order fragments (Candidates.ofModels [order, item]) = .ok text ∧
      (linesOf text).length = 18 ∧
      Listing.read text = ⟨[("class_", "str"), ("Odd", "'it\\'s \"a\"\\n: type'"),
        ("Line", "ItemDTO")], fragments⟩ := by
  intro item order fragments e
  have hitem : item.Accepted :=
    ⟨.mapping [(.text "namespace", .text "shop"), (.text "name", .text "Item")], false, rfl⟩
  have horder : order.Accepted := ⟨.mapping [(.text "namespace", .text "shop"),
    (.text "name", .text "Order"), (.text "properties", .list [
      .mapping [(.text "name", .text "class"), (.text "typeName", .text "string")],
      .mapping [(.text "name", .text "Odd"), (.text "typeName", .text "it's \"a\"\n: type")],
      .mapping [(.text "name", .text "Line"), (.text "typeName", .text "shop.ITEM?")]])],
    false, rfl⟩
  have hmodels : ∀ k ∈ [order, item], k.Accepted := by
    simp only [List.forall_mem_cons]
    exact ⟨horder, hitem, by simp⟩
  have hfragments : ∀ f ∈ fragments, OneLine f := by decide
  have hrender : e.render order fragments (Candidates.ofModels [order, item]) = .ok _ :=
    e.render_eq_ok_iff.mpr ⟨Emitter.forall_not_clashes_iff.mpr (by decide +kernel), rfl⟩
  obtain ⟨header, block, hheader, -, -, hblock, hlines, hread⟩ :=
    lines_of_accepted_model horder rfl rfl (by decide) hmodels hfragments hrender
  refine ⟨horder, hmodels, hfragments, _, hrender, ?_, ?_⟩
  · simp only [hlines, List.length_append, hheader, hblock (List.cons_ne_nil _ _),
      List.length_map]
    decide
  · rw [hread]
    decide +kernel

end Python

end ShadowTypes
