import ShadowTypes.Proofs.Python.TypeNames

/-!
# Declarations and conditions of generated texts

The text of a shadow type is laid out in parts, each on a line of its own: what opens the class, one
declaration for each property, and what ends it, with the condition of the validity method. A
declaration can be read back for the member that it declares, whatever its type looks like. The
members that are declared so are those that the fragments of the condition are written over.
-/

namespace ShadowTypes

/-! ## Texts in parts -/

namespace Source

theorem ofLines_cons (s t : String) (ls : List String) :
    ofLines (s :: t :: ls) = s ++ "\n" ++ ofLines (t :: ls) :=
  String.intercalate_cons_cons

theorem ofLines_append {ls ms : List String} (hl : ls ≠ []) (hm : ms ≠ []) :
    ofLines (ls ++ ms) = ofLines ls ++ "\n" ++ ofLines ms := by
  induction ls with
  | nil => exact absurd rfl hl
  | cons l ls ih =>
    cases ls with
    | nil =>
      obtain ⟨m, ms, rfl⟩ := List.exists_cons_of_ne_nil hm
      rw [List.singleton_append, ofLines_cons]
      rfl
    | cons k ls =>
      have hrest := ih (List.cons_ne_nil _ _)
      rw [List.cons_append, List.cons_append, ofLines_cons, ← List.cons_append, hrest, ofLines_cons]
      simp only [String.append_assoc]

theorem toList_append_break (s t : String) :
    (s ++ "\n" ++ t).toList = s.toList ++ '\n' :: t.toList := by
  have hbreak : "\n".toList = ['\n'] := rfl
  rw [String.toList_append, String.toList_append, hbreak, List.append_assoc, List.singleton_append]

theorem outdent_append (s t : String) :
    outdent (s ++ "\n" ++ t) = outdent s ++ "\n" ++ outdent t := by
  apply String.toList_inj.mp
  rw [toList_append_break]
  simp only [outdent, String.toList_ofList, toList_append_break]
  exact Text.joinWith_map_splitAt_append '\n' outdentLine s.toList t.toList

/-- The parts of a text stand one level further out where the text does. -/
theorem outdent_ofLines (ls : List String) : outdent (ofLines ls) = ofLines (ls.map outdent) := by
  induction ls with
  | nil => rfl
  | cons l ls ih =>
    cases ls with
    | nil => rfl
    | cons k ls =>
      rw [ofLines_cons, outdent_append, ih]
      simp only [List.map_cons, ofLines_cons]

/-- What begins with no blank and holds no break stays at the end of a text. -/
theorem outdent_end {s t : String} {c : Char} {r : List Char} (ht : t.toList = c :: r)
    (hc : c ≠ ' ') (hn : '\n' ∉ t.toList) : ∃ x, (outdent (s ++ t)).toList = x ++ t.toList := by
  obtain ⟨init, last, -, hsplit⟩ := Text.exists_splitAt_append hn s.toList
  have hline : ∃ x, outdentLine (last ++ t.toList) = x ++ t.toList := by
    unfold outdentLine
    split
    · next h =>
      -- The blanks that are dropped all lie before the end, which begins with another character.
      obtain ⟨rest, hrest⟩ := List.isPrefixOf_iff_prefix.mp h
      have hlevel : level ≤ last.length := by
        by_contra hlt
        rw [Nat.not_le] at hlt
        have hget : (List.replicate level ' ' ++ rest)[last.length]? = some ' ' := by
          rw [List.getElem?_append_left (by simpa using hlt), List.getElem?_replicate, if_pos hlt]
        rw [hrest, ht, List.getElem?_append_right le_rfl, Nat.sub_self] at hget
        exact hc (Option.some.inj hget)
      exact ⟨last.drop level, List.drop_append_of_le_length hlevel⟩
    · exact ⟨last, rfl⟩
  obtain ⟨x, hx⟩ := hline
  simp only [outdent, Text.splitLines, String.toList_append, String.toList_ofList, hsplit,
    List.map_append, List.map_cons, List.map_nil, hx, Text.joinLines]
  cases init with
  | nil => exact ⟨x, rfl⟩
  | cons l init =>
    rw [Text.joinWith_append (by simp) (List.cons_ne_nil _ _), Text.joinWith,
      ← List.cons_append, ← List.append_assoc]
    exact ⟨_, rfl⟩

end Source

/-! ## The parts of a shadow type -/

namespace Emitter

variable (e : Emitter) (m : Model)

/-- A part of a class, which stands one level further out if the class is in no namespace. -/
def place (part : String) : String :=
  match e.dialect with
  | .csharp => if m.space = "" then Source.outdent part else part
  | .python => part

/-- The parts before the declarations. The last but none of them names the class. -/
def opening : List String :=
  match e.dialect with
  | .csharp => (if m.space = "" then [] else ["namespace " ++ m.space, "\x7b"]) ++
      ["    public class " ++ e.shadowName m.name, "    \x7b"].map (e.place m)
  | .python => ["\"\"\"Shadow type of " ++ m.qualifiedName ++ ".\"\"\"",
      "from __future__ import annotations", "", "from dataclasses import dataclass", "", "",
      "@dataclass", "class " ++ e.shadowName m.name ++ ":"]

def declaration (member type : String) : String :=
  e.place m (match e.dialect with
    | .csharp => Source.csharpField e.layout member type
    | .python => Source.pythonField e.layout member type)

/-- The parts after the declarations: the validity method with the conjunction of the fragments. -/
def ending (fragments : List String) : List String :=
  let gap := if m.properties.isEmpty then [] else [""]
  match e.dialect with
  | .csharp => (gap ++ ["        public bool " ++ e.dialect.validityMethod ++ "()", "        \x7b",
      "            return " ++ Source.csharpCondition e.layout fragments ++ ";", "        \x7d",
      "    \x7d"]).map (e.place m) ++ if m.space = "" then [""] else ["\x7d", ""]
  | .python => gap ++ [e.layout.property ++ "def " ++ e.dialect.validityMethod ++
      "(self) -> bool:"] ++ Source.pythonReturn e.layout fragments ++ [""]

/-- What stands between the member and the end of a declaration in C#. -/
def accessors : List Char := " \x7b get; set; \x7d".toList

/-- The member that a declaration declares: the word before the first colon in Python, the last word
before the accessors in C#. -/
def declared (declaration : String) : String :=
  match e.dialect with
  | .csharp => String.ofList
      ((declaration.toList.reverse.drop accessors.length).takeWhile (· != ' ')).reverse
  | .python => String.ofList
      ((declaration.toList.drop e.layout.property.toList.length).takeWhile (· != ':'))

variable {m}

theorem place_eq_outdent (hd : e.dialect = .csharp) (hs : m.space = "") :
    e.place m = Source.outdent := by
  funext part
  simp only [place, hd, if_pos hs]

theorem place_eq_id (h : e.dialect = .python ∨ m.space ≠ "") : e.place m = id := by
  funext part
  cases hd : e.dialect with
  | python => simp only [place, hd, id]
  | csharp =>
    rw [hd] at h
    simp only [place, hd, if_neg (h.resolve_left (by simp)), id]

theorem frame_eq_ofLines (fragments : List String) (candidates : Candidates)
    (f : Property → String) :
    e.frame m (m.properties.map f) fragments candidates =
      Source.ofLines (e.opening m ++
        (m.properties.map fun p =>
          e.declaration m (f p) (e.typeExpression p.typeName candidates)) ++
        e.ending m fragments) := by
  have hfields : (m.properties.map f).zip
      (m.properties.map fun p => e.typeExpression p.typeName candidates) =
      m.properties.map fun p => (f p, e.typeExpression p.typeName candidates) := List.zip_map'
  unfold frame
  simp only [hfields]
  cases hd : e.dialect with
  | python =>
    simp only [Source.pythonLines, opening, declaration, ending, e.place_eq_id (.inl hd), id, hd,
      List.isEmpty_map, List.map_map, Function.comp_def, List.append_assoc]
  | csharp =>
    have hclass : ∀ method shadow fields,
        Source.csharpClass e.layout method shadow fields fragments ≠ [] :=
      fun _ _ _ => List.cons_ne_nil _ _
    by_cases hs : m.space = ""
    · have hbreak : ∀ s : String, s ++ "\n" = s ++ "\n" ++ Source.ofLines [""] := by
        intro s
        simp [Source.ofLines]
      rw [Source.csharpText, if_pos hs, Source.outdent_ofLines, hbreak,
        ← Source.ofLines_append (by simpa using hclass _ _ _) (List.cons_ne_nil _ _)]
      simp only [Source.csharpClass, opening, declaration, ending, e.place_eq_outdent hd hs, hd,
        if_pos hs, List.isEmpty_map, List.map_append, List.map_map, Function.comp_def,
        List.append_assoc, List.nil_append]
    · have hwrap : ∀ s : String, "namespace " ++ m.space ++ "\n\x7b\n" ++ s ++ "\n\x7d\n" =
          Source.ofLines ["namespace " ++ m.space, "\x7b"] ++ "\n" ++
            (s ++ "\n" ++ Source.ofLines ["\x7d", ""]) := by
        intro s
        have hopen : "\n\x7b\n" = "\n" ++ "\x7b" ++ "\n" := by decide
        have hclose : "\n\x7d\n" = "\n" ++ ("\x7d" ++ "\n" ++ "") := by decide
        rw [Source.ofLines_cons, Source.ofLines_cons, hopen, hclose]
        simp only [Source.ofLines, String.intercalate_singleton, String.append_assoc]
      rw [Source.csharpText, if_neg hs, hwrap,
        ← Source.ofLines_append (hclass _ _ _) (List.cons_ne_nil _ _),
        ← Source.ofLines_append (List.cons_ne_nil _ _) (by simp [Source.csharpClass])]
      simp only [Source.csharpClass, opening, declaration, ending, e.place_eq_id (.inr hs), id, hd,
        if_neg hs, List.isEmpty_map, List.map_id, List.map_map, Function.comp_def,
        List.append_assoc]

theorem render_eq_ok_iff {fragments : List String} {candidates : Candidates} {text : String} :
    e.render m fragments candidates = .ok text ↔
      (∀ before q after, m.properties = before ++ q :: after → ¬ e.Clashes m before q) ∧
        e.frame m (m.properties.map fun p => e.dialect.member p.name) fragments candidates =
          text := by
  constructor
  · intro h
    unfold render at h
    cases hmembers : e.memberNames m with
    | error f =>
      rw [hmembers] at h
      cases h
    | ok members =>
      have hclashes : ∀ before q after, m.properties = before ++ q :: after →
          ¬ e.Clashes m before q := fun _ _ _ => not_clashes_of_memberNames hmembers
      rw [memberNames_eq_ok hclashes] at h
      exact ⟨hclashes, Except.ok.inj h⟩
  · rintro ⟨hclashes, rfl⟩
    rw [render, memberNames_eq_ok hclashes]
    rfl

/-! ## Reading declarations back -/

/-- The last word before the accessors is read back, whatever stands before it. -/
theorem declared_of_end {declaration member : String} {x : List Char} (hd : e.dialect = .csharp)
    (hm : ' ' ∉ member.toList)
    (h : declaration.toList = x ++ ' ' :: (member.toList ++ accessors)) :
    e.declared declaration = member := by
  have hreverse : declaration.toList.reverse =
      accessors.reverse ++ (member.toList.reverse ++ ' ' :: x.reverse) := by
    simp [h]
  have hword : ∀ c ∈ member.toList.reverse, (c != ' ') = true := by
    intro c hc
    rw [bne_iff_ne]
    rintro rfl
    exact hm (List.mem_reverse.mp hc)
  simp only [declared, hd]
  rw [hreverse, ← List.length_reverse, List.drop_left, List.takeWhile_append_of_pos hword]
  simp

theorem declared_declaration {name : String} (h : Description.isName name.toList = true)
    (type : String) :
    e.declared (e.declaration m (e.dialect.member name) type) = e.dialect.member name := by
  cases hd : e.dialect with
  | python =>
    have hword : ∀ c ∈ (Dialect.python.member name).toList, (c != ':') = true := by
      intro c hc
      rw [bne_iff_ne]
      rintro rfl
      exact Text.notMem_of_isWordText (by decide) (Dialect.member_python h).1 hc
    have hcolon : ": ".toList = [':', ' '] := by decide
    simp only [declared, declaration, e.place_eq_id (.inl hd), id, hd, Source.pythonField,
      String.toList_append, List.append_assoc, hcolon]
    rw [List.drop_left, List.takeWhile_append_of_pos hword]
    simp
  | csharp =>
    have hplain := Description.isPlain_of_isName h
    have hblank : ' ' ∉ name.toList := fun hc => absurd (hplain _ hc).1 (by decide)
    have hend : ("? " ++ name ++ " \x7b get; set; \x7d").toList =
        '?' :: ' ' :: (name.toList ++ accessors) := by
      have hmark : "? ".toList = ['?', ' '] := by decide
      rw [String.toList_append, String.toList_append, hmark, List.append_assoc]
      rfl
    have hbreak : '\n' ∉ ("? " ++ name ++ " \x7b get; set; \x7d").toList := by
      rw [hend, List.mem_cons, List.mem_cons, List.mem_append]
      rintro (hc | hc | hc | hc)
      · exact absurd hc (by decide)
      · exact absurd hc (by decide)
      · exact absurd (hplain _ hc).1 (by decide)
      · exact absurd hc (by decide)
    have hfield : Source.csharpField e.layout name type =
        (e.layout.property ++ "public " ++ type) ++ ("? " ++ name ++ " \x7b get; set; \x7d") := by
      simp only [Source.csharpField, String.append_assoc]
    simp only [Dialect.member]
    by_cases hs : m.space = ""
    · obtain ⟨x, hx⟩ := Source.outdent_end (s := e.layout.property ++ "public " ++ type) hend
        (by decide) hbreak
      refine e.declared_of_end hd hblank (x := x ++ ['?']) ?_
      simp only [declaration, e.place_eq_outdent hd hs, hd]
      rw [hfield, hx, hend, List.append_assoc, List.singleton_append]
    · refine e.declared_of_end hd hblank
        (x := (e.layout.property ++ "public " ++ type).toList ++ ['?']) ?_
      simp only [declaration, e.place_eq_id (.inr hs), id, hd]
      rw [hfield, String.toList_append, hend, List.append_assoc, List.singleton_append]

end Emitter

/-! ## Members in declarations and fragments -/

theorem Emitter.taken_python {e : Emitter} (hd : e.dialect = .python) {p : Property}
    (h : p.WellFormed) : e.taken p = e.dialect.member p.name := by
  have hword := (Dialect.member_python h.isName).1
  rw [taken, hd]
  apply String.toList_inj.mp
  rw [Dialect.toList_unescaped, Text.dropWhile_mark_of_isWordText hword]

theorem Model.WellFormed.map_declared {m : Model} (h : m.WellFormed) (e : Emitter)
    (candidates : Candidates) :
    (m.properties.map fun p => e.declaration m (e.dialect.member p.name)
      (e.typeExpression p.typeName candidates)).map e.declared =
      m.properties.map fun p => e.dialect.member p.name := by
  rw [List.map_map]
  refine List.map_congr_left fun p hp => ?_
  exact e.declared_declaration (h.properties p hp).isName _

theorem Emitter.fragments_eq_filterMap_zip (e : Emitter) (ps : List Property)
    (candidates : Candidates) (names : StringNames) :
    e.fragments (ps.map (·.resolved candidates names)) =
      ((ps.map fun p => e.dialect.member p.name).zip ps).filterMap
        fun x => e.dialect.fragment? x.1 (x.2.resolved candidates names).check := by
  have hzip : (ps.map fun p => e.dialect.member p.name).zip ps =
      ps.map fun p => (e.dialect.member p.name, p) := by
    conv_lhs =>
      arg 2
      rw [← List.map_id ps]
    exact List.zip_map'
  rw [hzip, fragments, Dialect.fragments, List.map_map, List.filterMap_map, List.filterMap_map]
  rfl

/-- The text that is generated from an accepted model declares one member for each property, in
order. Its condition joins, in order as well, the fragments of all properties that are constrained,
each over the member that is declared for the property. In Python these members are distinct names
without a mark, none of them reserved or the name of the validity method. -/
theorem condition_over_declared_members {m : Model} (h : m.Accepted) {w : Workshop} {s : Source}
    (hg : w.generate m.toDraft = .ok s) :
    let e := w.emitter
    let declarations := m.properties.map fun p =>
      e.declaration m (e.dialect.member p.name) (e.typeExpression p.typeName w.candidates)
    let declared := declarations.map e.declared
    let fragments := (declared.zip m.properties).filterMap fun x =>
      e.dialect.fragment? x.1 (x.2.resolved w.candidates w.names).check
    s.text = Source.ofLines (e.opening m ++ declarations ++ e.ending m fragments) ∧
    declared = m.properties.map (fun p => e.dialect.member p.name) ∧
    (e.dialect = .python → declared.Nodup ∧ ∀ n ∈ declared,
      '@' ∉ n.toList ∧ Dialect.isKeyword n = false ∧ n ≠ "check_is_valid") := by
  intro e declarations declared fragments
  have hm : m.WellFormed := h.wellFormed
  let p : Pass := { emitter := e, names := w.names, interruptions := w.interruptions }
  have hsound : p.Sound m := (p.exists_generate_iff_sound hm w.candidates).mp ⟨s, hg⟩
  have hs : s = _ := Except.ok.inj (hg.symm.trans (hsound.generate_eq hm w.candidates))
  have hdeclared : declared = m.properties.map (fun p => e.dialect.member p.name) :=
    hm.map_declared e w.candidates
  have hfragments :
      e.fragments (m.properties.map (·.resolved w.candidates w.names)) = fragments := by
    rw [Emitter.fragments_eq_filterMap_zip, ← hdeclared]
  refine ⟨?_, hdeclared, ?_⟩
  · rw [hs, ← hfragments]
    exact e.frame_eq_ofLines _ _ _
  · intro hd
    obtain ⟨hreserved, hdistinct⟩ := Emitter.forall_not_clashes_iff.mp hsound.distinct
    have htaken : ∀ q ∈ m.properties, e.taken q = e.dialect.member q.name :=
      fun q hq => Emitter.taken_python hd (hm.properties q hq)
    rw [hdeclared, ← List.map_congr_left htaken]
    refine ⟨hdistinct, fun n hn => ?_⟩
    obtain ⟨q, hq, rfl⟩ := List.mem_map.mp hn
    have hmember := Dialect.member_python (hm.properties q hq).isName
    rw [← hd, ← htaken q hq] at hmember
    refine ⟨Text.notMem_of_isWordText Text.isWord_at hmember.1, hmember.2, ?_⟩
    rintro hmethod
    apply hreserved q hq
    change e.taken q ∈ e.reserved m.name
    rw [hmethod, Emitter.reserved, hd]
    exact List.mem_singleton_self _

theorem condition_over_renamed_members :
    let m : Model := { space := "shop", name := "Order", properties := [⟨"class", "string", none⟩,
      ⟨"note", "int?", none⟩, ⟨"@total", "int", none⟩] }
    let w : Workshop := ⟨.ofDialect .python, .empty, .standard, .none⟩
    m.Accepted ∧ ∃ s declarations, w.generate m.toDraft = .ok s ∧
      declarations.map w.emitter.declared = ["class_", "note", "total"] ∧
      s.text = Source.ofLines (w.emitter.opening m ++ declarations ++ w.emitter.ending m
        ["(self.class_ is not None and self.class_.strip() != \"\")", "self.total is not None"]) := by
  intro m w
  have haccepted : m.Accepted := ⟨.mapping [(.text "namespace", .text "shop"),
    (.text "name", .text "Order"), (.text "properties", .list [
      .mapping [(.text "name", .text "class"), (.text "typeName", .text "string")],
      .mapping [(.text "name", .text "note"), (.text "typeName", .text "int?")],
      .mapping [(.text "name", .text "@total"), (.text "typeName", .text "int")]])], false, rfl⟩
  have hsound : Pass.Sound { emitter := .ofDialect .python } m :=
    ⟨rfl, Emitter.forall_not_clashes_iff.mpr (by decide +kernel)⟩
  have hgenerate := hsound.generate_eq haccepted.wellFormed .empty
  obtain ⟨htext, hdeclared, -⟩ := condition_over_declared_members haccepted hgenerate
  refine ⟨haccepted, _, _, hgenerate, hdeclared.trans (by decide +kernel), htext.trans ?_⟩
  rw [hdeclared]
  congr 3

end ShadowTypes
