import ShadowTypes.Proofs.Folding
import ShadowTypes.Proofs.Python.Layout

/-!
# C# classes with and without a namespace

The text of a class is written as it stands inside a namespace, and moved one level further out if
there is none. Every line of that text is empty or begins with a level of indentation that has
something after it, the lines on which the condition goes on included. So each line that is not
empty loses exactly one level, and the text inside a namespace is the text without one, moved back
in, between the lines of the namespace.
-/

namespace ShadowTypes

open Text

namespace Source

/-! ## Lines one level further in -/

/-- A line one level further in; an empty line stays. -/
def indentLine (l : List Char) : List Char :=
  if l.isEmpty then [] else List.replicate level ' ' ++ l

/-- A text whose lines are one level further in. -/
def indentText (s : String) : String :=
  String.ofList (joinLines ((splitLines s.toList).map indentLine))

/-- The text of a class without a namespace, put into one. -/
def wrapped (space text : String) : String :=
  "namespace " ++ space ++ "\n\x7b\n" ++ indentText text ++ "\x7d\n"

/-- A level of indentation with something after it. -/
def Leads (l : List Char) : Prop := List.replicate level ' ' <+: l ∧ level < l.length

instance (l : List Char) : Decidable (Leads l) := inferInstanceAs (Decidable (_ ∧ _))

/-- Each line is empty or has a level of indentation that can be taken off. -/
def Inside (s : String) : Prop := ∀ l ∈ splitLines s.toList, l = [] ∨ Leads l

variable {l : List Char} {s t : String}

theorem Leads.append (h : Leads l) (r : List Char) : Leads (l ++ r) := by
  refine ⟨h.1.trans (List.prefix_append l r), ?_⟩
  rw [List.length_append]
  exact Nat.lt_of_lt_of_le h.2 (Nat.le_add_right _ _)

theorem Leads.outdentLine (h : Leads l) :
    outdentLine l ≠ [] ∧ l = List.replicate level ' ' ++ outdentLine l := by
  have hdrop : Source.outdentLine l = l.drop level :=
    if_pos (List.isPrefixOf_iff_prefix.mpr h.1)
  have hsplit := List.prefix_iff_eq_append.mp h.1
  rw [List.length_replicate] at hsplit
  rw [hdrop, hsplit, Ne, List.drop_eq_nil_iff, Nat.not_le]
  exact ⟨h.2, rfl⟩

theorem indentLine_outdentLine (h : l = [] ∨ Leads l) : indentLine (outdentLine l) = l := by
  rcases h with rfl | h
  · rfl
  · obtain ⟨hne, hl⟩ := h.outdentLine
    rw [indentLine, if_neg (by simpa using hne), ← hl]

theorem break_notMem_outdentLine (h : '\n' ∉ l) : '\n' ∉ outdentLine l := by
  unfold outdentLine
  split
  · exact fun hc => h (List.mem_of_mem_drop hc)
  · exact h

/-- Moving out and back in changes nothing where a level can be taken off every line. -/
theorem indentText_outdent (h : Inside s) : indentText (outdent s) = s := by
  have hlines : splitLines (outdent s).toList = (splitLines s.toList).map outdentLine := by
    rw [outdent, String.toList_ofList]
    refine splitAt_joinWith (mt List.map_eq_nil_iff.mp (splitAt_ne_nil '\n' s.toList)) ?_
    rw [List.forall_mem_map]
    exact fun l hl => break_notMem_outdentLine (notMem_of_mem_splitAt s.toList hl)
  have hback : (splitLines s.toList).map (indentLine ∘ outdentLine) = splitLines s.toList := by
    conv_rhs => rw [← List.map_id (splitLines s.toList)]
    exact List.map_congr_left fun l hl => indentLine_outdentLine (h l hl)
  rw [indentText, hlines, List.map_map, hback]
  exact (congrArg String.ofList (joinWith_splitAt '\n' s.toList)).trans String.ofList_toList

theorem indentText_append_break (s : String) : indentText (s ++ "\n") = indentText s ++ "\n" := by
  have hend : ∀ t : String, (t ++ "\n").toList = t.toList ++ '\n' :: [] := by
    intro t
    rw [String.toList_append]
    rfl
  apply String.toList_inj.mp
  rw [hend, indentText, indentText, String.toList_ofList, String.toList_ofList, hend]
  exact joinWith_map_splitAt_append '\n' indentLine s.toList []

/-- The text of a class without a namespace, put into one, is the text of the class in it. -/
theorem wrapped_csharpText (h : Inside s) {space : String} (hspace : space ≠ "") :
    wrapped space (csharpText "" s) = csharpText space s := by
  have hclose : "\n\x7d\n" = "\n" ++ "\x7d\n" := by decide
  rw [csharpText, if_pos rfl, wrapped, indentText_append_break, indentText_outdent h, csharpText,
    if_neg hspace, hclose]
  simp only [String.append_assoc]

/-! ## Texts inside a namespace -/

theorem inside_append_break : Inside (s ++ "\n" ++ t) ↔ Inside s ∧ Inside t := by
  rw [Inside, toList_append_break, splitLines, splitAt_append, List.forall_mem_append]
  exact Iff.rfl

theorem inside_ofLines {ls : List String} (h : ∀ s ∈ ls, Inside s) : Inside (ofLines ls) := by
  induction ls with
  | nil => exact fun l hl => .inl (List.mem_singleton.mp hl)
  | cons s ls ih =>
    obtain ⟨hs, hls⟩ := List.forall_mem_cons.mp h
    cases ls with
    | nil => exact hs
    | cons t ls =>
      rw [ofLines_cons, inside_append_break]
      exact ⟨hs, ih hls⟩

theorem inside_empty : Inside "" := fun _ hl => .inl (List.mem_singleton.mp hl)

theorem inside_of_leads (hs : Leads s.toList) (h : OneLine (s ++ t)) : Inside (s ++ t) := by
  intro l hl
  rw [splitLines, splitAt_of_notMem h, List.mem_singleton] at hl
  rw [hl, String.toList_append]
  exact .inr (hs.append _)

/-- Every line of a condition is led: the first one by what stands before the condition, the others
by the indentation of checks. -/
theorem inside_conjunction {check start f : String} {fs : List String} (hcheck : OneLine check)
    (hlead : Leads check.toList) (hstart : OneLine start) (hs : Leads start.toList)
    (hfs : ∀ g ∈ f :: fs, OneLine g) :
    Inside (start ++ ("\n" ++ check ++ "&& ").intercalate (f :: fs) ++ ";") := by
  induction fs generalizing start f with
  | nil =>
    rw [String.intercalate_singleton, String.append_assoc]
    have hf : OneLine f := hfs f List.mem_cons_self
    exact inside_of_leads hs (hstart.append (hf.append (by decide)))
  | cons g gs ih =>
    obtain ⟨hf, hrest⟩ := List.forall_mem_cons.mp hfs
    have hnext : Leads (check ++ "&& ").toList := by
      rw [String.toList_append]
      exact hlead.append _
    have hsplit : start ++ ("\n" ++ check ++ "&& ").intercalate (f :: g :: gs) ++ ";" =
        (start ++ f) ++ "\n" ++
          ((check ++ "&& ") ++ ("\n" ++ check ++ "&& ").intercalate (g :: gs) ++ ";") := by
      simp only [String.intercalate_cons_cons, String.append_assoc]
    rw [hsplit, inside_append_break]
    exact ⟨inside_of_leads hs (hstart.append hf), ih (hcheck.append (by decide)) hnext hrest⟩

theorem inside_return {l : Layout} (hcheck : OneLine l.check) (hlead : Leads l.check.toList)
    {fragments : List String} (hf : ∀ f ∈ fragments, OneLine f) :
    Inside ("            return " ++ csharpCondition l fragments ++ ";") := by
  have hstart : Leads "            return ".toList := by decide
  cases fragments with
  | nil =>
    rw [csharpCondition, String.append_assoc]
    exact inside_of_leads hstart (by decide)
  | cons f fs => exact inside_conjunction hcheck hlead (by decide) hstart hf

theorem inside_csharpClass {l : Layout} (hproperty : OneLine l.property)
    (hlead : Leads l.property.toList) (hcheck : OneLine l.check) (hlead' : Leads l.check.toList)
    {method shadow : String} (hmethod : OneLine method) (hshadow : OneLine shadow)
    {fields : List (String × String)} (hfields : ∀ f ∈ fields, OneLine f.1 ∧ OneLine f.2)
    {fragments : List String} (hf : ∀ f ∈ fragments, OneLine f) :
    Inside (ofLines (csharpClass l method shadow fields fragments)) := by
  have hclass : Leads "    public class ".toList := by decide
  have hheader : Leads "        public bool ".toList := by decide
  have hbrace : ∀ s ∈ ["    \x7b", "        \x7b", "        \x7d", "    \x7d"], Inside s := by
    have hleads : ∀ s ∈ ["    \x7b", "        \x7b", "        \x7d", "    \x7d"],
        Leads s.toList ∧ OneLine s := by decide
    intro s hs
    obtain ⟨hl, hone⟩ := hleads s hs
    rw [← String.append_empty (s := s)]
    exact inside_of_leads hl (by rwa [String.append_empty])
  refine inside_ofLines fun s hs => ?_
  simp only [csharpClass, List.mem_append, List.mem_cons, List.not_mem_nil, or_false,
    List.mem_map] at hs
  rcases hs with (((rfl | rfl) | ⟨f, hf', rfl⟩) | hgap) | rfl | rfl | rfl | rfl | rfl
  · exact inside_of_leads hclass ((by decide : OneLine _).append hshadow)
  · exact hbrace _ (by decide)
  · obtain ⟨hmember, htype⟩ := hfields f hf'
    have hrest : OneLine ("public " ++ f.2 ++ "? " ++ f.1 ++ " \x7b get; set; \x7d") :=
      ((((by decide : OneLine "public ").append htype).append (by decide)).append hmember).append
        (by decide)
    have hfield : csharpField l f.1 f.2 =
        l.property ++ ("public " ++ f.2 ++ "? " ++ f.1 ++ " \x7b get; set; \x7d") := by
      simp only [csharpField, String.append_assoc]
    rw [hfield]
    exact inside_of_leads hlead (hproperty.append hrest)
  · split at hgap
    · cases hgap
    · rw [List.mem_singleton.mp hgap]
      exact inside_empty
  · rw [String.append_assoc]
    exact inside_of_leads hheader
      ((by decide : OneLine _).append (hmethod.append (by decide)))
  · exact hbrace _ (by decide)
  · exact inside_return hcheck hlead' hf
  · exact hbrace _ (by decide)
  · exact hbrace _ (by decide)

end Source

namespace CSharp

variable {e : Emitter} {m : Model} {fragments names : List String} {space : String}

/-! ## Types and frames -/

theorem oneLine_bare {t : String} (h : OneLine t) : OneLine (TypeName.bare t) := by
  rw [OneLine, TypeName.toList_bare]
  exact fun hmem => h (TypeName.mem_of_mem_bareChars hmem)

theorem oneLine_typeExpression (hd : e.dialect = .csharp) (hs : OneLine e.suffix) {t : String}
    (ht : OneLine t) (names : List String) : OneLine (e.typeExpression t (.ofNames names)) := by
  cases hc : (Candidates.ofNames names).canonical? (TypeName.bare t) with
  | none =>
    rw [Emitter.typeExpression_of_none hc, hd]
    exact oneLine_bare ht
  | some declared =>
    rw [Emitter.typeExpression_of_some hc, hd]
    rw [Candidates.canonical?_ofNames] at hc
    have hfold := List.find?_some hc
    simp only [beq_iff_eq, TypeName.key_bare] at hfold
    have hbreak : Caseless '\n' := by decide
    have hdeclared : OneLine declared := by
      rw [OneLine, ← mem_foldChars_iff hbreak, ← toList_fold, hfold, toList_fold,
        mem_foldChars_iff hbreak]
      exact oneLine_bare ht
    exact hdeclared.append hs

/-- The text of the class inside a namespace. -/
def classText (e : Emitter) (m : Model) (fragments : List String) (candidates : Candidates) :
    String :=
  Source.ofLines (Source.csharpClass e.layout e.dialect.validityMethod (e.shadowName m.name)
    (m.properties.map fun p => (p.name, e.typeExpression p.typeName candidates)) fragments)

/-- The namespace of a model decides on the frame of its class alone. -/
theorem render_eq_ok_iff (hd : e.dialect = .csharp) (space : String) {candidates : Candidates}
    {text : String} :
    e.render { m with space := space } fragments candidates = .ok text ↔
      (∀ before q after, m.properties = before ++ q :: after → ¬ e.Clashes m before q) ∧
        Source.csharpText space (classText e m fragments candidates) = text := by
  have hframe : e.frame { m with space := space } (m.properties.map fun p => p.name) fragments
      candidates = Source.csharpText space (classText e m fragments candidates) := by
    simp only [Emitter.frame, hd, List.zip_map', classText]
  rw [e.render_eq_ok_iff, ← hframe, hd]
  exact Iff.rfl

theorem inside_classText (hm : m.WellFormed) (hd : e.dialect = .csharp)
    (hl : e.layout = Dialect.csharp.layout) (hs : OneLine e.suffix)
    (ht : ∀ p ∈ m.properties, OneLine p.typeName) (hf : ∀ f ∈ fragments, OneLine f)
    (names : List String) : Source.Inside (classText e m fragments (.ofNames names)) := by
  have hlayout : (OneLine e.layout.property ∧ Source.Leads e.layout.property.toList) ∧
      (OneLine e.layout.check ∧ Source.Leads e.layout.check.toList) ∧
      OneLine e.dialect.validityMethod := by
    rw [hl, hd]
    decide
  obtain ⟨⟨hproperty, hlead⟩, ⟨hcheck, hlead'⟩, hmethod⟩ := hlayout
  refine Source.inside_csharpClass hproperty hlead hcheck hlead' hmethod
    (hm.oneLine_name.append hs) ?_ hf
  intro f hmem
  obtain ⟨p, hp, rfl⟩ := List.mem_map.mp hmem
  refine ⟨fun hbreak => ?_, oneLine_typeExpression hd hs (ht p hp) names⟩
  exact absurd (Description.isPlain_of_isName (hm.properties p hp).isName _ hbreak).1 (by decide)

/-! ## With and without a namespace -/

/-- The text of an accepted model in a namespace is its text without one, each line that is not
empty one level further in, between the lines of the namespace; there is a text in the one case
exactly if there is one in the other. What is taken off the lines in the other direction is one
level each, with something left of every line that is not empty. -/
theorem render_in_namespace (hm : m.Accepted) (ht : ∀ p ∈ m.properties, OneLine p.typeName)
    (hd : e.dialect = .csharp) (hl : e.layout = Dialect.csharp.layout) (hs : OneLine e.suffix)
    (hf : ∀ f ∈ fragments, OneLine f) (hspace : space ≠ "") (names : List String) :
    let inside := e.render { m with space := space } fragments (.ofNames names)
    let outside := e.render { m with space := "" } fragments (.ofNames names)
    inside.toOption = outside.toOption.map (Source.wrapped space) ∧
    ∀ text, outside = .ok text → ∃ body,
      text = Source.outdent body ++ "\n" ∧
      inside = .ok ("namespace " ++ space ++ "\n\x7b\n" ++ body ++ "\n\x7d\n") ∧
      ∀ line ∈ splitLines body.toList, line ≠ [] →
        line = List.replicate Source.level ' ' ++ Source.outdentLine line ∧
          Source.outdentLine line ≠ [] := by
  intro inside outside
  have hbody : Source.Inside (classText e m fragments (.ofNames names)) :=
    inside_classText hm.wellFormed hd hl hs ht hf names
  by_cases hclashes : ∀ before q after, m.properties = before ++ q :: after → ¬ e.Clashes m before q
  · have hin : inside = .ok _ := (render_eq_ok_iff hd space).mpr ⟨hclashes, rfl⟩
    have hout : outside = .ok _ := (render_eq_ok_iff hd "").mpr ⟨hclashes, rfl⟩
    refine ⟨?_, fun text htext => ⟨classText e m fragments (.ofNames names), ?_, ?_, ?_⟩⟩
    · rw [hin, hout]
      exact congrArg some (Source.wrapped_csharpText hbody hspace).symm
    · rw [← Except.ok.inj (hout.symm.trans htext), Source.csharpText, if_pos rfl]
    · rw [hin, Source.csharpText, if_neg hspace]
    · exact fun line hline hne => ((hbody line hline).resolve_left hne).outdentLine.symm
  · have hnone : ∀ s,
        (e.render { m with space := s } fragments (.ofNames names)).toOption = none := by
      intro s
      cases hr : e.render { m with space := s } fragments (.ofNames names) with
      | error f => rfl
      | ok text => exact absurd ((render_eq_ok_iff hd s).mp hr).1 hclashes
    have hin : inside.toOption = none := hnone space
    have hout : outside.toOption = none := hnone ""
    refine ⟨by rw [hin, hout, Option.map_none], fun text htext => ?_⟩
    exact absurd ((render_eq_ok_iff hd "").mp htext).1 hclashes

/-- A class with a condition on two lines. -/
theorem render_order_in_namespace :
    let m : Model := { name := "Order", properties := [⟨"@Line", "shop.item", none⟩] }
    let e : Emitter := .ofDialect .csharp
    let fragments := ["@Line != null", "@Line.CheckIsValid()"]
    m.Accepted ∧ (∀ p ∈ m.properties, OneLine p.typeName) ∧ OneLine e.suffix ∧
    (∀ f ∈ fragments, OneLine f) ∧ "shop" ≠ "" ∧
    ∃ text, e.render { m with space := "" } fragments (.ofNames ["shop.Item"]) = .ok text ∧
      e.render { m with space := "shop" } fragments (.ofNames ["shop.Item"]) =
        .ok (Source.wrapped "shop" text) ∧
      text = Source.ofLines ["public class OrderDTO", "\x7b",
        "    public shop.ItemDTO? @Line \x7b get; set; \x7d", "",
        "    public bool CheckIsValid()", "    \x7b", "        return @Line != null",
        "               && @Line.CheckIsValid();", "    \x7d", "\x7d", ""] := by
  intro m e fragments
  have haccepted : m.Accepted := ⟨.mapping [(.text "name", .text "Order"),
    (.text "properties", .list [
      .mapping [(.text "name", .text "@Line"), (.text "typeName", .text "shop.item")]])],
    false, rfl⟩
  have htypes : ∀ p ∈ m.properties, OneLine p.typeName := by decide
  have hs : OneLine e.suffix := by decide
  have hf : ∀ f ∈ fragments, OneLine f := by decide
  have hspace : "shop" ≠ "" := by decide
  obtain ⟨hwrap, -⟩ :=
    render_in_namespace haccepted htypes rfl rfl hs hf hspace ["shop.Item"]
  have hout : e.render { m with space := "" } fragments (.ofNames ["shop.Item"]) = .ok _ :=
    (render_eq_ok_iff rfl "").mpr ⟨Emitter.forall_not_clashes_iff.mpr (by decide +kernel), rfl⟩
  refine ⟨haccepted, htypes, hs, hf, hspace, _, hout, ?_, ?_⟩
  · rw [hout] at hwrap
    cases hin : e.render { m with space := "shop" } fragments (.ofNames ["shop.Item"]) with
    | error f =>
      rw [hin] at hwrap
      cases hwrap
    | ok text =>
      rw [hin] at hwrap
      exact congrArg Except.ok (Option.some.inj hwrap)
  · rw [Source.csharpText, if_pos rfl, classText, Source.outdent_ofLines]
    decide +kernel

end CSharp

end ShadowTypes
