import ShadowTypes.Proofs.Declarations

/-!
# Members of C# classes

In C# a mark in front of a name is no part of the name. The members of a class are told apart
without their marks, and none of them is the validity method. The name of the class keeps its mark
where members are compared with it: a member may take the name of a class that is marked, and of no
other class.
-/

namespace ShadowTypes

namespace CSharp

def classWord : List Char := "public class ".toList

/-- A line from its first character other than a blank. -/
def content (line : List Char) : List Char := line.dropWhile (· == ' ')

/-- The name in the header of the first class of a text. -/
def className? (text : String) : Option String :=
  ((Text.splitLines text.toList).find? fun line => classWord.isPrefixOf (content line)).map
    fun line => String.ofList ((content line).drop classWord.length)

/-! ## Reading the header of a class -/

theorem content_outdentLine (l : List Char) : content (Source.outdentLine l) = content l := by
  unfold Source.outdentLine
  split
  · next h =>
    obtain ⟨r, rfl⟩ := List.isPrefixOf_iff_prefix.mp h
    rw [List.drop_left' (List.length_replicate), content, content,
      List.dropWhile_append_of_pos (by simp)]
  · rfl

theorem toList_outdent {s : String} (h : '\n' ∉ s.toList) :
    (Source.outdent s).toList = Source.outdentLine s.toList := by
  simp [Source.outdent, Text.splitLines, Text.splitAt_of_notMem h, Text.joinLines, Text.joinWith]

variable {m : Model} {e : Emitter}

theorem break_notMem_place {s : String} (h : '\n' ∉ s.toList) :
    '\n' ∉ (e.place m s).toList := by
  unfold Emitter.place
  split
  · split
    · rw [toList_outdent h, Source.outdentLine]
      split
      · exact fun hc => h (List.mem_of_mem_drop hc)
      · exact h
    · exact h
  · exact h

theorem content_place {s : String} (h : '\n' ∉ s.toList) :
    content (e.place m s).toList = content s.toList := by
  unfold Emitter.place
  split
  · split
    · rw [toList_outdent h, content_outdentLine]
    · rfl
  · rfl

theorem className?_opening (hd : e.dialect = .csharp) (hm : m.WellFormed)
    (hs : ∀ c ∈ e.suffix.toList, Text.isWord c = true) (after : List String) :
    className? (Source.ofLines (e.opening m ++ after)) = some (e.shadowName m.name) := by
  have hheader : ("    public class " ++ e.shadowName m.name).toList =
      List.replicate 4 ' ' ++ (classWord ++ (e.shadowName m.name).toList) := by
    rw [String.toList_append]
    rfl
  have hbreak : '\n' ∉ ("    public class " ++ e.shadowName m.name).toList := by
    rw [String.toList_append, List.mem_append]
    rintro (hc | hc)
    · exact absurd hc (by decide)
    · exact absurd (Python.eq_mark_or_isWord hm hs _ hc) (by decide)
  have hcontent : content (e.place m ("    public class " ++ e.shadowName m.name)).toList =
      classWord ++ (e.shadowName m.name).toList := by
    rw [content_place hbreak, hheader]
    rfl
  have hbefore : ∀ t ∈ (if m.space = "" then [] else ["namespace " ++ m.space, "\x7b"]),
      '\n' ∉ t.toList ∧ classWord.isPrefixOf (content t.toList) = false := by
    split
    · simp
    · rw [List.forall_mem_cons]
      refine ⟨⟨?_, ?_⟩, by decide⟩
      · rw [String.toList_append, List.mem_append]
        rintro (hc | hc)
        · exact absurd hc (by decide)
        · exact absurd (Description.isPlain_of_isSpace hm.isSpace _ hc).1 (by decide)
      · rw [String.toList_append]
        rfl
  have hprefix : classWord.isPrefixOf
      (content (e.place m ("    public class " ++ e.shadowName m.name)).toList) = true := by
    rw [hcontent, List.isPrefixOf_iff_prefix]
    exact List.prefix_append _ _
  have hfound := Python.find?_splitLines_ofLines
    (f := fun line => classWord.isPrefixOf (content line)) hbefore (break_notMem_place hbreak)
    hprefix (e.place m "    \x7b" :: after)
  have hlines : e.opening m ++ after =
      (if m.space = "" then [] else ["namespace " ++ m.space, "\x7b"]) ++
        e.place m ("    public class " ++ e.shadowName m.name) ::
          (e.place m "    \x7b" :: after) := by
    simp only [Emitter.opening, hd, List.map_cons, List.map_nil, List.append_assoc,
      List.cons_append, List.nil_append]
  rw [className?, hlines, hfound, Option.map_some, hcontent, List.drop_left, String.ofList_toList]

/-! ## Names without marks -/

/-- Without the mark a name is not empty, and what follows it stays. -/
theorem unescaped_shadowName (hm : m.WellFormed) :
    Dialect.unescaped (e.shadowName m.name) = Dialect.unescaped m.name ++ e.suffix := by
  have hword := Description.isWordText_unescaped hm.isName
  apply String.toList_inj.mp
  rw [Dialect.toList_unescaped] at hword ⊢
  rw [String.toList_append, Dialect.toList_unescaped, Emitter.shadowName, String.toList_append,
    List.dropWhile_append, List.isEmpty_eq_false_iff.mpr (Text.ne_nil_of_isWordText hword)]
  rfl

theorem unescaped_eq_self {name : String} (h : '@' ∉ name.toList) :
    Dialect.unescaped name = name := by
  apply String.toList_inj.mp
  rw [Dialect.toList_unescaped]
  apply Text.dropWhile_eq_self
  intro c hc
  rw [beq_eq_false_iff_ne]
  rintro rfl
  exact h (List.mem_of_mem_head? hc)

/-! ## Members and the name of the class -/

theorem map_unescaped_declared (hm : m.WellFormed) (e : Emitter) (candidates : Candidates) :
    (m.properties.map fun p => e.declaration m (e.dialect.member p.name)
      (e.typeExpression p.typeName candidates)).map (fun d => Dialect.unescaped (e.declared d)) =
      m.properties.map e.taken := by
  rw [List.map_map]
  refine List.map_congr_left fun p hp => ?_
  exact congrArg Dialect.unescaped (e.declared_declaration (hm.properties p hp).isName _)

theorem taken_eq_unescaped (hd : e.dialect = .csharp) (p : Property) :
    e.taken p = Dialect.unescaped p.name := by
  rw [Emitter.taken, hd]
  rfl

/-- Wherever an accepted model is rendered in C#, its members are distinct without their marks and
none of them is the validity method. None of them is the class either, as the header names it,
unless the name of the model has a mark and some property has the name of the class without it. -/
theorem members_distinct_from_class_iff (h : m.Accepted) (hd : e.dialect = .csharp)
    (hs : ∀ c ∈ e.suffix.toList, Text.isWord c = true) {fragments : List String}
    {candidates : Candidates} {text : String} (hr : e.render m fragments candidates = .ok text) :
    let declarations := m.properties.map fun p =>
      e.declaration m (e.dialect.member p.name) (e.typeExpression p.typeName candidates)
    let declared := declarations.map fun d => Dialect.unescaped (e.declared d)
    text = Source.ofLines (e.opening m ++ declarations ++ e.ending m fragments) ∧
    className? text = some (m.name ++ e.suffix) ∧
    declared.Nodup ∧ "CheckIsValid" ∉ declared ∧
    (Dialect.unescaped (m.name ++ e.suffix) ∉ declared ↔
      '@' ∉ m.name.toList ∨
        ∀ p ∈ m.properties, Dialect.unescaped p.name ≠ Dialect.unescaped m.name ++ e.suffix) := by
  intro declarations declared
  have hm : m.WellFormed := h.wellFormed
  obtain ⟨hclashes, rfl⟩ := e.render_eq_ok_iff.mp hr
  obtain ⟨hreserved, hdistinct⟩ := Emitter.forall_not_clashes_iff.mp hclashes
  have htext := e.frame_eq_ofLines (m := m) fragments candidates fun p => e.dialect.member p.name
  have hmap : declared = m.properties.map e.taken := map_unescaped_declared hm e candidates
  have hnames : e.reserved m.name = ["CheckIsValid", m.name ++ e.suffix] := by
    rw [Emitter.reserved, hd]
    rfl
  refine ⟨htext, ?_, hmap ▸ hdistinct, ?_, ?_⟩
  · rw [htext, List.append_assoc]
    exact className?_opening hd hm hs _
  · rw [hmap, List.mem_map]
    rintro ⟨p, hp, hmethod⟩
    exact hreserved p hp (by simp [hmethod, hnames])
  · have hshadow : Dialect.unescaped (m.name ++ e.suffix) =
        Dialect.unescaped m.name ++ e.suffix := unescaped_shadowName hm
    have hfree : (Dialect.unescaped m.name ++ e.suffix ∉ m.properties.map e.taken) ↔
        ∀ p ∈ m.properties, Dialect.unescaped p.name ≠ Dialect.unescaped m.name ++ e.suffix := by
      simp [taken_eq_unescaped hd]
    rw [hmap, hshadow, hfree]
    refine ⟨.inr, ?_⟩
    rintro (hmark | hall) p hp hname
    · -- The class has no mark, so that the name that is reserved is its name without marks.
      rw [unescaped_eq_self hmark] at hname
      exact hreserved p hp (by simp [taken_eq_unescaped hd, hname, hnames])
    · exact hall p hp hname

/-- Marked members of a class that has no mark. -/
theorem order_distinct_from_members :
    let m : Model := { space := "shop", name := "Order",
                       properties := [⟨"@Line", "int", none⟩, ⟨"OrderDTOs", "string", none⟩] }
    let e : Emitter := .ofDialect .csharp
    m.Accepted ∧ ∃ text declarations, e.render m [] .empty = .ok text ∧
      text = Source.ofLines (e.opening m ++ declarations ++ e.ending m []) ∧
      className? text = some "OrderDTO" ∧
      "OrderDTO" ∉ declarations.map fun d => Dialect.unescaped (e.declared d) := by
  intro m e
  have haccepted : m.Accepted := ⟨.mapping [(.text "namespace", .text "shop"),
    (.text "name", .text "Order"), (.text "properties", .list [
      .mapping [(.text "name", .text "@Line"), (.text "typeName", .text "int")],
      .mapping [(.text "name", .text "OrderDTOs"), (.text "typeName", .text "string")]])],
    false, rfl⟩
  have hrender : e.render m [] .empty = .ok _ := e.render_eq_ok_iff.mpr
    ⟨Emitter.forall_not_clashes_iff.mpr (by decide +kernel), rfl⟩
  have hword : ∀ c ∈ e.suffix.toList, Text.isWord c = true :=
    List.all_eq_true.mp (by decide +kernel)
  obtain ⟨htext, hclass, -, -, hfree⟩ := members_distinct_from_class_iff haccepted rfl hword hrender
  have hname : Dialect.unescaped (m.name ++ e.suffix) = "OrderDTO" := by decide +kernel
  rw [hname] at hfree
  exact ⟨haccepted, _, _, hrender, htext, hclass, hfree.mpr (.inl (by decide))⟩

/-- A model whose name has the mark, with a property named as its class is without it. -/
theorem member_named_as_marked_class :
    let m : Model := { name := "@Order", properties := [⟨"OrderDTO", "int", none⟩] }
    let e : Emitter := .ofDialect .csharp
    m.Accepted ∧ ∃ text declarations, e.render m [] .empty = .ok text ∧
      text = Source.ofLines (e.opening m ++ declarations ++ e.ending m []) ∧
      className? text = some "@OrderDTO" ∧
      Dialect.unescaped "@OrderDTO" ∈
        declarations.map fun d => Dialect.unescaped (e.declared d) := by
  intro m e
  have haccepted : m.Accepted := ⟨.mapping [(.text "name", .text "@Order"),
    (.text "properties", .list [
      .mapping [(.text "name", .text "OrderDTO"), (.text "typeName", .text "int")]])], false, rfl⟩
  have hm : m.WellFormed := haccepted.wellFormed
  have hrender : e.render m [] .empty = .ok _ := e.render_eq_ok_iff.mpr
    ⟨Emitter.forall_not_clashes_iff.mpr (by decide +kernel), rfl⟩
  have htext := e.frame_eq_ofLines (m := m) [] .empty fun p => e.dialect.member p.name
  have hword : ∀ c ∈ e.suffix.toList, Text.isWord c = true :=
    List.all_eq_true.mp (by decide +kernel)
  refine ⟨haccepted, _, _, hrender, htext, ?_, ?_⟩
  · rw [htext, List.append_assoc]
    exact className?_opening rfl hm hword _
  · rw [map_unescaped_declared hm]
    decide +kernel

end CSharp

end ShadowTypes
