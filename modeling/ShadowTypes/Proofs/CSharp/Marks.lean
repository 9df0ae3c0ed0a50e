import ShadowTypes.Proofs.Candidates
import ShadowTypes.Proofs.Declarations
import ShadowTypes.Proofs.Folding

/-!
# The mark of nullable types in C#

C# declares every member as nullable: the type of a property loses its own mark, and a mark is
written after what is left. One mark is taken off and no more. The declared type therefore ends in a
single mark exactly if something is left of the type and the mark that was taken off did not stand
behind another one, blanks between them aside.
-/

namespace ShadowTypes

/-! ## Ends of texts -/

namespace Text

theorem exists_dropWhileEnd_append (p : Char → Bool) (l : List Char) :
    ∃ r, l = dropWhileEnd p l ++ r ∧ ∀ c ∈ r, p c = true :=
  ⟨l.rtakeWhile p, List.rdropWhile_append_rtakeWhile.symm, fun _ => List.mem_rtakeWhile_imp⟩

end Text

/-! ## One mark -/

namespace TypeName

open Text

/-- The text is not empty and does not end in the mark. -/
def Unmarked (s : String) : Prop := s ≠ "" ∧ s.toList.getLast? ≠ some marker

/-- The text ends in two marks with nothing but blanks between them. -/
def MarkedTwice (s : String) : Prop :=
  ∃ front blanks, s.toList = front ++ marker :: (blanks ++ [marker]) ∧
    ∀ c ∈ blanks, isBlank c = true

variable {s : String}

theorem isNullable_bare_iff :
    isNullable (bare s) = true ↔ (bare s).toList.getLast? = some marker := by
  rw [isNullable_iff, ← toList_trim, trim_bare]

theorem toList_bare_of_marked {front : List Char} (htrim : trim s = s)
    (hs : s.toList = front ++ [marker]) : (bare s).toList = dropWhileEnd isBlank front := by
  have hdropped : dropBothEnds isBlank s.toList = front ++ [marker] := by
    rw [← toList_trim, htrim, hs]
  rw [toList_bare, bareChars, hdropped]
  simp only [List.getLast?_concat, if_true, List.dropLast_concat]

theorem bare_of_unmarked (htrim : trim s = s) (hs : s.toList.getLast? ≠ some marker) :
    bare s = s := by
  rw [bare_eq_trim, htrim]
  rwa [isNullable_iff, ← toList_trim, htrim]

/-- Nothing is left of a name exactly if it is the mark alone. -/
theorem bare_eq_empty_iff (hne : s ≠ "") (htrim : trim s = s) : bare s = "" ↔ s = "?" := by
  constructor
  · intro h
    by_cases hlast : s.toList.getLast? = some marker
    · obtain ⟨front, hs⟩ := List.getLast?_eq_some_iff.mp hlast
      have hnil : dropWhileEnd isBlank front = [] := by
        rw [← toList_bare_of_marked htrim hs, h]
        rfl
      have hblank := List.rdropWhile_eq_nil_iff.mp hnil
      -- A trimmed text starts with no blank, so nothing stands before the mark.
      have hhead := (trimmed_dropBothEnds isBlank s.toList).head
      rw [← toList_trim, htrim, hs] at hhead
      cases front with
      | nil => exact String.toList_inj.mp hs
      | cons c r =>
        have hc := hhead c rfl
        rw [hblank c List.mem_cons_self] at hc
        cases hc
    · rw [bare_of_unmarked htrim hlast] at h
      exact absurd h hne
  · rintro rfl
    decide

/-- What is left is marked exactly if the name was marked twice. -/
theorem isNullable_bare_iff_markedTwice (htrim : trim s = s) :
    isNullable (bare s) = true ↔ MarkedTwice s := by
  rw [isNullable_bare_iff]
  constructor
  · intro h
    by_cases hlast : s.toList.getLast? = some marker
    · obtain ⟨front, hs⟩ := List.getLast?_eq_some_iff.mp hlast
      rw [toList_bare_of_marked htrim hs] at h
      obtain ⟨before, hbefore⟩ := List.getLast?_eq_some_iff.mp h
      obtain ⟨blanks, hfront, hblanks⟩ := exists_dropWhileEnd_append isBlank front
      refine ⟨before, blanks, ?_, hblanks⟩
      rw [hs, hfront, hbefore]
      simp only [List.append_assoc, List.cons_append, List.nil_append]
    · rw [bare_of_unmarked htrim hlast] at h
      exact absurd h hlast
  · rintro ⟨front, blanks, hs, hblanks⟩
    have hsplit : s.toList = (front ++ marker :: blanks) ++ [marker] := by
      rw [hs, List.append_assoc, List.cons_append]
    rw [toList_bare_of_marked htrim hsplit, getLast?_dropWhileEnd,
      List.find?_eq_some_iff_append]
    refine ⟨by decide, blanks.reverse, front.reverse, by simp, fun c hc => ?_⟩
    rw [hblanks c (List.mem_reverse.mp hc)]
    rfl

/-- Nothing more is taken off exactly if no mark is left. -/
theorem bare_bare_iff : bare (bare s) = bare s ↔ ¬ isNullable (bare s) = true := by
  constructor
  · intro h hn
    obtain ⟨front, hfront⟩ := List.getLast?_eq_some_iff.mp (isNullable_bare_iff.mp hn)
    have hleft := dropWhileEnd_prefix isBlank front
    have hshort := hleft.length_le
    rw [← toList_bare_of_marked (trim_bare s) hfront, h, hfront, List.length_append] at hshort
    exact absurd hshort (by simp)
  · intro h
    rw [bare_eq_trim h, trim_bare]

theorem unmarked_bare_iff : Unmarked (bare s) ↔ bare s ≠ "" ∧ ¬ isNullable (bare s) = true := by
  rw [Unmarked, isNullable_bare_iff]

end TypeName

namespace CSharp

open ShadowTypes.TypeName

variable {e : Emitter}

/-- A candidate that stands for a name ends as the name does, in a mark or not. -/
theorem unmarked_of_canonical? {names : List String} {t d : String} (h : Unmarked (bare t))
    (hd : (Candidates.ofNames names).canonical? (bare t) = some d) : Unmarked d := by
  rw [Candidates.canonical?_ofNames] at hd
  have hfold := List.find?_some hd
  simp only [beq_iff_eq, key_bare] at hfold
  refine ⟨?_, ?_⟩
  · intro hempty
    apply h.1
    rw [← Text.fold_eq_empty_iff, ← hfold]
    exact Text.fold_eq_empty_iff.mpr hempty
  · intro hlast
    apply h.2
    have hmarker : Text.Caseless marker := by decide
    have hlast := (Text.getLast?_foldChars_eq_iff hmarker).mpr hlast
    rw [← Text.toList_fold, hfold, Text.toList_fold] at hlast
    exact (Text.getLast?_foldChars_eq_iff hmarker).mp hlast

/-- The declared types of a name are all without the mark exactly if what is left of the name is,
and the suffix does not end in the mark either. -/
theorem forall_unmarked_iff (hd : e.dialect = .csharp) (t : String) :
    (∀ names, Unmarked (e.typeExpression t (.ofNames names))) ↔
      Unmarked (bare t) ∧ e.suffix.toList.getLast? ≠ some marker := by
  constructor
  · intro h
    have hbare := h []
    rw [Emitter.typeExpression_of_none rfl, hd] at hbare
    refine ⟨hbare, fun hsuffix => ?_⟩
    -- The name itself is a candidate like any other.
    have hself : (Candidates.ofNames [bare t]).canonical? (bare t) = some (bare t) := by
      rw [Candidates.canonical?_ofNames, key_bare]
      simp
    apply (h [bare t]).2
    rw [Emitter.typeExpression_of_some hself, hd, String.toList_append, List.getLast?_append,
      hsuffix]
    rfl
  · rintro ⟨hbare, hsuffix⟩ names
    cases hc : (Candidates.ofNames names).canonical? (bare t) with
    | none =>
      rw [Emitter.typeExpression_of_none hc, hd]
      exact hbare
    | some d =>
      obtain ⟨hne, hlast⟩ := unmarked_of_canonical? hbare hc
      rw [Emitter.typeExpression_of_some hc, hd]
      refine ⟨?_, ?_⟩
      · rw [Ne, String.append_eq_empty_iff]
        exact fun h => hne h.1
      · rw [String.toList_append, List.getLast?_append]
        cases hs : e.suffix.toList.getLast? with
        | none => exact hlast
        | some c =>
          rw [hs] at hsuffix
          exact hsuffix

theorem wellFormed_of_parse {v : Value} {strict : Bool} {p : Property}
    (h : Description.propertyForm.parse v strict = .ok p) : p.WellFormed := by
  unfold Description.Form.parse at h
  split at h
  · next hread =>
    cases h
    exact Description.wellFormed_of_readProperty hread
  · cases h
  · cases h

theorem exists_declaration {m : Model} {fragments : List String} {candidates : Candidates}
    {text : String} (hd : e.dialect = .csharp) {p : Property} (hp : p ∈ m.properties)
    (h : e.render m fragments candidates = .ok text) :
    ∃ before after, text = Source.ofLines (before ++
      e.place m (e.layout.property ++ "public " ++ e.typeExpression p.typeName candidates ++ "? " ++
        p.name ++ " \x7b get; set; \x7d") :: after) := by
  obtain ⟨front, rest, hsplit⟩ := List.append_of_mem hp
  rw [← (e.render_eq_ok_iff.mp h).2, e.frame_eq_ofLines fragments candidates, hsplit]
  simp only [List.map_append, List.map_cons, Emitter.declaration, hd, Source.csharpField,
    Dialect.member, List.append_assoc, List.cons_append]
  rw [← List.append_assoc]
  exact ⟨_, _, rfl⟩

/-- Whatever the candidates are, an accepted property is declared with its type, as it is written
without its mark, and a mark after it. Something is left of the type unless it is the mark alone.
What is left is marked itself, and loses another mark the next time, exactly if the type was marked
twice. So all declared types are filled and end in the one mark exactly if the type is neither the
mark alone nor marked twice; the suffix of shadow types must not end in a mark either. -/
theorem declared_with_one_mark_iff {v : Value} {strict : Bool} {p : Property}
    (h : Description.propertyForm.parse v strict = .ok p) (hd : e.dialect = .csharp) :
    let base := bare p.typeName
    let type names := e.typeExpression p.typeName (.ofNames names)
    (∀ names (m : Model) fragments text, p ∈ m.properties →
      e.render m fragments (.ofNames names) = .ok text →
      ∃ before after, text = Source.ofLines (before ++
        e.place m (e.layout.property ++ "public " ++ type names ++ "? " ++ p.name ++
          " \x7b get; set; \x7d") :: after)) ∧
    (base ≠ "" ↔ p.typeName ≠ "?") ∧
    (isNullable base = true ↔ MarkedTwice p.typeName) ∧
    (bare base = base ↔ ¬ MarkedTwice p.typeName) ∧
    ((∀ names, Unmarked (type names)) ↔ p.typeName ≠ "?" ∧ ¬ MarkedTwice p.typeName ∧
      e.suffix.toList.getLast? ≠ some marker) := by
  intro base type
  obtain ⟨-, hne, htrim⟩ := wellFormed_of_parse h
  have hempty : base ≠ "" ↔ p.typeName ≠ "?" := not_congr (bare_eq_empty_iff hne htrim)
  have htwice : isNullable base = true ↔ MarkedTwice p.typeName :=
    isNullable_bare_iff_markedTwice htrim
  refine ⟨fun names m fragments text hp ht => exists_declaration hd hp ht, hempty, htwice, ?_, ?_⟩
  · rw [bare_bare_iff, htwice]
  · rw [forall_unmarked_iff hd, unmarked_bare_iff, and_assoc, hempty, htwice]

/-- Marks inside a type are left alone. -/
theorem declared_with_one_mark_list :
    let v := Value.mapping [(.text "name", .text "Lines"),
      (.text "typeName", .text "List<int?> ? ")]
    let p : Property := ⟨"Lines", "List<int?> ?", none⟩
    let e := Emitter.ofDialect .csharp
    Description.propertyForm.parse v = .ok p ∧ e.dialect = .csharp ∧
    ∀ names, Unmarked (e.typeExpression p.typeName (.ofNames names)) := by
  intro v p e
  have hparse : Description.propertyForm.parse v = .ok p := rfl
  obtain ⟨-, -, htwice, -, hall⟩ := declared_with_one_mark_iff (e := e) hparse rfl
  refine ⟨hparse, rfl, hall.mpr ⟨by decide, ?_, by decide⟩⟩
  rw [← htwice]
  decide

/-- Of two marks one is taken off: the declared type has two again. -/
theorem declared_with_two_marks :
    let v := Value.mapping [(.text "name", .text "Line"), (.text "typeName", .text "int??")]
    let p : Property := ⟨"Line", "int??", none⟩
    let m : Model := { space := "shop", name := "Order", properties := [p] }
    Description.propertyForm.parse v = .ok p ∧
    bare p.typeName = "int?" ∧ isNullable (bare p.typeName) = true ∧
    bare (bare p.typeName) ≠ bare p.typeName ∧
    (Emitter.ofDialect .csharp).render m [] .empty = .ok (Source.ofLines ["namespace shop", "\x7b",
      "    public class OrderDTO", "    \x7b",
      "        public int?? Line \x7b get; set; \x7d", "",
      "        public bool CheckIsValid()", "        \x7b", "            return true;",
      "        \x7d", "    \x7d", "\x7d", ""]) := by
  refine ⟨rfl, by decide, by decide, by decide, ?_⟩
  rfl

end CSharp

end ShadowTypes
