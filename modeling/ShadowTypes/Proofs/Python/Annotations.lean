import ShadowTypes.Proofs.Hint.Operands

/-!
# Types as annotations

A type that is no candidate is written in Python by the name of a common type, as the path of names
that it is, or in quotes. Which of the three it is depends on the bare name alone, and each is one
operand of the Python dialect, so that it can be declared to be optional.
-/

namespace ShadowTypes

namespace TypeExpression

open Text

variable {s base t : String} {l : List Char}

/-- Names, that is, identifiers that are not reserved, with points between them. -/
def IsDotted (l : List Char) : Prop :=
  ∃ w ws, l = joinWith '.' (w :: ws) ∧ ∀ v ∈ w :: ws, Forward.IsName v

theorem isPath_iff : isPath l = true ↔ IsDotted l := by
  have hname : ∀ w : List Char, (isIdentifier w && !Dialect.isKeyword (String.ofList w)) = true ↔
      Forward.IsName w := by
    simp [Forward.IsName]
  constructor
  · intro h
    obtain ⟨w, ws, hsplit⟩ := List.exists_cons_of_ne_nil (splitAt_ne_nil '.' l)
    rw [isPath, List.all_eq_true, hsplit] at h
    refine ⟨w, ws, ?_, fun v hv => (hname v).mp (h v hv)⟩
    rw [← hsplit, joinWith_splitAt]
  · rintro ⟨w, ws, rfl, h⟩
    have hpoint : ∀ v ∈ w :: ws, '.' ∉ v :=
      fun v hv => notMem_of_isIdentifier (by decide) (h v hv).1
    rw [isPath, splitAt_joinWith (List.cons_ne_nil _ _) hpoint, List.all_eq_true]
    exact fun v hv => (hname v).mpr (h v hv)

theorem mem_of_common?_eq_some (h : common? base = some t) : (fold base, t) ∈ commonTypes := by
  unfold common? at h
  obtain ⟨x, hx, rfl⟩ := Option.map_eq_some_iff.mp h
  have hkey : x.1 = fold base := by simpa using List.find?_some hx
  rw [← hkey]
  exact List.mem_of_find?_eq_some hx

theorem notMem_of_common?_eq_none (h : common? base = none) (t : String) :
    (fold base, t) ∉ commonTypes := by
  unfold common? at h
  rw [Option.map_eq_none_iff, List.find?_eq_none] at h
  intro hmem
  exact h _ hmem (beq_self_eq_true _)

/-! ## Paths and quoted texts -/

theorem IsDotted.exists_writesOperand (h : IsDotted s.toList) :
    ∃ ts e, Forward.WritesOperand s ts e := by
  obtain ⟨w, ws, hs, hnames⟩ := h
  obtain ⟨hw, hws⟩ := List.forall_mem_cons.mp hnames
  refine ⟨_, _, ⟨?_, Forward.isOperand_path w ws, ?_, ?_⟩⟩
  · rw [hs]
    exact Forward.spells_path hw hws
  · rw [hs]
    intro hmem
    rcases exists_mem_of_mem_joinWith hmem with hpoint | ⟨v, hv, hmem⟩
    · exact absurd hpoint (by decide)
    · exact notMem_of_isIdentifier (by decide) (hnames v hv).1 hmem
  · obtain ⟨c, r, rfl, hc, -⟩ := Forward.exists_start_of_isName hw
    rw [hs, joinWith_cons]
    intro hhead
    exact Forward.ne_of_isIdentifierStart hc (by decide) (Option.some.inj hhead)

theorem writesOperand_quoted (s : String) :
    Forward.WritesOperand (quoted s) [.text false []] (.parts [.parts []]) := by
  have hline : ∀ c ∈ (quoted s).toList, isLineEnd c = false := by
    rw [toList_quoted]
    exact fun c hc => isLineEnd_of_mem_quoteChars hc
  refine ⟨?_, Forward.isOperand_text, fun hmem => absurd (hline _ hmem) (by decide), ?_⟩
  · rw [toList_quoted]
    exact Forward.spells_quoteChars s.toList
  · rw [toList_quoted]
    intro hhead
    have hquote : quoteFor s.toList = '*' := Option.some.inj hhead
    rcases isQuote_quoteFor s.toList with h | h
    · exact absurd (h.symm.trans hquote) (by decide)
    · exact absurd (h.symm.trans hquote) (by decide)

/-- The text `t` is a text in quotes that stands for `content`. -/
structure IsLiteral (content t : String) : Prop where
  /-- It begins with a quote, and the next one that is not escaped ends it. -/
  closed : ∃ quote body, IsQuote quote ∧ t.toList = quote :: (body ++ [quote]) ∧
    Forward.shortBody quote (body ++ [quote]) = some (body, [])
  oneLine : ∀ c ∈ t.toList, isLineEnd c = false
  token : Forward.tokens? t = some [.text false []]
  content_eq : unquoteChars t.toList = some content.toList

theorem isLiteral_quoted (s : String) : IsLiteral s (quoted s) where
  closed := by
    have hq := isQuote_quoteFor s.toList
    refine ⟨_, _, hq, toList_quoted s, ?_⟩
    exact Forward.shortBody_flatMap hq (fun cs hcs => stands_escape _ hcs) []
  oneLine := by
    rw [toList_quoted]
    exact fun c hc => isLineEnd_of_mem_quoteChars hc
  token := (writesOperand_quoted s).spells.tokens?_eq (writesOperand_quoted s).return_notMem
  content_eq := by rw [toList_quoted, unquoteChars_quoteChars]

/-! ## Annotations -/

/-- How the type with a bare name is written: a common type by its own name in Python, a path as it
is, and anything else in quotes. -/
inductive Annotates (base : String) : String → Prop
  | common {t : String} (h : (fold base, t) ∈ commonTypes) : Annotates base t
  | path (hc : ∀ t, (fold base, t) ∉ commonTypes) (hp : IsDotted base.toList) : Annotates base base
  | literal {t : String} (hc : ∀ t, (fold base, t) ∉ commonTypes) (hp : ¬ IsDotted base.toList)
      (ht : IsLiteral base t) : Annotates base t

theorem annotates_plain (base : String) : Annotates base (plain base) := by
  unfold plain
  cases hc : common? base with
  | some t => exact .common (mem_of_common?_eq_some hc)
  | none =>
    have hnone := notMem_of_common?_eq_none hc
    dsimp only
    split
    · next hp => exact .path hnone (isPath_iff.mp hp)
    · next hp => exact .literal hnone (fun hd => hp (isPath_iff.mpr hd)) (isLiteral_quoted base)

theorem exists_writesOperand_plain (base : String) :
    ∃ ts e, Forward.WritesOperand (plain base) ts e := by
  have hcommon : ∀ x ∈ commonTypes, isPath x.2.toList = true := by decide +kernel
  unfold plain
  cases hc : common? base with
  | some t => exact (isPath_iff.mp (hcommon _ (mem_of_common?_eq_some hc))).exists_writesOperand
  | none =>
    dsimp only
    split
    · next hp => exact (isPath_iff.mp hp).exists_writesOperand
    · exact ⟨_, _, writesOperand_quoted base⟩

end TypeExpression

namespace Python

open TypeExpression

/-- Without candidates every type is written as one annotation: a common type by its name in Python,
a path of names as it is, and any other type as a text in quotes that stands for exactly the type
without blanks around it and without its mark. -/
theorem typeExpression_annotates (suffix : String) (layout : Option Layout) (t : String) :
    let text := (Emitter.ofDialect .python suffix layout).typeExpression t .empty
    Annotates (TypeName.bare t) text ∧
    Forward.isExpression text = true ∧ Forward.isExpression (text ++ " | None") = true := by
  have htext : (Emitter.ofDialect .python suffix layout).typeExpression t .empty =
      plain (TypeName.bare t) := rfl
  obtain ⟨ts, e, h⟩ := exists_writesOperand_plain (TypeName.bare t)
  rw [htext]
  exact ⟨annotates_plain _, h.isExpression, h.isExpression_optional⟩

example : (Emitter.ofDialect .python).typeExpression " List<it's> ?" .empty = "\"List<it's>\"" := by
  decide +kernel

end Python

end ShadowTypes
