import ShadowTypes.Hint.Forward.Reader
import ShadowTypes.Proofs.Hint.Tokens

/-!
# Paths and quoted texts as operands

A path of names and a quoted text are operands: they are read as far as they go, whatever is known
of the expressions in brackets. So either is an expression alone and before a bar with another
operand after it.
-/

namespace ShadowTypes.Forward

variable {p : Parts} {ts us r : List Token} {e f : Expression} {s : String}

/-- No token is left, or a bar comes next. -/
def AtBar (r : List Token) : Prop := r = [] ∨ ∃ us, r = .mark "|" :: us

/-- The first token is there and no mark. -/
def StartsPlainly (ts : List Token) : Prop := ∃ t r, ts = t :: r ∧ ∀ m, t ≠ .mark m

theorem StartsPlainly.append (h : StartsPlainly ts) (us : List Token) :
    StartsPlainly (ts ++ us) := by
  obtain ⟨t, r, rfl, ht⟩ := h
  exact ⟨t, r ++ us, rfl, ht⟩

/-- The tokens `ts` are the operand `e`. -/
structure IsOperand (ts : List Token) (e : Expression) : Prop where
  starts : StartsPlainly ts
  operand_eq (p : Parts) {r : List Token} (hr : AtBar r) : operand p (ts ++ r) = some (e, r)
  fits : e.fits {} = true

/-! ## The operands -/

theorem trailers_atBar (whole : Reader) (comprehension : List Expression → Reader) (hr : AtBar r)
    (steps : Nat) (ending : Ending) (e : Expression) :
    trailers whole comprehension steps ending e r = some (ending, e, r) := by
  cases steps with
  | zero => rfl
  | succ steps => rcases hr with rfl | ⟨us, rfl⟩ <;> rfl

theorem exists_trailers_members (whole : Reader) (comprehension : List Expression → Reader)
    (hr : AtBar r) {ws : List (List Char)} {steps : Nat} (hsteps : ws.length ≤ steps)
    (ending : Ending) (e : Expression) :
    ∃ last, trailers whole comprehension steps ending e (members ws ++ r) = some (last, e, r) := by
  induction ws generalizing steps ending with
  | nil => exact ⟨ending, trailers_atBar whole comprehension hr steps ending e⟩
  | cons w ws ih =>
    cases steps with
    | zero => simp at hsteps
    | succ steps =>
      have hrest : ws.length ≤ steps := by simpa using hsteps
      obtain ⟨last, h⟩ := ih hrest (if String.ofList w = fixedName then .value else .place)
      exact ⟨last, h⟩

theorem isOperand_path (w : List Char) (ws : List (List Char)) :
    IsOperand (.name (String.ofList w) :: members ws) (.name (String.ofList w)) := by
  refine ⟨⟨_, _, rfl, by simp⟩, ?_, rfl⟩
  intro p r hr
  have hsteps : ws.length ≤ (members ws ++ r).length + 1 := by
    rw [List.length_append, length_members]
    omega
  obtain ⟨last, h⟩ := exists_trailers_members p.whole (p.comprehension true) hr hsteps .atom
    (.name (String.ofList w))
  have hprimary : primary p (.name (String.ofList w) :: (members ws ++ r)) =
      some (last, .name (String.ofList w), r) := h
  have hoperand : operand p (.name (String.ofList w) :: (members ws ++ r)) =
      (primary p (.name (String.ofList w) :: (members ws ++ r))).map (·.2) := rfl
  rw [List.cons_append, hoperand, hprimary]
  rfl

theorem isOperand_text : IsOperand [.text false []] (.parts [.parts []]) := by
  refine ⟨⟨_, _, rfl, by simp⟩, ?_, rfl⟩
  intro p r hr
  rcases hr with rfl | ⟨us, rfl⟩ <;> rfl

theorem isOperand_value : IsOperand [.value] (.parts []) := by
  refine ⟨⟨_, _, rfl, by simp⟩, ?_, rfl⟩
  intro p r hr
  rcases hr with rfl | ⟨us, rfl⟩ <;> rfl

/-! ## Expressions made of operands -/

namespace IsOperand

theorem chain_eq (h : IsOperand ts e) (p : Parts) (steps : Nat) :
    chain (operand p) arithmetic (steps + 1) ts = some (e, []) := by
  have hoperand := h.operand_eq p (.inl rfl)
  rw [List.append_nil] at hoperand
  rw [chain, hoperand]
  rfl

theorem chain_bar (h : IsOperand ts e) (hf : IsOperand us f) (p : Parts) (steps : Nat) :
    chain (operand p) arithmetic (steps + 2) (ts ++ .mark "|" :: us) =
      some (.parts [e, f], []) := by
  have hoperand := h.operand_eq p (.inr ⟨us, rfl⟩)
  have hright := hf.chain_eq p steps
  have hbar : arithmetic (.mark "|" :: us) = some us := rfl
  rw [chain, hoperand]
  simp only [Option.bind_eq_bind, Option.bind_some, hbar, hright, Option.pure_def]

end IsOperand

theorem withoutMarks_eq_self (h : StartsPlainly ts) (ms : List String) :
    withoutMarks ms ts = ts := by
  obtain ⟨t, r, rfl, ht⟩ := h
  cases t with
  | mark m => exact absurd rfl (ht m)
  | _ => rfl

/-- What is read as operands with operators between them is an expression if nothing is left. -/
theorem conditional_logical {sum : Reader} (hts : StartsPlainly ts) (hsum : sum ts = some (e, [])) :
    conditional p (logical sum) ts = some (e, []) := by
  have hcompared : chain sum comparison (ts.length + 1) ts = some (e, []) := by
    rw [chain, hsum]
    rfl
  have hlogical : logical sum ts = some (e, []) := by
    simp only [logical]
    rw [chain, withoutMarks_eq_self hts, hcompared]
    rfl
  obtain ⟨t, r, rfl, ht⟩ := hts
  cases t with
  | mark m => exact absurd rfl (ht m)
  | _ =>
    simp only [conditional, hlogical]
    rfl

theorem isExpression_of_tokens? (hs : s.toList.head? ≠ some '*') (ht : tokens? s = some ts)
    (hts : StartsPlainly ts)
    (hsum : ∀ p, chain (operand p) arithmetic (ts.length + 1) ts = some (e, []))
    (he : e.fits {} = true) : isExpression s = true := by
  have hwhole : (parts (s.length + 1)).whole ts = some (e, []) :=
    conditional_logical hts (hsum _)
  rw [isExpression, source, if_neg hs, ht]
  simp only [Option.bind_some, expressions, hwhole]
  simp [areEnds, allFit, he]

/-- The text `s` is written in the tokens `ts`, which are the operand `e`. It is read as it stands:
no star begins it, and it holds no carriage return. -/
structure WritesOperand (s : String) (ts : List Token) (e : Expression) : Prop where
  spells : Spells ts s.toList
  isOperand : IsOperand ts e
  return_notMem : '\r' ∉ s.toList
  head_ne : s.toList.head? ≠ some '*'

namespace WritesOperand

theorem isExpression (h : WritesOperand s ts e) : isExpression s = true :=
  isExpression_of_tokens? h.head_ne (h.spells.tokens?_eq h.return_notMem) h.isOperand.starts
    (fun p => h.isOperand.chain_eq p _) h.isOperand.fits

theorem isExpression_optional (h : WritesOperand s ts e) :
    Forward.isExpression (s ++ " | None") = true := by
  have htokens : tokens? (s ++ " | None") = some (ts ++ [.mark "|", .value]) := by
    have hends : EndsToken " | None".toList := endsToken_cons (by decide) _
    exact h.spells.tokens?_append hends (fun _ => rfl) h.return_notMem (by decide)
  have hhead : (s ++ " | None").toList.head? ≠ some '*' := by
    have hfirst := h.head_ne
    obtain ⟨c, l, hc, -⟩ := h.spells.begins
    rw [hc] at hfirst
    rw [String.toList_append, hc]
    exact hfirst
  have hsum : ∀ p, chain (operand p) arithmetic ((ts ++ [Token.mark "|", .value]).length + 1)
      (ts ++ [.mark "|", .value]) = some (.parts [e, .parts []], []) := by
    intro p
    rw [List.length_append]
    exact h.isOperand.chain_bar isOperand_value p (ts.length + 1)
  apply isExpression_of_tokens? hhead htokens (h.isOperand.starts.append _) hsum
  simp only [Expression.fits, allFit, h.isOperand.fits, Bool.and_self]

end WritesOperand

end ShadowTypes.Forward
