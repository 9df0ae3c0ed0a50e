import Mathlib.Algebra.Group.Nat.Defs
import Mathlib.Tactic.SplitIfs
import ShadowTypes.Proofs.Halves

/-!
# Reading quoted texts

A quoted text is on one line and reads back as what was quoted. Each code point stands between the
quotes in one of three ways: as itself, by a letter behind a backslash, or by its number. What a
reader makes of quoted texts follows from what it makes of these three.
-/

namespace ShadowTypes.Text

variable {q c d : Char} {n width : Nat} {cs w l : List Char}

/-! ## Hexadecimal digits -/

theorem length_hex (width n : Nat) : (hex width n).length = width := by
  induction width generalizing n with
  | zero => rfl
  | succ width ih => simp [hex, ih]

theorem exists_of_mem_hex (h : c ∈ hex width n) : ∃ d < 16, c = hexDigit d := by
  induction width generalizing n with
  | zero => exact absurd h List.not_mem_nil
  | succ width ih =>
    rw [hex, List.mem_append, List.mem_singleton] at h
    rcases h with h | h
    · exact ih h
    · exact ⟨n % 16, by omega, h⟩

theorem hexNumber?_concat (l : List Char) (c : Char) :
    hexNumber? (l ++ [c]) = (hexNumber? l).bind fun n => (hexValue? c).map (n * 16 + ·) := by
  simp [hexNumber?, List.foldlM_append]

theorem hexNumber?_hex (h : n < 16 ^ width) : hexNumber? (hex width n) = some n := by
  have hdigit : ∀ d < 16, hexValue? (hexDigit d) = some d := by decide
  induction width generalizing n with
  | zero =>
    have hn : n = 0 := by omega
    rw [hn]
    rfl
  | succ width ih =>
    have hhigh : n / 16 < 16 ^ width := by
      rw [Nat.pow_succ] at h
      omega
    rw [hex, hexNumber?_concat, ih hhigh, hdigit (n % 16) (by omega)]
    simp only [Option.bind_some, Option.map_some, Option.some.injEq]
    omega

/-! ## Code points -/

theorem exists_of_mem_spellings (h : cs ∈ spellings l) :
    (∃ c, cs = [c]) ∨ ∃ d, isMarked d = true ∧ cs = [halfMark, d] := by
  fun_induction spellings l with
  | case1 => exact absurd h List.not_mem_nil
  | case2 c => exact .inl ⟨c, List.mem_singleton.mp h⟩
  | case3 c d r hpair ih =>
    rcases List.mem_cons.mp h with rfl | h
    · simp only [Bool.and_eq_true, beq_iff_eq] at hpair
      exact .inr ⟨d, hpair.2, by rw [hpair.1]⟩
    · exact ih h
  | case4 c d r hpair ih =>
    rcases List.mem_cons.mp h with rfl | h
    · exact .inl ⟨c, rfl⟩
    · exact ih h

theorem spell_pointOf_of_isMarked (h : isMarked d = true) :
    spell (pointOf [halfMark, d]) = [halfMark, d] := by
  by_cases hd : d = halfMark
  · subst hd
    rfl
  · have hhalf : halfShift ≤ d.toNat ∧ isSurrogate (d.toNat - halfShift) = true := by
      simpa [isMarked, hd] using h
    rw [pointOf, if_neg hd, spell, if_pos hhalf.2, Nat.sub_add_cancel hhalf.1, Char.ofNat_toNat]

theorem pointOf_le (d : Char) : pointOf [halfMark, d] ≤ 0x10FFFF := by
  rw [pointOf]
  split
  · decide
  · have hvalid : d.toNat < 0xD800 ∨ 0xDFFF < d.toNat ∧ d.toNat < 0x110000 := d.valid
    omega

/-! ## The three ways -/

/-- Characters that stand as themselves between the quotes `q`. -/
def IsVerbatim (q c : Char) : Prop := c ≠ q ∧ c ≠ '\\' ∧ isLineEnd c = false

/-- The letters that stand behind a backslash between the quotes `q`, each with its character. -/
def letters (q : Char) : List (Char × Char) :=
  [(q, q), ('\\', '\\'), ('n', '\n'), ('r', '\r'), ('t', '\t')]

/-- The marks of numbers behind a backslash, each with the number of its digits. -/
def numberMarks : List (Char × Nat) := [('x', 2), ('u', 4), ('U', 8)]

theorem letters_cases (h : (d, c) ∈ letters q) : (d = q ∧ c = q) ∨ (d = '\\' ∧ c = '\\') ∨
    (d = 'n' ∧ c = '\n') ∨ (d = 'r' ∧ c = '\r') ∨ (d = 't' ∧ c = '\t') := by
  simpa [letters] using h

theorem numberMarks_cases (h : (c, n) ∈ numberMarks) :
    (c = 'x' ∧ n = 2) ∨ (c = 'u' ∧ n = 4) ∨ (c = 'U' ∧ n = 8) := by
  simpa [numberMarks] using h

/-- How the characters `cs` of a code point stand between the quotes `q`. -/
inductive Stands (q : Char) : List Char → List Char → Prop
  | plain {c : Char} (h : IsVerbatim q c) : Stands q [c] [c]
  | letter {d c : Char} (h : (d, c) ∈ letters q) : Stands q [c] ['\\', d]
  | number {m : Char} {width n : Nat} (hm : (m, width) ∈ numberMarks) (hw : n < 16 ^ width)
      (hn : n ≤ 0x10FFFF) : Stands q (spell n) ('\\' :: m :: hex width n)

theorem isLineEnd_of_isPrintable (h : isPrintable c = true) : isLineEnd c = false := by
  have hlarge : ∀ n ∈ [0x85, 0x2028, 0x2029], unprintables.holds n = true := by decide +kernel
  by_contra hend
  simp only [isLineEnd, Bool.not_eq_false, Bool.or_eq_true, Bool.and_eq_true, decide_eq_true_eq,
    beq_iff_eq] at hend
  unfold isPrintable at h
  split at h
  · simp only [Bool.and_eq_true, decide_eq_true_eq] at h
    omega
  · rw [hlarge c.toNat (by simp; omega)] at h
    cases h

theorem stands_escapePoint (hn : n ≤ 0x10FFFF) : Stands q (spell n) (escapePoint n) := by
  unfold escapePoint
  split
  · exact .number (by decide) (by omega) hn
  · split
    · exact .number (by decide) (by omega) hn
    · exact .number (by decide) (by omega) hn

theorem stands_escapeChar (q c : Char) : Stands q [c] (escapeChar q c) := by
  unfold escapeChar
  split_ifs with hq hb hfeed hreturn htab hplain
  · subst hq
    exact .letter (by simp [letters])
  · subst hb
    exact .letter (by simp [letters])
  · subst hfeed
    exact .letter (by simp [letters])
  · subst hreturn
    exact .letter (by simp [letters])
  · subst htab
    exact .letter (by simp [letters])
  · have hend : isLineEnd c = false := by
      simp only [Bool.or_eq_true, decide_eq_true_eq] at hplain
      rcases hplain with h | rfl
      · exact isLineEnd_of_isPrintable h
      · decide
    exact .plain ⟨hq, hb, hend⟩
  · have hmark : c ≠ halfMark := by
      rintro rfl
      simp at hplain
    have hvalid : c.toNat < 0xD800 ∨ 0xDFFF < c.toNat ∧ c.toNat < 0x110000 := c.valid
    have hspell : spell c.toNat = [c] := by rw [spell_toNat, if_neg hmark]
    rw [← hspell]
    apply stands_escapePoint
    omega

theorem stands_escape (q : Char) (h : cs ∈ spellings l) : Stands q cs (escape q cs) := by
  rcases exists_of_mem_spellings h with ⟨c, rfl⟩ | ⟨d, hd, rfl⟩
  · exact stands_escapeChar q c
  · have hpoint : Stands q _ (escapePoint (pointOf [halfMark, d])) :=
      stands_escapePoint (pointOf_le d)
    rwa [spell_pointOf_of_isMarked hd] at hpoint

/-! ## Readers -/

/-- A quote of the Python dialect. -/
def IsQuote (q : Char) : Prop := q = '\'' ∨ q = '"'

instance (q : Char) : Decidable (IsQuote q) := inferInstanceAs (Decidable (_ ∨ _))

theorem isQuote_quoteFor (l : List Char) : IsQuote (quoteFor l) := by
  unfold quoteFor
  split
  · exact .inr rfl
  · exact .inl rfl

theorem spell_of_lt (h : n < 0xD800) : spell n = [Char.ofNat n] := by
  have hhalf : isSurrogate n = false := by
    simp only [isSurrogate, Bool.and_eq_false_iff, decide_eq_false_iff_not]
    omega
  have hmark : n ≠ halfMark.toNat := by
    have hcode : halfMark.toNat = 0xFDEF := by decide
    omega
  rw [spell, hhalf, if_neg Bool.false_ne_true, if_neg hmark]

theorem unquoteFrom_cons (h : IsVerbatim q c) (r : List Char) :
    unquoteFrom q (c :: r) = (unquoteFrom q r).map (c :: ·) := by
  obtain ⟨hq, hb, he⟩ := h
  have hbreaks : ¬ (decide (c = '\n') || decide (c = '\r')) = true := by
    rw [Bool.or_eq_true, decide_eq_true_eq, decide_eq_true_eq]
    rintro (rfl | rfl)
    · exact absurd he (by decide)
    · exact absurd he (by decide)
  rw [unquoteFrom.eq_def]
  split <;> simp_all

theorem unquoteFrom_stands (hq : IsQuote q) (h : Stands q cs w) (r : List Char) :
    unquoteFrom q (w ++ r) = (unquoteFrom q r).map (cs ++ ·) := by
  cases h with
  | plain h => exact unquoteFrom_cons h r
  | letter h =>
    rcases letters_cases h with ⟨rfl, rfl⟩ | ⟨rfl, rfl⟩ | ⟨rfl, rfl⟩ | ⟨rfl, rfl⟩ | ⟨rfl, rfl⟩
    · rcases hq with rfl | rfl <;> simp [unquoteFrom]
    · simp [unquoteFrom]
    · rfl
    · rfl
    · rfl
  | @number m width n hm hw hn =>
    have hvalue := hexNumber?_hex hw
    rcases numberMarks_cases hm with ⟨rfl, rfl⟩ | ⟨rfl, rfl⟩ | ⟨rfl, rfl⟩
    · obtain ⟨a, b, hdigits⟩ : ∃ a b, hex 2 n = [a, b] := ⟨_, _, rfl⟩
      rw [hdigits] at hvalue ⊢
      simp only [List.cons_append, List.nil_append, unquoteFrom, hvalue]
      rw [spell_of_lt (by omega)]
      rfl
    · obtain ⟨a, b, c, d, hdigits⟩ : ∃ a b c d, hex 4 n = [a, b, c, d] := ⟨_, _, _, _, rfl⟩
      rw [hdigits] at hvalue ⊢
      simp only [List.cons_append, List.nil_append, unquoteFrom, hvalue]
      rfl
    · obtain ⟨a, b, c, d, e, f, g, i, hdigits⟩ :
          ∃ a b c d e f g i, hex 8 n = [a, b, c, d, e, f, g, i] := ⟨_, _, _, _, _, _, _, _, rfl⟩
      rw [hdigits] at hvalue ⊢
      simp only [List.cons_append, List.nil_append, unquoteFrom, hvalue]
      simp [Nat.not_lt.mpr hn]

theorem unquoteFrom_flatMap (hq : IsQuote q) {points : List (List Char)}
    (h : ∀ cs ∈ points, Stands q cs (escape q cs)) :
    unquoteFrom q (points.flatMap (escape q) ++ [q]) = some points.flatten := by
  induction points with
  | nil => rcases hq with rfl | rfl <;> rfl
  | cons cs points ih =>
    obtain ⟨hcs, hpoints⟩ := List.forall_mem_cons.mp h
    rw [List.flatMap_cons, List.append_assoc, unquoteFrom_stands hq hcs, ih hpoints]
    rfl

theorem unquoteChars_cons (hq : IsQuote q) (r : List Char) :
    unquoteChars (q :: r) = unquoteFrom q r := by
  rcases hq with rfl | rfl <;> rfl

theorem unquoteChars_quoteChars (l : List Char) : unquoteChars (quoteChars l) = some l := by
  have hq := isQuote_quoteFor l
  rw [quoteChars, unquoteChars_cons hq,
    unquoteFrom_flatMap hq fun cs hcs => stands_escape _ hcs, flatten_spellings]

/-! ## Lines -/

theorem isVerbatim_hex (hq : IsQuote q) (h : c ∈ hex width n) : IsVerbatim q c := by
  have hsingle : ∀ d < 16, hexDigit d ≠ '\'' ∧ hexDigit d ≠ '\\' ∧
      isLineEnd (hexDigit d) = false := by decide
  have hdouble : ∀ d < 16, hexDigit d ≠ '"' := by decide
  obtain ⟨d, hd, rfl⟩ := exists_of_mem_hex h
  obtain ⟨hne, hb, he⟩ := hsingle d hd
  rcases hq with rfl | rfl
  · exact ⟨hne, hb, he⟩
  · exact ⟨hdouble d hd, hb, he⟩

theorem isLineEnd_of_stands (hq : IsQuote q) (h : Stands q cs w) (hc : c ∈ w) :
    isLineEnd c = false := by
  have hquote : isLineEnd q = false := by
    rcases hq with rfl | rfl <;> decide
  cases h with
  | plain h =>
    rw [List.mem_singleton.mp hc]
    exact h.2.2
  | letter h =>
    simp only [List.mem_cons, List.not_mem_nil, or_false] at hc
    rcases hc with rfl | rfl
    · decide
    · rcases letters_cases h with ⟨rfl, rfl⟩ | ⟨rfl, rfl⟩ | ⟨rfl, rfl⟩ | ⟨rfl, rfl⟩ | ⟨rfl, rfl⟩
      · exact hquote
      · decide
      · decide
      · decide
      · decide
  | number hm hw hn =>
    simp only [List.mem_cons] at hc
    rcases hc with rfl | rfl | hc
    · decide
    · rcases numberMarks_cases hm with ⟨rfl, rfl⟩ | ⟨rfl, rfl⟩ | ⟨rfl, rfl⟩ <;> decide
    · exact (isVerbatim_hex hq hc).2.2

theorem isLineEnd_of_mem_quoteChars (hc : c ∈ quoteChars l) : isLineEnd c = false := by
  have hq := isQuote_quoteFor l
  have hquote : isLineEnd (quoteFor l) = false := by
    rcases hq with h | h <;> rw [h] <;> decide
  rw [quoteChars, List.mem_cons, List.mem_append, List.mem_singleton, List.mem_flatMap] at hc
  rcases hc with rfl | ⟨cs, hcs, hc⟩ | rfl
  · exact hquote
  · exact isLineEnd_of_stands hq (stands_escape _ hcs) hc
  · exact hquote

end ShadowTypes.Text
