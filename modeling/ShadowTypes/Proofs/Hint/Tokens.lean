import ShadowTypes.Hint.Forward.Token
import ShadowTypes.Proofs.Lines
import ShadowTypes.Proofs.Names
import ShadowTypes.Proofs.Quoted

/-!
# Tokens of names, paths and quoted texts

A quoted text is one token, and so is a name; a path of names is as many tokens as it has names and
points. Each of them is cut off in the same way wherever it stands outside of brackets, if what
follows does not go on with a word or a text in quotes.
-/

namespace ShadowTypes.Forward

open Text

variable {q c d : Char} {cs w r : List Char} {ws : List (List Char)}

/-! ## The token of a quoted text -/

theorem shortBody_cons (h : IsVerbatim q c) (r : List Char) :
    shortBody q (c :: r) = (shortBody q r).map fun p => (c :: p.1, p.2) := by
  obtain ⟨hq, hb, he⟩ := h
  have hbreak : c ≠ '\n' := by
    rintro rfl
    exact absurd he (by decide)
  rw [shortBody.eq_def]
  split <;> simp_all

theorem shortBody_plain (h : ∀ c ∈ w, IsVerbatim q c) (r : List Char) :
    shortBody q (w ++ r) = (shortBody q r).map fun p => (w ++ p.1, p.2) := by
  induction w with
  | nil => simp
  | cons c w ih =>
    obtain ⟨hc, hw⟩ := List.forall_mem_cons.mp h
    rw [List.cons_append, shortBody_cons hc, ih hw, Option.map_map]
    rfl

theorem shortBody_stands (hq : IsQuote q) (h : Stands q cs w) (r : List Char) :
    shortBody q (w ++ r) = (shortBody q r).map fun p => (w ++ p.1, p.2) := by
  have hescaped : ∀ (d : Char) (r : List Char), shortBody q ('\\' :: d :: r) =
      (shortBody q r).map fun p => ('\\' :: d :: p.1, p.2) := fun _ _ => rfl
  cases h with
  | plain h => exact shortBody_plain (by simpa using h) r
  | letter h => exact hescaped _ r
  | number hm hw hn =>
    rw [List.cons_append, List.cons_append, hescaped, shortBody_plain fun c => isVerbatim_hex hq]
    simp [Function.comp_def]

theorem hasGoodEscapes_plain (h : '\\' ∉ w) (r : List Char) :
    hasGoodEscapes false (w ++ r) = hasGoodEscapes false r := by
  induction w with
  | nil => rfl
  | cons c w ih =>
    rw [List.mem_cons, not_or] at h
    rw [List.cons_append, hasGoodEscapes.eq_def]
    split <;> simp_all

theorem hasCode_hex {width n : Nat} (hw : n < 16 ^ width) (hn : n ≤ 0x10FFFF) (r : List Char) :
    hasCode width (hex width n ++ r) = true := by
  have htake : (hex width n ++ r).take width = hex width n := by
    rw [List.take_append_of_le_length (length_hex width n).ge]
    exact List.take_of_length_le (length_hex width n).le
  rw [hasCode, htake, hexNumber?_hex hw, length_hex]
  simp [hn]

theorem hasGoodEscapes_stands (hq : IsQuote q) (h : Stands q cs w) (r : List Char) :
    hasGoodEscapes false (w ++ r) = hasGoodEscapes false r := by
  cases h with
  | plain h => exact hasGoodEscapes_plain (by simpa using Ne.symm h.2.1) r
  | letter h =>
    rcases letters_cases h with ⟨rfl, rfl⟩ | ⟨rfl, rfl⟩ | ⟨rfl, rfl⟩ | ⟨rfl, rfl⟩ | ⟨rfl, rfl⟩
    · rcases hq with rfl | rfl <;> rfl
    · rfl
    · rfl
    · rfl
    · rfl
  | @number m width n hm hw hn =>
    have hdigits : '\\' ∉ hex width n := fun hmem => (isVerbatim_hex hq hmem).2.1 rfl
    have hcode := hasCode_hex hw hn r
    rcases numberMarks_cases hm with ⟨rfl, rfl⟩ | ⟨rfl, rfl⟩ | ⟨rfl, rfl⟩ <;>
      simp [hasGoodEscapes, hcode, hasGoodEscapes_plain hdigits]

theorem exists_cons_of_stands (hq : IsQuote q) (h : Stands q cs w) : ∃ c r, w = c :: r ∧ c ≠ q := by
  have hb : '\\' ≠ q := by
    rcases hq with rfl | rfl <;> decide
  cases h with
  | plain h => exact ⟨_, _, rfl, h.1⟩
  | letter h => exact ⟨_, _, rfl, hb⟩
  | number hm hw hn => exact ⟨_, _, rfl, hb⟩

section Body

variable {points : List (List Char)}

theorem shortBody_flatMap (hq : IsQuote q) (h : ∀ cs ∈ points, Stands q cs (escape q cs))
    (r : List Char) :
    shortBody q (points.flatMap (escape q) ++ q :: r) = some (points.flatMap (escape q), r) := by
  induction points with
  | nil => rcases hq with rfl | rfl <;> rfl
  | cons cs points ih =>
    obtain ⟨hcs, hpoints⟩ := List.forall_mem_cons.mp h
    rw [List.flatMap_cons, List.append_assoc, shortBody_stands hq hcs, ih hpoints]
    rfl

theorem hasGoodEscapes_flatMap (hq : IsQuote q) (h : ∀ cs ∈ points, Stands q cs (escape q cs)) :
    hasGoodEscapes false (points.flatMap (escape q)) = true := by
  induction points with
  | nil => rfl
  | cons cs points ih =>
    obtain ⟨hcs, hpoints⟩ := List.forall_mem_cons.mp h
    rw [List.flatMap_cons, hasGoodEscapes_stands hq hcs, ih hpoints]

/-- No second quote stands behind the first one, unless nothing is quoted. -/
theorem quotedBody_flatMap (hq : IsQuote q) (h : ∀ cs ∈ points, Stands q cs (escape q cs))
    {r : List Char} (hr : r.head? ≠ some q) :
    quotedBody q (points.flatMap (escape q) ++ q :: r) = some (points.flatMap (escape q), r) := by
  rw [← shortBody_flatMap hq h r]
  cases points with
  | nil =>
    cases r with
    | nil => rfl
    | cons d r =>
      have hd : d ≠ q := by simpa using hr
      simp [quotedBody, hd]
  | cons cs points =>
    obtain ⟨c, w, hw, hc⟩ := exists_cons_of_stands hq (h cs List.mem_cons_self)
    rw [List.flatMap_cons, hw, List.cons_append, List.cons_append]
    unfold quotedBody
    split <;> simp_all

end Body

theorem token?_quoteChars (l : List Char) {r : List Char} (hr : r.head? ≠ some (quoteFor l)) :
    token? (quoteChars l ++ r) = some (.text false [], r) := by
  have hq := isQuote_quoteFor l
  have hstands : ∀ cs ∈ spellings l, Stands (quoteFor l) cs (escape (quoteFor l) cs) :=
    fun cs hcs => stands_escape _ hcs
  have hbody := quotedBody_flatMap hq hstands hr
  have hgood := hasGoodEscapes_flatMap hq hstands
  have hquote : (decide (quoteFor l = '\'') || decide (quoteFor l = '"')) = true := by
    simpa [IsQuote] using hq
  rw [quoteChars, List.cons_append, List.append_assoc, List.singleton_append, token?, if_pos hquote,
    textToken, hbody]
  simp [innerSources?, hgood]

/-! ## The tokens of a path -/

/-- Nothing that would go on a word or a text in quotes comes next. -/
def EndsToken (r : List Char) : Prop := ∀ c, r.head? = some c → isWordPart c = false ∧ ¬ IsQuote c

theorem endsToken_cons (hc : isWordPart c = false ∧ ¬ IsQuote c) (r : List Char) :
    EndsToken (c :: r) := by
  intro d hd
  rwa [← Option.some.inj hd]

/-- A word that names something. -/
def IsName (l : List Char) : Prop :=
  isIdentifier l = true ∧ Dialect.isKeyword (String.ofList l) = false

theorem isWordPart_of_isIdentifierPart {c : Char} (h : isIdentifierPart c = true) :
    isWordPart c = true := by
  unfold isIdentifierPart at h
  split at h
  · simp only [isWordPart, h, Bool.true_or]
  · next hc =>
    have hlarge : 128 ≤ c.toNat := by omega
    simp [isWordPart, hlarge]

theorem isKeyword_of_mem_valueWords {s : String} (h : valueWords.contains s = true) :
    Dialect.isKeyword s = true := by
  have hall : ∀ w ∈ valueWords, Dialect.isKeyword w = true := by decide
  exact hall s (List.contains_iff_mem.mp h)

theorem wordToken_name {w : List Char} (h : IsName w) :
    wordToken (String.ofList w) = some (.name (String.ofList w)) := by
  have hvalue : ¬ valueWords.contains (String.ofList w) = true := by
    intro hc
    have hkeyword := isKeyword_of_mem_valueWords hc
    rw [h.2] at hkeyword
    cases hkeyword
  rw [wordToken, if_neg hvalue, h.2, if_neg Bool.false_ne_true, String.toList_ofList, if_pos h.1]

theorem ne_of_isIdentifierStart (hc : isIdentifierStart c = true)
    (hd : isIdentifierStart d = false) : c ≠ d := by
  rintro rfl
  rw [hd] at hc
  cases hc

theorem isIdentifierStart_of_isAsciiDigit (h : isAsciiDigit c = true) :
    isIdentifierStart c = false := by
  have hall : ∀ n < 128, isAsciiDigit (Char.ofNat n) = true →
      isIdentifierStart (Char.ofNat n) = false := by decide
  have hsmall : c.toNat < 128 := by
    simp only [isAsciiDigit, Bool.and_eq_true, decide_eq_true_eq] at h
    have hle : c.toNat ≤ '9'.toNat := h.2
    have hnine : '9'.toNat = 57 := rfl
    omega
  have hstart := hall c.toNat hsmall
  rw [Char.ofNat_toNat] at hstart
  exact hstart h

/-- A name begins with what can be part of a word, and with nothing that begins another token. -/
theorem start_of_isIdentifierStart (h : isIdentifierStart c = true) :
    isWordPart c = true ∧ isAsciiDigit c = false ∧ c ≠ '.' ∧ ¬ IsQuote c := by
  have hdigit : isAsciiDigit c = false := by
    by_contra hd
    rw [Bool.not_eq_false] at hd
    rw [isIdentifierStart_of_isAsciiDigit hd] at h
    cases h
  refine ⟨isWordPart_of_isIdentifierPart (isIdentifierPart_of_isIdentifierStart h), hdigit,
    ne_of_isIdentifierStart h (by decide), ?_⟩
  rintro (hq | hq)
  · exact ne_of_isIdentifierStart h (by decide) hq
  · exact ne_of_isIdentifierStart h (by decide) hq

theorem exists_start_of_isName (h : IsName w) : ∃ c r, w = c :: r ∧
    isIdentifierStart c = true ∧ ∀ d ∈ r, isWordPart d = true := by
  cases w with
  | nil => exact absurd h.1 Bool.false_ne_true
  | cons c w =>
    have hword := h.1
    rw [isIdentifier_cons, Bool.and_eq_true, List.all_eq_true] at hword
    exact ⟨c, w, rfl, hword.1, fun d hd => isWordPart_of_isIdentifierPart (hword.2 d hd)⟩

theorem span_isWordPart (hw : ∀ d ∈ w, isWordPart d = true) (hr : EndsToken r) :
    (w ++ r).takeWhile isWordPart = w ∧ (w ++ r).dropWhile isWordPart = r := by
  rw [List.takeWhile_append_of_pos hw, List.dropWhile_append_of_pos hw]
  cases r with
  | nil => simp
  | cons d r => simp [(hr d rfl).1]

theorem token?_name (hw : IsName w) (hr : EndsToken r) :
    token? (w ++ r) = some (.name (String.ofList w), r) := by
  obtain ⟨c, w, rfl, hc, hall⟩ := exists_start_of_isName hw
  obtain ⟨hpart, hdigit, hpoint, hquote⟩ := start_of_isIdentifierStart hc
  obtain ⟨htake, hdrop⟩ := span_isWordPart hall hr
  have hmarked : ¬ (decide (c = '\'') || decide (c = '"')) = true := by
    simpa [IsQuote] using hquote
  have hnumber : ¬ (isAsciiDigit c || decide (c = '.') && (w ++ r).head?.any isAsciiDigit) =
      true := by
    simp [hdigit, hpoint]
  rw [List.cons_append, token?, if_neg hmarked, if_neg hnumber, if_pos hpart, htake, hdrop]
  dsimp only
  rw [wordToken_name hw]
  cases r with
  | nil => rfl
  | cons d r =>
    -- The word is no letter in front of a text, since no quote follows.
    have hnext : ¬ ((decide (d = '\'') || decide (d = '"')) &&
        textMarks.contains (lower (String.ofList (c :: w)))) = true := by
      have hd := (hr d rfl).2
      simp only [IsQuote] at hd
      simp [hd]
    simp only [if_neg hnext]
    rfl

theorem token?_point (hc : isIdentifierStart c = true) :
    token? ('.' :: c :: r) = some (.mark ".", c :: r) := by
  obtain ⟨hpart, hdigit, hpoint, hquote⟩ := start_of_isIdentifierStart hc
  have hfind : (marks.find? fun m => m.toList.isPrefixOf ('.' :: c :: r)) = some "." := by
    have hdots : "...".toList.isPrefixOf ('.' :: c :: r) = false := by
      simp [List.isPrefixOf, Ne.symm hpoint]
    have hrest : (marks.tail.find? fun m => m.toList.isPrefixOf ('.' :: c :: r)) = some "." := rfl
    rw [← hrest]
    exact List.find?_cons_of_neg (Bool.eq_false_iff.mp hdots)
  have hmarked : ¬ (decide ('.' = '\'') || decide ('.' = '"')) = true := by decide
  have hnumber : ¬ (isAsciiDigit '.' || decide ('.' = '.') && (c :: r).head?.any isAsciiDigit) =
      true := by
    simpa using ⟨by decide, hdigit⟩
  have hword : ¬ isWordPart '.' = true := by decide
  rw [token?, if_neg hmarked, if_neg hnumber, if_neg hword, hfind]
  rfl

/-! ## The tokens of a text -/

/-- The character neither moves a line nor ends it, and no comment begins with it. -/
def BeginsToken (c : Char) : Prop := isGap c = false ∧ c ≠ '#' ∧ c ≠ '\n' ∧ c ≠ '\\'

instance (c : Char) : Decidable (BeginsToken c) := inferInstanceAs (Decidable (_ ∧ _))

theorem tokensFrom_fresh {c : Char} (h : BeginsToken c) (steps : Nat) (r : List Char) :
    tokensFrom (steps + 1) 0 true (c :: r) = tokensFrom steps 0 false (c :: r) := by
  obtain ⟨hgap, hcomment, hbreak, hjoin⟩ := h
  have hmargin : splitMargin false false (c :: r) = (false, c :: r) := by
    rw [splitMargin.eq_def]
    split <;> simp_all
  rw [tokensFrom.eq_def]
  simp only [hmargin]
  split <;> simp_all

theorem tokensFrom_token {c : Char} {t : Token} {l r : List Char} (h : BeginsToken c)
    (ht : token? (c :: l) = some (t, r)) (hd : depthAfter 0 t = some 0) (steps : Nat) :
    tokensFrom (steps + 1) 0 false (c :: l) = (tokensFrom steps 0 false r).map (t :: ·) := by
  obtain ⟨hgap, hcomment, hbreak, hjoin⟩ := h
  rw [tokensFrom.eq_def]
  simp only [hgap, hcomment, hbreak, hjoin, ht, if_false, Bool.false_eq_true,
    Option.bind_eq_bind, Option.bind_some, hd, Option.pure_def]
  cases tokensFrom steps 0 false r <;> rfl

/-- The characters `w` are the tokens `ts` wherever they stand outside of brackets, before anything
that goes on neither with a word nor with a text in quotes. -/
structure Spells (ts : List Token) (w : List Char) : Prop where
  begins : ∃ c r, w = c :: r ∧ BeginsToken c
  length_le : ts.length ≤ w.length
  tokensFrom_eq (steps : Nat) {r : List Char} (hr : EndsToken r) :
    tokensFrom (steps + ts.length) 0 false (w ++ r) = (tokensFrom steps 0 false r).map (ts ++ ·)

theorem Spells.of_token? {t : Token} {w : List Char} (hw : ∃ c r, w = c :: r ∧ BeginsToken c)
    (ht : ∀ {r}, EndsToken r → token? (w ++ r) = some (t, r)) (hd : depthAfter 0 t = some 0) :
    Spells [t] w := by
  obtain ⟨c, w', rfl, hc⟩ := hw
  refine ⟨⟨c, w', rfl, hc⟩, by simp, fun steps r hr => ?_⟩
  exact tokensFrom_token hc (ht hr) hd steps

theorem beginsToken_of_isIdentifierStart (h : isIdentifierStart c = true) : BeginsToken c := by
  have hgap : isGap c = false := by
    simp only [isGap, Bool.or_eq_false_iff, decide_eq_false_iff_not]
    exact ⟨⟨ne_of_isIdentifierStart h (by decide), ne_of_isIdentifierStart h (by decide)⟩,
      ne_of_isIdentifierStart h (by decide)⟩
  exact ⟨hgap, ne_of_isIdentifierStart h (by decide), ne_of_isIdentifierStart h (by decide),
    ne_of_isIdentifierStart h (by decide)⟩

theorem spells_quoteChars (l : List Char) : Spells [.text false []] (quoteChars l) := by
  have hq := isQuote_quoteFor l
  apply Spells.of_token? ⟨quoteFor l, _, rfl, ?_⟩ ?_ rfl
  · rcases hq with h | h <;> rw [h] <;> decide
  · intro r hr
    apply token?_quoteChars
    intro hhead
    exact (hr _ hhead).2 hq

theorem spells_name (h : IsName w) : Spells [.name (String.ofList w)] w := by
  obtain ⟨c, r, rfl, hc, -⟩ := exists_start_of_isName h
  exact Spells.of_token? ⟨c, r, rfl, beginsToken_of_isIdentifierStart hc⟩ (token?_name h) rfl

def members (ws : List (List Char)) : List Token :=
  ws.flatMap fun w => [.mark ".", .name (String.ofList w)]

@[simp] theorem length_members (ws : List (List Char)) : (members ws).length = 2 * ws.length := by
  simp [members, Nat.mul_comm]

theorem endsToken_members (hr : EndsToken r) (ws : List (List Char)) :
    EndsToken (ws.flatMap ('.' :: ·) ++ r) := by
  cases ws with
  | nil => exact hr
  | cons w ws =>
    rw [List.flatMap_cons, List.append_assoc, List.cons_append]
    exact endsToken_cons (by decide) _

theorem length_members_le (h : ∀ w ∈ ws, IsName w) :
    (members ws).length ≤ (ws.flatMap ('.' :: ·)).length := by
  induction ws with
  | nil => exact Nat.le_refl 0
  | cons w ws ih =>
    obtain ⟨hw, hws⟩ := List.forall_mem_cons.mp h
    obtain ⟨c, w, rfl, -, -⟩ := exists_start_of_isName hw
    have hrest := ih hws
    simp only [length_members, List.flatMap_cons, List.length_append, List.length_cons] at hrest ⊢
    omega

theorem tokensFrom_members (h : ∀ w ∈ ws, IsName w) (steps : Nat) (hr : EndsToken r) :
    tokensFrom (steps + (members ws).length) 0 false (ws.flatMap ('.' :: ·) ++ r) =
      (tokensFrom steps 0 false r).map (members ws ++ ·) := by
  induction ws with
  | nil => simp [members]
  | cons w ws ih =>
    obtain ⟨hw, hws⟩ := List.forall_mem_cons.mp h
    obtain ⟨c, w, rfl, hc, -⟩ := exists_start_of_isName hw
    have hbegins : BeginsToken '.' := by decide
    have hname := (spells_name hw).tokensFrom_eq (steps + (members ws).length)
      (endsToken_members hr ws)
    -- One step for the point, one for the name.
    have hsteps : steps + (members ((c :: w) :: ws)).length =
        steps + (members ws).length + 1 + 1 := by
      simp only [length_members, List.length_cons]
      omega
    rw [hsteps, List.flatMap_cons, List.append_assoc, List.cons_append, List.cons_append,
      tokensFrom_token hbegins (token?_point hc) rfl]
    rw [List.length_singleton, List.cons_append] at hname
    rw [hname, ih hws, Option.map_map, Option.map_map]
    rfl

/-- Names with points between them are as many tokens as there are names and points. -/
theorem spells_path (hw : IsName w) (hws : ∀ v ∈ ws, IsName v) :
    Spells (.name (String.ofList w) :: members ws) (joinWith '.' (w :: ws)) := by
  have hname := spells_name hw
  rw [joinWith_cons]
  constructor
  · obtain ⟨c, r, rfl, hc⟩ := hname.begins
    exact ⟨c, _, rfl, hc⟩
  · have hfirst := hname.length_le
    have hrest := length_members_le hws
    simp only [List.length_cons, List.length_append, List.length_nil] at hfirst ⊢
    omega
  · intro steps r hr
    have htail := tokensFrom_members hws steps hr
    have hhead := hname.tokensFrom_eq (steps + (members ws).length) (endsToken_members hr ws)
    rw [List.length_cons, ← Nat.add_assoc, List.append_assoc]
    rw [List.length_singleton] at hhead
    rw [hhead, htail, Option.map_map]
    rfl

/-! ## A text alone, and with another one after it -/

theorem universalBreaks_eq_self (h : '\r' ∉ w) : universalBreaks w = w := by
  fun_induction universalBreaks w with
  | case1 => rfl
  | case2 r ih => simp at h
  | case3 r _ ih => simp at h
  | case4 c r _ _ ih =>
    rw [List.mem_cons, not_or] at h
    rw [ih h.2]

namespace Spells

variable {ts us : List Token} {s t : String}

/-- The tokens of a text stand before those of another one that follows. -/
theorem tokens?_append (h : Spells ts s.toList) (ht : EndsToken t.toList)
    (hus : ∀ steps, tokensFrom (steps + t.toList.length + 1) 0 false t.toList = some us)
    (hs : '\r' ∉ s.toList) (hr : '\r' ∉ t.toList) : tokens? (s ++ t) = some (ts ++ us) := by
  have hbreaks : universalBreaks (s ++ t).toList = s.toList ++ t.toList := by
    rw [String.toList_append, universalBreaks_eq_self (by simp [hs, hr])]
  obtain ⟨c, r, hcons, hc⟩ := h.begins
  have hfresh : ∀ steps, tokensFrom (steps + 1) 0 true (s.toList ++ t.toList) =
      tokensFrom steps 0 false (s.toList ++ t.toList) := by
    rw [hcons]
    exact fun steps => tokensFrom_fresh hc steps _
  obtain ⟨steps, hsteps⟩ : ∃ steps, 2 * (s.toList ++ t.toList).length =
      steps + t.toList.length + 1 + ts.length := by
    have hlength := h.length_le
    have hpos : 0 < s.toList.length := by simp [hcons]
    refine ⟨2 * s.toList.length + t.toList.length - 1 - ts.length, ?_⟩
    rw [List.length_append]
    omega
  rw [tokens?, hbreaks]
  rw [hfresh, hsteps, h.tokensFrom_eq _ ht, hus]
  rfl

theorem tokens?_eq (h : Spells ts s.toList) (hs : '\r' ∉ s.toList) : tokens? s = some ts := by
  have hends : EndsToken "".toList := fun c hc => absurd hc (by simp)
  have htokens : tokens? (s ++ "") = some (ts ++ []) :=
    h.tokens?_append hends (fun _ => rfl) hs (by simp)
  rwa [String.append_empty, List.append_nil] at htokens

end Spells

end ShadowTypes.Forward
