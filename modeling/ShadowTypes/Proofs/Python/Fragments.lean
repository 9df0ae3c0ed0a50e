import ShadowTypes.Proofs.Names
import ShadowTypes.Proofs.Python.Expression

/-!
# Fragments as expressions

Every fragment of the Python dialect over a member is read as the expression of its demand. Its text
is cut into words at marks, and its tokens are read in two halves: the test that the member is
there, and what else is asked of it.
-/

namespace ShadowTypes

namespace Python

/-! ## Scanning the text -/

theorem scan_cons_of_isWord {c : Char} (h : Text.isWord c = true) (ts : List Token)
    (w r : List Char) : scan ts w (c :: r) = scan ts (w ++ [c]) r := by
  conv_lhs => unfold scan
  exact if_pos h

theorem scan_word {w : List Char} (h : ∀ c ∈ w, Text.isWord c = true) (ts : List Token)
    (v r : List Char) : scan ts v (w ++ r) = scan ts (v ++ w) r := by
  induction w generalizing v with
  | nil => simp
  | cons c w ih =>
    rw [List.cons_append, scan_cons_of_isWord (h c List.mem_cons_self),
      ih (fun d hd => h d (List.mem_cons_of_mem _ hd)), List.append_assoc]
    rfl

theorem push_of_ne_nil {w : List Char} (h : w ≠ []) (ts : List Token) :
    push w ts = .word (String.ofList w) :: ts := by
  cases w with
  | nil => exact absurd rfl h
  | cons c w => rfl

theorem scan_self (ts : List Token) (r : List Char) :
    scan ts [] ("self.".toList ++ r) = scan (.point :: .word "self" :: ts) [] r := rfl

/-- The marks between words, with the tokens that they stand for. -/
def marks : List (List Char × List Token) :=
  [([' '], []), (['.'], [.point]), (['('], [.opening]), ([')'], [.closing]),
    (['"', '"'], [.emptyText]), (['!', '='], [.differs])]

theorem scan_mark {m : List Char × List Token} (hm : m ∈ marks) (ts : List Token)
    (w r : List Char) : scan ts w (m.1 ++ r) = scan (m.2 ++ push w ts) [] r := by
  simp only [marks, List.mem_cons, List.not_mem_nil, or_false] at hm
  rcases hm with rfl | rfl | rfl | rfl | rfl | rfl
  all_goals
    conv_lhs => unfold scan
    exact if_neg (by decide)

theorem blank_mem : ([' '], []) ∈ marks := by decide

theorem point_mem : (['.'], [Token.point]) ∈ marks := by decide

theorem opening_mem : (['('], [Token.opening]) ∈ marks := by decide

theorem closing_mem : ([')'], [Token.closing]) ∈ marks := by decide

theorem emptyText_mem : (['"', '"'], [Token.emptyText]) ∈ marks := by decide

theorem differs_mem : (['!', '='], [Token.differs]) ∈ marks := by decide

theorem scan_word_mark {s : String} (hs : Text.isWordText s.toList = true)
    {m : List Char × List Token} (hm : m ∈ marks) (ts : List Token) (r : List Char) :
    scan ts [] (s.toList ++ (m.1 ++ r)) = scan (m.2 ++ .word s :: ts) [] r := by
  rw [scan_word (Text.all_isWord_of_isWordText hs), List.nil_append, scan_mark hm,
    push_of_ne_nil (Text.ne_nil_of_isWordText hs), String.ofList_toList]

theorem scan_word_end {s : String} (hs : Text.isWordText s.toList = true) (ts : List Token) :
    scan ts [] s.toList = some (.word s :: ts).reverse := by
  rw [← List.append_nil s.toList, scan_word (Text.all_isWord_of_isWordText hs), List.nil_append,
    scan, push_of_ne_nil (Text.ne_nil_of_isWordText hs), String.ofList_toList]

/-- The words of fragments besides members. -/
def fixedWords : List String :=
  ["self", "is", "not", "None", "and", "strip", "True", Dialect.python.validityMethod]

theorem isWordText_of_mem_fixedWords : ∀ s ∈ fixedWords, Text.isWordText s.toList = true := by
  decide

theorem scan_fixed_mark (s : String) (hs : s ∈ fixedWords) {m : List Char × List Token}
    (hm : m ∈ marks) (ts : List Token) (r : List Char) :
    scan ts [] (s.toList ++ (m.1 ++ r)) = scan (m.2 ++ .word s :: ts) [] r :=
  scan_word_mark (isWordText_of_mem_fixedWords s hs) hm ts r

def givenTokens (name : String) (ts : List Token) : List Token :=
  .word "self" :: .point :: .word name :: .word "is" :: .word "not" :: .word "None" :: ts

/-- The tokens of a test of a field in parentheses that first asks whether it is there. -/
def guardedTokens (name : String) (ts : List Token) : List Token :=
  .opening :: givenTokens name (.word "and" :: .word "self" :: .point :: .word name :: ts)

def fragmentTokens (name : String) : Demand → List Token
  | .present => givenTokens name []
  | .nonEmpty => guardedTokens name [.differs, .emptyText, .closing]
  | .nonBlank => guardedTokens name
      [.point, .word "strip", .opening, .closing, .differs, .emptyText, .closing]
  | .nestedValid => guardedTokens name
      [.point, .word Dialect.python.validityMethod, .opening, .closing, .word "is", .word "True",
        .closing]

section

variable {name : String} (hn : Text.isWordText name.toList = true)

include hn

theorem scan_given (ts : List Token) (r : List Char) :
    scan ts [] ("self.".toList ++ (name.toList ++ (" is not None".toList ++ r))) =
      scan (.word "not" :: .word "is" :: .word name :: .point :: .word "self" :: ts) []
        ("None".toList ++ r) := by
  have h : " is not None".toList =
      [' '] ++ ("is".toList ++ ([' '] ++ ("not".toList ++ ([' '] ++ "None".toList)))) := by decide
  simp only [h, List.append_assoc]
  rw [scan_self, scan_word_mark hn blank_mem, scan_fixed_mark "is" (by decide) blank_mem,
    scan_fixed_mark "not" (by decide) blank_mem]
  simp only [List.nil_append]

/-- What follows the member in a test in parentheses may be scanned on its own. -/
theorem scan_guarded {r : List Char} {rest : List Token}
    (hr : ∀ ts, scan ts [] (name.toList ++ r) = some (ts.reverse ++ .word name :: rest)) :
    scan [] [] ("(self.".toList ++ (name.toList ++ (" is not None and self.".toList ++
      (name.toList ++ r)))) = some (guardedTokens name rest) := by
  have ho : "(self.".toList = ['('] ++ "self.".toList := by decide
  have hg : " is not None and self.".toList =
      " is not None".toList ++ ([' '] ++ ("and".toList ++ ([' '] ++ "self.".toList))) := by decide
  simp only [ho, hg, List.append_assoc]
  rw [scan_mark opening_mem, scan_given hn,
    scan_fixed_mark "None" (by decide) blank_mem,
    scan_fixed_mark "and" (by decide) blank_mem]
  simp only [List.nil_append]
  rw [scan_self, hr]
  rfl

theorem scan_fragment (d : Demand) :
    scan [] [] (Dialect.python.fragment name d).toList = some (fragmentTokens name d) := by
  unfold Dialect.fragment
  cases d with
  | present =>
    have h := scan_given hn [] []
    rw [List.append_nil, List.append_nil,
      scan_word_end (isWordText_of_mem_fixedWords "None" (by decide))] at h
    rw [String.toList_append, String.toList_append, List.append_assoc, h]
    rfl
  | nonEmpty =>
    have hl : " != \"\")".toList =
        [' '] ++ (['!', '='] ++ ([' '] ++ (['"', '"'] ++ ([')'] ++ [])))) := by
      decide
    simp only [String.toList_append, List.append_assoc]
    apply scan_guarded hn
    intro ts
    rw [hl, scan_word_mark hn blank_mem, scan_mark differs_mem, scan_mark blank_mem,
      scan_mark emptyText_mem, scan_mark closing_mem, scan]
    simp [push]
  | nonBlank =>
    have hl : ".strip() != \"\")".toList =
        ['.'] ++ ("strip".toList ++ (['('] ++ ([')'] ++
          ([' '] ++ (['!', '='] ++ ([' '] ++ (['"', '"'] ++ ([')'] ++ [])))))))) := by
      decide
    simp only [String.toList_append, List.append_assoc]
    apply scan_guarded hn
    intro ts
    rw [hl, scan_word_mark hn point_mem, scan_fixed_mark "strip" (by decide) opening_mem,
      scan_mark closing_mem, scan_mark blank_mem, scan_mark differs_mem, scan_mark blank_mem,
      scan_mark emptyText_mem, scan_mark closing_mem, scan]
    simp [push]
  | nestedValid =>
    have hp : ".".toList = ['.'] := by decide
    have hl : "() is True)".toList =
        ['('] ++ ([')'] ++ ([' '] ++ ("is".toList ++ ([' '] ++ ("True".toList ++
          ([')'] ++ [])))))) := by
      decide
    simp only [String.toList_append, List.append_assoc]
    apply scan_guarded hn
    intro ts
    rw [hp, hl, scan_word_mark hn point_mem, scan_fixed_mark _ (by decide) opening_mem,
      scan_mark closing_mem, scan_mark blank_mem, scan_fixed_mark "is" (by decide) blank_mem,
      scan_fixed_mark "True" (by decide) closing_mem, scan]
    simp [push]
end

/-! ## Reading the tokens -/

section

variable (inner : List Token → Read) {name : String} (hk : Dialect.isKeyword name = false)
  (ts : List Token)

theorem readOperand_none : readOperand inner (.word "None" :: ts) =
    readTrailers (.constant .none) ts := by
  simp [readOperand, readAtom]

theorem readOperand_true : readOperand inner (.word "True" :: ts) =
    readTrailers (.constant (.bool true)) ts := by
  simp [readOperand, readAtom]

theorem readOperand_emptyText : readOperand inner (.emptyText :: ts) =
    readTrailers (.constant (.text "")) ts := by
  simp [readOperand, readAtom]

theorem readOperand_self : readOperand inner (.word "self" :: ts) = readTrailers .self ts := by
  simp [readOperand, readAtom]

include hk

theorem readComparison_given
    (hts : readTrailers (.constant .none) ts = some (.constant .none, ts)) :
    readComparison inner (givenTokens name ts) = some (.given name, ts) := by
  simp [givenTokens, readComparison, readRight, readOperand_self, readOperand_none, readTrailers,
    hk, hts, Expression.given, Expression.field]

theorem readTest_given (n : Nat) :
    readTest (n + 1) (givenTokens name []) = some (.given name, []) := by
  rw [readTest, readComparison_given _ hk _ rfl]

theorem readTest_guarded {n : Nat} {e : Expression}
    (h : readComparison (readTest n) (.word "self" :: .point :: .word name :: ts) =
      some (e, [.closing])) :
    readTest (n + 3) (guardedTokens name ts) = some ((Expression.given name).and e, []) := by
  have hg : readTest (n + 2) (givenTokens name
      (.word "and" :: .word "self" :: .point :: .word name :: ts)) =
      some ((Expression.given name).and e, [.closing]) := by
    rw [readTest, readComparison_given _ hk _ rfl]
    simp [readTest, h]
  rw [readTest, guardedTokens, readComparison, readOperand, readAtom, hg]
  rfl

theorem readTest_fragment (d : Demand) (n : Nat) :
    readTest (n + 3) (fragmentTokens name d) = some (.ofDemand name d, []) := by
  have hs : Dialect.isKeyword "strip" = false := by decide
  have hv : Dialect.isKeyword Dialect.python.validityMethod = false := by decide
  cases d with
  | present => exact readTest_given hk _
  | nonEmpty =>
    apply readTest_guarded hk
    simp [readComparison, readRight, readOperand_self, readOperand_emptyText, readTrailers, hk,
      Expression.field]
  | nonBlank =>
    apply readTest_guarded hk
    simp [readComparison, readRight, readOperand_self, readOperand_emptyText, readTrailers, hk, hs,
      Expression.field]
  | nestedValid =>
    apply readTest_guarded hk
    simp [readComparison, readRight, readOperand_self, readOperand_true, readTrailers, hk, hv,
      Expression.field]

end

theorem read?_fragment {name : String} (hn : Text.isWordText name.toList = true)
    (hk : Dialect.isKeyword name = false) (d : Demand) :
    read? (Dialect.python.fragment name d) = some (.ofDemand name d) := by
  obtain ⟨n, hlen⟩ : ∃ n, (fragmentTokens name d).length + 1 = n + 3 :=
    ⟨(fragmentTokens name d).length - 2, by cases d <;> rfl⟩
  simp only [read?, scan_fragment hn d, hlen, readTest_fragment hk d n]

end Python

end ShadowTypes
