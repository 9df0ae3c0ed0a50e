import Mathlib.Data.List.SplitBy
import ShadowTypes.Fault.Rejection

/-!
# Paths of locations

A path is read back piece by piece. Every step but the first one begins with a mark, and names that
hold no mark have none anywhere else, so the marks are where the pieces begin. The path of no step
at all has a sign of its own, which is no name either. Thus a path tells its location.
-/

namespace ShadowTypes

namespace Step

/-- Whether the character is one with which a step begins inside a path. -/
def isMark (c : Char) : Bool := c == '.' || c == '['

/-- The whole number that a numeral in decimal spells. -/
def number : List Char → Int
  | '-' :: ds => -(Nat.ofDigitChars 10 ds 0 : Int)
  | ds => Nat.ofDigitChars 10 ds 0

def bracketed (content : List Char) : Step :=
  if content = "True".toList then .flag true
  else if content = "False".toList then .flag false
  else .index (number content)

def ofPiece : List Char → Step
  | '[' :: r => bracketed r.dropLast
  | '.' :: r => .key (String.ofList r)
  | r => .key (String.ofList r)

/-- Names in a path are not empty, hold no mark and are not the sign of the empty path. -/
def IsPlain : Step → Prop
  | .key s => s ≠ "" ∧ s ≠ "$" ∧ s.toList.any isMark = false
  | _ => True

instance : (s : Step) → Decidable s.IsPlain
  | .key s => inferInstanceAs (Decidable (s ≠ "" ∧ s ≠ "$" ∧ s.toList.any isMark = false))
  | .index _ | .flag _ => inferInstanceAs (Decidable True)

end Step

namespace Location

def ofPath (path : String) : Location :=
  if path = "$" then []
  else (path.toList.splitBy fun _ c => !Step.isMark c).map Step.ofPiece

/-- Whether all names in the location are plain. -/
def IsPlain (l : Location) : Prop := ∀ s ∈ l, s.IsPlain

instance (l : Location) : Decidable l.IsPlain := inferInstanceAs (Decidable (∀ s ∈ l, s.IsPlain))

def pieces : Location → List (List Char)
  | [] => []
  | s :: ss => (s.text true).toList :: ss.map fun t => (t.text false).toList

end Location

/-! ## Single steps -/

namespace Step

variable {s : Step}

theorem number_of_isDigit {ds : List Char} (h : ∀ c ∈ ds, c.isDigit = true) :
    number ds = Nat.ofDigitChars 10 ds 0 := by
  unfold number
  split
  · exact absurd (h '-' List.mem_cons_self) (by decide)
  · rfl

/-- The characters of a whole number are digits, behind a sign if it is negative. -/
theorem toList_repr_cases (n : Int) :
    ∃ ds : List Char, (∀ c ∈ ds, c.isDigit = true) ∧
      ((Int.repr n).toList = ds ∧ n = Nat.ofDigitChars 10 ds 0 ∨
        (Int.repr n).toList = '-' :: ds ∧ n = -(Nat.ofDigitChars 10 ds 0 : Int)) := by
  have hdigits (m : Nat) : ∀ c ∈ Nat.toDigits 10 m, c.isDigit = true := fun c hc =>
    Nat.isDigit_of_mem_toDigits (by decide) (by decide) hc
  rw [Int.repr_eq_if]
  split
  · refine ⟨_, hdigits n.toNat, .inl ⟨Nat.toList_repr, ?_⟩⟩
    rw [Nat.ofDigitChars_ten_toDigits]
    omega
  · refine ⟨_, hdigits (-n).toNat, .inr ⟨?_, ?_⟩⟩
    · rw [String.toList_append, Nat.toList_repr]
      rfl
    · rw [Nat.ofDigitChars_ten_toDigits]
      omega

theorem number_repr (n : Int) : number (Int.repr n).toList = n := by
  obtain ⟨ds, hds, ⟨htext, hn⟩ | ⟨htext, hn⟩⟩ := toList_repr_cases n
  · rw [htext, number_of_isDigit hds, ← hn]
  · rw [htext, number, ← hn]

theorem isDigit_or_eq_of_mem_repr {n : Int} {c : Char} (hc : c ∈ (Int.repr n).toList) :
    c.isDigit = true ∨ c = '-' := by
  obtain ⟨ds, hds, ⟨htext, -⟩ | ⟨htext, -⟩⟩ := toList_repr_cases n
  · rw [htext] at hc
    exact .inl (hds c hc)
  · rw [htext, List.mem_cons] at hc
    exact hc.symm.imp_left (hds c)

theorem isMark_of_mem_repr {n : Int} {c : Char} (hc : c ∈ (Int.repr n).toList) :
    isMark c = false := by
  rw [isMark, Bool.or_eq_false_iff, beq_eq_false_iff_ne, beq_eq_false_iff_ne]
  constructor
  all_goals
    rintro rfl
    rcases isDigit_or_eq_of_mem_repr hc with h | h <;> exact absurd h (by decide)

theorem bracketed_repr (n : Int) : bracketed (Int.repr n).toList = .index n := by
  have hletter {c : Char} {r : List Char} (hc : c.isDigit = false) (hs : c ≠ '-') :
      (Int.repr n).toList ≠ c :: r := by
    intro h
    rcases isDigit_or_eq_of_mem_repr (h ▸ List.mem_cons_self) with hd | hd
    · exact absurd (hd.symm.trans hc) (by decide)
    · exact hs hd
  have htrue : (Int.repr n).toList ≠ "True".toList := hletter (by decide) (by decide)
  have hfalse : (Int.repr n).toList ≠ "False".toList := hletter (by decide) (by decide)
  rw [bracketed, if_neg htrue, if_neg hfalse, number_repr]

theorem toList_bracket (word : String) :
    ("[" ++ word ++ "]").toList = '[' :: (word.toList ++ [']']) := by
  rw [String.toList_append, String.toList_append]
  rfl

theorem toList_point (name : String) : ("." ++ name).toList = '.' :: name.toList := by
  rw [String.toList_append]
  rfl

theorem ofPiece_bracket (word : String) :
    ofPiece ("[" ++ word ++ "]").toList = bracketed word.toList := by
  rw [toList_bracket, ofPiece, List.dropLast_concat]

theorem isMark_of_mem {s : List Char} (h : s.any isMark = false) {c : Char} (hc : c ∈ s) :
    isMark c = false :=
  Bool.eq_false_iff.mpr (List.any_eq_false.mp h c hc)

theorem ofPiece_name {name : String} (h : (Step.key name).IsPlain) :
    ofPiece name.toList = .key name := by
  obtain ⟨-, -, hmark⟩ := h
  unfold ofPiece
  split
  · next r hr =>
    have hfirst : isMark '[' = false := isMark_of_mem hmark (hr ▸ List.mem_cons_self)
    exact absurd hfirst (by decide)
  · next r hr =>
    have hfirst : isMark '.' = false := isMark_of_mem hmark (hr ▸ List.mem_cons_self)
    exact absurd hfirst (by decide)
  · rw [String.ofList_toList]

theorem ofPiece_text (h : s.IsPlain) (first : Bool) : ofPiece (s.text first).toList = s := by
  cases s with
  | index n => exact (ofPiece_bracket _).trans (bracketed_repr n)
  | flag b => cases b <;> exact ofPiece_bracket _
  | key name =>
    cases first with
    | true => exact ofPiece_name h
    | false =>
      change ofPiece ("." ++ name).toList = _
      rw [toList_point, ofPiece, String.ofList_toList]

theorem isMark_of_mem_tail (h : s.IsPlain) (first : Bool) :
    ∀ c ∈ (s.text first).toList.tail, isMark c = false := by
  have hbracket {word : String} (hword : ∀ c ∈ word.toList, isMark c = false) :
      ∀ c ∈ ("[" ++ word ++ "]").toList.tail, isMark c = false := by
    intro c hc
    rw [toList_bracket, List.tail_cons, List.mem_append, List.mem_singleton] at hc
    rcases hc with hc | rfl
    · exact hword c hc
    · rfl
  cases s with
  | index n => exact hbracket fun c => isMark_of_mem_repr
  | flag b =>
    have hword : (flag b).word.toList.any isMark = false := by
      cases b <;> decide
    exact hbracket fun c => isMark_of_mem hword
  | key name =>
    obtain ⟨-, -, hmark⟩ := h
    cases first with
    | true => exact fun c hc => isMark_of_mem hmark (List.mem_of_mem_tail hc)
    | false =>
      change ∀ c ∈ ("." ++ name).toList.tail, _
      rw [toList_point]
      exact fun c => isMark_of_mem hmark

theorem text_ne_nil (h : s.IsPlain) (first : Bool) : (s.text first).toList ≠ [] := by
  have hbracket (word : String) : ("[" ++ word ++ "]").toList ≠ [] := by
    rw [toList_bracket]
    exact List.cons_ne_nil _ _
  cases s with
  | index n => exact hbracket _
  | flag b => exact hbracket _
  | key name =>
    cases first with
    | true => exact fun hnil => h.1 (String.toList_eq_nil_iff.mp hnil)
    | false =>
      change ("." ++ name).toList ≠ []
      rw [toList_point]
      exact List.cons_ne_nil _ _

theorem isMark_head (s : Step) (hne : (s.text false).toList ≠ []) :
    isMark ((s.text false).toList.head hne) = true := by
  cases s with
  | index n | flag b => simp [text, isMark]
  | key name => simp [text, isMark]

end Step

/-! ## Whole paths -/

theorem map_map_eq_self {α β : Type} {f : α → β} {g : β → α} {l : List α}
    (h : ∀ a ∈ l, g (f a) = a) : (l.map f).map g = l := by
  rw [List.map_map]
  exact (List.map_congr_left h).trans (List.map_id l)

/-- What follows the first element of a chain is related to whatever is before it. -/
theorem isChain_cons_of_forall {α : Type} {R : α → α → Prop} {P Q : α → Prop}
    (hR : ∀ a b, P a → Q b → R a b) {a : α} {l : List α} (ha : P a)
    (hl : ∀ b ∈ l, P b ∧ Q b) : (a :: l).IsChain R := by
  induction l generalizing a with
  | nil => exact .singleton a
  | cons b l ih =>
    obtain ⟨hb, hl⟩ := List.forall_mem_cons.mp hl
    exact .cons_cons (hR a b ha hb.2) (ih hb.1 hl)

namespace Location

theorem toList_path {l : Location} (h : l ≠ []) : l.path.toList = l.pieces.flatten := by
  have hrest : ∀ ts : List Step, ("".intercalate (ts.map (Step.text false))).toList =
      (ts.map fun t => (t.text false).toList).flatten := by
    intro ts
    induction ts with
    | nil => rfl
    | cons t ts ih =>
      cases ts with
      | nil => simp
      | cons u ts =>
        rw [List.map_cons, List.map_cons, String.intercalate_cons_cons, String.append_empty,
          String.toList_append, ← List.map_cons, ih]
        rfl
  cases l with
  | nil => exact absurd rfl h
  | cons s ss => rw [path, String.toList_append, hrest, pieces, List.flatten_cons]

theorem splitBy_path {l : Location} (hl : l.IsPlain) (h : l ≠ []) :
    (l.path.toList.splitBy fun _ c => !Step.isMark c) = l.pieces := by
  rw [toList_path h]
  cases l with
  | nil => exact absurd rfl h
  | cons s ss =>
    obtain ⟨hs, hss⟩ := List.forall_mem_cons.mp hl
    have hpiece : ∀ p ∈ pieces (s :: ss),
        ∃ t first, t.IsPlain ∧ p = (Step.text first t).toList := by
      intro p hp
      rcases List.mem_cons.mp hp with rfl | hp
      · exact ⟨s, true, hs, rfl⟩
      · obtain ⟨t, ht, rfl⟩ := List.mem_map.mp hp
        exact ⟨t, false, hss t ht, rfl⟩
    have hne : ∀ p ∈ pieces (s :: ss), p ≠ [] := by
      intro p hp
      obtain ⟨t, first, ht, rfl⟩ := hpiece p hp
      exact Step.text_ne_nil ht first
    apply List.splitBy_flatten (fun hnil => hne [] hnil rfl)
    · intro p hp
      obtain ⟨t, first, ht, rfl⟩ := hpiece p hp
      obtain ⟨c, r, htext⟩ := List.exists_cons_of_ne_nil (Step.text_ne_nil ht first)
      have htail := Step.isMark_of_mem_tail ht first
      rw [htext, List.tail_cons] at htail
      rw [htext]
      refine isChain_cons_of_forall (P := fun _ => True) (Q := fun c => Step.isMark c = false)
        (fun _ d _ hd => ?_) trivial fun d hd => ⟨trivial, htail d hd⟩
      rw [hd]
      rfl
    · refine isChain_cons_of_forall (P := (· ≠ []))
        (Q := fun p => ∃ hp, Step.isMark (p.head hp) = true) (fun a b ha hb => ?_)
        (hne _ List.mem_cons_self) fun p hp => ⟨hne p (List.mem_cons_of_mem _ hp), ?_⟩
      · obtain ⟨hb, hmark⟩ := hb
        exact ⟨ha, hb, by rw [hmark]; rfl⟩
      · obtain ⟨t, ht, rfl⟩ := List.mem_map.mp hp
        exact ⟨Step.text_ne_nil (hss t ht) false, Step.isMark_head t _⟩

theorem map_ofPiece_pieces {l : Location} (hl : l.IsPlain) : l.pieces.map Step.ofPiece = l := by
  cases l with
  | nil => rfl
  | cons s ss =>
    obtain ⟨hs, hss⟩ := List.forall_mem_cons.mp hl
    rw [pieces, List.map_cons, Step.ofPiece_text hs,
      map_map_eq_self fun t ht => Step.ofPiece_text (hss t ht) false]

theorem path_ne_sign {l : Location} (hl : l.IsPlain) (h : l ≠ []) : l.path ≠ "$" := by
  intro hsign
  have hpieces := splitBy_path hl h
  rw [hsign] at hpieces
  have hone : l = [.key "$"] := by
    rw [← map_ofPiece_pieces hl, ← hpieces]
    rfl
  have hkey : (Step.key "$").IsPlain := hl _ (hone ▸ List.mem_singleton_self _)
  exact hkey.2.1 rfl

theorem ofPath_path {l : Location} (hl : l.IsPlain) : ofPath l.path = l := by
  by_cases h : l = []
  · subst h
    rfl
  · rw [ofPath, if_neg (path_ne_sign hl h), splitBy_path hl h, map_ofPiece_pieces hl]

example : ofPath "properties[0].type_name" =
    [.key "properties", .index 0, .key "type_name"] := by
  decide +kernel

end Location

end ShadowTypes
