import ShadowTypes.Hint.Written
import ShadowTypes.Proofs.Resolution

/-!
# Optional hints

A hint admits nothing if one of the arms of its unions does, wherever markers stand next to the arm.
The text of a hint shows this by the mark at its end. A union puts the mark there for an arm that is
nothing itself; the mark of any other arm is at the end of the text only if the arm is the last one.
-/

namespace ShadowTypes

open Text

namespace TypeName

variable {s t : String}

theorem isNullable_iff_find? :
    isNullable s = true ↔ s.toList.reverse.find? (fun c => !isBlank c) = some marker := by
  rw [isNullable, getLast?_dropWhileEnd, beq_iff_eq]

theorem isNullable_append (h : isEmpty t = false) (s : String) :
    isNullable (s ++ t) = isNullable t := by
  have hsome : (t.toList.reverse.find? fun c => !isBlank c).isSome = true := by
    rw [List.find?_isSome]
    simpa [isEmpty] using h
  rw [Bool.eq_iff_iff, isNullable_iff_find?, isNullable_iff_find?, String.toList_append,
    List.reverse_append, List.find?_append, Option.or_of_isSome hsome]

theorem isNullable_of_isEmpty (h : isEmpty s = true) : isNullable s = false := by
  apply eq_false_of_ne_true
  intro hs
  rw [isNullable_iff_find?] at hs
  have hblank : isBlank marker = true :=
    List.all_eq_true.mp h _ (List.mem_reverse.mp (List.mem_of_find?_eq_some hs))
  exact absurd hblank (by decide)

theorem isNullable_bar (s t : String) : isNullable (s ++ " | " ++ t) = isNullable t := by
  cases ht : isEmpty t with
  | false => exact isNullable_append ht _
  | true =>
    have hnone : (t.toList.reverse.find? fun c => !isBlank c) = none := by
      simpa [isEmpty] using ht
    have hbar : (" | ".toList.reverse.find? fun c => !isBlank c) = some '|' := by decide
    rw [isNullable_of_isEmpty ht]
    apply eq_false_of_ne_true
    intro h
    rw [isNullable_iff_find?, String.toList_append, String.toList_append, List.reverse_append,
      List.reverse_append, List.find?_append, List.find?_append, hnone, hbar] at h
    cases h

theorem isNullable_marked (s : String) : isNullable (s ++ "?") = true := by
  rw [isNullable_append (by decide +kernel)]
  decide +kernel

theorem isNullable_closed (s : String) : isNullable (s ++ "]") = false := by
  rw [isNullable_append (by decide +kernel)]
  decide +kernel

/-- A text of several parts with bars between them ends as the last part does. -/
theorem isNullable_bars (parts : List String) (s : String) :
    isNullable (" | ".intercalate (parts ++ [s])) = isNullable s := by
  induction parts with
  | nil => rfl
  | cons p parts ih =>
    have hne : parts ++ [s] ≠ [] := by simp
    obtain ⟨q, rest, hrest⟩ := List.exists_cons_of_ne_nil hne
    rw [List.cons_append, hrest, String.intercalate_cons_cons, isNullable_bar, ← hrest, ih]

end TypeName

namespace Hint

/-! ## Hints that admit nothing -/

/-- Whether the hint is neither a union nor annotated. -/
def isLeaf : Hint → Bool
  | .union .. | .annotated .. => false
  | _ => true

@[elab_as_elim]
theorem recLeaf {motive : Hint → Prop} (leaf : ∀ h, h.isLeaf = true → motive h)
    (annotated : ∀ h ms, motive h → motive (.annotated h ms))
    (union : ∀ checked arms, (∀ a ∈ arms, motive a) → motive (.union checked arms)) :
    ∀ h, motive h
  | .annotated h ms => annotated h ms (recLeaf leaf annotated union h)
  | .union checked arms => union checked arms fun a _ => recLeaf leaf annotated union a
  | .named _ | .none | .symbol _ | .parameter .. | .reference _ | .bare _ | .generic .. |
    .literal _ | .classVar _ => leaf _ rfl

/-- The hint without the markers next to it. -/
def peeled : Hint → Hint
  | .annotated h _ => peeled h
  | h => h

/-- A hint admits nothing: markers aside, it is a union with an arm that is nothing, markers aside,
or that admits it. -/
inductive Admits : Hint → Prop
  | annotated {h : Hint} {ms : List Marker} : Admits h → Admits (.annotated h ms)
  | nothing {checked : Bool} {arms : List Hint} {a : Hint} :
      a ∈ arms → a.peeled = .none → Admits (.union checked arms)
  | arm {checked : Bool} {arms : List Hint} {a : Hint} :
      a ∈ arms → Admits a → Admits (.union checked arms)

/-- A hint shows that it admits nothing: markers aside, it is a union with an arm that is nothing or
whose last arm shows it. -/
inductive Shows : Hint → Prop
  | annotated {h : Hint} {ms : List Marker} : Shows h → Shows (.annotated h ms)
  | nothing {checked : Bool} {arms : List Hint} : .none ∈ arms → Shows (.union checked arms)
  | last {checked : Bool} {arms : List Hint} {a : Hint} :
      arms.getLast? = some a → Shows a → Shows (.union checked arms)

/-- The text of a hint ends with a name that ends with the mark itself. -/
inductive Feigns : Hint → Prop
  | leaf {h : Hint} : h.isLeaf = true → TypeName.isNullable h.text = true → Feigns h
  | annotated {h : Hint} {ms : List Marker} : Feigns h → Feigns (.annotated h ms)
  | last {checked : Bool} {arms : List Hint} {a : Hint} :
      arms.getLast? = some a → Feigns a → Feigns (.union checked arms)

/-- The hint is built from classes, generic classes, unions and markers, and no name of a class has
the mark at its end. -/
inductive IsSound : Hint → Prop
  | named {c : ClassName} : TypeName.isNullable c.text = false → IsSound (.named c)
  | none : IsSound .none
  | bare {head : Generic} : TypeName.isNullable head.name = false → IsSound (.bare head)
  | generic {head : Generic} {args : List Hint} : TypeName.isNullable head.name = false →
      IsSound (.generic head args)
  | annotated {h : Hint} {ms : List Marker} : IsSound h → IsSound (.annotated h ms)
  | union {checked : Bool} {arms : List Hint} :
      (∀ a ∈ arms, IsSound a) → IsSound (.union checked arms)

variable {h : Hint} {arms arms' : List Hint} {checked : Bool}

theorem Shows.admits (hs : Shows h) : Admits h := by
  induction hs with
  | annotated _ ih => exact .annotated ih
  | nothing hnone => exact .nothing hnone rfl
  | last hlast _ ih => exact .arm (List.mem_of_getLast? hlast) ih

theorem IsSound.isNullable_text (hs : IsSound h) (hleaf : h.isLeaf = true) :
    TypeName.isNullable h.text = false := by
  cases hs with
  | named hname => exact hname
  | none => decide +kernel
  | bare hname => exact hname
  | @generic head args hname =>
    rw [text, bracketed]
    split
    · exact hname
    · exact TypeName.isNullable_closed _
  | annotated | union => cases hleaf

theorem IsSound.not_feigns (hs : IsSound h) : ¬Feigns h := by
  intro hf
  induction hf with
  | leaf hleaf hnull =>
    rw [hs.isNullable_text hleaf] at hnull
    cases hnull
  | annotated _ ih =>
    cases hs with
    | annotated hs => exact ih hs
  | last hlast _ ih =>
    cases hs with
    | union hs => exact ih (hs _ (List.mem_of_getLast? hlast))

/-! ## The mark at the end of a text -/

theorem armTexts_eq (h : .none ∉ arms) : armTexts arms = arms.map text := by
  induction arms with
  | nil => rfl
  | cons a arms ih =>
    obtain ⟨ha, harms⟩ := List.ne_and_not_mem_of_not_mem_cons h
    rw [List.map_cons, ← ih harms]
    cases a with
    | none => exact absurd rfl ha
    | _ => rfl

theorem any_isNone_iff : arms.any isNone = true ↔ .none ∈ arms := by
  rw [List.any_eq_true]
  constructor
  · rintro ⟨a, ha, hnone⟩
    cases a with
    | none => exact ha
    | _ => cases hnone
  · exact fun h => ⟨.none, h, rfl⟩

/-- The text of a union has the mark exactly if one arm is nothing or the last arm has it. -/
theorem isNullable_union_iff : TypeName.isNullable (union checked arms).text = true ↔
    .none ∈ arms ∨ ∃ a, arms.getLast? = some a ∧ TypeName.isNullable a.text = true := by
  rw [text]
  by_cases hnone : .none ∈ arms
  · rw [if_pos (any_isNone_iff.mpr hnone), TypeName.isNullable_marked]
    exact iff_of_true rfl (.inl hnone)
  · rw [if_neg (mt any_isNone_iff.mp hnone), String.append_empty, armTexts_eq hnone,
      or_iff_right hnone]
    rcases arms.eq_nil_or_concat with rfl | ⟨front, a, rfl⟩
    · exact iff_of_false (by decide +kernel) (by simp)
    · rw [List.concat_eq_append, List.map_append, List.map_singleton, TypeName.isNullable_bars]
      simp

/-- A text has the mark exactly if the hint shows that it admits nothing or a name feigns it. -/
theorem isNullable_text_iff (h : Hint) :
    TypeName.isNullable h.text = true ↔ Shows h ∨ Feigns h := by
  induction h using recLeaf with
  | leaf h hleaf =>
    constructor
    · intro hnull
      exact .inr (.leaf hleaf hnull)
    · rintro (hs | hf)
      · cases hs <;> cases hleaf
      · cases hf with
        | leaf _ hnull => exact hnull
        | annotated | last => cases hleaf
  | annotated h ms ih =>
    have hshows : Shows h ↔ Shows (.annotated h ms) := by
      refine ⟨.annotated, ?_⟩
      rintro ⟨hs⟩
      exact hs
    have hfeigns : Feigns h ↔ Feigns (.annotated h ms) := by
      refine ⟨.annotated, ?_⟩
      intro hf
      cases hf with
      | leaf hleaf => cases hleaf
      | annotated hf => exact hf
    exact ih.trans (or_congr hshows hfeigns)
  | union checked arms ih =>
    rw [isNullable_union_iff]
    constructor
    · rintro (hnone | ⟨a, hlast, hnull⟩)
      · exact .inl (.nothing hnone)
      · exact ((ih a (List.mem_of_getLast? hlast)).mp hnull).imp (.last hlast) (.last hlast)
    · rintro (hs | hf)
      · cases hs with
        | nothing hnone => exact .inl hnone
        | last hlast hs =>
          exact .inr ⟨_, hlast, (ih _ (List.mem_of_getLast? hlast)).mpr (.inl hs)⟩
      · cases hf with
        | leaf hleaf => cases hleaf
        | last hlast hf =>
          exact .inr ⟨_, hlast, (ih _ (List.mem_of_getLast? hlast)).mpr (.inr hf)⟩

/-! ## The order of the arms -/

theorem exists_perm_getLast? {a : Hint} (ha : a ∈ arms) :
    ∃ arms' : List Hint, arms'.Perm arms ∧ arms'.getLast? = some a := by
  obtain ⟨front, rest, rfl⟩ := List.append_of_mem ha
  refine ⟨front ++ rest ++ [a], ?_, List.getLast?_concat⟩
  rw [List.append_assoc]
  exact (List.perm_append_singleton a rest).append_left front

theorem isNullable_union_of_forall (hnone : .none ∉ arms) {b : Bool}
    (h : ∀ a ∈ arms, TypeName.isNullable a.text = b) (hne : arms ≠ []) :
    TypeName.isNullable (union checked arms).text = b := by
  obtain ⟨a, hlast⟩ := Option.ne_none_iff_exists'.mp (mt List.getLast?_eq_none_iff.mp hne)
  rw [Bool.eq_iff_iff, isNullable_union_iff, or_iff_right hnone,
    ← h a (List.mem_of_getLast? hlast)]
  simp [hlast]

/-- The order of arms does not count exactly if one of them is nothing or all of their texts end
alike. -/
theorem isNullable_perm_iff :
    (∀ arms' : List Hint, arms'.Perm arms → TypeName.isNullable (union checked arms').text =
      TypeName.isNullable (union checked arms).text) ↔
    .none ∈ arms ∨ ∃ b, ∀ a ∈ arms, TypeName.isNullable a.text = b := by
  by_cases hnone : .none ∈ arms
  · apply iff_of_true _ (.inl hnone)
    intro arms' hperm
    rw [isNullable_union_iff.mpr (.inl hnone),
      isNullable_union_iff.mpr (.inl (hperm.mem_iff.mpr hnone))]
  · rw [or_iff_right hnone]
    constructor
    · intro h
      refine ⟨TypeName.isNullable (union checked arms).text, ?_⟩
      intro a ha
      -- in some order the arm is the last one, which decides about the mark
      obtain ⟨arms', hperm, hlast⟩ := exists_perm_getLast? ha
      rw [← h arms' hperm, Bool.eq_iff_iff, isNullable_union_iff,
        or_iff_right (mt hperm.mem_iff.mp hnone)]
      simp [hlast]
    · rintro ⟨b, h⟩ arms' hperm
      rcases List.eq_nil_or_concat arms with rfl | ⟨front, a, harms⟩
      · rw [hperm.eq_nil]
      · have hne : arms ≠ [] := by simp [harms]
        rw [isNullable_union_of_forall hnone h hne,
          isNullable_union_of_forall (mt hperm.mem_iff.mp hnone)
            (fun a ha => h a (hperm.mem_iff.mp ha)) fun hnil => hne (hnil ▸ hperm).symm.eq_nil]

/-- The mark at the end of a text stands for nothing exactly if two things hold: a hint that admits
nothing shows it, by an arm that is nothing or by the last arm, and a name that ends with the mark
itself ends only the text of a hint that admits nothing. Where no class has such a name, the first
is enough. A union keeps or lacks the mark in every order of its arms exactly if one arm is nothing
or the arms all have it or all lack it. -/
theorem optionality_survives_iff (h : Hint) :
    ((TypeName.isNullable h.text = true ↔ Admits h) ↔
      (Admits h → Shows h ∨ Feigns h) ∧ (Feigns h → Admits h)) ∧
    (IsSound h → ((TypeName.isNullable h.text = true ↔ Admits h) ↔ (Admits h → Shows h))) ∧
    ∀ checked arms, (∀ arms' : List Hint, arms'.Perm arms →
      TypeName.isNullable (union checked arms').text =
        TypeName.isNullable (union checked arms).text) ↔
      .none ∈ arms ∨ ∃ b, ∀ a ∈ arms, TypeName.isNullable a.text = b := by
  have hsurvives : (TypeName.isNullable h.text = true ↔ Admits h) ↔
      (Admits h → Shows h ∨ Feigns h) ∧ (Feigns h → Admits h) := by
    rw [isNullable_text_iff]
    constructor
    · intro hiff
      exact ⟨hiff.mpr, fun hf => hiff.mp (.inr hf)⟩
    · rintro ⟨hshows, hfeigns⟩
      exact ⟨fun hor => hor.elim Shows.admits hfeigns, hshows⟩
  refine ⟨hsurvives, ?_, fun checked arms => isNullable_perm_iff⟩
  intro hsound
  rw [hsurvives]
  simp only [hsound.not_feigns, or_false, false_implies, and_true]

/-- An annotated optional hint in front of another arm. -/
theorem not_optional_before_last_arm :
    let marked : Hint :=
      .annotated (.union true [.named (.builtin "int"), .none]) [.basic (.bool true)]
    let h : Hint := .union true [marked, .named (.builtin "str")]
    let w : WrittenHint :=
      .union [.annotated (.optional (.builtin "int")) [.basic (.bool true)], .builtin "str"]
    ((w.read (fun _ => .error ⟨"KeyError", ""⟩) {}).toOption.map fun r => r.1.text) =
        some h.text ∧
      h.text = "int? | str" ∧ Admits h ∧ TypeName.isNullable h.text = false ∧
      TypeName.isNullable (Hint.union true [.named (.builtin "str"), marked]).text = true := by
  intro marked h w
  have hmarked : Admits marked := .annotated (.nothing (a := .none) (by simp) rfl)
  exact ⟨by decide +kernel, by decide +kernel, .arm List.mem_cons_self hmarked, by decide +kernel,
    by decide +kernel⟩

end Hint

end ShadowTypes
