import Mathlib.Tactic.ByContra
import ShadowTypes.Document

/-!
# The shape of documents

A document holds a list of descriptions, bare or under its only key, or it holds nothing. What has
this shape is accepted with one result for each description. Everything else is a fault of the
document, with two exceptions: a value under the key that is no list, but counts as nothing, is
taken for an empty list, and the lack of words for an unknown key ends the work.
-/

namespace ShadowTypes.Document

/-- The entries have no key but the one that holds the descriptions. -/
def HasNoOtherKey (es : Entries) : Prop := ∀ e ∈ es, e.1 = .text modelsKey

/-- The descriptions that a value holds: none if it is null, the items of a list, and those of the
list under the only key of a mapping, or none if there is nothing under it. -/
inductive Holds (v : Value) : List Value → Prop
  | null : v.opened = .null → Holds v []
  | list {vs : List Value} : v.opened = .list vs → Holds v vs
  | keyless {es : Entries} : v.opened = .mapping es → HasNoOtherKey es →
      es.field? modelsKey = none → Holds v []
  | nothing {es : Entries} : v.opened = .mapping es → HasNoOtherKey es →
      es.field? modelsKey = some .null → Holds v []
  | models {es : Entries} {w : Value} {vs : List Value} : v.opened = .mapping es →
      HasNoOtherKey es → es.field? modelsKey = some w → w.opened = .list vs → Holds v vs

/-- The only key has a value that is neither null nor a list and counts as nothing all the same. -/
def HoldsBlank (v : Value) : Prop :=
  ∃ (es : Entries) (w : Value), v.opened = .mapping es ∧ HasNoOtherKey es ∧
    es.field? modelsKey = some w ∧ w ≠ .null ∧ (∀ vs, w.opened ≠ .list vs) ∧ w.isFilled = false

/-- A key is a whole number with more digits than can be written. -/
def HasEndlessKey (v : Value) : Prop :=
  ∃ (es : Entries) (n : Int), v.opened = .mapping es ∧ .int n ∈ es.map Prod.fst ∧
    Numeral.isUnwritable n = true

/-- Exactly the values that hold descriptions are accepted, with one result for each description;
every other value is a fault of the document. -/
structure FollowsShape (v : Value) (origin : String) : Prop where
  accepted_iff : (∃ ms, receive v origin = .ok (.ok ms)) ↔ ∃ vs, Holds v vs
  refused : (¬∃ vs, Holds v vs) → ∃ f, receive v origin = .ok (.error f) ∧ f.code = .invalidDocument
  each : ∀ ms vs, receive v origin = .ok (.ok ms) → Holds v vs →
    ms = ofList vs origin ∧ ms.length = vs.length

variable {v w : Value} {es : Entries} {vs : List Value} {origin : String}

theorem unknownKeys_eq_nil_iff : unknownKeys es = [] ↔ HasNoOtherKey es := by
  simp only [unknownKeys, List.map_eq_nil_iff, List.filter_eq_nil_iff, Bool.not_eq_true',
    Bool.not_eq_false, Value.sameKey_text, HasNoOtherKey]

theorem isUnspeakable_iff : isUnspeakable v = true ↔ HasEndlessKey v := by
  unfold isUnspeakable HasEndlessKey
  cases hv : v.opened with
  | mapping es =>
    simp only [unknownKeys, List.any_map, List.any_filter, List.any_eq_true]
    constructor
    · rintro ⟨⟨k, x⟩, he, hk⟩
      cases k with
      | int n =>
        simp only [Function.comp_apply, Bool.and_eq_true] at hk
        exact ⟨es, n, rfl, List.mem_map_of_mem he, hk.2⟩
      | _ => simp at hk
    · rintro ⟨es', n, ⟨⟩, hn, hlong⟩
      obtain ⟨⟨k, x⟩, he, rfl⟩ := List.mem_map.mp hn
      exact ⟨_, he, by simpa [Value.sameKey, Value.asInt?] using hlong⟩
  | _ => simp

theorem receive_of_hasEndlessKey (h : HasEndlessKey v) :
    receive v origin = .error Numeral.unwritable :=
  if_pos (isUnspeakable_iff.mpr h)

theorem receive_of_not_hasEndlessKey (h : ¬HasEndlessKey v) :
    receive v origin = .ok (parse v origin) :=
  if_neg (mt isUnspeakable_iff.mp h)

/-! ## Mappings -/

theorem parse_of_otherKey (hv : v.opened = .mapping es) (h : ¬HasNoOtherKey es) :
    parse v origin = .error (.invalidDocument origin
      ("unexpected top-level keys: " ++ ", ".intercalate (words (unknownKeys es)))) := by
  rw [parse, hv]
  exact if_pos (by simpa [unknownKeys_eq_nil_iff] using h)

theorem parse_of_keyless (hv : v.opened = .mapping es) (h : HasNoOtherKey es)
    (hfield : es.field? modelsKey = none) : parse v origin = .ok [] := by
  simp only [parse, hv, unknownKeys_eq_nil_iff.mpr h, hfield]
  rfl

theorem parse_of_notFilled (hv : v.opened = .mapping es) (h : HasNoOtherKey es)
    (hfield : es.field? modelsKey = some w) (hw : w.isFilled = false) :
    parse v origin = .ok [] := by
  simp only [parse, hv, unknownKeys_eq_nil_iff.mpr h, hfield, hw]
  rfl

theorem parse_of_list (hv : v.opened = .mapping es) (h : HasNoOtherKey es)
    (hfield : es.field? modelsKey = some w) (hw : w.opened = .list vs) :
    parse v origin = .ok (ofList vs origin) := by
  cases hfilled : w.isFilled with
  | false =>
    -- an empty list counts as nothing, which comes to the same
    have hnil : vs = [] := by
      cases w with
      | list xs =>
        cases hw
        simpa [Value.isFilled] using hfilled
      | ring n b => cases hfilled
      | _ => cases hw
    rw [parse_of_notFilled hv h hfield hfilled, hnil]
    rfl
  | true =>
    simp only [parse, hv, unknownKeys_eq_nil_iff.mpr h, hfield, hfilled, hw]
    rfl

theorem parse_of_notList (hv : v.opened = .mapping es) (h : HasNoOtherKey es)
    (hfield : es.field? modelsKey = some w) (hfilled : w.isFilled = true)
    (hw : ∀ vs, w.opened ≠ .list vs) :
    parse v origin = .error (.invalidDocument origin "'models' must be a list") := by
  simp only [parse, hv, unknownKeys_eq_nil_iff.mpr h, hfield, hfilled]
  cases hlist : w.opened with
  | list vs => exact absurd hlist (hw vs)
  | _ => rfl

/-! ## Values of any kind -/

theorem not_hasEndlessKey_of_mapping (hv : v.opened = .mapping es) (h : HasNoOtherKey es) :
    ¬HasEndlessKey v := by
  rintro ⟨es', n, hv', hn, -⟩
  obtain ⟨e, he, hkey⟩ := List.mem_map.mp hn
  rw [hv, Value.mapping.injEq] at hv'
  rw [h e (hv' ▸ he)] at hkey
  cases hkey

theorem Holds.not_hasEndlessKey (h : Holds v vs) : ¬HasEndlessKey v := by
  cases h with
  | null hv | list hv =>
    rintro ⟨es', n, hv', -⟩
    simp [hv] at hv'
  | keyless hv hother | nothing hv hother | models hv hother =>
    exact not_hasEndlessKey_of_mapping hv hother

theorem Holds.parse_eq (h : Holds v vs) : parse v origin = .ok (ofList vs origin) := by
  cases h with
  | null hv =>
    rw [parse, hv]
    rfl
  | list hv => rw [parse, hv]
  | keyless hv hother hfield => exact parse_of_keyless hv hother hfield
  | nothing hv hother hfield => exact parse_of_notFilled hv hother hfield rfl
  | models hv hother hfield hw => exact parse_of_list hv hother hfield hw

theorem HoldsBlank.not_hasEndlessKey (h : HoldsBlank v) : ¬HasEndlessKey v := by
  obtain ⟨es, w, hv, hother, -⟩ := h
  exact not_hasEndlessKey_of_mapping hv hother

theorem HoldsBlank.not_holds (h : HoldsBlank v) : ¬∃ vs, Holds v vs := by
  obtain ⟨es, w, hv, -, hfield, hnull, hlist, -⟩ := h
  rintro ⟨vs, hvs⟩
  cases hvs with
  | null hv' => simp [hv] at hv'
  | list hv' => simp [hv] at hv'
  | keyless hv' _ hfield' =>
    rw [hv, Value.mapping.injEq] at hv'
    simp [← hv', hfield] at hfield'
  | nothing hv' _ hfield' =>
    rw [hv, Value.mapping.injEq] at hv'
    rw [← hv', hfield, Option.some.injEq] at hfield'
    exact hnull hfield'
  | models hv' _ hfield' hw =>
    rw [hv, Value.mapping.injEq] at hv'
    rw [← hv', hfield, Option.some.injEq] at hfield'
    exact hlist _ (hfield' ▸ hw)

theorem HoldsBlank.parse_eq (h : HoldsBlank v) : parse v origin = .ok [] := by
  obtain ⟨es, w, hv, hother, hfield, -, -, hfilled⟩ := h
  exact parse_of_notFilled hv hother hfield hfilled

/-- A value that holds no descriptions is refused, unless it holds something blank. -/
theorem exists_fault_of_not_holds (h : ¬∃ vs, Holds v vs) (hblank : ¬HoldsBlank v) :
    ∃ f, parse v origin = .error f ∧ f.code = .invalidDocument := by
  cases hv : v.opened with
  | null => exact absurd ⟨[], .null hv⟩ h
  | list vs => exact absurd ⟨vs, .list hv⟩ h
  | mapping es =>
    by_cases hother : HasNoOtherKey es
    · cases hfield : Entries.field? es modelsKey with
      | none => exact absurd ⟨[], .keyless hv hother hfield⟩ h
      | some w =>
        have hlist : ∀ vs, w.opened ≠ .list vs := fun vs hw =>
          h ⟨vs, .models hv hother hfield hw⟩
        have hnull : w ≠ .null := by
          rintro rfl
          exact h ⟨[], .nothing hv hother hfield⟩
        have hfilled : w.isFilled = true := by
          by_contra hne
          exact hblank ⟨es, w, hv, hother, hfield, hnull, hlist, eq_false_of_ne_true hne⟩
        exact ⟨_, parse_of_notList hv hother hfield hfilled hlist, rfl⟩
    · exact ⟨_, parse_of_otherKey hv hother, rfl⟩
  | _ =>
    refine ⟨.invalidDocument origin
      ("expected a mapping with a 'models' list, got " ++ v.opened.typeName), ?_, rfl⟩
    rw [parse, hv]

/-- A value is judged by its shape exactly if its only key, where it has just the one, leads to
null, to a list or to something that does not count as nothing, and no key of it is a whole number
that is too long to be written. A blank under the key is taken for an empty list. -/
theorem followsShape_iff (v : Value) (origin : String) :
    (FollowsShape v origin ↔ ¬HoldsBlank v ∧ ¬HasEndlessKey v) ∧
    (HoldsBlank v → parse v origin = .ok []) ∧
    (HasEndlessKey v → receive v origin = .error Numeral.unwritable) := by
  refine ⟨⟨fun h => ⟨?_, ?_⟩, ?_⟩, HoldsBlank.parse_eq, receive_of_hasEndlessKey⟩
  · intro hblank
    obtain ⟨f, hf, -⟩ := h.refused hblank.not_holds
    rw [receive_of_not_hasEndlessKey hblank.not_hasEndlessKey, hblank.parse_eq] at hf
    cases hf
  · intro hkey
    obtain ⟨f, hf, -⟩ := h.refused fun ⟨vs, hvs⟩ => hvs.not_hasEndlessKey hkey
    rw [receive_of_hasEndlessKey hkey] at hf
    cases hf
  · rintro ⟨hblank, hkey⟩
    have hreceive : receive v origin = .ok (parse v origin) := receive_of_not_hasEndlessKey hkey
    refine ⟨⟨?_, ?_⟩, ?_, ?_⟩
    · rintro ⟨ms, hms⟩
      by_contra hnone
      obtain ⟨f, hf, -⟩ : ∃ f, parse v origin = .error f ∧ f.code = .invalidDocument :=
        exists_fault_of_not_holds hnone hblank
      rw [hreceive, hf] at hms
      cases hms
    · rintro ⟨vs, hvs⟩
      exact ⟨_, hreceive.trans (congrArg Except.ok hvs.parse_eq)⟩
    · intro hnone
      obtain ⟨f, hf, hcode⟩ := exists_fault_of_not_holds hnone hblank
      exact ⟨f, hreceive.trans (congrArg Except.ok hf), hcode⟩
    · intro ms vs hms hvs
      rw [hreceive, hvs.parse_eq] at hms
      cases hms
      exact ⟨rfl, Description.Form.length_enterAll ..⟩

/-- An empty text under the key, in place of a list. -/
theorem not_followsShape_of_empty_text :
    let v : Value := .mapping [(.text "models", .text "")]
    receive v = .ok (.ok []) ∧ (¬∃ vs, Holds v vs) ∧ ¬FollowsShape v "<document>" := by
  intro v
  have hblank : HoldsBlank v :=
    ⟨_, .text "", rfl, by simp [HasNoOtherKey, modelsKey], rfl, by simp, by simp [Value.opened],
      rfl⟩
  refine ⟨rfl, hblank.not_holds, fun h => ?_⟩
  obtain ⟨f, hf, -⟩ := h.refused hblank.not_holds
  cases hf

end ShadowTypes.Document
