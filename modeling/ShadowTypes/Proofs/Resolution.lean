import ShadowTypes.Proofs.Folding
import ShadowTypes.Proofs.Trimming
import ShadowTypes.Resolution

/-!
# The kinds of checks

Which of the checks a property resolves to hangs on its type name alone: a nullable type asks for
nothing, a text type is checked as text, a candidate as a nested object, and anything else for its
presence. A directive bears on the check if it is of the family of the type, and of the type name
nothing bears on it but the name as it is compared.
-/

namespace ShadowTypes

/-! ## Type names as they are compared -/

namespace TypeName

variable {s t : String}

theorem isEmpty_iff_key_eq : isEmpty s = true ↔ key s = "" := by
  rw [isEmpty_iff_trim_eq, key, Text.fold_eq_empty_iff]

theorem isNullable_iff_key : isNullable s = true ↔ (key s).toList.getLast? = some marker := by
  have hmarker : Text.Caseless marker := by decide
  rw [isNullable_iff, toList_key, Text.getLast?_foldChars_eq_iff hmarker]

theorem isEmpty_congr (h : key s = key t) : isEmpty s = isEmpty t := by
  rw [Bool.eq_iff_iff, isEmpty_iff_key_eq, isEmpty_iff_key_eq, h]

theorem isNullable_congr (h : key s = key t) : isNullable s = isNullable t := by
  rw [Bool.eq_iff_iff, isNullable_iff_key, isNullable_iff_key, h]

end TypeName

namespace Resolution

/-! ## Kinds -/

variable {typeName : String} {directive : Option Directive} {candidates : Candidates}
  {names : StringNames}

/-- The four kinds of types, each with its kind of check. -/
inductive Kind (typeName : String) (candidates : Candidates) (names : StringNames) : Check → Prop
  | nullable : TypeName.isNullable typeName = true → Kind typeName candidates names (.basic true)
  | text (r : TextRule) : TypeName.isNullable typeName = false → names.isString typeName = true →
      Kind typeName candidates names (.text r)
  | nested (a v : Bool) : TypeName.isNullable typeName = false → names.isString typeName = false →
      candidates.contains typeName = true → Kind typeName candidates names (.nested a v)
  | other : TypeName.isNullable typeName = false → names.isString typeName = false →
      candidates.contains typeName = false → Kind typeName candidates names (.basic false)

theorem kind_check (typeName : String) (directive : Option Directive) (candidates : Candidates)
    (names : StringNames) :
    Kind typeName candidates names (check typeName directive candidates names) := by
  unfold check
  split
  · next hn => exact .nullable hn
  · next hn =>
    rw [Bool.not_eq_true] at hn
    split
    · next hs => split <;> exact .text _ hn hs
    · next hs =>
      rw [Bool.not_eq_true] at hs
      split
      · next hc => split <;> exact .nested _ _ hn hs hc
      · next hc => exact .other hn hs (by simpa using hc)

theorem exists_check_text_iff :
    (∃ r, check typeName directive candidates names = .text r) ↔
      TypeName.isNullable typeName = false ∧ names.isString typeName = true := by
  have h := kind_check typeName directive candidates names
  cases hk : check typeName directive candidates names <;> rw [hk] at h <;> cases h <;> simp_all

theorem exists_check_nested_iff :
    (∃ a v, check typeName directive candidates names = .nested a v) ↔
      TypeName.isNullable typeName = false ∧ names.isString typeName = false ∧
        candidates.contains typeName = true := by
  have h := kind_check typeName directive candidates names
  cases hk : check typeName directive candidates names <;> rw [hk] at h <;> cases h <;> simp_all

/-- The kinds of checks, whatever they ask for. -/
inductive Variant
  | basic
  | nested
  | text
  deriving DecidableEq, Repr

def variant : Check → Variant
  | .basic _ => .basic
  | .nested .. => .nested
  | .text _ => .text

/-- The kind of check that a type is given. -/
def variantFor (typeName : String) (candidates : Candidates) (names : StringNames) : Variant :=
  if TypeName.isNullable typeName then .basic
  else if names.isString typeName then .text
  else if candidates.contains typeName then .nested
  else .basic

theorem Kind.variant_eq {c : Check} (h : Kind typeName candidates names c) :
    variant c = variantFor typeName candidates names := by
  unfold variantFor
  cases h with
  | nullable hn => rw [if_pos hn]; rfl
  | text r hn hs => rw [if_neg (by simp [hn]), if_pos hs]; rfl
  | nested a v hn hs hc => rw [if_neg (by simp [hn]), if_neg (by simp [hs]), if_pos hc]; rfl
  | other hn hs hc =>
    rw [if_neg (by simp [hn]), if_neg (by simp [hs]), if_neg (by simp [hc])]
    rfl

/-! ## Directives of the type's family -/

/-- The directive bears on the check of the type: one about text on a text type, one about nested
objects on a candidate, and one about presence on a candidate or, if it allows for nothing, on a
text type. -/
inductive Fits (typeName : String) (candidates : Candidates) (names : StringNames) :
    Directive → Prop
  | text (r : TextRule) : TypeName.isNullable typeName = false → names.isString typeName = true →
      Fits typeName candidates names (.text r)
  | missingText : TypeName.isNullable typeName = false → names.isString typeName = true →
      Fits typeName candidates names (.basic true)
  | nested (a v : Bool) : TypeName.isNullable typeName = false → names.isString typeName = false →
      candidates.contains typeName = true → Fits typeName candidates names (.nested a v)
  | missingNested (a : Bool) : TypeName.isNullable typeName = false →
      names.isString typeName = false → candidates.contains typeName = true →
      Fits typeName candidates names (.basic a)

def usual : List Directive := [.text Check.defaultRule,
  .nested Check.defaultAllowNull Check.defaultValidate, .basic Check.defaultAllowNull]

/-- A directive changes the check exactly if it is of the family of the type and asks for something
else than what is usual. -/
theorem check_some_eq_check_none_iff {d : Directive} :
    check typeName (some d) candidates names = check typeName none candidates names ↔
      (Fits typeName candidates names d → d ∈ usual) := by
  unfold check
  split
  · next hn =>
    refine iff_of_true rfl ?_
    rintro ⟨⟩ <;> simp_all
  · next hn =>
    rw [Bool.not_eq_true] at hn
    split
    · next hs =>
      cases d with
      | text r => simp [Fits.text r hn hs, usual]
      | basic a =>
        cases a with
        | true => simp [Fits.missingText hn hs, usual, Check.defaultRule, Check.defaultAllowNull]
        | false => simp [usual, Check.defaultAllowNull]
      | nested a v =>
        refine iff_of_true rfl ?_
        rintro ⟨⟩
        simp_all
    · next hs =>
      rw [Bool.not_eq_true] at hs
      split
      · next hc =>
        cases d with
        | text r =>
          refine iff_of_true rfl ?_
          rintro ⟨⟩
          simp_all
        | basic a => simp [Fits.missingNested a hn hs hc, usual]
        | nested a v => simp [Fits.nested a v hn hs hc, usual]
      · next hc =>
        refine iff_of_true rfl ?_
        rintro ⟨⟩ <;> simp_all

theorem check_congr_key {u : String} (h : TypeName.key typeName = TypeName.key u) :
    check typeName directive candidates names = check u directive candidates names := by
  have hstring : names.isString typeName = names.isString u := by
    rw [StringNames.isString, StringNames.isString, h]
  have hcandidate : candidates.contains typeName = candidates.contains u := by
    rw [Candidates.contains, Candidates.contains, h]
  unfold check
  rw [TypeName.isNullable_congr h, hstring, hcandidate]

theorem resolve_eq_ok {p : DraftProperty} {t : String} (ht : p.typeName = some t)
    (hne : TypeName.isEmpty t = false) (candidates : Candidates) (names : StringNames) :
    p.resolve candidates names = .ok (check t p.directive candidates names) := by
  simp only [DraftProperty.resolve, requireType, ht, hne]
  rfl

/-- A property with a type that is not blank resolves to a check whose kind hangs on the type, the
candidates and the names of the text type. The same property without a directive resolves to the
same check unless its directive is of the family of the type and asks for something unusual. Any
property with the same directive and a type that is compared alike resolves to the same check. -/
theorem resolves_by_type {p : DraftProperty} {t : String} (ht : p.typeName = some t)
    (hne : TypeName.isEmpty t = false) (candidates : Candidates) (names : StringNames) :
    ∃ c, p.resolve candidates names = .ok c ∧ variant c = variantFor t candidates names ∧
      ({ p with directive := none }.resolve candidates names = .ok c ↔
        ∀ d, p.directive = some d → Fits t candidates names d → d ∈ usual) ∧
      ∀ (q : DraftProperty) (u : String), q.typeName = some u → q.directive = p.directive →
        TypeName.key u = TypeName.key t → q.resolve candidates names = .ok c := by
  refine ⟨_, resolve_eq_ok ht hne candidates names, (kind_check ..).variant_eq, ?_, ?_⟩
  · have hnone := resolve_eq_ok (p := { p with directive := none }) ht hne candidates names
    rw [hnone, Except.ok.injEq]
    cases p.directive with
    | none => simp
    | some d => simp only [Option.some.injEq, forall_eq', ← check_some_eq_check_none_iff, eq_comm]
  · intro q u hu hdirective hkey
    have hempty : TypeName.isEmpty u = false := (TypeName.isEmpty_congr hkey).trans hne
    rw [resolve_eq_ok hu hempty, hdirective, check_congr_key hkey]

/-- A directive about text on a candidate, which is spelled in other letters and with blanks. -/
theorem resolves_candidate_with_text_directive :
    let p : DraftProperty := ⟨some "Line", some " SHOP.item", some (.text .allowNull)⟩
    let q : DraftProperty := ⟨none, some "shop.Item\t", some (.text .allowNull)⟩
    let candidates := Candidates.ofNames ["shop.Item"]
    TypeName.isEmpty " SHOP.item" = false ∧
      { p with directive := none }.resolve candidates .standard =
        p.resolve candidates .standard ∧
      q.resolve candidates .standard = p.resolve candidates .standard := by
  intro p q candidates
  have hne : TypeName.isEmpty " SHOP.item" = false := by decide
  obtain ⟨c, hc, -, hnone, hsame⟩ :=
    resolves_by_type (p := p) rfl hne candidates .standard
  refine ⟨hne, ?_, ?_⟩
  · rw [hc, hnone]
    rintro d ⟨⟩ ⟨r, -, hstring⟩
    exact absurd hstring (by decide +kernel)
  · rw [hc]
    exact hsame q "shop.Item\t" rfl rfl (by decide +kernel)

end Resolution

end ShadowTypes
