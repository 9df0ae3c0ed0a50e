import ShadowTypes.Proofs.Candidates
import ShadowTypes.Proofs.Generation
import ShadowTypes.Proofs.Trimming
import ShadowTypes.Proofs.Python.Evaluation

/-!
# The rules for values

What the value of a property must be hangs on its type and its directive, by rules that speak of the
value alone and not of checks or fragments. An object is valid for a model if the values of all its
fields are as the rules ask; a nested object is then valid for the model that its type names. The
check that a property resolves to demands just what its rule asks.
-/

namespace ShadowTypes

namespace Python

/-! ## The rules -/

/-- What a rule for text accepts. Blank text is accepted unless text is required. -/
def Accepts : TextRule → Object → Prop
  | .allowNull, _ => True
  | .allowEmpty, v => v ≠ .none
  | .allowBlank, v => v ≠ .none ∧ v ≠ .text ""
  | .requireText, v | .unknown, v =>
    ∃ s, v = .text s ∧ ∃ c ∈ s.toList, Text.isBlank c = false

/-- What is asked of the value of a property. -/
inductive Rule
  | anything
  | present
  | content (r : TextRule)
  | valid (k : Model)

def Rule.Holds : Rule → Object → Prop
  | .anything, _ => True
  | .present, v | .valid _, v => v ≠ .none
  | .content r, v => Accepts r v

/-- The type of the property is the qualified name of the model, but for letter case and blanks
around it. -/
def Refers (p : Property) (k : Model) : Prop :=
  Text.fold k.qualifiedName = TypeName.key p.typeName

/-- The rule of a property. The first of four cases decides: a nullable type, a text type, the name
of a model, anything else. A directive that does not go with the type is passed over. -/
inductive Governs (names : StringNames) (models : List Model) (p : Property) : Rule → Prop
  | nullable : TypeName.isNullable p.typeName = true → Governs names models p .anything
  | content (r : TextRule) : TypeName.isNullable p.typeName = false →
      names.isString p.typeName = true → p.directive = some (.text r) →
      Governs names models p (.content r)
  | anyText : TypeName.isNullable p.typeName = false → names.isString p.typeName = true →
      p.directive = some (.basic true) → Governs names models p .anything
  | someText : TypeName.isNullable p.typeName = false → names.isString p.typeName = true →
      (∀ r, p.directive ≠ some (.text r)) → p.directive ≠ some (.basic true) →
      Governs names models p (.content .requireText)
  | anyObject (k : Model) : TypeName.isNullable p.typeName = false →
      names.isString p.typeName = false → k ∈ models → Refers p k →
      p.directive = some (.nested true false) → Governs names models p .anything
  | someObject (k : Model) : TypeName.isNullable p.typeName = false →
      names.isString p.typeName = false → k ∈ models → Refers p k →
      p.directive = some (.nested false false) → Governs names models p .present
  | valid (k : Model) : TypeName.isNullable p.typeName = false →
      names.isString p.typeName = false → k ∈ models → Refers p k →
      (∀ a, p.directive ≠ some (.nested a false)) → Governs names models p (.valid k)
  | present : TypeName.isNullable p.typeName = false → names.isString p.typeName = false →
      (∀ k ∈ models, ¬ Refers p k) → Governs names models p .present

theorem exists_governs (names : StringNames) (models : List Model) (p : Property) :
    ∃ r, Governs names models p r := by
  by_cases hn : TypeName.isNullable p.typeName = true
  · exact ⟨_, .nullable hn⟩
  rw [Bool.not_eq_true] at hn
  by_cases hs : names.isString p.typeName = true
  · by_cases ht : ∃ r, p.directive = some (.text r)
    · obtain ⟨r, hr⟩ := ht
      exact ⟨_, .content r hn hs hr⟩
    · by_cases hb : p.directive = some (.basic true)
      · exact ⟨_, .anyText hn hs hb⟩
      · exact ⟨_, .someText hn hs (fun r hr => ht ⟨r, hr⟩) hb⟩
  rw [Bool.not_eq_true] at hs
  by_cases hk : ∃ k ∈ models, Refers p k
  · obtain ⟨k, hk, hr⟩ := hk
    by_cases hd : ∃ a, p.directive = some (.nested a false)
    · obtain ⟨a, ha⟩ := hd
      cases a with
      | true => exact ⟨_, .anyObject k hn hs hk hr ha⟩
      | false => exact ⟨_, .someObject k hn hs hk hr ha⟩
    · exact ⟨_, .valid k hn hs hk hr fun a ha => hd ⟨a, ha⟩⟩
  · exact ⟨_, .present hn hs fun k hm hr => hk ⟨k, hm, hr⟩⟩

/-- The object is valid for a model: every field is as the rule of its property asks. -/
inductive Valid (names : StringNames) (models : List Model) : Model → Object → Prop
  | intro {m : Model} {o : Object}
      (holds : ∀ p ∈ m.properties, ∀ v, o.field? (Dialect.python.member p.name) = some v →
        ∀ r, Governs names models p r → r.Holds v)
      (nested : ∀ p ∈ m.properties, ∀ v, o.field? (Dialect.python.member p.name) = some v →
        ∀ k, Governs names models p (.valid k) → Valid names models k v) :
      Valid names models m o

/-! ## Demands -/

/-- The value meets a demand; `valid` says that it is valid as a nested object. -/
def Met (v : Object) (valid : Prop) : Demand → Prop
  | .present => v ≠ .none
  | .nonEmpty => v ≠ .none ∧ v ≠ .text ""
  | .nonBlank => ∃ s, v = .text s ∧ ∃ c ∈ s.toList, Text.isBlank c = false
  | .nestedValid => v ≠ .none ∧ valid

variable {names : StringNames} {models : List Model} {p : Property} {r : Rule} {v : Object}

def Rule.demand? : Rule → Option Demand
  | .anything => none
  | .present => some .present
  | .content r => (Check.text r).demand?
  | .valid _ => some .nestedValid

theorem Governs.demand?_check (h : Governs names models p r) :
    (p.resolved (Candidates.ofModels models) names).check.demand? = r.demand? := by
  have named : ∀ k ∈ models, Refers p k →
      (Candidates.ofModels models).contains p.typeName = true :=
    fun k hk hr => Candidates.contains_ofModels_iff.mpr ⟨k, hk, hr⟩
  unfold Property.resolved Resolution.check
  cases h with
  | nullable hn => simp only [hn]; rfl
  | content r hn hs hd => simp only [hn, hs, hd]; rfl
  | anyText hn hs hd => simp only [hn, hs, hd]; rfl
  | someText hn hs ht hb =>
    simp only [hn, hs, Bool.false_eq_true, ↓reduceIte]
    rfl
  | anyObject k hn hs hk hr hd => simp only [hn, hs, named k hk hr, hd]; rfl
  | someObject k hn hs hk hr hd => simp only [hn, hs, named k hk hr, hd]; rfl
  | valid k hn hs hk hr hd' =>
    simp only [hn, hs, named k hk hr, Bool.false_eq_true, ↓reduceIte]
    split
    · next a b hd =>
      cases b with
      | true => rfl
      | false => exact absurd hd (hd' a)
    · rfl
    · rfl
  | present hn hs hk =>
    have hc : (Candidates.ofModels models).contains p.typeName = false := by
      rw [Bool.eq_false_iff, Ne, Candidates.contains_ofModels_iff]
      rintro ⟨k, hm, hr⟩
      exact hk k hm hr
    simp only [hn, hs, hc]
    rfl

theorem accepts_iff {t : TextRule} {valid : Prop} :
    Accepts t v ↔ ∀ d, (Check.text t).demand? = some d → Met v valid d := by
  cases t <;> simp [Accepts, Met, Check.demand?]

/-- A value is as the rule asks if it meets what the check demands. -/
theorem Governs.holds_iff (h : Governs names models p r) {valid : Prop} :
    (r.Holds v ∧ ((∃ k, r = .valid k) → valid)) ↔
      ∀ d, (p.resolved (Candidates.ofModels models) names).check.demand? = some d →
        Met v valid d := by
  rw [h.demand?_check]
  cases r with
  | anything => simp [Rule.Holds, Rule.demand?]
  | present => simp [Rule.Holds, Rule.demand?, Met]
  | content t => simp [Rule.Holds, Rule.demand?, ← accepts_iff]
  | valid k => simp [Rule.Holds, Rule.demand?, Met]

/-- The value is valid for the models that its property asks it to be valid for. -/
def ValidNested (names : StringNames) (models : List Model) (p : Property) (v : Object) : Prop :=
  ∀ k, Governs names models p (.valid k) → Valid names models k v

/-- A value is as the rules ask if it meets what the check demands. -/
theorem governed_iff :
    ((∀ r, Governs names models p r → r.Holds v) ∧ ValidNested names models p v) ↔
      ∀ d, (p.resolved (Candidates.ofModels models) names).check.demand? = some d →
        Met v (ValidNested names models p v) d := by
  constructor
  · rintro ⟨hr, hv⟩
    obtain ⟨r, h⟩ := exists_governs names models p
    exact h.holds_iff.mp ⟨hr r h, fun _ => hv⟩
  · intro hd
    refine ⟨fun r h => (h.holds_iff.mpr hd).1, fun k h => ?_⟩
    exact (h.holds_iff.mpr hd).2 ⟨k, rfl⟩ k h

theorem valid_iff {m : Model} {o : Object} :
    Valid names models m o ↔
      ∀ p ∈ m.properties, ∀ v, o.field? (Dialect.python.member p.name) = some v →
        ∀ d, (p.resolved (Candidates.ofModels models) names).check.demand? = some d →
          Met v (ValidNested names models p v) d := by
  constructor
  · rintro ⟨holds, nested⟩ p hp v hv
    exact governed_iff.mp ⟨holds p hp v hv, nested p hp v hv⟩
  · intro h
    exact ⟨fun p hp v hv => (governed_iff.mpr (h p hp v hv)).1,
      fun p hp v hv => (governed_iff.mpr (h p hp v hv)).2⟩

theorem exists_governs_valid
    (h : (p.resolved (Candidates.ofModels models) names).check.demand? = some .nestedValid) :
    ∃ k ∈ models, Refers p k ∧ Governs names models p (.valid k) := by
  obtain ⟨r, hr⟩ := exists_governs names models p
  rw [hr.demand?_check] at h
  cases hr with
  | valid k hn hs hk href hd => exact ⟨k, hk, href, .valid k hn hs hk href hd⟩
  | content t => cases t <;> cases h
  | _ => cases h

theorem Governs.refers {k : Model} (h : Governs names models p (.valid k)) :
    k ∈ models ∧ Refers p k := by
  cases h with
  | valid _ hn hs hk href hd => exact ⟨hk, href⟩

theorem exists_nested_of_demand? {c : Check} (h : c.demand? = some .nestedValid) :
    ∃ a, c = .nested a true := by
  cases c with
  | basic a => cases a <;> cases h
  | nested a b =>
    cases b with
    | true => exact ⟨a, rfl⟩
    | false => cases a <;> cases h
  | text r => cases r <;> cases h

theorem exists_text_of_demand? {c : Check} {d : Demand} (h : c.demand? = some d)
    (hd : d = .nonEmpty ∨ d = .nonBlank) : ∃ r, c = .text r := by
  cases c with
  | text r => exact ⟨r, rfl⟩
  | basic a =>
    cases a <;> cases h
    simp at hd
  | nested a b => cases a <;> cases b <;> cases h <;> simp at hd

/-- A text that is stripped of blanks is empty unless it holds something else. -/
theorem trim_ne_empty_iff {s : String} :
    (Text.trim s != "") = true ↔ ∃ c ∈ s.toList, Text.isBlank c = false := by
  rw [bne_iff_ne, Ne, Text.trim_eq_empty_iff]
  simp

end Python

end ShadowTypes
