import ShadowTypes.Proofs.Description.Acceptance

/-!
# Readings that succeed

A reading gives a result exactly if the readings that it is put together from give theirs. For a
mapping this means: every field that must be there is read, every other field is read or missing,
and all keys are known.
-/

namespace ShadowTypes

namespace Description

open Entries

/-! ## Lists and mappings -/

namespace Reading

variable {α β : Type}

theorem all_eq_done_iff {rs : List (Reading α)} {as : List α} :
    all rs = .done as ↔ rs = as.map .done := by
  induction rs generalizing as with
  | nil => cases as <;> simp
  | cons r rs ih =>
    rw [all, map_eq_done_iff]
    constructor
    · rintro ⟨⟨a, bs⟩, hboth, rfl⟩
      obtain ⟨hr, hrs⟩ := both_eq_done_iff.mp hboth
      rw [List.map_cons, ← ih.mp hrs, hr]
    · intro h
      cases as with
      | nil => cases h
      | cons a as =>
        obtain ⟨hr, hrs⟩ := List.cons.inj h
        exact ⟨(a, as), both_eq_done_iff.mpr ⟨hr, ih.mpr hrs⟩, rfl⟩

end Reading

open Reading

section Mappings

variable {α : Type} {a : α} {es : Entries} {f : Field} {read : Value → Reading α} {v : Value}

theorem readItems_eq_done_iff {vs : List Value} {as : List α} :
    readItems read vs = .done as ↔ List.Forall₂ (fun v a => read v = .done a) vs as := by
  have hitems : ∀ n, (vs.zipIdx n).map (fun x => (read x.1).under (.index x.2)) = as.map .done ↔
      List.Forall₂ (fun v a => read v = .done a) vs as := by
    induction vs generalizing as with
    | nil => cases as <;> simp
    | cons v vs ih =>
      intro n
      cases as with
      | nil => simp
      | cons a as => simp [List.zipIdx_cons, under_eq_done_iff, ih]
  rw [readItems, all_eq_done_iff]
  exact hitems 0

theorem readEntries_eq_done_iff {read : Entries → Reading α} :
    readEntries v read = .done a ↔ ∃ es, entries? v = some es ∧ read es = .done a := by
  rw [readEntries_eq]
  cases entries? v <;> simp [refuse]

theorem required_eq_done_iff :
    f.required es read = .done a ↔ ∃ key v, f.find? es = some (key, v) ∧ read v = .done a := by
  unfold Field.required
  cases f.find? es <;> simp [under_eq_done_iff, Prod.ext_iff]

theorem optional_eq_done_iff {default : α} : f.optional es default read = .done a ↔
    (f.find? es = none ∧ a = default) ∨ ∃ key v, f.find? es = some (key, v) ∧ read v = .done a := by
  unfold Field.optional
  cases f.find? es with
  | none => simp [eq_comm]
  | some e => simp [under_eq_done_iff, Prod.ext_iff]

theorem withIssues_eq_done_iff {r : Reading α} {more : List Complaint} :
    r.withIssues more = .done a ↔ r = .done a ∧ more = [] := by
  cases r <;> cases more <;> simp [withIssues]

/-- The spellings of the fields are distinct texts without half of a surrogate pair. -/
structure Apart (fields : List Field) : Prop where
  distinct : ∀ f ∈ fields, ∀ g ∈ fields, f.otherKey = g.key ∨ f.otherKey = g.otherKey → f = g
  plain : ∀ f ∈ fields, Text.isBroken f.key = false ∧ Text.isBroken f.otherKey = false

theorem OnlyFields.brokenKey?_eq_none {fields : List Field} (h : OnlyFields fields es)
    (hf : Apart fields) : brokenKey? es = none := by
  rw [brokenKey?, Option.map_eq_none_iff, List.find?_eq_none]
  intro e he
  obtain ⟨s, hs, f, hmem, hkey⟩ := h.keys e.1 (List.mem_map_of_mem he)
  have hplain := hf.plain f hmem
  rcases hkey with rfl | rfl <;> simp [hs, hplain]

theorem closing_eq (fields : List Field) (es : Entries) (r : Reading α) :
    closing fields es r = match r, brokenKey? es with
      | .halted f, _ => .halted f
      | _, some k => .refuse .textBytes k
      | r, none => r.withIssues (unknownKeys fields es) := by
  unfold closing brokenKey?
  cases es.find? _ <;> cases r <;> rfl

/-- A mapping is read exactly if its fields are and all its keys are known. -/
theorem closing_eq_done_iff {fields : List Field} {r : Reading α} (hf : Apart fields) :
    closing fields es r = .done a ↔ r = .done a ∧ OnlyFields fields es := by
  rw [closing_eq, ← unknownKeys_eq_nil_iff hf.distinct, ← withIssues_eq_done_iff]
  constructor
  · intro h
    cases r with
    | halted e => cases h
    | done b | issues cs =>
      cases hbroken : brokenKey? es with
      | none => rwa [hbroken] at h
      | some k =>
        rw [hbroken] at h
        cases h
  · intro h
    have honly := (unknownKeys_eq_nil_iff hf.distinct).mp (withIssues_eq_done_iff.mp h).2
    rw [honly.brokenKey?_eq_none hf, (withIssues_eq_done_iff.mp h).1]
    rwa [(withIssues_eq_done_iff.mp h).1] at h

end Mappings

/-! ## Texts -/

section Texts

variable {strict : Bool} {v : Value} {s : String} {test : List Char → Bool} {rule : Rule}

theorem readMatching_eq_done_iff : readMatching strict test rule v = .done s ↔
    ∃ t, readText strict v = .done t ∧ s = Text.trimSpace t ∧ test s.toList = true := by
  unfold readMatching
  constructor
  · intro h
    split at h
    · next t ht =>
      split at h
      · next htest =>
        cases h
        exact ⟨t, ht, rfl, htest⟩
      · cases h
    · next hr => exact absurd h (hr s)
  · rintro ⟨t, ht, rfl, htest⟩
    rw [ht]
    exact if_pos htest

theorem readFilled_eq_done_iff : readFilled strict v = .done s ↔
    ∃ t, readText strict v = .done t ∧ s = Text.trim (Text.trimSpace t) ∧ s ≠ "" := by
  unfold readFilled
  cases readText strict v with
  | done t =>
    simp only [Reading.done.injEq, exists_eq_left']
    generalize Text.trim (Text.trimSpace t) = u
    by_cases hu : u = ""
    · rw [if_pos hu, hu]
      simp [refuse]
    · rw [if_neg hu, Reading.done.injEq]
      constructor
      · rintro rfl
        exact ⟨rfl, hu⟩
      · exact fun h => h.1.symm
  | issues cs => simp
  | halted e => simp

end Texts

/-! ## Descriptions -/

section Descriptions

variable {strict : Bool} {es : Entries} {v : Value}

theorem apart_textDirective : Apart [kindField, ruleField] := ⟨by decide, by decide⟩

theorem apart_property : Apart [nameField, typeField, directiveField] := ⟨by decide, by decide⟩

theorem apart_model : Apart [spaceField, nameField, propertiesField] := ⟨by decide, by decide⟩

theorem readFolded_eq_done_iff {p : Property} : readFolded strict es = .done p ↔
    OnlyFields [nameField, typeField, directiveField] es ∧
      nameField.required es (readName strict) = .done p.name ∧
      typeField.required es (readFilled strict) = .done p.typeName ∧
      directiveField.optional es none (readOptionalDirective strict) = .done p.directive := by
  obtain ⟨name, typeName, directive⟩ := p
  rw [readFolded, closing_eq_done_iff apart_property, map_eq_done_iff, and_comm]
  simp [both_eq_done_iff, Prod.exists]

theorem find?_folded {f : Field} (hkey : f.key ≠ "annotation" ∧ f.key ≠ "annotations")
    (hother : f.otherKey ≠ "annotation" ∧ f.otherKey ≠ "annotations") (es : Entries) :
    f.find? (folded es) = f.find? es := by
  rw [Field.find?, Field.find?, field?_folded hkey.1 hkey.2, field?_folded hother.1 hother.2]

/-- The directive of a property is the first one, with its kind in the usual spelling, or null. -/
theorem optional_folded_eq_done_iff {directive : Option Directive} :
    directiveField.optional (folded es) none (readOptionalDirective strict) = .done directive ↔
      readOptionalDirective strict (withCanonicalKind ((directives es).headD .null)) =
        .done directive := by
  rw [← getD_field?_folded, optional_eq_done_iff, directiveField, find?_named]
  cases (folded es).field? "annotation" with
  | none => simp [readOptionalDirective, eq_comm]
  | some v => simp

/-- A property is read exactly if it has no second directive, all its keys are known and its name,
its type and its directive are read. -/
theorem readProperty_eq_done_iff {p : Property} : readProperty strict v = .done p ↔
    ∃ es, entries? v = some es ∧ (directives es).length < 2 ∧
      OnlyFields [nameField, typeField, directiveField, .named "annotations"] es ∧
      nameField.required es (readName strict) = .done p.name ∧
      typeField.required es (readFilled strict) = .done p.typeName ∧
      readOptionalDirective strict (withCanonicalKind ((directives es).headD .null)) =
        .done p.directive := by
  rw [readProperty, readEntries_eq_done_iff]
  refine exists_congr fun es => and_congr_right fun _ => ?_
  have hname : nameField.find? (folded es) = nameField.find? es :=
    find?_folded (by decide) (by decide) es
  have htype : typeField.find? (folded es) = typeField.find? es :=
    find?_folded (by decide) (by decide) es
  have hfolded : readFolded strict (folded es) = .done p ↔ _ := readFolded_eq_done_iff
  rw [onlyFields_folded_iff, optional_folded_eq_done_iff] at hfolded
  simp only [required_eq_done_iff, hname, htype] at hfolded ⊢
  simp only [bind_eq_done_iff, foldDirectives_eq_done_iff, and_assoc]
  rw [exists_and_left, exists_eq_left', hfolded]

theorem exists_items_of_readProperties {ps : List Property}
    (h : readProperties strict v = .done ps) :
    ∃ vs, items? v = some vs ∧ List.Forall₂ (fun v p => readProperty strict v = .done p) vs ps := by
  simp only [← readItems_eq_done_iff]
  unfold readProperties at h
  split at h
  · next vs hv =>
    split at h
    · cases h
    · exact ⟨vs, by rw [items?, hv], h⟩
  · next vs hv =>
    split at h
    · cases h
    · exact ⟨vs, by rw [items?, hv], h⟩
  · next a b hv => exact ⟨[a, b], by rw [items?, hv], h⟩
  · cases h

theorem readProperties_eq_done_iff {ps : List Property} : readProperties false v = .done ps ↔
    ∃ vs, items? v = some vs ∧ List.Forall₂ (fun v p => readProperty false v = .done p) vs ps := by
  refine ⟨exists_items_of_readProperties, ?_⟩
  rintro ⟨vs, hitems, hvs⟩
  rw [← readItems_eq_done_iff] at hvs
  unfold items? at hitems
  unfold readProperties
  split at hitems <;> simp_all

/-- A model is read exactly if its fields are, all its keys are known and no two of its properties
share a name. -/
theorem readModel_eq_done_iff {m : Model} : readModel strict v = .done m ↔
    ∃ es, entries? v = some es ∧ OnlyFields [spaceField, nameField, propertiesField] es ∧
      spaceField.optional es "" (readSpace strict) = .done m.space ∧
      nameField.required es (readName strict) = .done m.name ∧
      propertiesField.optional es [] (readProperties strict) = .done m.properties ∧
      (m.properties.map Property.name).Nodup := by
  rw [readModel, readEntries_eq_done_iff]
  refine exists_congr fun es => and_congr_right fun _ => ?_
  have hfields : readFields strict es = .done m ↔
      OnlyFields [spaceField, nameField, propertiesField] es ∧
      spaceField.optional es "" (readSpace strict) = .done m.space ∧
      nameField.required es (readName strict) = .done m.name ∧
      propertiesField.optional es [] (readProperties strict) = .done m.properties := by
    obtain ⟨space, name, properties⟩ := m
    rw [readFields, closing_eq_done_iff apart_model, map_eq_done_iff, and_comm]
    simp [both_eq_done_iff, Prod.exists]
  refine distinctly_eq_done_iff.trans ?_
  rw [hfields]
  simp only [and_assoc]

end Descriptions

end Description

end ShadowTypes
