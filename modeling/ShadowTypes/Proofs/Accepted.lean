import ShadowTypes.Description.Entry
import ShadowTypes.Proofs.Trimming

/-!
# Accepted models

A model is accepted if some description is read as it. Reading guarantees what generation relies
on: names are words with at most one mark in front, the namespace is nothing or words with points
between them, type names are trimmed and not empty, and no two properties share a name.
-/

namespace ShadowTypes

/-- What reading guarantees of a property. -/
structure Property.WellFormed (p : Property) : Prop where
  isName : Description.isName p.name.toList = true
  typeName_ne : p.typeName ≠ ""
  trim_typeName : Text.trim p.typeName = p.typeName

/-- What reading guarantees of a model. -/
structure Model.WellFormed (m : Model) : Prop where
  isSpace : Description.isSpace m.space.toList = true
  isName : Description.isName m.name.toList = true
  properties : ∀ p ∈ m.properties, p.WellFormed
  nodup : (m.properties.map Property.name).Nodup

/-- Some description is read as the model. -/
def Model.Accepted (m : Model) : Prop :=
  ∃ (v : Value) (strict : Bool), Description.modelForm.parse v strict = .ok m

namespace Description

/-! ## Readings that succeed -/

namespace Reading

variable {α : Type} {r : Reading α} {a : α}

theorem under_eq_done_iff {s : Step} : r.under s = .done a ↔ r = .done a := by
  cases r <;> simp [under]

theorem eq_done_of_withIssues {more : List Complaint} (h : r.withIssues more = .done a) :
    r = .done a := by
  cases r with
  | done b =>
    cases more with
    | nil => exact h
    | cons m ms => cases h
  | issues cs => cases h
  | halted e => cases h

end Reading

variable {α : Type} {a : α} {es : Entries} {strict : Bool} {v : Value} {s : String}

theorem eq_done_of_closing {fields : List Field} {r : Reading α}
    (h : closing fields es r = .done a) : r = .done a := by
  unfold closing at h
  dsimp only at h
  split at h
  · cases h
  · cases h
  · exact Reading.eq_done_of_withIssues h

theorem exists_of_required {f : Field} {read : Value → Reading α}
    (h : f.required es read = .done a) : ∃ v, read v = .done a := by
  unfold Field.required at h
  split at h
  · exact ⟨_, Reading.under_eq_done_iff.mp h⟩
  · cases h

theorem exists_of_optional {f : Field} {default : α} {read : Value → Reading α}
    (h : f.optional es default read = .done a) : a = default ∨ ∃ v, read v = .done a := by
  unfold Field.optional at h
  split at h
  · exact .inr ⟨_, Reading.under_eq_done_iff.mp h⟩
  · cases h
    exact .inl rfl

theorem exists_of_readEntries {read : Entries → Reading α} (h : readEntries v read = .done a) :
    ∃ es, read es = .done a := by
  unfold readEntries at h
  split at h
  · exact ⟨_, h⟩
  · cases h

theorem test_of_readMatching {test : List Char → Bool} {rule : Rule}
    (h : readMatching strict test rule v = .done s) : test s.toList = true := by
  unfold readMatching at h
  split at h
  · split at h
    · next ht =>
      cases h
      exact ht
    · cases h
  · next hr => exact absurd h (hr s)

theorem trimmed_of_readFilled (h : readFilled strict v = .done s) : s ≠ "" ∧ Text.trim s = s := by
  unfold readFilled at h
  split at h
  · dsimp only at h
    split at h
    · cases h
    · next ht =>
      rw [← Reading.done.inj h]
      exact ⟨ht, Text.trim_trim _⟩
  · next hr => exact absurd h (hr s)

theorem exists_of_all {rs : List (Reading α)} {as : List α} (h : Reading.all rs = .done as) :
    ∀ a ∈ as, .done a ∈ rs := by
  induction rs generalizing as with
  | nil =>
    cases h
    simp
  | cons r rs ih =>
    obtain ⟨⟨b, bs⟩, hb, rfl⟩ := Reading.map_eq_done_iff.mp h
    obtain ⟨hr, hrs⟩ := Reading.both_eq_done_iff.mp hb
    intro a ha
    rcases List.mem_cons.mp ha with rfl | ha
    · exact hr ▸ List.mem_cons_self
    · exact List.mem_cons_of_mem _ (ih hrs a ha)

theorem exists_of_readItems {read : Value → Reading α} {vs : List Value} {as : List α}
    (h : readItems read vs = .done as) : ∀ a ∈ as, ∃ v, read v = .done a := by
  intro a ha
  obtain ⟨⟨v, i⟩, -, hv⟩ := List.mem_map.mp (exists_of_all h a ha)
  exact ⟨v, Reading.under_eq_done_iff.mp hv⟩

/-- Names without a repetition are distinct, also from the names seen before. -/
theorem nodup_of_firstRepeated?_eq_none {seen ns : List String}
    (h : firstRepeated? seen ns = none) : ns.Nodup ∧ ∀ n ∈ ns, n ∉ seen := by
  induction ns generalizing seen with
  | nil => simp
  | cons n ns ih =>
    unfold firstRepeated? at h
    split at h
    · cases h
    · next hn =>
      obtain ⟨hnd, hseen⟩ := ih h
      refine ⟨List.nodup_cons.mpr ⟨fun hmem => hseen n hmem List.mem_cons_self, hnd⟩, ?_⟩
      intro k hk
      rcases List.mem_cons.mp hk with rfl | hk
      · simpa using hn
      · exact fun hmem => hseen k hk (List.mem_cons_of_mem _ hmem)

/-! ## What reading guarantees -/

theorem wellFormed_of_readProperty {p : Property} (h : readProperty strict v = .done p) :
    p.WellFormed := by
  obtain ⟨es, h⟩ := exists_of_readEntries h
  obtain ⟨folded, -, h⟩ := Reading.bind_eq_done_iff.mp h
  obtain ⟨⟨name, typeName, directive⟩, hp, rfl⟩ :=
    Reading.map_eq_done_iff.mp (eq_done_of_closing h)
  obtain ⟨hname, hrest⟩ := Reading.both_eq_done_iff.mp hp
  obtain ⟨htype, -⟩ := Reading.both_eq_done_iff.mp hrest
  obtain ⟨_, hname⟩ := exists_of_required hname
  obtain ⟨_, htype⟩ := exists_of_required htype
  obtain ⟨hne, htrim⟩ := trimmed_of_readFilled htype
  exact ⟨test_of_readMatching hname, hne, htrim⟩

theorem wellFormed_of_readProperties {ps : List Property}
    (h : readProperties strict v = .done ps) : ∀ p ∈ ps, p.WellFormed := by
  have items : ∀ vs, readItems (readProperty strict) vs = .done ps → ∀ p ∈ ps, p.WellFormed := by
    intro vs hvs p hp
    obtain ⟨_, hv⟩ := exists_of_readItems hvs p hp
    exact wellFormed_of_readProperty hv
  unfold readProperties at h
  split at h
  · split at h
    · cases h
    · exact items _ h
  · split at h
    · cases h
    · exact items _ h
  · exact items _ h
  · cases h

theorem wellFormed_of_readModel {m : Model} (h : readModel strict v = .done m) :
    m.WellFormed := by
  obtain ⟨es, h⟩ := exists_of_readEntries h
  split at h
  · next k hk =>
    have hm : firstRepeated? [] (k.properties.map Property.name) = none ∧ k = m := by
      unfold distinct at h
      split at h
      · next hr =>
        cases h
        exact ⟨hr, rfl⟩
      · cases h
    obtain ⟨hr, rfl⟩ := hm
    obtain ⟨⟨space, name, properties⟩, hp, rfl⟩ :=
      Reading.map_eq_done_iff.mp (eq_done_of_closing hk)
    obtain ⟨hspace, hrest⟩ := Reading.both_eq_done_iff.mp hp
    obtain ⟨hname, hproperties⟩ := Reading.both_eq_done_iff.mp hrest
    obtain ⟨_, hname⟩ := exists_of_required hname
    refine ⟨?_, test_of_readMatching hname, ?_, (nodup_of_firstRepeated?_eq_none hr).1⟩
    · rcases exists_of_optional hspace with rfl | ⟨_, hspace⟩
      · rfl
      · exact test_of_readMatching hspace
    · rcases exists_of_optional hproperties with rfl | ⟨_, hproperties⟩
      · simp
      · exact wellFormed_of_readProperties hproperties
  · next hr => exact absurd h (hr m)

end Description

theorem Model.Accepted.wellFormed {m : Model} (h : m.Accepted) : m.WellFormed := by
  obtain ⟨v, strict, h⟩ := h
  unfold Description.Form.parse at h
  split at h
  · next hread =>
    cases h
    exact Description.wellFormed_of_readModel hread
  · cases h
  · cases h

end ShadowTypes
