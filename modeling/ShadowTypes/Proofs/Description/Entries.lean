import ShadowTypes.Description.Model

/-!
# Entries of descriptions

A text key is looked up, replaced and dropped as in any table. The keys of a mapping are known if
each of them spells a field and no field is spelled twice. Before a property is read, its directives
are folded into one entry: two of them are a conflict, a single one is kept with its kind in the
usual spelling, and everything else about the property stays.
-/

namespace ShadowTypes

namespace Entries

variable {es : Entries} {s t : String} {k v w : Value}

/-! ## Text keys -/

theorem field?_cons_self (v : Value) (es : Entries) (s : String) :
    field? ((.text s, v) :: es) s = some v := by
  simp [field?, get?, Value.sameKey]

theorem field?_cons_of_ne (h : k ≠ .text s) (v : Value) (es : Entries) :
    field? ((k, v) :: es) s = es.field? s := by
  have hk : ¬ k.sameKey (.text s) = true := mt Value.sameKey_text.mp h
  rw [field?, field?, get?, get?, List.find?_cons_of_neg (by simpa using hk)]

theorem insert_cons_self (v w : Value) (es : Entries) (s : String) :
    insert ((.text s, v) :: es) (.text s) w = (.text s, w) :: es :=
  if_pos (Value.sameKey_text.mpr rfl)

theorem insert_cons_of_ne (h : k ≠ .text s) (v w : Value) (es : Entries) :
    insert ((k, v) :: es) (.text s) w = (k, v) :: es.insert (.text s) w :=
  if_neg (mt Value.sameKey_text.mp h)

theorem erase_cons_self (v : Value) (es : Entries) (s : String) :
    erase ((.text s, v) :: es) (.text s) = es.erase (.text s) := by
  simp [erase, Value.sameKey]

theorem erase_cons_of_ne (h : k ≠ .text s) (v : Value) (es : Entries) :
    erase ((k, v) :: es) (.text s) = (k, v) :: es.erase (.text s) := by
  have hk : ¬ k.sameKey (.text s) = true := mt Value.sameKey_text.mp h
  simp [erase, hk]

theorem field?_eq_none_iff : es.field? s = none ↔ .text s ∉ es.map Prod.fst := by
  simp only [field?, get?, Option.map_eq_none_iff, List.find?_eq_none, Value.sameKey_text,
    List.mem_map, not_exists, not_and]

theorem mem_of_field? (h : es.field? s = some v) : (.text s, v) ∈ es := by
  obtain ⟨⟨k, w⟩, hfound, rfl⟩ := Option.map_eq_some_iff.mp h
  have hk : k = .text s := Value.sameKey_text.mp (by simpa using List.find?_some hfound)
  rw [← hk]
  exact List.mem_of_find?_eq_some hfound

theorem field?_insert_self (es : Entries) (s : String) (v : Value) :
    (es.insert (.text s) v).field? s = some v := by
  induction es with
  | nil => exact field?_cons_self v [] s
  | cons e es ih =>
    obtain ⟨k, w⟩ := e
    by_cases hk : k = .text s
    · rw [hk, insert_cons_self, field?_cons_self]
    · rw [insert_cons_of_ne hk, field?_cons_of_ne hk, ih]

theorem field?_insert_of_ne (h : t ≠ s) (es : Entries) (v : Value) :
    (es.insert (.text s) v).field? t = es.field? t := by
  have hne : Value.text s ≠ .text t := fun heq => h (Value.text.inj heq).symm
  induction es with
  | nil => exact field?_cons_of_ne hne v []
  | cons e es ih =>
    obtain ⟨k, w⟩ := e
    by_cases hk : k = .text s
    · rw [hk, insert_cons_self, field?_cons_of_ne hne, field?_cons_of_ne hne]
    · rw [insert_cons_of_ne hk]
      by_cases ht : k = .text t
      · rw [ht, field?_cons_self, field?_cons_self]
      · rw [field?_cons_of_ne ht, field?_cons_of_ne ht, ih]

theorem mem_keys_insert :
    k ∈ (es.insert (.text s) v).map Prod.fst ↔ k = .text s ∨ k ∈ es.map Prod.fst := by
  induction es with
  | nil => simp
  | cons e es ih =>
    obtain ⟨l, w⟩ := e
    by_cases hl : l = .text s
    · subst hl
      rw [insert_cons_self, List.map_cons, List.map_cons, List.mem_cons, or_self_left]
    · rw [insert_cons_of_ne hl, List.map_cons, List.map_cons, List.mem_cons, List.mem_cons, ih,
        or_left_comm]

theorem mem_keys_insert_of_field? (h : es.field? s = some w) :
    k ∈ (es.insert (.text s) v).map Prod.fst ↔ k ∈ es.map Prod.fst := by
  refine mem_keys_insert.trans (or_iff_right_of_imp ?_)
  rintro rfl
  exact List.mem_map_of_mem (mem_of_field? h)

theorem mem_keys_erase :
    k ∈ (es.erase (.text s)).map Prod.fst ↔ k ∈ es.map Prod.fst ∧ k ≠ .text s := by
  simp only [erase, List.mem_map, List.mem_filter, Bool.not_eq_true', Bool.eq_false_iff, Ne,
    Value.sameKey_text]
  constructor
  · rintro ⟨e, ⟨he, hne⟩, rfl⟩
    exact ⟨⟨e, he, rfl⟩, hne⟩
  · rintro ⟨⟨e, he, rfl⟩, hne⟩
    exact ⟨e, ⟨he, hne⟩, rfl⟩

theorem field?_erase_of_ne (h : t ≠ s) (es : Entries) :
    (es.erase (.text s)).field? t = es.field? t := by
  have hkeep : ∀ e : Value × Value, ((!e.1.sameKey (.text s)) = true ∧
      e.1.sameKey (.text t) = true) ↔ e.1.sameKey (.text t) = true := by
    intro e
    refine and_iff_right_of_imp fun ht => ?_
    rw [Bool.not_eq_true', Bool.eq_false_iff, Ne, Value.sameKey_text, Value.sameKey_text.mp ht]
    exact fun heq => h (Value.text.inj heq)
  simp only [field?, get?, erase, List.find?_filter, hkeep, Bool.decide_eq_true]

theorem erase_of_field?_eq_none (h : es.field? s = none) : es.erase (.text s) = es := by
  refine List.filter_eq_self.mpr fun e he => ?_
  rw [Bool.not_eq_true', Bool.eq_false_iff, Ne, Value.sameKey_text]
  rintro hk
  exact field?_eq_none_iff.mp h (hk ▸ List.mem_map_of_mem he)

theorem erase_comm (es : Entries) (k l : Value) : (es.erase k).erase l = (es.erase l).erase k := by
  simp only [erase, List.filter_filter, Bool.and_comm]

theorem erase_erase (es : Entries) (k : Value) : (es.erase k).erase k = es.erase k := by
  simp only [erase, List.filter_filter, Bool.and_self]

theorem erase_insert_self (es : Entries) (s : String) (v : Value) :
    (es.insert (.text s) v).erase (.text s) = es.erase (.text s) := by
  induction es with
  | nil => exact erase_cons_self v [] s
  | cons e es ih =>
    obtain ⟨k, w⟩ := e
    by_cases hk : k = .text s
    · rw [hk, insert_cons_self, erase_cons_self, erase_cons_self]
    · rw [insert_cons_of_ne hk, erase_cons_of_ne hk, erase_cons_of_ne hk, ih]

theorem erase_insert_of_ne (h : t ≠ s) (es : Entries) (v : Value) :
    (es.insert (.text t) v).erase (.text s) = (es.erase (.text s)).insert (.text t) v := by
  have hne : Value.text t ≠ .text s := fun heq => h (Value.text.inj heq)
  induction es with
  | nil => exact erase_cons_of_ne hne v []
  | cons e es ih =>
    obtain ⟨k, w⟩ := e
    by_cases ht : k = .text t
    · rw [ht, insert_cons_self, erase_cons_of_ne hne, erase_cons_of_ne hne, insert_cons_self]
    · rw [insert_cons_of_ne ht]
      by_cases hs : k = .text s
      · rw [hs, erase_cons_self, erase_cons_self, ih]
      · rw [erase_cons_of_ne hs, erase_cons_of_ne hs, insert_cons_of_ne ht, ih]

theorem insert_insert (es : Entries) (s : String) (v w : Value) :
    (es.insert (.text s) v).insert (.text s) w = es.insert (.text s) w := by
  induction es with
  | nil => exact insert_cons_self v w [] s
  | cons e es ih =>
    obtain ⟨k, u⟩ := e
    by_cases hk : k = .text s
    · rw [hk, insert_cons_self, insert_cons_self, insert_cons_self]
    · rw [insert_cons_of_ne hk, insert_cons_of_ne hk, insert_cons_of_ne hk, ih]

theorem exists_insert_eq (h : es.field? s = some v) : ∃ before after,
    es = before ++ (.text s, v) :: after ∧
      ∀ w, es.insert (.text s) w = before ++ (.text s, w) :: after := by
  induction es with
  | nil => cases h
  | cons e es ih =>
    obtain ⟨k, u⟩ := e
    by_cases hk : k = .text s
    · subst hk
      obtain rfl : u = v := by rwa [field?_cons_self, Option.some.injEq] at h
      exact ⟨[], es, rfl, fun w => insert_cons_self u w es s⟩
    · obtain ⟨before, after, hes, hinsert⟩ := ih ((field?_cons_of_ne hk u es).symm.trans h)
      refine ⟨(k, u) :: before, after, by rw [hes, List.cons_append], fun w => ?_⟩
      rw [insert_cons_of_ne hk, hinsert, List.cons_append]

end Entries

namespace Description

open Entries

variable {es : Entries} {fields : List Field}

/-! ## Known keys -/

/-- Every key spells a field, and no field is spelled twice. -/
structure OnlyFields (fields : List Field) (es : Entries) : Prop where
  keys : ∀ k ∈ es.map Prod.fst, ∃ s, k = .text s ∧ ∃ f ∈ fields, s = f.key ∨ s = f.otherKey
  once : ∀ f ∈ fields, f.key ≠ f.otherKey → es.field? f.key = none ∨ es.field? f.otherKey = none

theorem Field.find?_of_key {f : Field} {v : Value} (h : es.field? f.key = some v) :
    f.find? es = some (f.key, v) := by
  rw [Field.find?, h]

theorem Field.find?_of_otherKey {f : Field} (h : es.field? f.key = none) :
    f.find? es = (es.field? f.otherKey).map (f.otherKey, ·) := by
  rw [Field.find?, h]

/-- A key that is present is used by a field unless it is the other spelling of a field whose first
spelling is present as well. -/
theorem Field.uses_iff {f : Field} {s : String} (h : .text s ∈ es.map Prod.fst) :
    (f.find? es).map Prod.fst = some s ↔
      s = f.key ∨ (s = f.otherKey ∧ es.field? f.key = none) := by
  have hs : es.field? s ≠ none := fun hn => field?_eq_none_iff.mp hn h
  cases hkey : es.field? f.key with
  | some v =>
    rw [Field.find?_of_key hkey]
    simp [eq_comm]
  | none =>
    have hne : s ≠ f.key := by
      rintro rfl
      exact hs hkey
    rw [Field.find?_of_otherKey hkey]
    cases hother : es.field? f.otherKey with
    | some v => simp [hne, eq_comm]
    | none =>
      have hne' : s ≠ f.otherKey := by
        rintro rfl
        exact hs hother
      simp [hne, hne']

/-- No complaint about a key means that all keys are known, provided that no two fields share a
spelling. -/
theorem unknownKeys_eq_nil_iff (hd : ∀ f ∈ fields, ∀ g ∈ fields,
    f.otherKey = g.key ∨ f.otherKey = g.otherKey → f = g) :
    unknownKeys fields es = [] ↔ OnlyFields fields es := by
  have hused : unknownKeys fields es = [] ↔ ∀ k ∈ es.map Prod.fst, ∃ s, k = .text s ∧
      ∃ f ∈ fields, s = f.key ∨ (s = f.otherKey ∧ es.field? f.key = none) := by
    rw [unknownKeys, List.filterMap_eq_nil_iff, List.forall_mem_map]
    refine forall₂_congr fun e he => ?_
    obtain ⟨k, v⟩ := e
    have hk : k ∈ es.map Prod.fst := List.mem_map_of_mem he
    cases k with
    | text s =>
      have huses : ∀ f : Field, _ := fun f => Field.uses_iff (f := f) hk
      simp [← huses]
    | _ => simp
  rw [hused]
  constructor
  · intro h
    refine ⟨fun k hk => ?_, fun f hf hne => ?_⟩
    · obtain ⟨s, rfl, f, hf, hs⟩ := h k hk
      exact ⟨s, rfl, f, hf, hs.imp_right And.left⟩
    · rw [Classical.or_iff_not_imp_left, field?_eq_none_iff (s := f.otherKey)]
      intro hfirst hother
      obtain ⟨s, hs, g, hg, hkey⟩ := h _ hother
      obtain rfl := Value.text.inj hs
      rcases hkey with hkey | ⟨hkey, hnone⟩
      · obtain rfl := hd f hf g hg (.inl hkey)
        exact hne hkey.symm
      · obtain rfl := hd f hf g hg (.inr hkey)
        exact hfirst hnone
  · intro h k hk
    obtain ⟨s, rfl, f, hf, hs⟩ := h.keys k hk
    refine ⟨s, rfl, f, hf, ?_⟩
    rcases hs with hs | hs
    · exact .inl hs
    · by_cases hne : f.key = f.otherKey
      · exact .inl (hs.trans hne.symm)
      · refine .inr ⟨hs, (h.once f hf hne).resolve_right fun hn => ?_⟩
        exact field?_eq_none_iff.mp hn (hs ▸ hk)

/-! ## Directives of a property -/

def listed (v : Value) : List Value :=
  match v.opened with
  | .list vs => vs
  | _ => if v.isFilled then [v] else []

theorem presentDirectives_eq (single : Option Value) (many : Value) :
    presentDirectives single many = (single.toList ++ listed many).filter fun v => !v.isNull := rfl

/-- The directives of a property other than null, the single one first. -/
def directives (es : Entries) : List Value :=
  presentDirectives (es.field? "annotation") ((es.field? "annotations").getD .null)

/-- The entries with the first of their directives as the single one. -/
def gathered (es : Entries) : Entries :=
  match es.field? "annotations" with
  | none => es
  | some _ => (es.erase (.text "annotations")).insert (.text "annotation")
      ((directives es).headD .null)

def folded (es : Entries) : Entries := respellDirective (gathered es)

/-- What a conflict tells as the name of a property. -/
def nameValue (es : Entries) : Value := (es.field? "name").getD .null

def conflict (es : Entries) : Fault :=
  .conflictingDirectives none (some (nameValue es).toText)
    (((directives es).map directiveName).map Value.toText)

/-- All that a conflict tells can be written. -/
def Tellable (es : Entries) : Prop :=
  ∀ w ∈ nameValue es :: (directives es).map directiveName, w.isUnwritable = false

instance (es : Entries) : Decidable (Tellable es) :=
  inferInstanceAs (Decidable (∀ w ∈ _ :: _, _))

theorem conflictOf_eq (whole : Value) (es : Entries) :
    conflictOf whole (nameValue es) (directives es) =
      if Tellable es then .halted (conflict es) else .refuse .unwritable whole := by
  have hany : ((nameValue es :: (directives es).map directiveName).any Value.isUnwritable) = true ↔
      ¬ Tellable es := by
    rw [← Bool.not_eq_false, List.any_eq_false, Tellable]
    simp only [Bool.not_eq_true]
  unfold conflictOf conflict
  by_cases h : Tellable es
  · rw [if_pos h]
    exact if_neg fun hsome => hany.mp hsome h
  · rw [if_neg h]
    exact if_pos (hany.mpr h)

theorem gatherDirectives_eq (whole : Value) (es : Entries) :
    gatherDirectives whole es =
      if 2 ≤ (directives es).length then conflictOf whole (nameValue es) (directives es)
      else .done (gathered es) := by
  have hsingle : (es.erase (.text "annotations")).field? "annotation" = es.field? "annotation" :=
    field?_erase_of_ne (by decide) es
  have hname : (es.erase (.text "annotations")).field? "name" = es.field? "name" :=
    field?_erase_of_ne (by decide) es
  unfold gatherDirectives gathered nameValue
  rcases Option.eq_none_or_eq_some (es.field? "annotations") with hmany | ⟨many, hmany⟩
  · have hlength : ¬ 2 ≤ (directives es).length := by
      rw [directives, hmany, presentDirectives]
      refine Nat.not_le.mpr (Nat.lt_succ_of_le (Nat.le_trans (List.length_filter_le _ _) ?_))
      cases es.field? "annotation" <;> simp [Value.isFilled]
    simp only [hmany, if_neg hlength]
  · have hdirectives : directives es = presentDirectives (es.field? "annotation") many := by
      rw [directives, hmany, Option.getD_some]
    simp only [hmany, hsingle, hname, hdirectives]
    rcases presentDirectives (es.field? "annotation") many with _ | ⟨v, _ | ⟨w, vs⟩⟩
    · rfl
    · rfl
    · rfl

theorem foldDirectives_eq (whole : Value) (es : Entries) :
    foldDirectives whole es =
      if 2 ≤ (directives es).length then
        if Tellable es then .halted (conflict es) else .refuse .unwritable whole
      else .done (folded es) := by
  rw [foldDirectives, gatherDirectives_eq, conflictOf_eq]
  split
  · split <;> rfl
  · rfl

theorem foldDirectives_eq_done_iff {whole : Value} {fs : Entries} :
    foldDirectives whole es = .done fs ↔ (directives es).length < 2 ∧ folded es = fs := by
  rw [foldDirectives_eq]
  by_cases h : 2 ≤ (directives es).length
  · rw [if_pos h]
    split <;> simp [Reading.refuse, Nat.not_lt.mpr h]
  · simp [h, Nat.not_le.mp h]

/-! ## Folded entries -/

theorem field?_respellDirective_of_ne {s : String} (h : s ≠ "annotation") (es : Entries) :
    (respellDirective es).field? s = es.field? s := by
  unfold respellDirective
  split
  · split
    · exact field?_insert_of_ne h _ _
    · rfl
  · rfl

theorem withCanonicalKind_of_not_mapping {v : Value} (h : ∀ es, v.opened ≠ .mapping es) :
    withCanonicalKind v = v := by
  unfold withCanonicalKind
  split
  · next hmapping => exact absurd hmapping (h _)
  · rfl

theorem field?_respellDirective (es : Entries) :
    (respellDirective es).field? "annotation" = (es.field? "annotation").map withCanonicalKind := by
  unfold respellDirective
  cases h : es.field? "annotation" with
  | none => exact h
  | some v =>
    dsimp only
    split
    · exact field?_insert_self _ _ _
    · next hopened => rw [h, Option.map_some, withCanonicalKind_of_not_mapping hopened]

theorem mem_keys_respellDirective {k : Value} :
    k ∈ (respellDirective es).map Prod.fst ↔ k ∈ es.map Prod.fst := by
  unfold respellDirective
  split
  · next v hv =>
    split
    · exact mem_keys_insert_of_field? hv
    · rfl
  · rfl

/-- Folding leaves every entry alone that is not about directives. -/
theorem field?_folded {s : String} (h : s ≠ "annotation") (h' : s ≠ "annotations")
    (es : Entries) : (folded es).field? s = es.field? s := by
  rw [folded, field?_respellDirective_of_ne h, gathered]
  split
  · rfl
  · rw [field?_insert_of_ne h, field?_erase_of_ne h']

/-- What is left of the directives: the first one with its kind in the usual spelling, or null. -/
theorem getD_field?_folded (es : Entries) :
    ((folded es).field? "annotation").getD .null =
      withCanonicalKind ((directives es).headD .null) := by
  have hgathered : ((gathered es).field? "annotation").getD .null =
      (directives es).headD .null := by
    unfold gathered
    split
    · next hnone =>
      rw [directives, hnone, presentDirectives]
      cases es.field? "annotation" with
      | none => rfl
      | some v => cases v <;> rfl
    · rw [field?_insert_self, Option.getD_some]
  rw [← hgathered, folded, field?_respellDirective]
  cases (gathered es).field? "annotation" <;> rfl

theorem mem_keys_folded {k : Value} (h : k ≠ .text "annotation") :
    k ∈ (folded es).map Prod.fst ↔ k ∈ es.map Prod.fst ∧ k ≠ .text "annotations" := by
  rw [folded, mem_keys_respellDirective, gathered]
  split
  · next hnone =>
    refine (and_iff_left_of_imp ?_).symm
    rintro hk rfl
    exact field?_eq_none_iff.mp hnone hk
  · rw [mem_keys_insert, or_iff_right h, mem_keys_erase]

end Description

end ShadowTypes
