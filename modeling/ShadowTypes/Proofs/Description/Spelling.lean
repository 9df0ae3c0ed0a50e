import Mathlib.Data.List.Pairwise
import Mathlib.Data.Option.Basic
import ShadowTypes.Proofs.Description.Success

/-!
# Spellings of keys

Three fields have two spellings of their key. Re-spelling some keys of a description, in mappings
that do not have both spellings of a field, keeps what is found in its mappings: every field has a
value in the one exactly if it has a value in the other, and folding directives commutes with
re-spelling.
-/

namespace ShadowTypes

namespace Description

open Entries

/-! ## Keys -/

def spelledTwice : List Field := [typeField, allowNullField, validateField]

def Field.spells (f : Field) : Value → Bool
  | .text s => s == f.key || s == f.otherKey
  | _ => false

/-- The keys are the same, or two spellings of one field. -/
def SameField (k l : Value) : Prop :=
  k = l ∨ ∃ f ∈ spelledTwice, f.spells k = true ∧ f.spells l = true

/-- A field with one spelling that no other field has, or one of those with two. -/
def Field.Regular (f : Field) : Prop :=
  f ∈ spelledTwice ∨ f.key = f.otherKey ∧ ∀ g ∈ spelledTwice, g.spells (.text f.key) = false

instance (f : Field) : Decidable f.Regular := inferInstanceAs (Decidable (_ ∨ _))

/-- No two entries are spellings of one field. -/
def Unambiguous (es : Entries) : Prop :=
  es.Pairwise fun e e' => ∀ f ∈ spelledTwice, f.spells e.1 = true → f.spells e'.1 = false

instance (es : Entries) : Decidable (Unambiguous es) :=
  inferInstanceAs (Decidable (List.Pairwise _ _))

/-- Entries one by one with the same fields and values that are related. -/
inductive Pointwise (R : Value → Value → Prop) : Entries → Entries → Prop
  | nil : Pointwise R [] []
  | cons {k l v w : Value} {es fs : Entries} : SameField k l → R v w → Pointwise R es fs →
      Pointwise R ((k, v) :: es) ((l, w) :: fs)

/-- A value with some keys in their other spelling. A mapping where that happens does not have both
spellings of a field. -/
inductive Respelled : Value → Value → Prop
  | refl (v : Value) : Respelled v v
  | list {vs ws : List Value} : List.Forall₂ Respelled vs ws → Respelled (.list vs) (.list ws)
  | mapping {es fs : Entries} : Unambiguous es → Pointwise Respelled es fs →
      Respelled (.mapping es) (.mapping fs)

section Keys

variable {f g : Field} {k l v : Value} {es : Entries} {s : String}

theorem Field.spells_iff : f.spells k = true ↔ k = .text f.key ∨ k = .text f.otherKey := by
  cases k <;> simp [spells]

theorem Field.exists_text_of_spells (h : f.spells k = true) : ∃ s, k = .text s := by
  rcases Field.spells_iff.mp h with rfl | rfl
  · exact ⟨_, rfl⟩
  · exact ⟨_, rfl⟩

theorem sameField_spellings (hf : f ∈ spelledTwice) :
    SameField (.text f.key) (.text f.otherKey) :=
  .inr ⟨f, hf, Field.spells_iff.mpr (.inl rfl), Field.spells_iff.mpr (.inr rfl)⟩

theorem eq_of_spells (hf : f ∈ spelledTwice) (hg : g ∈ spelledTwice) (h : f.spells k = true)
    (h' : g.spells k = true) : f = g := by
  have hapart : ∀ f ∈ spelledTwice, ∀ g ∈ spelledTwice,
      g.spells (.text f.key) = true ∨ g.spells (.text f.otherKey) = true → f = g := by decide
  rcases Field.spells_iff.mp h with rfl | rfl
  · exact hapart f hf g hg (.inl h')
  · exact hapart f hf g hg (.inr h')

theorem key_ne_otherKey (hf : f ∈ spelledTwice) : f.key ≠ f.otherKey := by
  have htwo : ∀ f ∈ spelledTwice, f.key ≠ f.otherKey := by decide
  exact htwo f hf

theorem Field.Regular.not_spells (hf : f.Regular) (hg : g ∈ spelledTwice) (hne : f ≠ g)
    (h : g.spells k = true) : f.spells k = false := by
  refine Bool.eq_false_iff.mpr fun hk => ?_
  rcases hf with hf | ⟨hone, hother⟩
  · exact hne (eq_of_spells hf hg hk h)
  · rw [Field.spells_iff, ← hone, or_self] at hk
    rw [hk, hother g hg] at h
    cases h

theorem SameField.spells_eq (h : SameField k l) (hf : f.Regular) : f.spells k = f.spells l := by
  rcases h with rfl | ⟨g, hg, hk, hl⟩
  · rfl
  · by_cases hne : f = g
    · rw [hne, hk, hl]
    · rw [hf.not_spells hg hne hk, hf.not_spells hg hne hl]

theorem SameField.isUnwritable_eq (h : SameField k l) : k.isUnwritable = l.isUnwritable := by
  rcases h with rfl | ⟨f, -, hk, hl⟩
  · rfl
  · obtain ⟨a, rfl⟩ := Field.exists_text_of_spells hk
    obtain ⟨b, rfl⟩ := Field.exists_text_of_spells hl
    rfl

theorem Field.find?_cons_of_spells (hf : f.Regular) (hu : Unambiguous ((.text s, v) :: es))
    (hs : f.spells (.text s) = true) : f.find? ((.text s, v) :: es) = some (s, v) := by
  have hkey : f.find? ((.text f.key, v) :: es) = some (f.key, v) :=
    Field.find?_of_key (field?_cons_self v es f.key)
  rcases Field.spells_iff.mp hs with heq | heq
  · cases heq
    exact hkey
  · cases heq
    rcases hf with hf | ⟨hone, -⟩
    · -- The other spelling is only looked for if the first one is absent.
      have hfirst : .text f.key ∉ es.map Prod.fst := by
        intro hmem
        obtain ⟨e, he, heq⟩ := List.mem_map.mp hmem
        have hnot := (List.pairwise_cons.mp hu).1 e he f hf hs
        rw [heq, Field.spells_iff.mpr (.inl rfl)] at hnot
        cases hnot
      rw [Field.find?_of_otherKey, field?_cons_self, Option.map_some]
      rw [field?_cons_of_ne (fun h => key_ne_otherKey hf (Value.text.inj h).symm),
        field?_eq_none_iff]
      exact hfirst
    · rwa [← hone]

theorem Field.find?_cons_of_not_spells (h : f.spells k = false) (v : Value) (es : Entries) :
    f.find? ((k, v) :: es) = f.find? es := by
  have hne : k ≠ .text f.key ∧ k ≠ .text f.otherKey := by
    rw [← not_or, ← Field.spells_iff, h]
    exact Bool.false_ne_true
  rw [Field.find?, Field.find?, field?_cons_of_ne hne.1, field?_cons_of_ne hne.2]

end Keys

/-! ## Entries -/

section Entries

variable {R : Value → Value → Prop} {f : Field} {fields : List Field} {es fs : Entries} {s : String}
  {v w : Value}

theorem Pointwise.exists_of_mem (h : Pointwise R es fs) {e' : Value × Value} (he' : e' ∈ fs) :
    ∃ e ∈ es, SameField e.1 e'.1 := by
  induction h with
  | nil => cases he'
  | cons hkey _ _ ih =>
    rcases List.mem_cons.mp he' with rfl | he'
    · exact ⟨_, List.mem_cons_self, hkey⟩
    · obtain ⟨e, he, hsame⟩ := ih he'
      exact ⟨e, List.mem_cons_of_mem _ he, hsame⟩

theorem Pointwise.unambiguous (h : Pointwise R es fs) (hu : Unambiguous es) : Unambiguous fs := by
  induction h with
  | nil => exact hu
  | cons hkey _ hrest ih =>
    obtain ⟨hfirst, hothers⟩ := List.pairwise_cons.mp hu
    refine List.pairwise_cons.mpr ⟨fun e' he' f hf hs => ?_, ih hothers⟩
    obtain ⟨e, he, hsame⟩ := hrest.exists_of_mem he'
    rw [← hsame.spells_eq (.inl hf)]
    exact hfirst e he f hf ((hkey.spells_eq (.inl hf)).trans hs)

theorem Pointwise.find? (h : Pointwise R es fs) (hu : Unambiguous es) (hf : f.Regular) :
    Option.Rel (fun a b => SameField (.text a.1) (.text b.1) ∧ R a.2 b.2) (f.find? es)
      (f.find? fs) := by
  induction h with
  | nil => exact .none
  | @cons k l v w es fs hkey hvalue hrest ih =>
    -- The first entry has the field in both mappings, or in neither.
    have hu' := (Pointwise.cons hkey hvalue hrest).unambiguous hu
    cases hs : f.spells k with
    | false =>
      rw [Field.find?_cons_of_not_spells hs,
        Field.find?_cons_of_not_spells ((hkey.spells_eq hf).symm.trans hs)]
      exact ih (List.pairwise_cons.mp hu).2
    | true =>
      have ht : f.spells l = true := (hkey.spells_eq hf).symm.trans hs
      obtain ⟨a, rfl⟩ := Field.exists_text_of_spells hs
      obtain ⟨b, rfl⟩ := Field.exists_text_of_spells ht
      rw [Field.find?_cons_of_spells hf hu hs, Field.find?_cons_of_spells hf hu' ht]
      exact .some ⟨hkey, hvalue⟩

/-- A text that is no spelling of a field with two. -/
def IsSingle (s : String) : Prop := ∀ f ∈ spelledTwice, f.spells (.text s) = false

instance (s : String) : Decidable (IsSingle s) := inferInstanceAs (Decidable (∀ f ∈ _, _))

theorem SameField.text_iff {k l : Value} (h : SameField k l) (hs : IsSingle s) :
    k = .text s ↔ l = .text s := by
  have hregular : (Field.named s).Regular := .inr ⟨rfl, hs⟩
  have hspells := h.spells_eq hregular
  rw [Bool.eq_iff_iff, Field.spells_iff, Field.spells_iff] at hspells
  simpa [Field.named] using hspells

theorem Pointwise.field? (h : Pointwise R es fs) (hs : IsSingle s) :
    Option.Rel R (es.field? s) (fs.field? s) := by
  induction h with
  | nil => exact .none
  | @cons k l v w es fs hkey hvalue _ ih =>
    by_cases hk : k = .text s
    · rw [hk, (hkey.text_iff hs).mp hk, field?_cons_self, field?_cons_self]
      exact .some hvalue
    · rw [field?_cons_of_ne hk, field?_cons_of_ne (mt (hkey.text_iff hs).mpr hk)]
      exact ih

theorem Pointwise.insert (h : Pointwise R es fs) (hs : IsSingle s) (hvw : R v w) :
    Pointwise R (es.insert (.text s) v) (fs.insert (.text s) w) := by
  induction h with
  | nil => exact .cons (.inl rfl) hvw .nil
  | @cons k l a b es fs hkey hvalue hrest ih =>
    by_cases hk : k = .text s
    · have hl := (hkey.text_iff hs).mp hk
      rw [Entries.insert, Entries.insert, if_pos (Value.sameKey_text.mpr hk),
        if_pos (Value.sameKey_text.mpr hl)]
      exact .cons hkey hvw hrest
    · have hl := mt (hkey.text_iff hs).mpr hk
      rw [Entries.insert, Entries.insert, if_neg (mt Value.sameKey_text.mp hk),
        if_neg (mt Value.sameKey_text.mp hl)]
      exact .cons hkey hvalue ih

theorem Pointwise.erase (h : Pointwise R es fs) (hs : IsSingle s) :
    Pointwise R (es.erase (.text s)) (fs.erase (.text s)) := by
  induction h with
  | nil => exact .nil
  | @cons k l a b es fs hkey hvalue hrest ih =>
    have hsame : k.sameKey (.text s) = l.sameKey (.text s) := by
      rw [Bool.eq_iff_iff, Value.sameKey_text, Value.sameKey_text]
      exact hkey.text_iff hs
    rw [Entries.erase, Entries.erase, List.filter_cons, List.filter_cons, hsame]
    split
    · exact .cons hkey hvalue ih
    · exact ih

theorem Unambiguous.erase (h : Unambiguous es) (k : Value) : Unambiguous (es.erase k) := h.filter _

theorem Unambiguous.insert (h : Unambiguous es) (hs : IsSingle s) (v : Value) :
    Unambiguous (es.insert (.text s) v) := by
  induction es with
  | nil => exact List.pairwise_singleton _ _
  | cons e es ih =>
    obtain ⟨hfirst, hothers⟩ := List.pairwise_cons.mp h
    rw [Entries.insert]
    split
    · exact List.pairwise_cons.mpr ⟨hfirst, hothers⟩
    · refine List.pairwise_cons.mpr ⟨fun e' he' f hf hspells => ?_, ih hothers⟩
      have hkey : e'.1 = .text s ∨ e'.1 ∈ es.map Prod.fst :=
        mem_keys_insert.mp (List.mem_map_of_mem he')
      rcases hkey with hkey | hkey
      · rw [hkey]
        exact hs f hf
      · obtain ⟨e'', he'', heq⟩ := List.mem_map.mp hkey
        rw [← heq]
        exact hfirst e'' he'' f hf hspells

theorem brokenKey?_cons (k v : Value) (es : Entries) : brokenKey? ((k, v) :: es) =
    if (match k with
      | .text s => Text.isBroken s
      | _ => false) then some k else brokenKey? es := by
  cases k with
  | text s => cases h : Text.isBroken s <;> simp [brokenKey?, h]
  | _ => rfl

theorem Pointwise.brokenKey? (h : Pointwise R es fs) : brokenKey? es = brokenKey? fs := by
  have hplain : ∀ f ∈ spelledTwice,
      Text.isBroken f.key = false ∧ Text.isBroken f.otherKey = false := by decide
  induction h with
  | nil => rfl
  | @cons k l v w es fs hkey _ _ ih =>
    rw [brokenKey?_cons, brokenKey?_cons, ih]
    rcases hkey with rfl | ⟨f, hf, hk, hl⟩
    · rfl
    · rcases Field.spells_iff.mp hk with rfl | rfl <;>
        rcases Field.spells_iff.mp hl with rfl | rfl <;> simp [hplain f hf]

/-- What is wrong with an entry that no field uses. -/
def unknownKey (e : Value × Value) : Complaint :=
  match e.1 with
  | .text s => Rule.extra.complaint e.2 [.key s]
  | k => Rule.keyType.complaint k [stepOfKey k]

theorem Unambiguous.eq_of_spells (h : Unambiguous es) (hf : f ∈ spelledTwice)
    {e e' : Value × Value} (he : e ∈ es) (he' : e' ∈ es) (hs : f.spells e.1 = true)
    (hs' : f.spells e'.1 = true) : e = e' := by
  have hsymm : Std.Symm fun e e' : Value × Value =>
      ∀ f ∈ spelledTwice, f.spells e.1 = true → f.spells e'.1 = false :=
    ⟨fun e e' hee f hf hs => Bool.eq_false_iff.mpr fun hs' => by simp [hee f hf hs'] at hs⟩
  by_contra hne
  have hnot := List.Pairwise.forall h he he' hne f hf hs
  rw [hs'] at hnot
  cases hnot

theorem Field.uses_iff_spells (hu : Unambiguous es) (hf : f.Regular)
    (h : .text s ∈ es.map Prod.fst) :
    (f.find? es).map Prod.fst = some s ↔ f.spells (.text s) = true := by
  rw [Field.uses_iff h, Field.spells_iff, Value.text.injEq, Value.text.injEq]
  rcases hf with hf | ⟨hone, -⟩
  · refine or_congr_right (and_iff_left_of_imp fun hs => ?_)
    rw [field?_eq_none_iff]
    intro hfirst
    obtain ⟨e, he, hkey⟩ := List.mem_map.mp h
    obtain ⟨e', he', hkey'⟩ := List.mem_map.mp hfirst
    have heq := hu.eq_of_spells hf he he' (Field.spells_iff.mpr (.inr (hs ▸ hkey)))
      (Field.spells_iff.mpr (.inl hkey'))
    rw [← heq, hkey, hs] at hkey'
    exact key_ne_otherKey hf (Value.text.inj hkey').symm
  · rw [← hone, or_self]
    exact or_iff_left_of_imp And.left

theorem unknownKeys_eq (hu : Unambiguous es) (hf : ∀ f ∈ fields, f.Regular) :
    unknownKeys fields es =
      (es.filter fun e => !fields.any (·.spells e.1)).map unknownKey := by
  rw [unknownKeys, ← List.filterMap_eq_map, List.filterMap_filter]
  refine List.filterMap_congr fun e he => ?_
  obtain ⟨k, v⟩ := e
  have hk : k ∈ es.map Prod.fst := List.mem_map_of_mem he
  cases k with
  | text s =>
    have huses : ((fields.filterMap fun f => (f.find? es).map Prod.fst).contains s) =
        fields.any (·.spells (.text s)) := by
      rw [Bool.eq_iff_iff, List.contains_iff_mem, List.mem_filterMap, List.any_eq_true]
      exact exists_congr fun f => and_congr_right fun hmem =>
        Field.uses_iff_spells hu (hf f hmem) hk
    simp only [huses]
    cases fields.any (·.spells (.text s)) <;> rfl
  | _ => simp [Field.spells, unknownKey]

end Entries

/-! ## Directives -/

section Directives

variable {v w : Value} {vs ws : List Value} {es fs : Entries}

theorem forall₂_refl_respelled (vs : List Value) : List.Forall₂ Respelled vs vs :=
  List.forall₂_same.mpr fun v _ => .refl v

theorem respelled_headD (h : List.Forall₂ Respelled vs ws) :
    Respelled (vs.headD .null) (ws.headD .null) := by
  cases h with
  | nil => exact .refl _
  | cons hvw _ => exact hvw

theorem Respelled.isNull_eq (h : Respelled v w) : v.isNull = w.isNull := by
  cases h <;> rfl

theorem Respelled.isFilled_eq (h : Respelled v w) : v.isFilled = w.isFilled := by
  cases h with
  | refl => rfl
  | list hvs => cases hvs <;> rfl
  | mapping _ hes => cases hes <;> rfl

theorem forall₂_listed (h : Respelled v w) : List.Forall₂ Respelled (listed v) (listed w) := by
  cases h with
  | refl => exact forall₂_refl_respelled _
  | list hvs => exact hvs
  | mapping hu hes =>
    have hfilled := (Respelled.mapping hu hes).isFilled_eq
    dsimp only [listed, Value.opened_mapping]
    rw [hfilled]
    split
    · exact .cons (.mapping hu hes) .nil
    · exact .nil

theorem forall₂_presentDirectives {single single' : Option Value}
    (hsingle : Option.Rel Respelled single single') (hmany : Respelled v w) :
    List.Forall₂ Respelled (presentDirectives single v) (presentDirectives single' w) := by
  have hfirst : List.Forall₂ Respelled single.toList single'.toList := by
    cases hsingle with
    | none => exact .nil
    | some h => exact .cons h .nil
  rw [presentDirectives_eq, presentDirectives_eq]
  exact List.rel_filter (fun _ _ h => by simp [h.isNull_eq])
    (List.rel_append hfirst (forall₂_listed hmany))

theorem Pointwise.forall₂_directives (h : Pointwise Respelled es fs) :
    List.Forall₂ Respelled (directives es) (directives fs) := by
  have hsingle := h.field? (s := "annotation") (by decide)
  have hmany := h.field? (s := "annotations") (by decide)
  refine forall₂_presentDirectives hsingle ?_
  generalize es.field? "annotations" = a at hmany
  generalize fs.field? "annotations" = b at hmany
  cases hmany with
  | none => exact .refl _
  | some hvw => exact hvw

theorem Respelled.withCanonicalKind (h : Respelled v w) :
    Respelled (withCanonicalKind v) (withCanonicalKind w) := by
  cases h with
  | refl => exact .refl _
  | list hvs => exact .list hvs
  | @mapping es fs hu hes =>
    have hkind := hes.field? (s := "kind") (by decide)
    unfold Description.withCanonicalKind
    dsimp only [Value.opened_mapping]
    generalize es.field? "kind" = a at hkind
    generalize fs.field? "kind" = b at hkind
    cases hkind with
    | none => exact .mapping hu hes
    | some hvw =>
      cases hvw with
      | refl v =>
        split
        · exact .mapping (hu.insert (by decide) _) (hes.insert (by decide) (.refl _))
        · exact .mapping hu hes
      | list => exact .mapping hu hes
      | mapping => exact .mapping hu hes

theorem respelled_directiveName (h : Respelled v w) :
    Respelled (directiveName v) (directiveName w) := by
  cases h with
  | refl => exact .refl _
  | list => exact .refl _
  | @mapping es fs _ hes =>
    have hkind := hes.field? (s := "kind") (by decide)
    unfold directiveName
    dsimp only [Value.opened_mapping]
    generalize es.field? "kind" = a at hkind
    generalize fs.field? "kind" = b at hkind
    cases hkind with
    | none => exact .refl _
    | some hvw => exact hvw

mutual

theorem Respelled.isUnwritable_eq {v w : Value} :
    Respelled v w → v.isUnwritable = w.isUnwritable
  | .refl _ => rfl
  | .list hvs => by
    simp only [Value.isUnwritable]
    exact anyUnwritable_eq hvs
  | .mapping _ hes => by
    simp only [Value.isUnwritable]
    exact anyEntryUnwritable_eq hes

theorem anyUnwritable_eq {vs ws : List Value} :
    List.Forall₂ Respelled vs ws → Value.anyUnwritable vs = Value.anyUnwritable ws
  | .nil => rfl
  | .cons hvw hvs => by
    rw [Value.anyUnwritable, Value.anyUnwritable, hvw.isUnwritable_eq, anyUnwritable_eq hvs]

theorem anyEntryUnwritable_eq {es fs : Entries} :
    Pointwise Respelled es fs → Value.anyEntryUnwritable es = Value.anyEntryUnwritable fs
  | .nil => rfl
  | .cons hkey hvw hes => by
    rw [Value.anyEntryUnwritable, Value.anyEntryUnwritable, hkey.isUnwritable_eq,
      hvw.isUnwritable_eq, anyEntryUnwritable_eq hes]

end

/-- A mapping with unambiguous keys, and one with some of them in their other spelling. -/
structure RespelledEntries (es fs : Entries) : Prop where
  unambiguous : Unambiguous es
  pointwise : Pointwise Respelled es fs

namespace RespelledEntries

variable (h : RespelledEntries es fs)

include h

theorem mapping : Respelled (.mapping es) (.mapping fs) := .mapping h.unambiguous h.pointwise

theorem insert {s : String} (hs : IsSingle s) (hvw : Respelled v w) :
    RespelledEntries (es.insert (.text s) v) (fs.insert (.text s) w) :=
  ⟨h.unambiguous.insert hs v, h.pointwise.insert hs hvw⟩

theorem gathered : RespelledEntries (gathered es) (gathered fs) := by
  have hmany := h.pointwise.field? (s := "annotations") (by decide)
  have hdirectives := h.pointwise.forall₂_directives
  unfold Description.gathered
  generalize es.field? "annotations" = a at hmany
  generalize fs.field? "annotations" = b at hmany
  cases hmany with
  | none => exact h
  | some _ =>
    have herased : RespelledEntries (es.erase (.text "annotations"))
        (fs.erase (.text "annotations")) :=
      ⟨h.unambiguous.erase _, h.pointwise.erase (by decide)⟩
    exact herased.insert (by decide) (respelled_headD hdirectives)

theorem respellDirective :
    RespelledEntries (respellDirective es) (respellDirective fs) := by
  have hsingle := h.pointwise.field? (s := "annotation") (by decide)
  unfold Description.respellDirective
  generalize es.field? "annotation" = a at hsingle
  generalize fs.field? "annotation" = b at hsingle
  cases hsingle with
  | none => exact h
  | some hvw =>
    have hinsert := h.insert (s := "annotation") (by decide) hvw.withCanonicalKind
    cases hvw with
    | refl v =>
      dsimp only
      split
      · exact hinsert
      · exact h
    | list => exact h
    | mapping => exact hinsert

theorem tellable_iff : Tellable es ↔ Tellable fs := by
  have hname : Respelled (nameValue es) (nameValue fs) := by
    have hfield := h.pointwise.field? (s := "name") (by decide)
    unfold nameValue
    generalize es.field? "name" = a at hfield
    generalize fs.field? "name" = b at hfield
    cases hfield with
    | none => exact .refl _
    | some hvw => exact hvw
  have hwords : List.Forall₂ Respelled (nameValue es :: (directives es).map directiveName)
      (nameValue fs :: (directives fs).map directiveName) := by
    refine .cons hname ?_
    rw [List.forall₂_map_left_iff, List.forall₂_map_right_iff]
    exact h.pointwise.forall₂_directives.imp fun _ _ => respelled_directiveName
  unfold Tellable
  generalize nameValue es :: (directives es).map directiveName = ws at hwords
  generalize nameValue fs :: (directives fs).map directiveName = ws' at hwords
  induction hwords with
  | nil => rfl
  | cons hvw _ ih =>
    rw [List.forall_mem_cons, List.forall_mem_cons, hvw.isUnwritable_eq]
    exact and_congr_right fun _ => ih

theorem folded : RespelledEntries (folded es) (folded fs) := h.gathered.respellDirective

end RespelledEntries

end Directives

end Description

end ShadowTypes
