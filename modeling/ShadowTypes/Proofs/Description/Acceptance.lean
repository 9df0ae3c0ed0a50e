import ShadowTypes.Proofs.Description.Complaints
import ShadowTypes.Proofs.Description.Grammar

/-!
# What is accepted

There is no complaint about a part of a description exactly if the part is one of the grammar: of a
directive with its kind in the usual spelling, of a property with its directives folded, and of a
model. A value of a JSON text is therefore read as a model exactly if it is a model of the grammar.
-/

namespace ShadowTypes

namespace Description

open Entries

/-! ## Mappings -/

section Mappings

variable {es : Entries} {v : Value}

theorem IsJson.plainKeys (h : IsJson (.mapping es)) : PlainKeys es := by
  cases h with
  | mapping hkeys _ => exact hkeys

theorem IsJson.field {s : String} (h : IsJson (.mapping es)) (hv : es.field? s = some v) :
    IsJson v := by
  cases h with
  | mapping _ hvalues => exact hvalues _ (mem_of_field? hv)

theorem IsJson.find {f : Field} {key : String} (h : IsJson (.mapping es))
    (hv : f.find? es = some (key, v)) : IsJson v := by
  cases hkey : es.field? f.key with
  | some w =>
    rw [Field.find?_of_key hkey] at hv
    cases hv
    exact h.field hkey
  | none =>
    rw [Field.find?_of_otherKey hkey, Option.map_eq_some_iff] at hv
    obtain ⟨w, hw, heq⟩ := hv
    cases heq
    exact h.field hw

theorem PlainKeys.brokenKey?_eq_none (h : PlainKeys es) : brokenKey? es = none := by
  rw [brokenKey?, Option.map_eq_none_iff, List.find?_eq_none]
  intro e he
  obtain ⟨s, hs, hplain⟩ := h e.1 (List.mem_map_of_mem he)
  simp [hs, hplain]

theorem problemsIn_optional_eq_nil_iff {f : Field} {problems : Value → List Complaint} :
    Slot.problemsIn ⟨f, false, problems⟩ es = [] ↔
      ∀ key v, f.find? es = some (key, v) → problems v = [] := by
  unfold Slot.problemsIn
  cases f.find? es with
  | none => simp
  | some e => simp [Prod.ext_iff]

theorem problemsIn_required_eq_nil_iff {f : Field} {problems : Value → List Complaint} :
    Slot.problemsIn ⟨f, true, problems⟩ es = [] ↔
      ∃ key v, f.find? es = some (key, v) ∧ problems v = [] := by
  unfold Slot.problemsIn
  cases f.find? es with
  | none => simp
  | some e => simp [Prod.ext_iff]

/-- There is no complaint about a mapping exactly if there is none about its fields and all its keys
are known. -/
theorem closedProblems_eq_nil_iff {slots : List Slot} (h : PlainKeys es)
    (hd : ∀ f ∈ slots.map Slot.field, ∀ g ∈ slots.map Slot.field,
      f.otherKey = g.key ∨ f.otherKey = g.otherKey → f = g) :
    closedProblems slots es = [] ↔
      (∀ s ∈ slots, s.problemsIn es = []) ∧ OnlyFields (slots.map Slot.field) es := by
  rw [closedProblems, h.brokenKey?_eq_none, List.append_eq_nil_iff, List.flatMap_eq_nil_iff,
    unknownKeys_eq_nil_iff hd]

/-- Which keys are known depends on nothing but the keys that there are. -/
theorem OnlyFields.congr {fields : List Field} {ds : Entries}
    (h : ∀ k, k ∈ ds.map Prod.fst ↔ k ∈ es.map Prod.fst) :
    OnlyFields fields ds ↔ OnlyFields fields es := by
  have hnone : ∀ s, ds.field? s = none ↔ es.field? s = none := by
    intro s
    rw [field?_eq_none_iff, field?_eq_none_iff, h]
  constructor
  · intro hds
    exact ⟨fun k hk => hds.keys k ((h k).mpr hk), fun f hf hne =>
      (hds.once f hf hne).imp (hnone _).mp (hnone _).mp⟩
  · intro hes
    exact ⟨fun k hk => hes.keys k ((h k).mp hk), fun f hf hne =>
      (hes.once f hf hne).imp (hnone _).mpr (hnone _).mpr⟩

end Mappings

/-! ## Directives -/

section Directives

variable {d : Family} {es : Entries} {v : Value}

/-- The usual spelling of a kind hangs on the word without hyphens and underscores alone. -/
theorem canonicalKind_eq (kind : String) :
    canonicalKind kind = (kindAlias? (squashed kind)).getD kind := by
  have halias : ∀ a ∈ kindAliases,
      kindAlias? (String.ofList (a.1.toList.filter (· != '_'))) ≠ none := by decide +kernel
  unfold canonicalKind
  dsimp only
  split
  · next k hsquashed =>
    change kindAlias? (squashed kind) = some k at hsquashed
    rw [hsquashed, Option.getD_some]
  · next hsquashed =>
    change kindAlias? (squashed kind) = none at hsquashed
    generalize htag : Text.fold (String.ofList (kind.toList.map fun c =>
      if c = '-' then '_' else c)) = tag
    -- A word that is known with its underscores is known without them as well.
    have hnone : kindAlias? tag = none := by
      rw [kindAlias?, Option.map_eq_none_iff, List.find?_eq_none]
      intro a ha heq
      refine halias a ha ?_
      rw [beq_iff_eq.mp heq, ← htag]
      exact hsquashed
    rw [hnone, hsquashed]

/-- A kind has a usual spelling exactly if the word without hyphens and underscores is known. -/
theorem canonicalKind_eq_iff {kind : String} (hd : d ∈ families) :
    canonicalKind kind = d.kind ↔ kindAlias? (squashed kind) = some d.kind := by
  have hknown : ∀ d ∈ families, kindAlias? (squashed d.kind) ≠ none := by decide +kernel
  rw [canonicalKind_eq]
  cases hsquashed : kindAlias? (squashed kind) with
  | some k => rw [Option.getD_some, Option.some.injEq]
  | none =>
    rw [Option.getD_none]
    refine iff_of_false ?_ nofun
    rintro rfl
    exact hknown d hd hsquashed

theorem familyOf?_eq_some_iff {tag : Value} :
    familyOf? tag = some d ↔ d ∈ families ∧ tag = .text d.kind := by
  constructor
  · intro h
    exact ⟨List.mem_of_find?_eq_some h, Value.sameKey_text.mp (by simpa using List.find?_some h)⟩
  · rintro ⟨hd, rfl⟩
    simp only [families, List.mem_cons, List.not_mem_nil, or_false] at hd
    rcases hd with rfl | rfl | rfl <;> simp [familyOf?, families, Value.sameKey]

/-- With its kind in the usual spelling, a directive has no complaints about its fields exactly if
its flags are flags. -/
theorem forall_slots_iff (hes : IsJson (.mapping es)) (hd : d ∈ families) :
    (∀ s ∈ d.slots, s.problemsIn (es.insert (.text "kind") (.text d.kind)) = []) ↔
      ∀ f ∈ d.flags, ∀ key v, f.find? es = some (key, v) → IsFlag v := by
  have hkind : (kindSlot d.kind).problemsIn (es.insert (.text "kind") (.text d.kind)) = [] := by
    refine problemsIn_optional_eq_nil_iff.mpr fun key v hv => ?_
    rw [kindField, find?_named, field?_insert_self] at hv
    cases hv
    simp [readKind, Reading.complaints]
  have hopen : ∀ f es, (openSlot f).problemsIn es = [] :=
    fun f es => problemsIn_optional_eq_nil_iff.mpr fun _ _ _ => rfl
  have hnames : ∀ d ∈ families, ∀ f ∈ d.flags, f.key ≠ "kind" ∧ f.otherKey ≠ "kind" := by decide
  have hflag : ∀ f ∈ d.flags, (flagSlot f).problemsIn (es.insert (.text "kind") (.text d.kind)) = []
      ↔ ∀ key v, f.find? es = some (key, v) → IsFlag v := by
    intro f hf
    have hfind : f.find? (es.insert (.text "kind") (.text d.kind)) = f.find? es := by
      rw [Field.find?, Field.find?, field?_insert_of_ne (hnames d hd f hf).1,
        field?_insert_of_ne (hnames d hd f hf).2]
    rw [flagSlot, problemsIn_optional_eq_nil_iff, hfind]
    exact forall₃_congr fun key v hv => complaints_readFlag (hes.find hv)
  rw [Family.slots, List.forall_mem_cons, List.forall_mem_append, List.forall_mem_map,
    List.forall_mem_map]
  exact ⟨fun h f hf => (hflag f hf).mp (h.2.1 f hf),
    fun h => ⟨hkind, fun f hf => (hflag f hf).mpr (h f hf), fun f _ => hopen f _⟩⟩

theorem map_field_slots (d : Family) : d.slots.map Slot.field = d.fields := by
  simp [Family.slots, Family.fields, kindSlot, flagSlot, openSlot, Function.comp_def]

theorem directiveProblems_mapping (es : Entries) :
    directiveProblems (.mapping es) = match es.field? "kind" with
      | none => [Rule.tagMissing.complaint (.mapping es)]
      | some tag => match familyOf? tag with
        | some d => (closedProblems d.slots es).map (·.under (.key d.kind))
        | none => [(Rule.tagUnknown (tagText tag)).complaint (.mapping es)] := rfl

theorem directiveProblems_of_kind {kind : String} (h : IsJson (.mapping es))
    (hkind : es.field? "kind" = some (.text kind)) :
    directiveProblems (.mapping (es.insert (.text "kind") (.text (canonicalKind kind)))) = [] ↔
      ∃ d ∈ families, IsDirective d es := by
  have hfamily : ∀ d ∈ families, IsDirective d es →
      familyOf? (.text (canonicalKind kind)) = some d := by
    intro d hd hdirective
    obtain ⟨s, hs, halias⟩ := hdirective.kind
    obtain rfl : kind = s := Value.text.inj (Option.some.inj (hkind.symm.trans hs))
    exact familyOf?_eq_some_iff.mpr ⟨hd, congrArg _ ((canonicalKind_eq_iff hd).mpr halias)⟩
  rw [directiveProblems_mapping, field?_insert_self]
  dsimp only
  cases hfound : familyOf? (.text (canonicalKind kind)) with
  | none =>
    refine iff_of_false (List.cons_ne_nil _ _) ?_
    rintro ⟨d, hd, hdirective⟩
    rw [hfamily d hd hdirective] at hfound
    cases hfound
  | some d =>
    obtain ⟨hd, htag⟩ := familyOf?_eq_some_iff.mp hfound
    have hcanonical : canonicalKind kind = d.kind := Value.text.inj htag
    have hkeys : ∀ k, k ∈ (es.insert (.text "kind") (.text d.kind)).map Prod.fst ↔
        k ∈ es.map Prod.fst := fun k => mem_keys_insert_of_field? hkind
    have hplain : PlainKeys (es.insert (.text "kind") (.text d.kind)) :=
      fun k hk => h.plainKeys k ((hkeys k).mp hk)
    have hdistinct : ∀ d ∈ families, ∀ f ∈ d.fields, ∀ g ∈ d.fields,
        f.otherKey = g.key ∨ f.otherKey = g.otherKey → f = g := by decide
    have hfields := hdistinct d hd
    rw [← map_field_slots] at hfields
    dsimp only
    rw [hcanonical, List.map_eq_nil_iff, closedProblems_eq_nil_iff hplain hfields,
      forall_slots_iff h hd, map_field_slots, OnlyFields.congr hkeys]
    constructor
    · rintro ⟨hflags, honly⟩
      exact ⟨d, hd, ⟨kind, hkind, (canonicalKind_eq_iff hd).mp hcanonical⟩, honly, hflags⟩
    · rintro ⟨g, hg, hdirective⟩
      obtain rfl : g = d := Option.some.inj ((hfamily g hg hdirective).symm.trans hfound)
      exact ⟨hdirective.flags, hdirective.keys⟩

/-- There is no complaint about a directive, with its kind in the usual spelling, exactly if it is
one of the grammar. -/
theorem directiveProblems_eq_nil_iff (h : IsJson v) (hv : v ≠ .null) :
    directiveProblems (withCanonicalKind v) = [] ↔
      ∃ es, v = .mapping es ∧ ∃ d ∈ families, IsDirective d es := by
  cases h with
  | null => exact absurd rfl hv
  | @mapping es hkeys hvalues =>
    have hmapping : (∃ ds, Value.mapping es = .mapping ds ∧ ∃ d ∈ families, IsDirective d ds) ↔
        ∃ d ∈ families, IsDirective d es := by simp
    rw [hmapping, withCanonicalKind, Value.opened_mapping]
    dsimp only
    split
    · next kind hkind => exact directiveProblems_of_kind (.mapping hkeys hvalues) hkind
    · next hkind =>
      -- Without a text as its kind the directive has one complaint, about the tag.
      refine iff_of_false ?_ ?_
      · rw [directiveProblems_mapping]
        cases htag : es.field? "kind" with
        | none => exact List.cons_ne_nil _ _
        | some tag =>
          have hnone : familyOf? tag = none := by
            by_contra hsome
            obtain ⟨d, hd⟩ := Option.ne_none_iff_exists'.mp hsome
            exact hkind _ (htag.trans (congrArg some (familyOf?_eq_some_iff.mp hd).2))
          simp [hnone]
      · rintro ⟨d, hd, hdirective⟩
        obtain ⟨s, hs, -⟩ := hdirective.kind
        exact hkind s hs
  | _ => exact iff_of_false (List.cons_ne_nil _ _) (by rintro ⟨es, ⟨⟩, -⟩)

end Directives

/-! ## Properties -/

section Properties

variable {es : Entries} {v : Value}

theorem nameSlot_eq_nil_iff (es : Entries) (h : ∀ v, es.field? "name" = some v → IsJson v) :
    nameSlot.problemsIn es = [] ↔
      ∃ s, es.field? "name" = some (.text s) ∧ IsName (Text.trimSpace s) := by
  rw [nameSlot, problemsIn_required_eq_nil_iff, nameField, find?_named]
  constructor
  · rintro ⟨key, v, hfind, hread⟩
    obtain ⟨w, hw, heq⟩ := Option.map_eq_some_iff.mp hfind
    obtain ⟨-, rfl⟩ := Prod.mk.inj heq
    obtain ⟨s, rfl, hs⟩ := (complaints_readMatching (h w hw)).mp hread
    exact ⟨s, hw, isName_iff.mp hs⟩
  · rintro ⟨s, hs, hname⟩
    refine ⟨"name", .text s, by rw [hs, Option.map_some], ?_⟩
    exact (complaints_readMatching (h _ hs)).mpr ⟨s, rfl, isName_iff.mpr hname⟩

theorem isJson_of_mem_directives (h : IsJson (.mapping es)) (hv : v ∈ directives es) :
    IsJson v ∧ v ≠ .null := by
  rw [directives, presentDirectives, List.mem_filter, List.mem_append] at hv
  obtain ⟨hmem, hnull⟩ := hv
  refine ⟨?_, by rintro rfl; cases hnull⟩
  rcases hmem with hmem | hmem
  · exact h.field (Option.mem_toList.mp hmem)
  · have hmany : IsJson ((es.field? "annotations").getD .null) := by
      cases hfield : es.field? "annotations" with
      | none => exact .null
      | some w => exact h.field hfield
    generalize (es.field? "annotations").getD .null = many at hmem hmany
    split at hmem
    · next vs hopened =>
      cases hmany with
      | list hvs =>
        cases hopened
        exact hvs v hmem
      | _ => cases hopened
    · split at hmem
      · rwa [List.mem_singleton.mp hmem]
      · cases hmem

/-- Folding takes the list of directives away and leaves all other keys to be known. -/
theorem onlyFields_folded_iff : OnlyFields [nameField, typeField, directiveField] (folded es) ↔
    OnlyFields [nameField, typeField, directiveField, .named "annotations"] es := by
  have honce : ∀ f ∈ [nameField, typeField, directiveField, .named "annotations"],
      f.key ≠ f.otherKey → f = typeField := by decide
  have htype : (folded es).field? "typeName" = es.field? "typeName" ∧
      (folded es).field? "type_name" = es.field? "type_name" :=
    ⟨field?_folded (by decide) (by decide) es, field?_folded (by decide) (by decide) es⟩
  constructor
  · intro h
    refine ⟨fun k hk => ?_, fun f hf hne => ?_⟩
    · by_cases hmany : k = .text "annotations"
      · exact ⟨_, hmany, .named "annotations", by simp, .inl rfl⟩
      · by_cases hsingle : k = .text "annotation"
        · exact ⟨_, hsingle, directiveField, by simp, .inl rfl⟩
        · obtain ⟨s, hs, f, hf, hkey⟩ := h.keys k ((mem_keys_folded hsingle).mpr ⟨hk, hmany⟩)
          exact ⟨s, hs, f, List.mem_append_left [_] hf, hkey⟩
    · obtain rfl := honce f hf hne
      have hfolded := h.once typeField (by simp) hne
      rwa [typeField, htype.1, htype.2] at hfolded
  · intro h
    refine ⟨fun k hk => ?_, fun f hf hne => ?_⟩
    · by_cases hsingle : k = .text "annotation"
      · exact ⟨_, hsingle, directiveField, by simp, .inl rfl⟩
      · obtain ⟨hk, hmany⟩ := (mem_keys_folded hsingle).mp hk
        obtain ⟨s, rfl, f, hf, hkey⟩ := h.keys k hk
        refine ⟨s, rfl, f, ?_, hkey⟩
        rcases List.mem_append.mp (show f ∈ [nameField, typeField, directiveField] ++ [_] from hf)
          with hf | hf
        · exact hf
        · obtain rfl := List.mem_singleton.mp hf
          exact absurd (congrArg Value.text (or_self_iff.mp hkey)) hmany
    · obtain rfl := honce f (List.mem_append_left [_] hf) hne
      have hes := h.once typeField (by simp) hne
      rwa [typeField, ← htype.1, ← htype.2] at hes

theorem PlainKeys.folded (h : PlainKeys es) : PlainKeys (folded es) := by
  intro k hk
  by_cases hsingle : k = .text "annotation"
  · exact ⟨_, hsingle, by decide⟩
  · exact h k ((mem_keys_folded hsingle).mp hk).1

theorem propertyProblems_mapping_eq_nil_iff : propertyProblems (.mapping es) = [] ↔
    (directives es).length < 2 ∧ closedProblems propertySlots (folded es) = [] := by
  change (if 2 ≤ (directives es).length then [Rule.unwritable.complaint (.mapping es)]
    else closedProblems propertySlots (folded es)) = [] ↔ _
  by_cases h : 2 ≤ (directives es).length
  · simp [h, Nat.not_lt.mpr h]
  · simp [h, Nat.not_le.mp h]

theorem conflict?_mapping_of_lt (h : (directives es).length < 2) : conflict? (.mapping es) = none :=
  if_neg fun hc => Nat.not_le.mpr h hc.1

/-- The single directive of a property without a conflict has no complaint exactly if there is none
or it is one of the grammar. -/
theorem directiveSlot_eq_nil_iff (h : IsJson (.mapping es)) (hlength : (directives es).length < 2) :
    Slot.problemsIn ⟨directiveField, false, directiveProblems⟩ (folded es) = [] ↔
      directives es = [] ∨
        ∃ ds, directives es = [.mapping ds] ∧ ∃ d ∈ families, IsDirective d ds := by
  have hsingle : Slot.problemsIn ⟨directiveField, false, directiveProblems⟩ (folded es) = [] ↔
      directiveProblems (withCanonicalKind ((directives es).headD .null)) = [] := by
    rw [← getD_field?_folded, problemsIn_optional_eq_nil_iff, directiveField, find?_named]
    cases (folded es).field? "annotation" with
    | none => simp [directiveProblems]
    | some v => simp
  rw [hsingle]
  rcases hdirectives : directives es with _ | ⟨d, _ | ⟨d', ds⟩⟩
  · simp [withCanonicalKind, directiveProblems]
  · obtain ⟨hd, hne⟩ := isJson_of_mem_directives h (v := d) (by simp [hdirectives])
    rw [List.headD_cons, directiveProblems_eq_nil_iff hd hne]
    simp
  · rw [hdirectives, List.length_cons, List.length_cons] at hlength
    omega

theorem typeSlot_eq_nil_iff (h : IsJson (.mapping es)) :
    Slot.problemsIn ⟨typeField, true, fun v => (readFilled false v).complaints⟩ (folded es) = [] ↔
      ∃ key s, typeField.find? es = some (key, .text s) ∧
        ∃ c ∈ s.toList, Text.isBlank c = false := by
  have hfolded : typeField.find? (folded es) = typeField.find? es := by
    rw [typeField, Field.find?, Field.find?, field?_folded (by decide) (by decide),
      field?_folded (by decide) (by decide)]
  rw [problemsIn_required_eq_nil_iff, hfolded]
  constructor
  · rintro ⟨key, v, hfind, hread⟩
    obtain ⟨s, rfl, hs⟩ := (complaints_readFilled (h.find hfind)).mp hread
    exact ⟨key, s, hfind, hs⟩
  · rintro ⟨key, s, hfind, hs⟩
    exact ⟨key, .text s, hfind, (complaints_readFilled (h.find hfind)).mpr ⟨s, rfl, hs⟩⟩

/-- A property has neither a conflict nor complaints exactly if it is one of the grammar. -/
theorem propertyProblems_eq_nil_iff (h : IsJson v) :
    conflict? v = none ∧ propertyProblems v = [] ↔ ∃ es, v = .mapping es ∧ IsProperty es := by
  cases h with
  | @mapping es hkeys hvalues =>
    have hes : IsJson (.mapping es) := .mapping hkeys hvalues
    have hname : (folded es).field? "name" = es.field? "name" :=
      field?_folded (by decide) (by decide) es
    have hnames := nameSlot_eq_nil_iff (folded es) fun v hv => hes.field (hname ▸ hv)
    rw [hname] at hnames
    have hdistinct : ∀ f ∈ propertySlots.map Slot.field, ∀ g ∈ propertySlots.map Slot.field,
        f.otherKey = g.key ∨ f.otherKey = g.otherKey → f = g := by decide
    rw [propertyProblems_mapping_eq_nil_iff,
      and_iff_right_of_imp fun hp => conflict?_mapping_of_lt hp.1,
      closedProblems_eq_nil_iff hes.plainKeys.folded hdistinct, propertySlots, List.forall_mem_cons,
      List.forall_mem_cons, List.forall_mem_singleton]
    constructor
    · rintro ⟨hlength, ⟨hname, htype, hdirective⟩, hkeys⟩
      exact ⟨es, rfl, hnames.mp hname, (typeSlot_eq_nil_iff hes).mp htype,
        (directiveSlot_eq_nil_iff hes hlength).mp hdirective, onlyFields_folded_iff.mp hkeys⟩
    · rintro ⟨ds, heq, hproperty⟩
      cases heq
      have hlength : (directives es).length < 2 := by
        rcases hproperty.directive with hd | ⟨ds, hd, -⟩ <;> simp [hd]
      exact ⟨hlength, ⟨hnames.mpr hproperty.name, (typeSlot_eq_nil_iff hes).mpr hproperty.type,
        (directiveSlot_eq_nil_iff hes hlength).mpr hproperty.directive⟩,
        onlyFields_folded_iff.mpr hproperty.keys⟩
  | _ => exact iff_of_false (fun hnil => List.cons_ne_nil _ _ hnil.2) (by rintro ⟨es, ⟨⟩, -⟩)

end Properties

/-! ## Models -/

section Models

variable {es : Entries} {v : Value}

/-- The properties of a model have neither conflicts nor complaints exactly if they are a list of
properties of the grammar. -/
theorem propertiesProblems_eq_nil_iff (h : IsJson v) :
    (∀ p ∈ (items? v).getD [], conflict? p = none) ∧ propertiesProblems v = [] ↔
      ∃ vs, v = .list vs ∧ ∀ p ∈ vs, ∃ ps, p = .mapping ps ∧ IsProperty ps := by
  cases h with
  | @list vs hvs =>
    have hproblems : propertiesProblems (.list vs) =
        vs.zipIdx.flatMap fun x => (propertyProblems x.1).map (·.under (.index x.2)) := rfl
    have hitems : propertiesProblems (.list vs) = [] ↔ ∀ p ∈ vs, propertyProblems p = [] := by
      rw [hproblems, List.flatMap_eq_nil_iff]
      conv_rhs => rw [← List.zipIdx_map_fst 0 vs, List.forall_mem_map]
      exact forall₂_congr fun x _ => List.map_eq_nil_iff
    have hlist : (∃ us, Value.list vs = .list us ∧ ∀ p ∈ us, ∃ ps, p = .mapping ps ∧
        IsProperty ps) ↔ ∀ p ∈ vs, ∃ ps, p = .mapping ps ∧ IsProperty ps := by simp
    have hmembers : (items? (.list vs)).getD [] = vs := rfl
    rw [hitems, hlist, hmembers, ← forall₂_and]
    exact forall₂_congr fun p hp => propertyProblems_eq_nil_iff (hvs p hp)
  | _ => exact iff_of_false (fun hnil => List.cons_ne_nil _ _ hnil.2) (by rintro ⟨vs, ⟨⟩, -⟩)

theorem propertiesSlot_eq_nil_iff (h : IsJson (.mapping es)) :
    (∀ p ∈ propertiesOf es, conflict? p = none) ∧
      Slot.problemsIn ⟨propertiesField, false, propertiesProblems⟩ es = [] ∧
      ((propertiesOf es).map nameOf).Nodup ↔
    ∀ v, es.field? "properties" = some v → ∃ vs, v = .list vs ∧
      (∀ p ∈ vs, ∃ ps, p = .mapping ps ∧ IsProperty ps) ∧ (vs.map nameOf).Nodup := by
  rw [problemsIn_optional_eq_nil_iff, propertiesField, find?_named, propertiesOf]
  cases hfield : es.field? "properties" with
  | none => simp
  | some w =>
    have hw := propertiesProblems_eq_nil_iff (h.field hfield)
    have hvalue : (∀ key v, (some w).map ("properties", ·) = some (key, v) →
        propertiesProblems v = []) ↔ propertiesProblems w = [] := by simp
    rw [hvalue, Option.bind_some, ← and_assoc, hw]
    constructor
    · rintro ⟨⟨vs, rfl, hvs⟩, hnames⟩ v hv
      cases hv
      exact ⟨vs, rfl, hvs, hnames⟩
    · intro hall
      obtain ⟨vs, rfl, hvs, hnames⟩ := hall w rfl
      exact ⟨⟨vs, rfl, hvs⟩, hnames⟩

theorem spaceSlot_eq_nil_iff (h : IsJson (.mapping es)) :
    Slot.problemsIn ⟨spaceField, false, fun v => (readSpace false v).complaints⟩ es = [] ↔
      ∀ v, es.field? "namespace" = some v → ∃ s, v = .text s ∧ IsSpace (Text.trimSpace s) := by
  rw [problemsIn_optional_eq_nil_iff, spaceField, find?_named]
  cases hfield : es.field? "namespace" with
  | none => simp
  | some w =>
    have hw : (readSpace false w).complaints = [] ↔ _ := complaints_readMatching (h.field hfield)
    simp only [isSpace_iff] at hw
    simpa using hw

theorem exists_readModel_iff (es : Entries) :
    (∃ m, readModel false (.mapping es) = .done m) ↔
      (∀ p ∈ propertiesOf es, conflict? p = none) ∧ closedProblems modelSlots es = [] ∧
        ((propertiesOf es).map nameOf).Nodup := by
  have hread := comesTo_readFields es
  simp only [← List.findSome?_eq_none_iff, readModel_mapping, distinctly_eq_done_iff]
  constructor
  · rintro ⟨m, hm, hdistinct⟩
    rw [hm] at hread
    obtain ⟨hfault, hproblems, hnames⟩ := hread.of_done
    exact ⟨hfault, hproblems, hnames ▸ hdistinct⟩
  · rintro ⟨hfault, hproblems, hdistinct⟩
    rw [hfault, hproblems] at hread
    obtain ⟨m, hm, hnames⟩ := hread.exists_eq_done
    exact ⟨m, hm, hnames ▸ hdistinct⟩

theorem exists_readModel_iff_isModel (h : IsJson (.mapping es)) :
    (∃ m, readModel false (.mapping es) = .done m) ↔ IsModel es := by
  have hdistinct : ∀ f ∈ modelSlots.map Slot.field, ∀ g ∈ modelSlots.map Slot.field,
      f.otherKey = g.key ∨ f.otherKey = g.otherKey → f = g := by decide
  have hname := nameSlot_eq_nil_iff es fun v hv => h.field hv
  have hproperties := propertiesSlot_eq_nil_iff h
  rw [exists_readModel_iff, closedProblems_eq_nil_iff h.plainKeys hdistinct, modelSlots,
    List.forall_mem_cons, List.forall_mem_cons, List.forall_mem_singleton, spaceSlot_eq_nil_iff h,
    hname]
  constructor
  · rintro ⟨hconflict, ⟨⟨hspace, hname, hslot⟩, hkeys⟩, hnames⟩
    exact ⟨hname, hspace, hproperties.mp ⟨hconflict, hslot, hnames⟩, hkeys⟩
  · intro hm
    obtain ⟨hconflict, hslot, hnames⟩ := hproperties.mpr hm.properties
    exact ⟨hconflict, ⟨⟨hm.space, hm.name, hslot⟩, hm.keys⟩, hnames⟩

theorem exists_parse_iff {α : Type} {form : Form α} :
    (∃ a, form.parse v = .ok a) ↔ ∃ a, form.read false v = .done a := by
  unfold Form.parse
  cases form.read false v <;> simp

theorem exists_enter_iff {α : Type} {form : Form α} {origin : String} :
    (∃ a, form.enter v origin = .ok a) ↔ ∃ a, form.read false v = .done a := by
  unfold Form.enter
  cases form.read false v <;> simp

/-- The parser accepts exactly the grammar: a value of a JSON text is read as a model, directly or
from an origin, if and only if it is a model of the grammar. -/
theorem parses_iff_isModel (h : IsJson v) :
    ((∃ m, modelForm.parse v = .ok m) ↔ ∃ es, v = .mapping es ∧ IsModel es) ∧
    ∀ origin, (∃ m, modelForm.enter v origin = .ok m) ↔ ∃ es, v = .mapping es ∧ IsModel es := by
  have hread : (∃ m, readModel false v = .done m) ↔ ∃ es, v = .mapping es ∧ IsModel es := by
    cases h with
    | mapping hkeys hvalues =>
      rw [exists_readModel_iff_isModel (.mapping hkeys hvalues)]
      simp
    | _ => exact iff_of_false (by rintro ⟨m, ⟨⟩⟩) (by rintro ⟨es, ⟨⟩, -⟩)
  rw [← hread]
  exact ⟨exists_parse_iff, fun _ => exists_enter_iff⟩

theorem isJson_nil : IsJson (.mapping []) := .mapping (by simp [PlainKeys]) (by simp)

theorem IsJson.cons {s : String} (hs : Text.isBroken s = false) (hv : IsJson v)
    (h : IsJson (.mapping es)) : IsJson (.mapping ((.text s, v) :: es)) := by
  cases h with
  | mapping hkeys hvalues =>
    exact .mapping (List.forall_mem_cons.mpr ⟨⟨s, rfl, hs⟩, hkeys⟩)
      (List.forall_mem_cons.mpr ⟨hv, hvalues⟩)

/-- A model with a property whose directive is one of a list, and whose flag is a word. -/
theorem isModel_order :
    let directive : Entries :=
      [(.text "kind", .text "Nested-Model"), (.text "allow_null", .text "Y")]
    let line : Entries := [(.text "name", .text " @Line "), (.text "type_name", .text "shop.Item"),
      (.text "annotations", .list [.null, .mapping directive])]
    let order : Entries := [(.text "namespace", .text " shop.sales"), (.text "name", .text "Order"),
      (.text "properties", .list [.mapping line])]
    IsJson (.mapping order) ∧ IsModel order := by
  intro directive line order
  have hdirective : IsJson (.mapping directive) :=
    .cons (by decide) (.text (by decide)) (.cons (by decide) (.text (by decide)) isJson_nil)
  have hline : IsJson (.mapping line) :=
    .cons (by decide) (.text (by decide)) (.cons (by decide) (.text (by decide))
      (.cons (by decide) (.list (by simpa using ⟨.null, hdirective⟩)) isJson_nil))
  have horder : IsJson (.mapping order) :=
    .cons (by decide) (.text (by decide)) (.cons (by decide) (.text (by decide))
      (.cons (by decide) (.list (by simpa using hline)) isJson_nil))
  obtain ⟨es, heq, hmodel⟩ := (parses_iff_isModel horder).1.mp ⟨_, rfl⟩
  cases heq
  exact ⟨horder, hmodel⟩

end Models

end Description

end ShadowTypes
