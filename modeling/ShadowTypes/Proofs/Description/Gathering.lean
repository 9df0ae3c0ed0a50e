import ShadowTypes.Proofs.Description.Success

/-!
# Directives in either place

A property names its directive on its own or as the only one of a list. What is read of the
property depends on its other entries and on the directive alone, so that the place of the directive
shows at most in what is quoted. Something that is no list counts as the only item of one unless it
holds nothing: then it is passed over, and the property is read as if nothing had been said.
-/

namespace ShadowTypes

namespace Description

open Entries

/-! ## Complaints with something forgotten -/

def unquoted (c : Complaint) : Complaint := { c with found := .null }

/-- Forgetting hangs neither on the way to a complaint nor on what was found. -/
structure Forgets (f : Complaint → Complaint) : Prop where
  under : ∀ s c, f (c.under s) = (f c).under s
  found : ∀ c v, f { c with found := v } = f c

theorem forgets_unquoted : Forgets unquoted := ⟨fun _ _ => rfl, fun _ _ => rfl⟩

namespace Reading

variable {α β : Type} {f : Complaint → Complaint} {r r' : Reading α}

/-- The reading with something forgotten of its complaints. -/
def forget (f : Complaint → Complaint) : Reading α → Reading α
  | .done a => .done a
  | .issues cs => .issues (cs.map f)
  | .halted e => .halted e

theorem forget_map (f : Complaint → Complaint) (r : Reading α) (g : α → β) :
    (r.map g).forget f = (r.forget f).map g := by
  cases r <;> rfl

theorem forget_both (f : Complaint → Complaint) (r : Reading α) (s : Reading β) :
    (r.both s).forget f = (r.forget f).both (s.forget f) := by
  cases r <;> cases s <;> simp [both, forget]

theorem forget_under (hf : Forgets f) (r : Reading α) (s : Step) :
    (r.under s).forget f = (r.forget f).under s := by
  cases r with
  | done a => rfl
  | issues cs =>
    simp only [under, forget, List.map_map, Reading.issues.injEq]
    exact List.map_congr_left fun c _ => hf.under s c
  | halted e => rfl

theorem forget_withIssues (f : Complaint → Complaint) (r : Reading α) (cs : List Complaint) :
    (r.withIssues cs).forget f = (r.forget f).withIssues (cs.map f) := by
  cases r <;> cases cs <;> simp [withIssues, forget]

end Reading

open Reading

/-! ## Entries about something else -/

section Others

variable {α : Type} {f : Complaint → Complaint} {es fs : Entries} {k s : String}

theorem field?_eq_of_erase_eq (h : es.erase (.text k) = fs.erase (.text k)) (hs : s ≠ k) :
    es.field? s = fs.field? s := by
  rw [← field?_erase_of_ne hs es, h, field?_erase_of_ne hs fs]

theorem brokenKey?_erase (hk : Text.isBroken k = false) (es : Entries) :
    brokenKey? (es.erase (.text k)) = brokenKey? es := by
  rw [brokenKey?, brokenKey?, erase, List.find?_filter]
  congr 2
  funext e
  rw [Bool.eq_iff_iff, decide_eq_true_iff]
  refine and_iff_right_of_imp fun hbroken => ?_
  rw [Bool.not_eq_true', Bool.eq_false_iff, Ne, Value.sameKey_text]
  intro hkey
  rw [hkey] at hbroken
  exact Bool.false_ne_true (hk.symm.trans hbroken)

/-- Which keys are used hangs on a field with one spelling for this spelling alone. -/
theorem mem_used_erase_iff {fields : List Field}
    (hne : ∀ f ∈ fields, f = .named k ∨ (f.key ≠ k ∧ f.otherKey ≠ k)) (hs : s ≠ k) (es : Entries) :
    s ∈ fields.filterMap (fun f => (f.find? (es.erase (.text k))).map Prod.fst) ↔
      s ∈ fields.filterMap (fun f => (f.find? es).map Prod.fst) := by
  rw [List.mem_filterMap, List.mem_filterMap]
  refine exists_congr fun f => and_congr_right fun hf => ?_
  rcases hne f hf with rfl | ⟨hkey, hother⟩
  · rw [find?_named, find?_named]
    refine iff_of_false ?_ ?_
    · cases (es.erase (.text k)).field? k <;> simp [Ne.symm hs]
    · cases es.field? k <;> simp [Ne.symm hs]
  · rw [Field.find?, Field.find?, field?_erase_of_ne hkey, field?_erase_of_ne hother]

/-- A field with one spelling makes no difference to the complaints about unknown keys. -/
theorem unknownKeys_erase {fields : List Field} (hk : .named k ∈ fields)
    (hne : ∀ f ∈ fields, f = .named k ∨ (f.key ≠ k ∧ f.otherKey ≠ k)) (es : Entries) :
    unknownKeys fields (es.erase (.text k)) = unknownKeys fields es := by
  rw [unknownKeys, unknownKeys, erase, List.filterMap_filter]
  refine List.filterMap_congr fun e he => ?_
  obtain ⟨key, v⟩ := e
  by_cases hkey : key = .text k
  · subst hkey
    have hfind : (es.field? k).isSome = true := by
      rw [Option.isSome_iff_ne_none]
      exact fun hnone => field?_eq_none_iff.mp hnone (List.mem_map_of_mem he)
    obtain ⟨w, hw⟩ := Option.isSome_iff_exists.mp hfind
    have hused : k ∈ fields.filterMap fun f => (f.find? es).map Prod.fst :=
      List.mem_filterMap.mpr ⟨_, hk, by rw [find?_named, hw]; rfl⟩
    simp [Value.sameKey, hused]
  · have hkeep : (!key.sameKey (.text k)) = true := by
      rw [Bool.not_eq_true', Bool.eq_false_iff, Ne, Value.sameKey_text]
      exact hkey
    rw [if_pos hkeep]
    cases key with
    | text s =>
      have hs : s ≠ k := fun heq => hkey (congrArg _ heq)
      have hused := mem_used_erase_iff hne hs es
      simp only [erase, ← List.contains_iff_mem] at hused
      exact if_congr hused rfl rfl
    | _ => rfl

/-! ## Properties -/

theorem closing_of_plain (h : brokenKey? es = none) (fields : List Field) (r : Reading α) :
    closing fields es r = r.withIssues (unknownKeys fields es) := by
  rw [closing_eq, h]
  cases r <;> rfl

theorem closing_of_broken {p : α → Prop} {r : Reading α} {cs : List Complaint} {key : Value}
    (h : brokenKey? es = some key) (hr : ComesTo p r none cs) (fields : List Field) :
    closing fields es r = .refuse .textBytes key := by
  rw [closing_eq, h]
  cases hr <;> rfl

/-- What was read of the fields of a mapping and what is told of its keys are all that its reading
comes to. -/
theorem forget_closing_congr {fields : List Field} {r r' : Reading α}
    (hbroken : brokenKey? es = brokenKey? fs)
    (hunknown : unknownKeys fields es = unknownKeys fields fs) (h : r.forget f = r'.forget f) :
    (closing fields es r).forget f = (closing fields fs r').forget f := by
  cases hkey : brokenKey? fs with
  | none =>
    rw [closing_of_plain (hbroken.trans hkey), closing_of_plain hkey, forget_withIssues, h,
      hunknown, forget_withIssues]
  | some k =>
    rw [closing_eq, closing_eq, hbroken, hkey]
    cases r <;> cases r' <;> first | rfl | (cases h <;> rfl)

theorem forget_required_congr (hf : Forgets f) {field : Field} {read : Value → Reading α}
    (h : field.find? es = field.find? fs) :
    (field.required es read).forget f = (field.required fs read).forget f := by
  unfold Field.required
  rw [h]
  cases field.find? fs with
  | some e => rfl
  | none =>
    have hmapping : ∀ ds : Entries, f (Rule.missing.complaint (.mapping ds) [.key field.key]) =
        f (Rule.missing.complaint .null [.key field.key]) := fun ds =>
      hf.found (Rule.missing.complaint .null [.key field.key]) (.mapping ds)
    simp only [forget, List.map_cons, hmapping]

/-- A property is what is read of its directive, up to the quotes of its entries, if the other
entries are the same. -/
theorem forget_readFolded_congr (hf : Forgets f) {strict : Bool}
    (h : es.erase (.text "annotation") = fs.erase (.text "annotation"))
    (hd : (directiveField.optional es none (readOptionalDirective strict)).forget f =
      (directiveField.optional fs none (readOptionalDirective strict)).forget f) :
    (readFolded strict es).forget f = (readFolded strict fs).forget f := by
  have hfields : ∀ g ∈ [nameField, typeField, directiveField],
      g = .named "annotation" ∨ (g.key ≠ "annotation" ∧ g.otherKey ≠ "annotation") := by decide
  have hbroken : brokenKey? es = brokenKey? fs := by
    rw [← brokenKey?_erase (k := "annotation") (by decide), h, brokenKey?_erase (by decide)]
  have hunknown : unknownKeys [nameField, typeField, directiveField] es =
      unknownKeys [nameField, typeField, directiveField] fs := by
    rw [← unknownKeys_erase (k := "annotation") (by decide) hfields, h,
      unknownKeys_erase (by decide) hfields]
  have hname : nameField.find? es = nameField.find? fs := by
    rw [nameField, find?_named, find?_named, field?_eq_of_erase_eq h (by decide)]
  have htype : typeField.find? es = typeField.find? fs := by
    rw [typeField, Field.find?, Field.find?, field?_eq_of_erase_eq h (by decide),
      field?_eq_of_erase_eq h (by decide)]
  refine forget_closing_congr hbroken hunknown ?_
  rw [forget_map, forget_both, forget_both, forget_required_congr hf hname,
    forget_required_congr hf htype, hd, forget_map, forget_both, forget_both]

end Others

/-! ## Folding -/

/-- The entries of a property that are not about directives. -/
def others (es : Entries) : Entries := (es.erase (.text "annotation")).erase (.text "annotations")

section Folding

variable {f : Complaint → Complaint} {es fs : Entries} {strict : Bool} {v x : Value}
  {vs : List Value}

theorem erase_folded (es : Entries) : (folded es).erase (.text "annotation") = others es := by
  have hrespell : ∀ es : Entries,
      (respellDirective es).erase (.text "annotation") = es.erase (.text "annotation") := by
    intro es
    unfold respellDirective
    split
    · split
      · exact erase_insert_self _ _ _
      · rfl
    · rfl
  rw [folded, hrespell, gathered, others]
  split
  · next hnone =>
    have hkeep : (es.erase (.text "annotation")).field? "annotations" = none :=
      (field?_erase_of_ne (by decide) es).trans hnone
    rw [erase_of_field?_eq_none hkeep]
  · rw [erase_insert_self, erase_comm]

theorem optional_folded (strict : Bool) (es : Entries) :
    directiveField.optional (folded es) none (readOptionalDirective strict) =
      (readOptionalDirective strict (withCanonicalKind ((directives es).headD .null))).under
        (.key "annotation") := by
  rw [← getD_field?_folded, Field.optional, directiveField, find?_named]
  cases (folded es).field? "annotation" <;> rfl

theorem readProperty_mapping (strict : Bool) (es : Entries) :
    readProperty strict (.mapping es) =
      if 2 ≤ (directives es).length then
        if Tellable es then .halted (conflict es) else .refuse .unwritable (.mapping es)
      else readFolded strict (folded es) := by
  rw [readProperty, readEntries_eq]
  simp only [entries?, Value.opened_mapping, foldDirectives_eq]
  split
  · split <;> rfl
  · rfl

theorem nameValue_congr (h : others es = others fs) : nameValue es = nameValue fs := by
  have hname : ∀ ds, (others ds).field? "name" = ds.field? "name" := by
    intro ds
    rw [others, field?_erase_of_ne (by decide), field?_erase_of_ne (by decide)]
  rw [nameValue, ← hname es, h, hname, nameValue]

theorem conflict_congr (h : others es = others fs) (hd : directives es = directives fs) :
    conflict es = conflict fs := by
  rw [conflict, conflict, hd, nameValue_congr h]

theorem tellable_congr (h : others es = others fs) (hd : directives es = directives fs) :
    Tellable es ↔ Tellable fs := by
  rw [Tellable, Tellable, hd, nameValue_congr h]

theorem forget_refuse (hf : Forgets f) (rule : Rule) (v w : Value) :
    (refuse rule v : Reading α).forget f = (refuse rule w).forget f := by
  simp only [refuse, forget, List.map_cons]
  rw [← hf.found (rule.complaint w) v]
  rfl

/-- Two properties are read alike, up to what is forgotten, if their other entries are the same and
their directives are read alike. -/
theorem forget_readProperty_congr (hf : Forgets f) (h : others es = others fs)
    (hmany : 2 ≤ (directives es).length ∨ 2 ≤ (directives fs).length →
      directives es = directives fs)
    (hread : (readOptionalDirective strict
        (withCanonicalKind ((directives es).headD .null))).forget f =
      (readOptionalDirective strict (withCanonicalKind ((directives fs).headD .null))).forget f) :
    (readProperty strict (.mapping es)).forget f =
      (readProperty strict (.mapping fs)).forget f := by
  rw [readProperty_mapping, readProperty_mapping]
  by_cases hlength : 2 ≤ (directives es).length ∨ 2 ≤ (directives fs).length
  · have heq := hmany hlength
    rw [heq, or_self] at hlength
    rw [heq, if_pos hlength, if_pos hlength, conflict_congr h heq]
    by_cases ht : Tellable fs
    · rw [if_pos ((tellable_congr h heq).mpr ht), if_pos ht]
    · rw [if_neg (mt (tellable_congr h heq).mp ht), if_neg ht]
      exact forget_refuse hf _ _ _
  · rw [not_or] at hlength
    rw [if_neg hlength.1, if_neg hlength.2]
    refine forget_readFolded_congr hf (by rw [erase_folded, h, erase_folded]) ?_
    rw [optional_folded, optional_folded, forget_under hf, hread, forget_under hf]

theorem unquoted_readProperty_congr (strict : Bool) (h : others es = others fs)
    (hd : directives es = directives fs) :
    (readProperty strict (.mapping es)).forget unquoted =
      (readProperty strict (.mapping fs)).forget unquoted :=
  forget_readProperty_congr forgets_unquoted h (fun _ => hd) (by rw [hd])

/-! ## What becomes of directives -/

/-- The values in what is given as the list of directives: its items, or what stands in place of a
list. -/
def offered (v : Value) : List Value :=
  match v.opened with
  | .list vs => vs
  | _ => [v]

/-- The values that a property gives for its directive, other than null. -/
def given (es : Entries) : List Value :=
  ((es.field? "annotation").toList ++ (es.field? "annotations").elim [] offered).filter
    fun v => !v.isNull

/-- How the list of directives is folded into the single one. -/
structure Folds (strict : Bool) (es : Entries) : Prop where
  /-- Something in place of a list is read just as the only item of one. Only the complaint that a
  conflict cannot be told quotes the property as it was given. -/
  listed : ∀ x, es.field? "annotations" = some x → x ≠ .null → (∀ vs, x.opened ≠ .list vs) →
    let fs := es.insert (.text "annotations") (.list [x])
    readProperty strict (.mapping es) = readProperty strict (.mapping fs) ∨
      (readProperty strict (.mapping es) = .refuse .unwritable (.mapping es) ∧
        readProperty strict (.mapping fs) = .refuse .unwritable (.mapping fs))
  /-- The only item of a list other than null is read as the single directive. -/
  single : ∀ many vs x, es.field? "annotations" = some many → many.opened = .list vs →
    vs.filter (fun v => !v.isNull) = [x] → (es.field? "annotation").getD .null = .null →
    ∀ fs, others fs = others es → fs.field? "annotations" = none →
      fs.field? "annotation" = some x →
      (readProperty strict (.mapping es)).forget unquoted =
        (readProperty strict (.mapping fs)).forget unquoted
  /-- A list without items other than null may be left out, and so may null in its place. -/
  absent : ∀ many, es.field? "annotations" = some many →
    many = .null ∨ (∃ vs, many.opened = .list vs ∧ ∀ v ∈ vs, v = .null) →
    (readProperty strict (.mapping es)).forget unquoted =
      (readProperty strict (.mapping (es.erase (.text "annotations")))).forget unquoted
  /-- Nothing that was given gets lost: it is the directive of the property that was read. -/
  kept : ∀ p, readProperty strict (.mapping es) = .done p → ∀ v ∈ given es,
    ∃ d, p.directive = some d ∧ readDirective strict (withCanonicalKind v) = .done d

/-- No list and not null, but counts as nothing. -/
def IsVoid (x : Value) : Prop := x ≠ .null ∧ (∀ vs, x.opened ≠ .list vs) ∧ x.isFilled = false

theorem listed_of_filled (h : ∀ vs, x.opened ≠ .list vs) (hfilled : x.isFilled = true) :
    listed x = [x] := by
  unfold listed
  split
  · next vs hopened => exact absurd hopened (h vs)
  · exact if_pos hfilled

theorem listed_of_list (h : x.opened = .list vs) : listed x = vs := by
  rw [listed, h]

theorem offered_of_list (h : x.opened = .list vs) : offered x = vs := by
  rw [offered, h]

theorem offered_of_not_list (h : ∀ vs, x.opened ≠ .list vs) : offered x = [x] := by
  unfold offered
  split
  · next vs hopened => exact absurd hopened (h vs)
  · rfl

theorem filter_listed_eq_offered (h : ¬IsVoid x) :
    (listed x).filter (fun v => !v.isNull) = (offered x).filter fun v => !v.isNull := by
  by_cases hlist : ∃ vs, x.opened = .list vs
  · obtain ⟨vs, hvs⟩ := hlist
    rw [listed_of_list hvs, offered_of_list hvs]
  · rw [not_exists] at hlist
    by_cases hnull : x = .null
    · subst hnull
      rfl
    · have hfilled : x.isFilled = true := by
        by_contra hne
        exact h ⟨hnull, hlist, eq_false_of_ne_true hne⟩
      rw [listed_of_filled hlist hfilled, offered_of_not_list hlist]

theorem directives_of_some (h : es.field? "annotations" = some x) :
    directives es = ((es.field? "annotation").toList ++ listed x).filter fun v => !v.isNull := by
  rw [directives, h, Option.getD_some, presentDirectives_eq]

theorem directives_of_none (h : es.field? "annotations" = none) :
    directives es = (es.field? "annotation").toList.filter fun v => !v.isNull := by
  rw [directives, h, Option.getD_none, presentDirectives_eq]
  exact congrArg _ (List.append_nil _)

/-- All that is given is kept, unless there is something void in place of a list. -/
theorem given_eq_directives (h : ∀ x, es.field? "annotations" = some x → ¬IsVoid x) :
    given es = directives es := by
  unfold given
  cases hmany : es.field? "annotations" with
  | none => rw [directives_of_none hmany, Option.elim_none, List.append_nil]
  | some many =>
    rw [directives_of_some hmany, Option.elim_some, List.filter_append, List.filter_append,
      filter_listed_eq_offered (h many hmany)]

theorem directives_erase (es : Entries) :
    directives (es.erase (.text "annotations")) =
      (es.field? "annotation").toList.filter fun v => !v.isNull := by
  have hnone : (es.erase (.text "annotations")).field? "annotations" = none := by
    rw [field?_eq_none_iff, mem_keys_erase]
    exact fun h => h.2 rfl
  rw [directives_of_none hnone, field?_erase_of_ne (by decide)]

theorem others_erase (es : Entries) : others (es.erase (.text "annotations")) = others es := by
  rw [others, others, erase_comm es, erase_erase]

theorem unquoted_readProperty_erase (strict : Bool) (h : es.field? "annotations" = some x)
    (hx : (listed x).filter (fun v => !v.isNull) = []) :
    (readProperty strict (.mapping es)).forget unquoted =
      (readProperty strict (.mapping (es.erase (.text "annotations")))).forget unquoted := by
  refine unquoted_readProperty_congr strict (others_erase es).symm ?_
  rw [directives_erase, directives_of_some h, List.filter_append, hx, List.append_nil]

theorem readProperty_insert (strict : Bool) (h : es.field? "annotations" = some x)
    (hx : listed v = listed x) :
    let fs := es.insert (.text "annotations") v
    readProperty strict (.mapping es) = readProperty strict (.mapping fs) ∨
      (readProperty strict (.mapping es) = .refuse .unwritable (.mapping es) ∧
        readProperty strict (.mapping fs) = .refuse .unwritable (.mapping fs)) := by
  intro fs
  have hmany : fs.field? "annotations" = some v := field?_insert_self _ _ _
  have hdirectives : directives fs = directives es := by
    rw [directives_of_some hmany, directives_of_some h, hx, field?_insert_of_ne (by decide)]
  have hgathered : gathered fs = gathered es := by
    simp only [gathered, hmany, h, hdirectives, fs, erase_insert_self]
  have hothers : others fs = others es := by
    rw [← others_erase, erase_insert_self, others_erase]
  rw [readProperty_mapping, readProperty_mapping, folded, folded, hgathered, hdirectives,
    conflict_congr hothers hdirectives]
  by_cases hlength : 2 ≤ (directives es).length
  · rw [if_pos hlength, if_pos hlength]
    by_cases ht : Tellable es
    · rw [if_pos ht, if_pos ((tellable_congr hothers hdirectives).mpr ht)]
      exact .inl rfl
    · rw [if_neg ht, if_neg (mt (tellable_congr hothers hdirectives).mp ht)]
      exact .inr ⟨rfl, rfl⟩
  · rw [if_neg hlength, if_neg hlength]
    exact .inl rfl

theorem withCanonicalKind_ne_null (h : v ≠ .null) : withCanonicalKind v ≠ .null := by
  unfold withCanonicalKind
  split
  · split
    · exact Value.noConfusion
    · exact h
  · exact h

theorem readOptionalDirective_of_ne_null (h : v ≠ .null) :
    readOptionalDirective strict v = (readDirective strict v).map some := by
  unfold readOptionalDirective
  split
  · exact absurd rfl h
  · rfl

theorem exists_of_mem_directives {p : Property} (h : readProperty strict (.mapping es) = .done p)
    (hv : v ∈ directives es) :
    ∃ d, p.directive = some d ∧ readDirective strict (withCanonicalKind v) = .done d := by
  obtain ⟨_, ⟨⟩, hlength, -, -, -, hread⟩ := readProperty_eq_done_iff.mp h
  have hnull : v ≠ .null := by
    rintro rfl
    cases (List.mem_filter.mp hv).2
  obtain ⟨w, hw⟩ : ∃ w, directives es = [w] := by
    match directives es, hv, hlength with
    | [w], _, _ => exact ⟨w, rfl⟩
  obtain rfl : v = w := by rwa [hw, List.mem_singleton] at hv
  rw [hw, List.headD_cons, readOptionalDirective_of_ne_null (withCanonicalKind_ne_null hnull),
    Reading.map_eq_done_iff] at hread
  obtain ⟨d, hd, hdirective⟩ := hread
  exact ⟨d, hdirective.symm, hd⟩

theorem folds_of_not_isVoid (h : ∀ x, es.field? "annotations" = some x → ¬IsVoid x) :
    Folds strict es where
  listed x hx hnull hlist := by
    have hfilled : x.isFilled = true := by
      by_contra hne
      exact h x hx ⟨hnull, hlist, eq_false_of_ne_true hne⟩
    refine readProperty_insert strict hx ?_
    rw [listed_of_filled hlist hfilled]
    rfl
  single many vs x hmany hvs hx hsingle fs hothers hnone hfield := by
    have hnull : x.isNull = false := by
      have hmem : x ∈ vs.filter fun v => !v.isNull := by simp [hx]
      simpa using (List.mem_filter.mp hmem).2
    refine unquoted_readProperty_congr strict hothers.symm ?_
    have hfirst : (es.field? "annotation").toList.filter (fun v => !v.isNull) = [] := by
      cases hes : es.field? "annotation" with
      | none => rfl
      | some w =>
        rw [hes, Option.getD_some] at hsingle
        rw [hsingle]
        rfl
    rw [directives_of_some hmany, directives_of_none hnone, hfield, List.filter_append, hfirst,
      listed_of_list hvs, hx]
    simp [hnull]
  absent many hmany hnulls := by
    refine unquoted_readProperty_erase strict hmany ?_
    rcases hnulls with rfl | ⟨vs, hvs, hall⟩
    · rfl
    · rw [listed_of_list hvs, List.filter_eq_nil_iff]
      intro v hv
      rw [hall v hv]
      exact Bool.false_ne_true
  kept p hp v hv := exists_of_mem_directives hp (given_eq_directives h ▸ hv)

theorem listed_of_isVoid (h : IsVoid x) : listed x = [] := by
  unfold listed
  split
  · next vs hopened => exact absurd hopened (h.2.1 vs)
  · rw [h.2.2]
    rfl

/-- The directives of a property are folded, and none of them gets lost, whatever stands in place of
their list, unless it is void: then the property is read as if it were left out. -/
theorem folds_iff (many : Option Value) :
    ((∀ strict (es : Entries), es.field? "annotations" = many → Folds strict es) ↔
      ∀ x, many = some x → ¬IsVoid x) ∧
    ∀ x, many = some x → IsVoid x → ∀ strict (es : Entries), es.field? "annotations" = many →
      (readProperty strict (.mapping es)).forget unquoted =
        (readProperty strict (.mapping (es.erase (.text "annotations")))).forget unquoted := by
  refine ⟨⟨?_, ?_⟩, ?_⟩
  · rintro h x rfl hvoid
    obtain ⟨es, hes⟩ : ∃ es : Entries, es = [(.text "name", .text "Title"),
      (.text "typeName", .text "string"), (.text "annotations", x)] := ⟨_, rfl⟩
    have hmany : es.field? "annotations" = some x := by
      rw [hes]
      rfl
    have hdirectives : directives es = [] := by
      rw [directives_of_some hmany, listed_of_isVoid hvoid, hes]
      rfl
    have hfolded : folded es = [(.text "name", .text "Title"),
        (.text "typeName", .text "string"), (.text "annotation", .null)] := by
      rw [folded, gathered, hmany, hdirectives, hes]
      rfl
    have hread : readProperty false (.mapping es) = .done ⟨"Title", "string", none⟩ := by
      rw [readProperty_mapping, hdirectives, hfolded]
      rfl
    have hgiven : x ∈ given es := by
      have hnull : x.isNull = false := by
        cases x with
        | null => exact absurd rfl hvoid.1
        | _ => rfl
      rw [given, hmany, Option.elim_some, offered_of_not_list hvoid.2.1]
      simp [hnull]
    obtain ⟨d, hd, -⟩ := (h false es hmany).kept _ hread x hgiven
    cases hd
  · rintro h strict es rfl
    exact folds_of_not_isVoid h
  · rintro x rfl hvoid strict es hes
    refine unquoted_readProperty_erase strict hes ?_
    rw [listed_of_isVoid hvoid]
    rfl

/-- An empty mapping in place of a list is passed over, while as the only item of one it is
refused. -/
theorem not_folds_of_empty_mapping :
    let es : Entries := [(.text "name", .text "Title"), (.text "typeName", .text "string"),
      (.text "annotations", .mapping [])]
    readProperty false (.mapping es) = .done ⟨"Title", "string", none⟩ ∧
    (∃ c, readProperty false (.mapping (es.insert (.text "annotations") (.list [.mapping []]))) =
        .issues [c] ∧ c.location = [.key "annotation"] ∧
      c.constraint = .text "union_tag_not_found") ∧
    ¬Folds false es := by
  intro es
  have hread : readProperty false (.mapping es) = .done ⟨"Title", "string", none⟩ := rfl
  have hlisted : readProperty false
      (.mapping (es.insert (.text "annotations") (.list [.mapping []]))) = .issues [_] := rfl
  refine ⟨hread, ⟨_, hlisted, rfl, rfl⟩, fun h => ?_⟩
  rcases h.listed (.mapping []) rfl (by simp) (by simp) with heq | ⟨heq, -⟩
  · rw [hread, hlisted] at heq
    cases heq
  · rw [hread] at heq
    cases heq

end Folding

end Description

end ShadowTypes
