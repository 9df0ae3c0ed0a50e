import ShadowTypes.Proofs.Description.Gathering
import ShadowTypes.Proofs.Description.TextRules
import ShadowTypes.Proofs.Folding

/-!
# Kinds of directives

The kind of a directive is a word in any letter case, with hyphens and underscores anywhere. Without
these it is one of the words for a kind, and the directive is read as one of that kind, or it is
none, and the directive is refused for it. Nothing else of the directive changes on the way. So
spellings of a kind that is known are read alike, and those of an unknown kind are refused alike but
for the quoted kind.
-/

namespace ShadowTypes

namespace Description

open Entries

/-! ## Words for kinds -/

/-- A word in small letters without hyphens and underscores. -/
def plainWord (s : String) : String :=
  Text.fold (String.ofList (s.toList.filter fun c => c != '-' && c != '_'))

/-- A kind of directives: its name, the words for it and the form that it selects. -/
structure DirectiveKind where
  name : String
  words : List String
  form : Form Directive

def directiveKinds : List DirectiveKind := [
  ⟨"basic", ["basic", "basicpropertycheck"], basicForm⟩,
  ⟨"nested_model", ["nested", "nestedmodel", "dto", "dtopropertycheck"], nestedForm⟩,
  ⟨"string", ["string", "stringpropertycheck"], textForm⟩]

/-- What a directive is taken for: it is read as one of the kind, or whatever is wrong with it is
wrong with a directive of the kind. -/
def TakenAs (kind : String) (r : Reading Directive) : Prop :=
  (∃ d, r = .done d ∧ d.kind = kind) ∨
    ∃ cs : List Complaint, cs ≠ [] ∧ r = .issues (cs.map (·.under (.key kind)))

/-- A directive is refused for its kind alone. -/
def RefusedKind (r : Reading Directive) : Prop :=
  ∃ c, r = .issues [c] ∧ c.location = [] ∧ c.constraint = .text "union_tag_invalid"

section Words

variable {s : String} {k : DirectiveKind}

theorem filter_map_hyphen (l : List Char) :
    (l.map fun c => if c = '-' then '_' else c).filter (· != '_') =
      l.filter fun c => c != '-' && c != '_' := by
  induction l with
  | nil => rfl
  | cons c l ih =>
    by_cases hhyphen : c = '-'
    · subst hhyphen
      simpa using ih
    · by_cases hscore : c = '_'
      · subst hscore
        simpa using ih
      · simpa [hhyphen, hscore] using ih

theorem squashed_eq_plainWord (s : String) : squashed s = plainWord s := by
  have hscore : ∀ c : Char, (c != '_') = false → Text.Caseless c := by
    intro c hc
    rw [bne_eq_false_iff_eq] at hc
    subst hc
    decide
  apply String.toList_inj.mp
  rw [squashed, plainWord, String.toList_ofList, Text.toList_fold, Text.toList_fold,
    Text.filter_foldChars hscore, String.toList_ofList, String.toList_ofList, filter_map_hyphen]

theorem score_notMem_plainWord (s : String) : '_' ∉ (plainWord s).toList := by
  rw [← squashed_eq_plainWord, squashed, String.toList_ofList]
  intro h
  simpa using (List.mem_filter.mp h).2

/-- The words for a kind are those without an underscore in the table of kinds. -/
theorem kindAlias?_plainWord_iff {kind : String} :
    kindAlias? (plainWord s) = some kind ↔
      ∃ k ∈ directiveKinds, k.name = kind ∧ plainWord s ∈ k.words := by
  have hwords : ∀ k ∈ directiveKinds, ∀ w ∈ k.words, kindAlias? w = some k.name := by decide +kernel
  have htable : ∀ a ∈ kindAliases, '_' ∈ a.1.toList ∨
      ∃ k ∈ directiveKinds, k.name = a.2 ∧ a.1 ∈ k.words := by decide +kernel
  constructor
  · intro h
    obtain ⟨a, ha, rfl⟩ := Option.map_eq_some_iff.mp h
    have hword : a.1 = plainWord s := by simpa using List.find?_some ha
    have hmem := htable a (List.mem_of_find?_eq_some ha)
    rw [hword] at hmem
    exact hmem.resolve_left (score_notMem_plainWord s)
  · rintro ⟨k, hk, rfl, hword⟩
    exact hwords k hk _ hword

/-- A kind is put into its usual spelling exactly if it is one of the words for a kind. -/
theorem canonicalKind_eq_name_iff (hk : k ∈ directiveKinds) :
    canonicalKind s = k.name ↔ plainWord s ∈ k.words := by
  have hfamily : ∀ k ∈ directiveKinds, ∃ d ∈ families, d.kind = k.name := by decide
  have hname : ∀ j ∈ directiveKinds, ∀ k ∈ directiveKinds, j.name = k.name → j.words = k.words := by
    decide
  obtain ⟨d, hd, hkind⟩ := hfamily k hk
  rw [← hkind, canonicalKind_eq_iff hd, hkind, squashed_eq_plainWord, kindAlias?_plainWord_iff]
  constructor
  · rintro ⟨j, hj, heq, hword⟩
    rwa [← hname j hj k hk heq]
  · exact fun hword => ⟨k, hk, rfl, hword⟩

theorem canonicalKind_of_unknown (h : ∀ k ∈ directiveKinds, plainWord s ∉ k.words) :
    canonicalKind s = s := by
  rw [canonicalKind_eq, squashed_eq_plainWord]
  cases hkind : kindAlias? (plainWord s) with
  | none => rfl
  | some kind =>
    obtain ⟨k, hk, -, hword⟩ := kindAlias?_plainWord_iff.mp hkind
    exact absurd hword (h k hk)

end Words

/-! ## What kinds select -/

section Selection

open Reading

variable {strict : Bool} {ds : Entries} {kind tag : String} {k : DirectiveKind}
  {r : Reading Directive} {cs : List Complaint}

theorem readDirective_of_mem (hk : k ∈ directiveKinds)
    (h : ds.field? "kind" = some (.text k.name)) :
    readDirective strict (.mapping ds) =
      (k.form.read strict (.mapping ds)).under (.key k.name) := by
  simp only [directiveKinds, List.mem_cons, List.not_mem_nil, or_false] at hk
  rw [readDirective, readEntries_eq]
  rcases hk with rfl | rfl | rfl <;> simp only [entries?, Value.opened_mapping, h] <;> rfl

theorem readDirective_of_unknown (h : ds.field? "kind" = some (.text tag))
    (hne : ∀ k ∈ directiveKinds, tag ≠ k.name) :
    readDirective strict (.mapping ds) =
      .refuse (.tagUnknown (tagText (.text tag))) (.mapping ds) := by
  simp only [directiveKinds, List.forall_mem_cons] at hne
  obtain ⟨hbasic, hnested, htext, -⟩ := hne
  rw [readDirective, readEntries_eq]
  simp only [entries?, Value.opened_mapping, h]
  split
  · next heq => cases heq
  · next heq => exact absurd (Value.text.inj (Option.some.inj heq)) hbasic
  · next heq => exact absurd (Value.text.inj (Option.some.inj heq)) hnested
  · next heq => exact absurd (Value.text.inj (Option.some.inj heq)) htext
  · next heq =>
    cases heq
    rfl

theorem exists_comesTo_form (hk : k ∈ directiveKinds) (strict : Bool) (ds : Entries) :
    ∃ cs, ComesTo (fun d => d.kind = k.name) (k.form.read strict (.mapping ds)) none cs := by
  have hkind : ∀ word, ComesTo (fun _ => True) (kindField.optional ds () (readKind word)) none
      ((kindSlot word).problemsIn ds) :=
    fun word => comesTo_optional_single kindField () ds (readKind word) fun _ => isSingle_readKind
  have hflag : ∀ f default, ComesTo (fun _ => True) (Field.optional f ds default (readFlag strict))
      none (Slot.problemsIn ⟨f, false, fun v => (readFlag strict v).complaints⟩ ds) :=
    fun f default => comesTo_optional_single f default ds _ fun _ => isSingle_readFlag
  have hrule := comesTo_optional_single ruleField Check.defaultRule ds
    (fun v => .done (TextRule.ofValue v)) fun _ => isSingle_done _
  simp only [directiveKinds, List.mem_cons, List.not_mem_nil, or_false] at hk
  rcases hk with rfl | rfl | rfl
  · exact ⟨_, comesTo_closing
      [kindSlot "basic", ⟨allowNullField, false, fun v => (readFlag strict v).complaints⟩]
      (((hkind "basic").both (hflag _ _)).map fun _ _ => rfl) (by simp [kindSlot])⟩
  · exact ⟨_, comesTo_closing
      [kindSlot "nested_model", ⟨allowNullField, false, fun v => (readFlag strict v).complaints⟩,
        ⟨validateField, false, fun v => (readFlag strict v).complaints⟩]
      (((hkind "nested_model").both ((hflag _ _).both (hflag _ _))).map fun _ _ => rfl)
      (by simp [kindSlot])⟩
  · exact ⟨_, comesTo_closing [kindSlot "string", openSlot ruleField]
      (((hkind "string").both hrule).map fun _ _ => rfl)
      (by simp [kindSlot, openSlot, Reading.complaints])⟩

theorem takenAs_under_iff (h : ComesTo (fun d => d.kind = kind) r none cs) :
    TakenAs tag (r.under (.key kind)) ↔ kind = tag := by
  cases h with
  | done hd =>
    constructor
    · rintro (⟨d, heq, rfl⟩ | ⟨cs, -, heq⟩)
      · cases heq
        exact hd.symm
      · cases heq
    · rintro rfl
      exact .inl ⟨_, rfl, hd⟩
  | @issues c cs =>
    constructor
    · rintro (⟨d, heq, -⟩ | ⟨ds, hne, heq⟩)
      · cases heq
      · obtain ⟨d, ds, rfl⟩ := List.exists_cons_of_ne_nil hne
        have hfirst := (List.cons.inj (Reading.issues.inj heq)).1
        exact Step.key.inj (List.cons.inj (congrArg Complaint.location hfirst)).1
    · rintro rfl
      exact .inr ⟨c :: cs, List.cons_ne_nil _ _, rfl⟩

theorem not_refusedKind_under (r : Reading Directive) (step : Step) :
    ¬RefusedKind (r.under step) := by
  rintro ⟨c, heq, hlocation, -⟩
  cases r with
  | issues cs =>
    have hcs : cs.map (·.under step) = [c] := Reading.issues.inj heq
    obtain ⟨d, -, rfl⟩ := List.mem_map.mp (hcs ▸ List.mem_singleton_self c)
    cases hlocation
  | done d => cases heq
  | halted e => cases heq

theorem refusedKind_refuse (tag : String) (v : Value) :
    RefusedKind (.refuse (.tagUnknown tag) v) := ⟨_, rfl, rfl, rfl⟩

theorem not_takenAs_refuse (rule : Rule) (v : Value) : ¬TakenAs kind (.refuse rule v) := by
  rintro (⟨d, heq, -⟩ | ⟨cs, hne, heq⟩)
  · cases heq
  · obtain ⟨c, cs, rfl⟩ := List.exists_cons_of_ne_nil hne
    have hfirst := (List.cons.inj (Reading.issues.inj heq)).1
    cases congrArg Complaint.location hfirst

end Selection

/-! ## Directives of properties -/

/-- The entries of a property with null for its directive, in the one place for it. -/
def undirected (es : Entries) : Entries :=
  (es.erase (.text "annotations")).insert (.text "annotation") .null

/-- The complaint without what was found, and without a message that quotes a kind. -/
def kindless (c : Complaint) : Complaint :=
  { c with
    found := .null
    message := match c.constraint with
      | .text "union_tag_invalid" => .null
      | _ => c.message }

theorem kindless_tagUnknown (tag : String) (v : Value) :
    kindless ((Rule.tagUnknown tag).complaint v) =
      { constraint := .text "union_tag_invalid", message := .null,
        expected := some (.text Rule.expectedTags) } := by
  simp only [kindless, Rule.complaint, Rule.constraint]

theorem forgets_kindless : Forgets kindless := ⟨fun _ _ => rfl, fun _ _ => rfl⟩

section Properties

open Reading

variable {strict : Bool} {es fs ds : Entries} {v w : Value} {kind tag : String}
  {cs : List Complaint}

/-- Another directive in either place makes no difference to the other entries. -/
theorem undirected_insert {s : String} (h : s = "annotation" ∨ s = "annotations") (es : Entries)
    (v : Value) : undirected (es.insert (.text s) v) = undirected es := by
  rcases h with rfl | rfl
  · rw [undirected, erase_insert_of_ne (by decide), insert_insert, undirected]
  · rw [undirected, erase_insert_self, undirected]

theorem others_eq_of_undirected_eq (h : undirected es = undirected fs) : others es = others fs := by
  have hothers : ∀ es, (undirected es).erase (.text "annotation") = others es := by
    intro es
    rw [undirected, erase_insert_self, others, erase_comm]
  rw [← hothers, h, hothers]

theorem respellDirective_of_field? (h : es.field? "annotation" = some v) :
    respellDirective es = es.insert (.text "annotation") (withCanonicalKind v) := by
  simp only [respellDirective, h]
  split
  · rfl
  · next hopened =>
    obtain ⟨before, after, hes, hinsert⟩ := exists_insert_eq h
    rw [withCanonicalKind_of_not_mapping hopened, hinsert]
    exact hes

/-- The single directive of a property comes to stand in the one place for it. -/
theorem folded_of_directives_eq (h : directives es = [v]) :
    folded es = (undirected es).insert (.text "annotation") (withCanonicalKind v) := by
  rw [folded, gathered, undirected, insert_insert]
  cases hmany : es.field? "annotations" with
  | none =>
    have hsingle : es.field? "annotation" = some v := by
      rw [directives_of_none hmany] at h
      cases hes : es.field? "annotation" with
      | none =>
        rw [hes] at h
        cases h
      | some w =>
        rw [hes] at h
        exact congrArg some (List.eq_of_mem_singleton
          (List.mem_of_mem_filter (h ▸ List.mem_singleton_self v))).symm
    rw [erase_of_field?_eq_none hmany]
    exact respellDirective_of_field? hsingle
  | some many =>
    dsimp only
    rw [h, List.headD_cons, respellDirective_of_field? (field?_insert_self _ _ _), insert_insert]

theorem readProperty_of_directives_eq (strict : Bool) (h : directives es = [v]) :
    readProperty strict (.mapping es) = readFolded strict
      ((undirected es).insert (.text "annotation") (withCanonicalKind v)) := by
  rw [readProperty_mapping, if_neg (by simp [h]), folded_of_directives_eq h]

theorem brokenKey?_folded (es : Entries) : brokenKey? (folded es) = brokenKey? es := by
  have hsingle : Text.isBroken "annotation" = false := by decide
  have hmany : Text.isBroken "annotations" = false := by decide
  rw [← brokenKey?_erase hsingle, erase_folded, others, brokenKey?_erase hmany,
    brokenKey?_erase hsingle]

/-- What is wrong with the directive of a property is told among what is wrong with the property,
unless a key of it is broken. -/
theorem exists_comesTo_readProperty (hd : directives es = [v])
    (h : ComesTo (fun _ => True) (readDirective strict (withCanonicalKind v)) none cs) :
    ∃ before after, ComesTo (fun _ => True) (readProperty strict (.mapping es)) none
      (match brokenKey? es with
        | some key => [Rule.textBytes.complaint key]
        | none => before ++ cs.map (·.under (.key "annotation")) ++ after) := by
  have hnull : v ≠ .null := by
    rintro rfl
    have hmem : Value.null ∈ directives es := hd ▸ List.mem_singleton_self _
    cases (List.mem_filter.mp hmem).2
  have hname : ComesTo _ (nameField.required (folded es) (readName strict)) none _ :=
    comesTo_required _ _ fun v => isSingle_readMatching.comesTo
  have htype : ComesTo _ (typeField.required (folded es) (readFilled strict)) none _ :=
    comesTo_required _ _ fun v => isSingle_readFilled.comesTo
  have hdirective : ComesTo (fun _ => True)
      (directiveField.optional (folded es) none (readOptionalDirective strict)) none
      (cs.map (·.under (.key "annotation"))) := by
    rw [optional_folded, hd, List.headD_cons,
      readOptionalDirective_of_ne_null (withCanonicalKind_ne_null hnull)]
    exact (h.map fun _ _ => trivial).under _
  have hfields := (hname.both (htype.both hdirective)).map (q := fun _ => True)
    (t := fun p => Property.mk p.1 p.2.1 p.2.2) fun _ _ => trivial
  rw [readProperty_mapping, if_neg (by simp [hd]), readFolded]
  cases hbroken : brokenKey? es with
  | none =>
    have hclosed := hfields.withIssues
      (unknownKeys [nameField, typeField, directiveField] (folded es))
    rw [← List.append_assoc] at hclosed
    rw [closing_of_plain ((brokenKey?_folded es).trans hbroken)]
    exact ⟨_, _, hclosed⟩
  | some key =>
    rw [closing_of_broken ((brokenKey?_folded es).trans hbroken) hfields]
    exact ⟨[], [], .issues⟩

theorem exists_comesTo_readDirective (strict : Bool)
    (hkind : ds.field? "kind" = some (.text kind)) :
    ∃ cs, ComesTo (fun _ => True) (readDirective strict (.mapping ds)) none cs := by
  by_cases h : ∃ k ∈ directiveKinds, kind = k.name
  · obtain ⟨k, hk, rfl⟩ := h
    obtain ⟨cs, hcs⟩ := exists_comesTo_form hk strict ds
    rw [readDirective_of_mem hk hkind]
    exact ⟨_, (hcs.mono fun _ _ => trivial).under _⟩
  · rw [readDirective_of_unknown hkind fun k hk heq => h ⟨k, hk, heq⟩]
    exact ⟨_, .issues⟩

theorem taken_and_refused (strict : Bool) (hkind : ds.field? "kind" = some (.text kind)) :
    (∀ k ∈ directiveKinds,
      TakenAs k.name (readDirective strict (.mapping ds)) ↔ kind = k.name) ∧
    (RefusedKind (readDirective strict (.mapping ds)) ↔ ∀ k ∈ directiveKinds, kind ≠ k.name) := by
  by_cases h : ∃ k ∈ directiveKinds, kind = k.name
  · obtain ⟨k, hk, rfl⟩ := h
    obtain ⟨cs, hcs⟩ := exists_comesTo_form hk strict ds
    rw [readDirective_of_mem hk hkind]
    refine ⟨fun j _ => takenAs_under_iff hcs, iff_of_false (not_refusedKind_under _ _) ?_⟩
    exact fun hne => hne k hk rfl
  · have hne : ∀ k ∈ directiveKinds, kind ≠ k.name := fun k hk heq => h ⟨k, hk, heq⟩
    rw [readDirective_of_unknown hkind hne]
    exact ⟨fun k hk => iff_of_false (not_takenAs_refuse _ _) (hne k hk),
      iff_of_true (refusedKind_refuse _ _) hne⟩

theorem kindless_readDirective_of_unknown (strict : Bool) {es ds : Entries}
    (hes : es.field? "kind" = some (.text kind)) (hds : ds.field? "kind" = some (.text tag))
    (hkind : ∀ k ∈ directiveKinds, kind ≠ k.name) (htag : ∀ k ∈ directiveKinds, tag ≠ k.name) :
    (readDirective strict (.mapping es)).forget kindless =
      (readDirective strict (.mapping ds)).forget kindless := by
  rw [readDirective_of_unknown hes hkind, readDirective_of_unknown hds htag]
  simp only [refuse, forget, List.map_cons, List.map_nil, kindless_tagUnknown]

/-- A directive that cannot be read is told of by its property, unless a key of the property is
broken. -/
theorem readProperty_of_issues (hd : directives es = [v])
    (h : ComesTo (fun _ => True) (readDirective strict (withCanonicalKind v)) none cs)
    (hne : cs ≠ []) :
    match brokenKey? es with
    | some key => readProperty strict (.mapping es) = .refuse .textBytes key
    | none => ∃ before after, readProperty strict (.mapping es) =
        .issues (before ++ cs.map (·.under (.key "annotation")) ++ after) := by
  obtain ⟨before, after, hproperty⟩ := exists_comesTo_readProperty hd h
  cases hbroken : brokenKey? es with
  | none =>
    rw [hbroken] at hproperty
    exact ⟨before, after, hproperty.eq_issues (by simp [hne])⟩
  | some key =>
    rw [hbroken] at hproperty
    exact hproperty.eq_issues (List.cons_ne_nil _ _)

/-- Two directives that differ in the spelling of a known kind are the same once it is in its usual
spelling. -/
theorem canonicalKind_congr (hword : plainWord tag = plainWord kind)
    (h : ∃ k ∈ directiveKinds, plainWord kind ∈ k.words) :
    canonicalKind tag = canonicalKind kind := by
  obtain ⟨k, hk, hmem⟩ := h
  rw [(canonicalKind_eq_name_iff hk).mpr hmem, canonicalKind_eq_name_iff hk, hword]
  exact hmem

/-- Properties whose directives differ in the spelling of the kind are read alike, but for the
quotes of an unknown kind. -/
theorem kindless_readProperty_respelled (strict : Bool) (hplace : undirected fs = undirected es)
    (hes : directives es = [v]) (hfs : directives fs = [w])
    (hv : withCanonicalKind v = .mapping (ds.insert (.text "kind") (.text (canonicalKind kind))))
    (hw : withCanonicalKind w = .mapping (ds.insert (.text "kind") (.text (canonicalKind tag))))
    (hword : plainWord tag = plainWord kind) :
    (readProperty strict (.mapping fs)).forget kindless =
      (readProperty strict (.mapping es)).forget kindless := by
  have hmapping : ∀ ds : Entries, readOptionalDirective strict (.mapping ds) =
      (readDirective strict (.mapping ds)).map some := fun _ => rfl
  refine forget_readProperty_congr forgets_kindless (others_eq_of_undirected_eq hplace)
    (by simp [hes, hfs]) ?_
  rw [hfs, hes, List.headD_cons, List.headD_cons, hw, hv]
  by_cases h : ∃ k ∈ directiveKinds, plainWord kind ∈ k.words
  · rw [canonicalKind_congr hword h]
  · have hunknown : ∀ s, plainWord s = plainWord kind →
        ∀ k ∈ directiveKinds, canonicalKind s ≠ k.name := by
      intro s hs k hk heq
      refine h ⟨k, hk, ?_⟩
      rw [← hs]
      exact (canonicalKind_eq_name_iff hk).mp heq
    have hrefused := kindless_readDirective_of_unknown strict
      (field?_insert_self ds "kind" (.text (canonicalKind tag)))
      (field?_insert_self ds "kind" (.text (canonicalKind kind)))
      (hunknown tag hword) (hunknown kind rfl)
    rw [hmapping, hmapping, forget_map, hrefused, forget_map]

/-! ## Kinds of properties' directives -/

/-- How the kind of the one directive of a property decides. -/
structure DecidedByKind (strict : Bool) (es ds : Entries) (v : Value) (kind : String) : Prop where
  /-- The directive is taken for one of the kind whose words the kind is among. -/
  taken : ∀ k ∈ directiveKinds,
    TakenAs k.name (readDirective strict (withCanonicalKind v)) ↔ plainWord kind ∈ k.words
  /-- It is refused for its kind if that is no word for a kind. -/
  refused : RefusedKind (readDirective strict (withCanonicalKind v)) ↔
    ∀ k ∈ directiveKinds, plainWord kind ∉ k.words
  /-- What is read is the directive of the property. -/
  read : ∀ p, readProperty strict (.mapping es) = .done p → ∃ d, p.directive = some d ∧
    readDirective strict (withCanonicalKind v) = .done d
  /-- What is wrong with the directive is told of the property, unless one of its keys is broken:
  nothing but this is told then. -/
  told : ∀ cs, readDirective strict (withCanonicalKind v) = .issues cs →
    match brokenKey? es with
    | some key => readProperty strict (.mapping es) = .refuse .textBytes key
    | none => ∃ before after, readProperty strict (.mapping es) =
        .issues (before ++ cs.map (·.under (.key "annotation")) ++ after)
  /-- Nothing but the kind changes before the directive is read. -/
  kept : ∃ before after spelled, ds = before ++ (.text "kind", .text kind) :: after ∧
    withCanonicalKind v = .mapping (before ++ (.text "kind", .text spelled) :: after) ∧
    (∀ k ∈ directiveKinds, plainWord kind ∈ k.words → spelled = k.name) ∧
    ((∀ k ∈ directiveKinds, plainWord kind ∉ k.words) → spelled = kind)
  /-- Another spelling makes no difference if the kind is known, and none but for the quoted kind if
  it is not. -/
  spelled : ∀ fs w other, undirected fs = undirected es → directives fs = [w] →
    entries? w = some (ds.insert (.text "kind") (.text other)) → plainWord other = plainWord kind →
    ((∃ k ∈ directiveKinds, plainWord kind ∈ k.words) →
      readProperty strict (.mapping fs) = readProperty strict (.mapping es)) ∧
    (readProperty strict (.mapping fs)).forget kindless =
      (readProperty strict (.mapping es)).forget kindless

/-- The kind decides by its word alone what the directive of a property is taken for. -/
theorem decidedByKind (hd : directives es = [v]) (hv : entries? v = some ds)
    (hkind : ds.field? "kind" = some (.text kind)) (strict : Bool) :
    DecidedByKind strict es ds v kind := by
  have hcanonical := withCanonicalKind_eq hv hkind
  have hinserted := field?_insert_self ds "kind" (.text (canonicalKind kind))
  obtain ⟨htaken, hrefused⟩ := taken_and_refused strict hinserted
  have hname : ∀ k ∈ directiveKinds, canonicalKind kind = k.name ↔ plainWord kind ∈ k.words :=
    fun k hk => canonicalKind_eq_name_iff hk
  rw [← hcanonical] at htaken hrefused
  refine ⟨fun k hk => (htaken k hk).trans (hname k hk),
    hrefused.trans (forall₂_congr fun k hk => not_congr (hname k hk)), ?_, ?_, ?_, ?_⟩
  · exact fun p hp => exists_of_mem_directives hp (hd ▸ List.mem_singleton_self v)
  · intro cs hcs
    obtain ⟨cs', hread⟩ := exists_comesTo_readDirective strict hinserted
    rw [← hcanonical] at hread
    have htold := readProperty_of_issues hd hread
    rw [hcs] at hread
    cases hread with
    | issues => exact htold (List.cons_ne_nil _ _)
  · obtain ⟨before, after, hds, hinsert⟩ := exists_insert_eq hkind
    refine ⟨before, after, canonicalKind kind, hds, ?_, fun k hk => (hname k hk).mpr,
      canonicalKind_of_unknown⟩
    rw [hcanonical, hinsert]
  · intro fs w other hplace hsingle hw hword
    have hother := withCanonicalKind_eq hw (field?_insert_self ds "kind" (.text other))
    rw [insert_insert] at hother
    refine ⟨fun h => ?_, kindless_readProperty_respelled strict hplace hd hsingle hcanonical hother
      hword⟩
    rw [readProperty_of_directives_eq strict hsingle, readProperty_of_directives_eq strict hd,
      hother, hcanonical, canonicalKind_congr hword h, hplace]

/-- The one directive in a list with null, in two spellings of its kind. -/
theorem decidedByKind_of_nested_model :
    let directive (kind : String) : Entries :=
      [(.text "kind", .text kind), (.text "allowNull", .bool true)]
    let property (kind : String) : Entries := [(.text "name", .text "Line"),
      (.text "typeName", .text "shop.Item"),
      (.text "annotations", .list [.null, .mapping (directive kind)])]
    directives (property "Nested-Model") = [.mapping (directive "Nested-Model")] ∧
    entries? (.mapping (directive "Nested-Model")) = some (directive "Nested-Model") ∧
    (directive "Nested-Model").field? "kind" = some (.text "Nested-Model") ∧
    TakenAs "nested_model"
      (readDirective false (withCanonicalKind (.mapping (directive "Nested-Model")))) ∧
    readProperty false (.mapping (property "_NESTED_model")) =
      readProperty false (.mapping (property "Nested-Model")) := by
  intro directive property
  have hk : ⟨"nested_model", ["nested", "nestedmodel", "dto", "dtopropertycheck"], nestedForm⟩ ∈
      directiveKinds := by simp [directiveKinds]
  have hword : plainWord "Nested-Model" ∈ ["nested", "nestedmodel", "dto", "dtopropertycheck"] := by
    decide +kernel
  have hdecided : DecidedByKind false (property "Nested-Model") (directive "Nested-Model") _ _ :=
    decidedByKind rfl rfl rfl false
  refine ⟨rfl, rfl, rfl, (hdecided.taken _ hk).mpr hword, ?_⟩
  have hplace : undirected (property "_NESTED_model") = undirected (property "Nested-Model") :=
    undirected_insert (.inr rfl) (property "Nested-Model")
      (.list [.null, .mapping (directive "_NESTED_model")])
  exact (hdecided.spelled (property "_NESTED_model") (.mapping (directive "_NESTED_model")) _ hplace
    rfl rfl (by decide +kernel)).1 ⟨_, hk, hword⟩

/-- An unknown kind is quoted as it is spelled, and it is not told of beside a broken key. -/
theorem message_of_unknown_kind :
    let property (kind : String) : Entries := [(.text "name", .text "Title"),
      (.text "typeName", .text "string"),
      (.text "annotation", .mapping [(.text "kind", .text kind)])]
    let key : Value := .text (Text.ofCodePoints [0xD800])
    plainWord "FOO" = plainWord "foo" ∧
    (∃ c d, readProperty false (.mapping (property "FOO")) = .issues [c] ∧
      readProperty false (.mapping (property "foo")) = .issues [d] ∧ c.message ≠ d.message) ∧
    readProperty false (.mapping ((key, .null) :: property "foo")) = .refuse .textBytes key := by
  intro property key
  refine ⟨by decide +kernel, ⟨_, _, rfl, rfl, ?_⟩, rfl⟩
  intro heq
  exact absurd (Value.text.inj heq) (by decide +kernel)

end Properties

end Description

end ShadowTypes
