import ShadowTypes.Demand
import ShadowTypes.Proofs.Description.Success

/-!
# Rules for text

Any value may stand for the rule of a text. Three positions and the names of three rules ask for
less than a text that is not blank; everything else, also the lack of a value, is checked as
strictly as can be. The main statement follows a property from its description to its fragment.
-/

namespace ShadowTypes

namespace TextRule

variable {v : Value} {r : TextRule} {s word : String} {n : Int} {demand : Option Demand}

/-- The rules that ask for less than a text that is not blank: the position, the name in folded case
without separators, and what is demanded. -/
def lenient : List (Int × String × Option Demand) := [
  (1, "allownull", none),
  (2, "allowemptystring", some .present),
  (3, "allowwhenonlywhitespace", some .nonEmpty)]

/-- The value asks for a lenient rule, by its position or by its name. -/
inductive Asks : Value → Option Demand → Prop
  | position {n : Int} {word : String} {demand : Option Demand} :
    (n, word, demand) ∈ lenient → Asks (.int n) demand
  | name {n : Int} {word : String} {demand : Option Demand} {s : String} :
    (n, word, demand) ∈ lenient → squash s = word.toList → Asks (.text s) demand

theorem exists_rule_of_lenient (h : (n, word, demand) ∈ lenient) :
    ∃ r, ofPosition n = r ∧ squash r.name = word.toList ∧ (Check.text r).demand? = demand := by
  simp only [lenient, List.mem_cons, Prod.mk.injEq, List.not_mem_nil, or_false] at h
  rcases h with ⟨rfl, rfl, rfl⟩ | ⟨rfl, rfl, rfl⟩ | ⟨rfl, rfl, rfl⟩
  · exact ⟨.allowNull, by decide +kernel⟩
  · exact ⟨.allowEmpty, by decide +kernel⟩
  · exact ⟨.allowBlank, by decide +kernel⟩

theorem strict_or_lenient (r : TextRule) : (Check.text r).demand? = some .nonBlank ∨
    ∃ n word, (n, word, (Check.text r).demand?) ∈ lenient ∧ squash r.name = word.toList := by
  cases r with
  | unknown => exact .inl rfl
  | allowNull => exact .inr ⟨1, "allownull", by decide +kernel⟩
  | allowEmpty => exact .inr ⟨2, "allowemptystring", by decide +kernel⟩
  | allowBlank => exact .inr ⟨3, "allowwhenonlywhitespace", by decide +kernel⟩
  | requireText => exact .inl rfl

theorem ofName_of_squash (h : squash s = squash r.name) : ofName s = r := by
  rw [← ofName_name r, ofName, ofName, h]

theorem ofName_eq_unknown_or (s : String) :
    ofName s = .unknown ∨ squash s = squash (ofName s).name := by
  unfold ofName
  cases h : all.find? fun r => squash r.name == squash s with
  | none => exact .inl rfl
  | some r =>
    have hr := List.find?_some h
    rw [beq_iff_eq] at hr
    exact .inr hr.symm

theorem Asks.demand?_ofValue (h : Asks v demand) : (Check.text (ofValue v)).demand? = demand := by
  cases h with
  | position hmem =>
    obtain ⟨r, hr, -, hdemand⟩ := exists_rule_of_lenient hmem
    rw [ofValue, hr, hdemand]
  | name hmem hs =>
    obtain ⟨r, -, hr, hdemand⟩ := exists_rule_of_lenient hmem
    rw [ofValue, ofName_of_squash (hs.trans hr.symm), hdemand]

/-- Beyond the first and the last position there is no rule, and these two are strict. -/
theorem demand?_ofPosition (h : n ∉ lenient.map Prod.fst) :
    (Check.text (ofPosition n)).demand? = some .nonBlank := by
  have hn : n ≠ 1 ∧ n ≠ 2 ∧ n ≠ 3 := by simpa [lenient] using h
  unfold ofPosition
  split
  · obtain rfl | rfl | hlarge : n = 0 ∨ n = 4 ∨ 5 ≤ n := by omega
    · rfl
    · rfl
    · have hlength : all.length ≤ n.toNat := by
        simp only [all, List.length_cons, List.length_nil]
        omega
      rw [List.getD_eq_getElem?_getD, List.getElem?_eq_none hlength]
      rfl
  · rfl

theorem demand?_ofValue_of_not_asks (h : ∀ demand, ¬ Asks v demand) :
    (Check.text (ofValue v)).demand? = some .nonBlank := by
  cases v with
  | int n =>
    apply demand?_ofPosition
    intro hmem
    obtain ⟨⟨_, word, demand⟩, hlenient, rfl⟩ := List.mem_map.mp hmem
    exact h demand (.position hlenient)
  | text s =>
    rw [ofValue]
    rcases ofName_eq_unknown_or s with hs | hs
    · rw [hs]
      rfl
    · obtain hstrict | ⟨n, word, hmem, hword⟩ := strict_or_lenient (ofName s)
      · exact hstrict
      · exact absurd (.name hmem (hs.trans hword)) (h _)
  | _ => rfl

end TextRule

namespace Description

open Entries

variable {es ds : Entries} {v w : Value} {kind : String} {strict : Bool}

/-- The rule that a directive about text asks for. -/
def ruleOf (ds : Entries) : TextRule :=
  ((ds.field? "check").map TextRule.ofValue).getD Check.defaultRule

theorem withCanonicalKind_eq (hv : entries? v = some ds)
    (hkind : ds.field? "kind" = some (.text kind)) :
    withCanonicalKind v = .mapping (ds.insert (.text "kind") (.text (canonicalKind kind))) := by
  unfold entries? at hv
  unfold withCanonicalKind
  cases hopened : v.opened with
  | mapping es =>
    rw [hopened] at hv
    cases hv
    simp only [hkind]
  | _ =>
    rw [hopened] at hv
    cases hv

/-- A directive about text is read whatever stands for its rule. -/
theorem readTextDirective_eq_done_iff {directive : Directive}
    (hkind : ds.field? "kind" = some (.text "string")) :
    readTextDirective (.mapping ds) = .done directive ↔
      OnlyFields [kindField, ruleField] ds ∧ directive = .text (ruleOf ds) := by
  have hk : kindField.optional ds () (readKind "string") = .done () := by
    rw [optional_eq_done_iff, kindField, find?_named, hkind]
    exact .inr ⟨_, _, rfl, by simp [readKind]⟩
  have hr : ruleField.optional ds Check.defaultRule (fun v => .done (TextRule.ofValue v)) =
      .done (ruleOf ds) := by
    rw [optional_eq_done_iff, ruleField, find?_named, ruleOf]
    cases ds.field? "check" with
    | none => exact .inl ⟨rfl, rfl⟩
    | some c => exact .inr ⟨_, _, rfl, rfl⟩
  have hread : readTextDirective (.mapping ds) =
      closing [kindField, ruleField] ds (.done (.text (ruleOf ds))) := by
    rw [readTextDirective, readEntries_eq]
    simp only [entries?, Value.opened_mapping, hk, hr, Reading.both_done, Reading.map_done]
  rw [hread, closing_eq_done_iff apart_textDirective, and_comm, Reading.done.injEq, eq_comm]

theorem readOptionalDirective_text_iff {directive : Option Directive} (hv : entries? v = some ds)
    (hkind : ds.field? "kind" = some (.text kind))
    (htext : kindAlias? (squashed kind) = some "string") :
    readOptionalDirective strict (withCanonicalKind v) = .done directive ↔
      OnlyFields [kindField, ruleField] ds ∧ directive = some (.text (ruleOf ds)) := by
  have hcanonical : canonicalKind kind = "string" :=
    (canonicalKind_eq_iff (d := { kind := "string", others := [ruleField] })
      (by simp [families])).mpr htext
  have hinserted := field?_insert_self ds "kind" (.text "string")
  have hrule : ruleOf (ds.insert (.text "kind") (.text "string")) = ruleOf ds := by
    rw [ruleOf, field?_insert_of_ne (by decide), ruleOf]
  have hread : readOptionalDirective strict (.mapping (ds.insert (.text "kind") (.text "string"))) =
      ((readTextDirective (.mapping (ds.insert (.text "kind") (.text "string")))).under
        (.key "string")).map some := by
    simp only [readOptionalDirective, readDirective, readEntries_eq, entries?,
      Value.opened_mapping, hinserted]
  rw [withCanonicalKind_eq hv hkind, hcanonical, hread, Reading.map_eq_done_iff]
  simp only [Reading.under_eq_done_iff, readTextDirective_eq_done_iff hinserted, hrule,
    OnlyFields.congr fun k => mem_keys_insert_of_field? hkind]
  constructor
  · rintro ⟨d, ⟨honly, rfl⟩, rfl⟩
    exact ⟨honly, rfl⟩
  · rintro ⟨honly, rfl⟩
    exact ⟨_, ⟨honly, rfl⟩, rfl⟩

/-- A property with a directive about text is read whatever stands for the rule, which is then that
of the directive. -/
theorem readProperty_text_iff {p : Property} (hw : entries? w = some es) (hd : directives es = [v])
    (hv : entries? v = some ds) (hkind : ds.field? "kind" = some (.text kind))
    (htext : kindAlias? (squashed kind) = some "string") :
    readProperty strict w = .done p ↔
      OnlyFields [nameField, typeField, directiveField, .named "annotations"] es ∧
      nameField.required es (readName strict) = .done p.name ∧
      typeField.required es (readFilled strict) = .done p.typeName ∧
      OnlyFields [kindField, ruleField] ds ∧ p.directive = some (.text (ruleOf ds)) := by
  have hlength : (directives es).length < 2 := by simp [hd]
  rw [readProperty_eq_done_iff, hw]
  simp only [Option.some.injEq, exists_eq_left', hlength, true_and]
  rw [hd, List.headD_cons, readOptionalDirective_text_iff hv hkind htext]

/-- A property whose directive is about text is accepted whatever stands for the rule. If its type
means text, it demands what a lenient rule demands if that rule is asked for, and a text that is not
blank if no lenient rule is. A name in any letter case and with any separators asks for what its
usual spelling asks for, and so does the name of a rule that was read. -/
theorem fragment_of_text_directive (hw : entries? w = some es) (hd : directives es = [v])
    (hv : entries? v = some ds) (hkind : ds.field? "kind" = some (.text kind))
    (htext : kindAlias? (squashed kind) = some "string") (strict : Bool) :
    ((∃ p, readProperty strict w = .done p) ↔
      OnlyFields [nameField, typeField, directiveField, .named "annotations"] es ∧
      (∃ name, nameField.required es (readName strict) = .done name) ∧
      (∃ typeName, typeField.required es (readFilled strict) = .done typeName) ∧
      OnlyFields [kindField, ruleField] ds) ∧
    (∀ p, readProperty strict w = .done p → ∀ candidates (names : StringNames) (d : Dialect),
      names.isString p.typeName = true → TypeName.isNullable p.typeName = false →
      let member := d.member p.name
      let emitted := d.fragment? member
        (Resolution.check p.typeName p.directive candidates names)
      (∀ c demand, ds.field? "check" = some c → TextRule.Asks c demand →
        emitted = demand.map (d.fragment member)) ∧
      ((∀ c demand, ds.field? "check" = some c → ¬ TextRule.Asks c demand) →
        emitted = some (d.fragment member .nonBlank))) ∧
    (∀ (s : String) (r : TextRule), TextRule.squash s = TextRule.squash r.name →
      TextRule.ofValue (.text s) = TextRule.ofValue (.text r.name)) ∧
    ∀ c, TextRule.ofValue (.text (TextRule.ofValue c).name) = TextRule.ofValue c := by
  have hread : ∀ p, readProperty strict w = .done p ↔ _ :=
    fun p => readProperty_text_iff hw hd hv hkind htext
  refine ⟨⟨?_, ?_⟩, ?_, ?_, fun c => TextRule.ofName_name _⟩
  · rintro ⟨p, hp⟩
    obtain ⟨hkeys, hname, htype, honly, -⟩ := (hread p).mp hp
    exact ⟨hkeys, ⟨_, hname⟩, ⟨_, htype⟩, honly⟩
  · rintro ⟨hkeys, ⟨name, hname⟩, ⟨typeName, htype⟩, honly⟩
    exact ⟨⟨name, typeName, _⟩, (hread _).mpr ⟨hkeys, hname, htype, honly, rfl⟩⟩
  · intro p hp candidates names d hstring hnullable member emitted
    obtain ⟨-, -, -, -, hdirective⟩ := (hread p).mp hp
    have hcheck : Resolution.check p.typeName p.directive candidates names =
        .text (ruleOf ds) := by
      simp [Resolution.check, hnullable, hstring, hdirective]
    have hemitted : emitted = (Check.text (ruleOf ds)).demand?.map (d.fragment member) := by
      rw [← hcheck]
      rfl
    rw [hemitted, ruleOf]
    constructor
    · intro c demand hc hasks
      rw [hc, Option.map_some, Option.getD_some, hasks.demand?_ofValue]
    · intro hnot
      cases hc : ds.field? "check" with
      | none => rfl
      | some c =>
        rw [Option.map_some, Option.getD_some,
          TextRule.demand?_ofValue_of_not_asks fun demand => hnot c demand hc]
        rfl
  · intro s r hs
    rw [TextRule.ofValue, TextRule.ofValue, TextRule.ofName_of_squash hs, TextRule.ofName_name]

/-- The name of a rule with other separators and capitals, in the second directive of a list. -/
theorem fragment_of_spaced_rule_name :
    let rule : Entries :=
      [(.text "kind", .text "String-Property-Check"), (.text "check", .text "Allow-Empty String")]
    let title : Entries := [(.text "name", .text "Title"), (.text "type_name", .text "string"),
      (.text "annotations", .list [.null, .mapping rule])]
    entries? (.mapping title) = some title ∧ directives title = [.mapping rule] ∧
    TextRule.Asks (.text "Allow-Empty String") (some .present) ∧
    ∃ p, readProperty false (.mapping title) = .done p ∧
      StringNames.standard.isString p.typeName = true ∧ TypeName.isNullable p.typeName = false ∧
      Dialect.python.fragment? (Dialect.python.member p.name)
        (Resolution.check p.typeName p.directive .empty .standard) =
      some (Dialect.python.fragment (Dialect.python.member p.name) .present) := by
  intro rule title
  have hdirectives : directives title = [.mapping rule] := rfl
  have hmem : (2, "allowemptystring", some .present) ∈ TextRule.lenient := by simp [TextRule.lenient]
  have hasks : TextRule.Asks (.text "Allow-Empty String") (some .present) :=
    .name hmem (by decide +kernel)
  have hkind : field? rule "kind" = some (.text "String-Property-Check") := rfl
  obtain ⟨-, hfragment, -⟩ := fragment_of_text_directive (w := .mapping title) rfl hdirectives rfl
    hkind (by decide +kernel) false
  let p : Property := ⟨"Title", "string", some (.text .allowEmpty)⟩
  have hp : readProperty false (.mapping title) = .done p := rfl
  have hstring : StringNames.standard.isString p.typeName = true := by decide +kernel
  have hnullable : TypeName.isNullable p.typeName = false := by decide +kernel
  obtain ⟨hlenient, -⟩ := hfragment p hp .empty .standard .python hstring hnullable
  exact ⟨rfl, hdirectives, hasks, p, hp, hstring, hnullable, hlenient _ _ rfl hasks⟩

end Description

end ShadowTypes
