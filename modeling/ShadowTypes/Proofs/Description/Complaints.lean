import ShadowTypes.Proofs.Accepted
import ShadowTypes.Proofs.Description.Entries
import ShadowTypes.Proofs.Description.Readings

/-!
# Complaints about descriptions

What is wrong with a mapping is told field by field, and then key by key for the keys that no field
uses. The complaints about a model are put together in this way from those about its parts. Reading
comes to just these complaints, unless a property with two directives ends it: the fault of the
first such property wins over all complaints.
-/

namespace ShadowTypes

namespace Description

/-! ## Complaints about mappings -/

/-- A field of a mapping and the complaints about its value. -/
structure Slot where
  field : Field
  required : Bool
  problems : Value → List Complaint

/-- The complaints about a field: those about its value, or that it is missing. -/
def Slot.problemsIn (s : Slot) (es : Entries) : List Complaint :=
  match s.field.find? es with
  | some (key, v) => (s.problems v).map (·.under (.key key))
  | none =>
    if s.required then [Rule.missing.complaint (.mapping es) [.key s.field.key]] else []

/-- The first key that holds half a surrogate pair. -/
def brokenKey? (es : Entries) : Option Value :=
  (es.find? fun e => match e.1 with
    | .text s => Text.isBroken s
    | _ => false).map Prod.fst

/-- The complaints about a mapping: field by field, then key by key for the keys that no field uses.
A key with half a surrogate pair is the only complaint. -/
def closedProblems (slots : List Slot) (es : Entries) : List Complaint :=
  match brokenKey? es with
  | some k => [Rule.textBytes.complaint k]
  | none => slots.flatMap (·.problemsIn es) ++ unknownKeys (slots.map Slot.field) es

open Reading

section Mappings

variable {α : Type} {p : Value → α → Prop} {read : Value → Reading α}
  {problems : Value → List Complaint} {fault : Value → Option Fault} {es : Entries}

theorem readEntries_eq (v : Value) (read : Entries → Reading α) :
    readEntries v read = match entries? v with
      | some es => read es
      | none => .refuse .mappingType v := by
  unfold readEntries entries?
  cases v.opened <;> rfl

theorem comesTo_required (field : Field) (es : Entries)
    (h : ∀ v, ComesTo (p v) (read v) none (problems v)) :
    ComesTo (fun a => ∃ e, field.find? es = some e ∧ p e.2 a) (field.required es read) none
      (Slot.problemsIn ⟨field, true, problems⟩ es) := by
  unfold Field.required Slot.problemsIn
  cases field.find? es with
  | none => exact .issues
  | some e => exact ((h e.2).under _).mono fun a ha => ⟨e, rfl, ha⟩

theorem comesTo_optional (field : Field) (default : α) (es : Entries)
    (h : ∀ v, ComesTo (p v) (read v) (fault v) (problems v)) :
    ComesTo (fun a => (field.find? es).elim (a = default) fun e => p e.2 a)
      (field.optional es default read) ((field.find? es).bind fun e => fault e.2)
      (Slot.problemsIn ⟨field, false, problems⟩ es) := by
  unfold Field.optional Slot.problemsIn
  cases field.find? es with
  | none => exact .done rfl
  | some e => exact (h e.2).under _

theorem comesTo_optional_single (field : Field) (default : α) (es : Entries)
    (read : Value → Reading α) (h : ∀ v, (read v).IsSingle) :
    ComesTo (fun _ => True) (field.optional es default read) none
      (Slot.problemsIn ⟨field, false, fun v => (read v).complaints⟩ es) := by
  have hread := comesTo_optional field default es fun v => (h v).comesTo
  simpa using hread.mono fun _ _ => trivial

theorem comesTo_closing {p : α → Prop} {r : Reading α} {f : Option Fault} {cs : List Complaint}
    (slots : List Slot) (h : ComesTo p r f cs) (hcs : slots.flatMap (·.problemsIn es) = cs) :
    ComesTo p (closing (slots.map Slot.field) es r) f (closedProblems slots es) := by
  have hwith := h.withIssues (unknownKeys (slots.map Slot.field) es)
  rw [← hcs] at hwith
  unfold closing closedProblems brokenKey?
  cases es.find? fun e => match e.1 with
    | .text s => Text.isBroken s
    | _ => false with
  | none => cases r <;> exact hwith
  | some e =>
    cases h with
    | done => exact .issues
    | issues => exact .issues
    | halted => exact .halted

end Mappings

/-! ## Directives -/

/-- The kind of a directive, which must be the given word. -/
def kindSlot (word : String) : Slot := ⟨kindField, false, fun v => (readKind word v).complaints⟩

def flagSlot (f : Field) : Slot := ⟨f, false, fun v => (readFlag false v).complaints⟩

/-- A field of a directive that takes any value. -/
def openSlot (f : Field) : Slot := ⟨f, false, fun _ => []⟩

/-- The directives of one kind: their flags, and the fields that take any value. -/
structure Family where
  kind : String
  flags : List Field := []
  others : List Field := []

def families : List Family := [
  { kind := "basic", flags := [allowNullField] },
  { kind := "nested_model", flags := [allowNullField, validateField] },
  { kind := "string", others := [ruleField] }]

namespace Family

def fields (d : Family) : List Field := kindField :: (d.flags ++ d.others)

/-- The complaints about the fields of a directive. -/
def slots (d : Family) : List Slot :=
  kindSlot d.kind :: (d.flags.map flagSlot ++ d.others.map openSlot)

end Family

/-- The directives of the kind that a tag selects. -/
def familyOf? (tag : Value) : Option Family := families.find? fun d => tag.sameKey (.text d.kind)

/-- The complaints about a directive, or about null in its place. -/
def directiveProblems (v : Value) : List Complaint :=
  match v with
  | .null => []
  | v => match entries? v with
    | none => [Rule.mappingType.complaint v]
    | some es => match es.field? "kind" with
      | none => [Rule.tagMissing.complaint v]
      | some tag => match familyOf? tag with
        | some d => (closedProblems d.slots es).map (·.under (.key d.kind))
        | none => [(Rule.tagUnknown (tagText tag)).complaint v]

section Directives

variable {es : Entries} {v : Value}

theorem comesTo_readBasic (h : entries? v = some es) :
    ComesTo (fun _ => True) (readBasic false v) none
      (closedProblems [kindSlot "basic", flagSlot allowNullField] es) := by
  have hkind := comesTo_optional_single kindField () es (readKind "basic")
    fun _ => isSingle_readKind
  have hnull := comesTo_optional_single allowNullField Check.defaultAllowNull es (readFlag false)
    fun _ => isSingle_readFlag
  rw [readBasic, readEntries_eq, h]
  exact comesTo_closing [kindSlot "basic", flagSlot allowNullField]
    ((hkind.both hnull).map fun _ _ => trivial) (by simp [kindSlot, flagSlot])

theorem comesTo_readNested (h : entries? v = some es) :
    ComesTo (fun _ => True) (readNested false v) none (closedProblems
      [kindSlot "nested_model", flagSlot allowNullField, flagSlot validateField] es) := by
  have hkind := comesTo_optional_single kindField () es (readKind "nested_model")
    fun _ => isSingle_readKind
  have hnull := comesTo_optional_single allowNullField Check.defaultAllowNull es (readFlag false)
    fun _ => isSingle_readFlag
  have hvalidate := comesTo_optional_single validateField Check.defaultValidate es (readFlag false)
    fun _ => isSingle_readFlag
  rw [readNested, readEntries_eq, h]
  exact comesTo_closing
    [kindSlot "nested_model", flagSlot allowNullField, flagSlot validateField]
    ((hkind.both (hnull.both hvalidate)).map fun _ _ => trivial) (by simp [kindSlot, flagSlot])

theorem comesTo_readTextDirective (h : entries? v = some es) :
    ComesTo (fun _ => True) (readTextDirective v) none
      (closedProblems [kindSlot "string", openSlot ruleField] es) := by
  have hkind := comesTo_optional_single kindField () es (readKind "string")
    fun _ => isSingle_readKind
  have hrule := comesTo_optional_single ruleField Check.defaultRule es
    (fun v => .done (TextRule.ofValue v)) fun _ => isSingle_done _
  rw [readTextDirective, readEntries_eq, h]
  exact comesTo_closing [kindSlot "string", openSlot ruleField]
    ((hkind.both hrule).map fun _ _ => trivial) (by simp [kindSlot, openSlot, Reading.complaints])

theorem comesTo_readDirective (hv : v ≠ .null) :
    ComesTo (fun _ => True) (readDirective false v) none (directiveProblems v) := by
  have hproblems : directiveProblems v = match entries? v with
      | none => [Rule.mappingType.complaint v]
      | some es => match es.field? "kind" with
        | none => [Rule.tagMissing.complaint v]
        | some tag => match familyOf? tag with
          | some d => (closedProblems d.slots es).map (·.under (.key d.kind))
          | none => [(Rule.tagUnknown (tagText tag)).complaint v] := by
    unfold directiveProblems
    split
    · exact absurd rfl hv
    · rfl
  rw [hproblems, readDirective, readEntries_eq]
  cases hentries : entries? v with
  | none => exact .issues
  | some es =>
    dsimp only
    split
    · next hkind =>
      rw [hkind]
      exact .issues
    · next hkind =>
      rw [hkind]
      exact (comesTo_readBasic hentries).under _
    · next hkind =>
      rw [hkind]
      exact (comesTo_readNested hentries).under _
    · next hkind =>
      rw [hkind]
      exact (comesTo_readTextDirective hentries).under _
    · next tag hbasic hnested htext hkind =>
      have hfamily : familyOf? tag = none := by
        simp only [familyOf?, families, List.find?_eq_none, List.forall_mem_cons,
          Value.sameKey_text]
        exact ⟨hbasic, hnested, htext, by simp⟩
      simp only [hkind, hfamily]
      exact .issues

theorem comesTo_readOptionalDirective (v : Value) :
    ComesTo (fun _ => True) (readOptionalDirective false v) none (directiveProblems v) := by
  unfold readOptionalDirective
  split
  · exact .done trivial
  · next hv => exact (comesTo_readDirective hv).map fun _ _ => trivial

end Directives

/-! ## Properties -/

def nameSlot : Slot := ⟨nameField, true, fun v => (readName false v).complaints⟩

/-- The fields of a property whose directives are folded. -/
def propertySlots : List Slot := [nameSlot,
  ⟨typeField, true, fun v => (readFilled false v).complaints⟩,
  ⟨directiveField, false, directiveProblems⟩]

/-- The fault of a property that has more than one directive, if it can be told. -/
def conflict? (v : Value) : Option Fault :=
  (entries? v).bind fun es =>
    if 2 ≤ (directives es).length ∧ Tellable es then some (conflict es) else none

/-- The complaints about a property that has no conflict to tell. -/
def propertyProblems (v : Value) : List Complaint :=
  match entries? v with
  | some es =>
    if 2 ≤ (directives es).length then [Rule.unwritable.complaint v]
    else closedProblems propertySlots (folded es)
  | none => [Rule.mappingType.complaint v]

/-- The text of an entry without the white space around it; nothing if there is no text. -/
def trimmed (es : Entries) (key : String) : String :=
  match (es.field? key).map (readText false) with
  | some (.done s) => Text.trimSpace s
  | _ => ""

def nameOf (v : Value) : String := trimmed ((entries? v).getD []) "name"

section Properties

variable {es : Entries} {v : Value}

theorem eq_trimmed_of_readMatching {test : List Char → Bool} {rule : Rule} {key name : String}
    (hfield : es.field? key = some v) (h : readMatching false test rule v = .done name) :
    name = trimmed es key := by
  unfold readMatching at h
  rw [trimmed, hfield, Option.map_some]
  split at h
  · next s hs =>
    split at h
    · rw [hs]
      exact (Reading.done.inj h).symm
    · cases h
  · next hs => exact absurd h (hs name)

theorem find?_named (key : String) : (Field.named key).find? es = (es.field? key).map (key, ·) := by
  unfold Field.find? Field.named
  cases h : es.field? key with
  | none => simp
  | some v => rfl

theorem comesTo_readName (es : Entries) :
    ComesTo (· = trimmed es "name") (nameField.required es (readName false)) none
      (nameSlot.problemsIn es) := by
  refine (comesTo_required _ _ fun v => isSingle_readMatching.comesTo).mono ?_
  rintro name ⟨e, hfind, hread⟩
  rw [nameField, find?_named, Option.map_eq_some_iff] at hfind
  obtain ⟨v, hv, rfl⟩ := hfind
  exact eq_trimmed_of_readMatching hv hread

theorem comesTo_readFolded (es : Entries) :
    ComesTo (fun p => p.name = trimmed es "name") (readFolded false es) none
      (closedProblems propertySlots es) := by
  have htype : ComesTo (fun _ => True) (typeField.required es (readFilled false)) none
      (Slot.problemsIn ⟨typeField, true, fun v => (readFilled false v).complaints⟩ es) :=
    (comesTo_required _ _ fun v => isSingle_readFilled.comesTo).mono fun _ _ => trivial
  have hdirective := comesTo_optional directiveField none es comesTo_readOptionalDirective
  have hfields := ((comesTo_readName es).both (htype.both hdirective)).map
    (t := fun p => Property.mk p.1 p.2.1 p.2.2) (q := fun p => p.name = trimmed es "name")
    fun _ h => h.1
  have hfault : (directiveField.find? es).bind (fun _ => (none : Option Fault)) = none := by
    cases directiveField.find? es <;> rfl
  rw [hfault] at hfields
  exact comesTo_closing propertySlots hfields (by simp [propertySlots])

theorem comesTo_readProperty (v : Value) :
    ComesTo (fun p => p.name = nameOf v) (readProperty false v) (conflict? v)
      (propertyProblems v) := by
  rw [readProperty, readEntries_eq, conflict?, propertyProblems, nameOf]
  cases entries? v with
  | none => exact .issues
  | some es =>
    simp only [foldDirectives_eq, Option.bind_some, Option.getD_some]
    by_cases h : 2 ≤ (directives es).length
    · rw [if_pos h, if_pos h]
      by_cases ht : Tellable es
      · rw [if_pos ht, if_pos ⟨h, ht⟩]
        exact .halted
      · rw [if_neg ht, if_neg fun hc => ht hc.2]
        exact .issues
    · rw [if_neg h, if_neg h, if_neg fun hc => h hc.1]
      have hname : trimmed (folded es) "name" = trimmed es "name" := by
        rw [trimmed, trimmed, field?_folded (by decide) (by decide)]
      exact (comesTo_readFolded (folded es)).mono fun p hp => hp.trans hname

end Properties

/-! ## Models -/

/-- The complaints about a list of properties, each property under its position. -/
def propertiesProblems (v : Value) : List Complaint :=
  match items? v with
  | some vs => vs.zipIdx.flatMap fun (p, i) => (propertyProblems p).map (·.under (.index i))
  | none => [Rule.listType.complaint v]

def modelSlots : List Slot := [⟨spaceField, false, fun v => (readSpace false v).complaints⟩,
  nameSlot, ⟨propertiesField, false, propertiesProblems⟩]

/-- The properties of a model's entries, if they are a list. -/
def propertiesOf (es : Entries) : List Value :=
  ((es.field? "properties").bind items?).getD []

section Models

variable {es : Entries} {v : Value}

theorem comesTo_readItems (vs : List Value) :
    ComesTo (fun ps => ps.map Property.name = vs.map nameOf) (readItems (readProperty false) vs)
      (vs.findSome? conflict?)
      (vs.zipIdx.flatMap fun (p, i) => (propertyProblems p).map (·.under (.index i))) := by
  have hitems := ComesTo.all (l := vs.zipIdx)
    fun x _ => (comesTo_readProperty x.1).under (.index x.2)
  have hfault : vs.zipIdx.findSome? (fun x => conflict? x.1) = vs.findSome? conflict? := by
    conv_rhs => rw [← List.zipIdx_map_fst 0 vs, List.findSome?_map]
    rfl
  rw [hfault] at hitems
  refine hitems.mono fun ps hps => ?_
  have hnames : List.Forall₂ Eq (vs.zipIdx.map fun x => nameOf x.1) (ps.map Property.name) := by
    rw [List.forall₂_map_left_iff, List.forall₂_map_right_iff]
    exact hps.imp fun _ _ h => h.symm
  rw [List.forall₂_eq_eq_eq] at hnames
  conv_rhs => rw [← List.zipIdx_map_fst 0 vs, List.map_map]
  exact hnames.symm

theorem comesTo_readProperties (v : Value) :
    ComesTo (fun ps => ps.map Property.name = ((items? v).getD []).map nameOf)
      (readProperties false v) (((items? v).getD []).findSome? conflict?)
      (propertiesProblems v) := by
  unfold readProperties propertiesProblems items?
  cases v.opened with
  | list vs => exact comesTo_readItems vs
  | set vs => exact comesTo_readItems vs
  | pair a b => exact comesTo_readItems [a, b]
  | _ => exact .issues

/-- Reading the fields of a model comes to the first conflict of a property, or to the complaints
about the model. -/
theorem comesTo_readFields (es : Entries) :
    ComesTo (fun m => m.properties.map Property.name = (propertiesOf es).map nameOf)
      (readFields false es) ((propertiesOf es).findSome? conflict?)
      (closedProblems modelSlots es) := by
  have hspace := comesTo_optional_single spaceField "" es (readSpace false)
    fun _ => isSingle_readMatching
  have hproperties := comesTo_optional propertiesField [] es comesTo_readProperties
  have hfields := (hspace.both ((comesTo_readName es).both hproperties)).map
    (t := fun p => Model.mk p.1 p.2.1 p.2.2)
    (q := fun m => m.properties.map Property.name = (propertiesOf es).map nameOf) ?_
  · have hfault : ((propertiesField.find? es).bind fun e =>
        ((items? e.2).getD []).findSome? conflict?) = (propertiesOf es).findSome? conflict? := by
      rw [propertiesField, find?_named, propertiesOf]
      cases es.field? "properties" <;> rfl
    rw [hfault] at hfields
    exact comesTo_closing modelSlots hfields (by simp [modelSlots])
  · rintro ⟨space, name, properties⟩ ⟨-, -, h⟩
    rw [propertiesField, find?_named] at h
    rw [propertiesOf]
    cases hfield : es.field? "properties" with
    | none =>
      rw [hfield] at h
      exact congrArg (List.map Property.name) h
    | some v =>
      rw [hfield] at h
      exact h

/-! ### Repeated names -/

theorem firstRepeated?_append {seen pre : List String} (hn : pre.Nodup)
    (hs : ∀ k ∈ pre, k ∉ seen) (ns : List String) :
    firstRepeated? seen (pre ++ ns) = firstRepeated? (pre.reverse ++ seen) ns := by
  induction pre generalizing seen with
  | nil => rfl
  | cons k pre ih =>
    obtain ⟨hfirst, hrest⟩ := List.nodup_cons.mp hn
    obtain ⟨hnew, hs⟩ := List.forall_mem_cons.mp hs
    have hseen : ∀ j ∈ pre, j ∉ k :: seen := by
      intro j hj
      rw [List.mem_cons, not_or]
      exact ⟨fun heq => hfirst (heq ▸ hj), hs j hj⟩
    rw [List.cons_append, firstRepeated?, if_neg (by simpa using hnew), ih hrest hseen,
      List.reverse_cons, List.append_assoc, List.singleton_append]

theorem firstRepeated?_eq_none {ns : List String} (hn : ns.Nodup) :
    firstRepeated? [] ns = none := by
  have h := firstRepeated?_append hn (fun k _ => List.not_mem_nil) []
  rwa [List.append_nil] at h

theorem distinct_eq_done_iff {m k : Model} :
    distinct m = .done k ↔ (m.properties.map Property.name).Nodup ∧ m = k := by
  unfold distinct
  cases h : firstRepeated? [] (m.properties.map Property.name) with
  | none => simp [(nodup_of_firstRepeated?_eq_none h).1]
  | some n =>
    have hn : ¬ (m.properties.map Property.name).Nodup := fun hn => by
      rw [firstRepeated?_eq_none hn] at h
      cases h
    simp [hn]

/-- The model of a reading, unless two of its properties share a name. -/
def distinctly : Reading Model → Reading Model
  | .done m => distinct m
  | r => r

theorem readModel_mapping (strict : Bool) (es : Entries) :
    readModel strict (.mapping es) = distinctly (readFields strict es) := rfl

theorem distinctly_eq_done_iff {r : Reading Model} {m : Model} :
    distinctly r = .done m ↔ r = .done m ∧ (m.properties.map Property.name).Nodup := by
  cases r with
  | done k =>
    rw [distinctly, distinct_eq_done_iff, Reading.done.injEq]
    constructor
    · rintro ⟨hn, rfl⟩
      exact ⟨rfl, hn⟩
    · rintro ⟨rfl, hn⟩
      exact ⟨hn, rfl⟩
  | issues cs => simp [distinctly]
  | halted e => simp [distinctly]

end Models

end Description

end ShadowTypes
