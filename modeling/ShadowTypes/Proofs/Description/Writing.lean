import ShadowTypes.Proofs.Description.Success
import ShadowTypes.Proofs.Halves

/-!
# Models written as descriptions

A model can be written as a description again: with either spelling of every key, and with its
directives on their own or in lists. Reading what was written gives the same model, provided that
some description is read as the model in the first place.
-/

namespace ShadowTypes

namespace Description

open Entries

/-! ## Writing -/

/-- How a property is written. -/
structure Style where
  /-- The fields whose key has its other spelling. -/
  other : Field → Bool
  /-- Whether the directive stands in a list. -/
  listed : Bool
  /-- Whether null stands for a directive that is missing. -/
  explicit : Bool

namespace Style

def key (s : Style) (f : Field) : Value := .text (if s.other f then f.otherKey else f.key)

def place (s : Style) (v : Value) : Value × Value :=
  if s.listed then (.text "annotations", .list [v]) else (.text "annotation", v)

end Style

def writeDirective (s : Style) (d : Directive) : Entries :=
  (.text "kind", .text d.kind) :: match d with
    | .basic allowNull => [(s.key allowNullField, .bool allowNull)]
    | .nested allowNull validate =>
      [(s.key allowNullField, .bool allowNull), (s.key validateField, .bool validate)]
    | .text rule => [(.text "check", .text rule.name)]

def directiveValue (s : Style) : Option Directive → Value
  | some d => .mapping (writeDirective s d)
  | none => .null

def writeProperty (s : Style) (p : Property) : Entries :=
  [(.text "name", .text p.name), (s.key typeField, .text p.typeName)] ++
    if p.directive.isSome || s.explicit then [s.place (directiveValue s p.directive)] else []

def writeModel (style : Property → Style) (m : Model) : Entries :=
  [(.text "namespace", .text m.space), (.text "name", .text m.name),
    (.text "properties", .list (m.properties.map fun p => .mapping (writeProperty (style p) p)))]

/-! ## Texts -/

section Texts

variable {strict : Bool} {v : Value} {s : String} {test : List Char → Bool} {rule : Rule}

theorem isBroken_of_readText (h : readText strict v = .done s) : Text.isBroken s = false := by
  unfold readText at h
  split at h
  · next t =>
    split at h
    · cases h
    · next ht =>
      cases h
      simpa using ht
  · split at h
    · cases h
    · split at h
      · next hd =>
        cases h
        exact Text.isBroken_of_decode hd
      · cases h
  · cases h

theorem readText_text (h : Text.isBroken s = false) : readText false (.text s) = .done s := by
  simp [readText, h]

theorem readMatching_text (h : readMatching strict test rule v = .done s) :
    readMatching false test rule (.text s) = .done s := by
  obtain ⟨t, ht, rfl, htest⟩ := readMatching_eq_done_iff.mp h
  have hbroken : Text.isBroken (Text.trimSpace t) = false :=
    Text.isBroken_trimSpace (isBroken_of_readText ht)
  have htrim : Text.trimSpace (Text.trimSpace t) = Text.trimSpace t := by
    apply String.toList_inj.mp
    rw [Text.toList_trimSpace, Text.toList_trimSpace, Text.dropBothEnds_dropBothEnds]
  exact readMatching_eq_done_iff.mpr ⟨_, readText_text hbroken, htrim.symm, htest⟩

theorem readFilled_text (h : readFilled strict v = .done s) :
    readFilled false (.text s) = .done s := by
  obtain ⟨t, ht, rfl, hne⟩ := readFilled_eq_done_iff.mp h
  have hbroken : Text.isBroken (Text.trim (Text.trimSpace t)) = false :=
    Text.isBroken_trim (Text.isBroken_trimSpace (isBroken_of_readText ht))
  refine readFilled_eq_done_iff.mpr ⟨_, readText_text hbroken, ?_, hne⟩
  generalize Text.trimSpace t = t
  -- No blank is left at the ends, white space least of all.
  have hblank : Text.Trimmed Text.isBlank (Text.trim t).toList := by
    rw [Text.toList_trim]
    exact Text.trimmed_dropBothEnds _ _
  have hspace : ∀ c, Text.isBlank c = false → Text.isSpace c = false := fun c hc =>
    Bool.eq_false_iff.mpr fun hs => by simp [Text.isBlank_of_isSpace hs] at hc
  have htrim : Text.trimSpace (Text.trim t) = Text.trim t := by
    apply String.toList_inj.mp
    rw [Text.toList_trimSpace]
    exact Text.Trimmed.dropBothEnds_eq
      ⟨fun c hc => hspace c (hblank.head c hc), fun c hc => hspace c (hblank.last c hc)⟩
  rw [htrim, Text.trim_trim]

end Texts

/-! ## Directives -/

section Directives

variable (s : Style)

theorem readDirective_writeDirective (d : Directive) :
    readDirective false (.mapping (writeDirective s d)) = .done d := by
  cases d with
  | basic allowNull =>
    rw [writeDirective, Style.key]
    cases s.other allowNullField <;> rfl
  | nested allowNull validate =>
    rw [writeDirective, Style.key, Style.key]
    cases s.other allowNullField <;> cases s.other validateField <;> rfl
  | text rule =>
    have hread : readDirective false (.mapping (writeDirective s (.text rule))) =
        .done (.text (TextRule.ofName rule.name)) := rfl
    rw [hread, TextRule.ofName_name]

theorem canonicalKind_kind (d : Directive) : canonicalKind d.kind = d.kind := by
  have hkinds : ∀ kind ∈ kinds, canonicalKind kind = kind := by decide +kernel
  apply hkinds
  cases d <;> simp [Directive.kind, kinds]

theorem withCanonicalKind_writeDirective (d : Directive) :
    withCanonicalKind (.mapping (writeDirective s d)) = .mapping (writeDirective s d) := by
  simp [withCanonicalKind, writeDirective, field?_cons_self, Entries.insert, Value.sameKey,
    canonicalKind_kind]

theorem readOptionalDirective_directiveValue (directive : Option Directive) :
    readOptionalDirective false (withCanonicalKind (directiveValue s directive)) =
      .done directive := by
  cases directive with
  | none => rfl
  | some d =>
    rw [directiveValue, withCanonicalKind_writeDirective, readOptionalDirective,
      readDirective_writeDirective]
    · rfl
    · intro hnull
      cases hnull

end Directives

/-! ## Properties -/

section Properties

variable (s : Style) (p : Property)

theorem directives_writeProperty :
    directives (writeProperty s p) =
      p.directive.toList.map fun d => .mapping (writeDirective s d) := by
  obtain ⟨name, typeName, directive⟩ := p
  rw [writeProperty, Style.key, Style.place]
  cases s.other typeField <;> cases s.listed <;> cases s.explicit <;> cases directive <;> rfl

theorem onlyFields_writeProperty :
    OnlyFields [nameField, typeField, directiveField, .named "annotations"]
      (writeProperty s p) := by
  obtain ⟨name, typeName, directive⟩ := p
  rw [writeProperty, Style.key, Style.place]
  constructor
  · cases s.other typeField <;> cases s.listed <;> cases s.explicit <;> cases directive <;>
      simp [nameField, typeField, directiveField, Field.named]
  · intro f hf hne
    simp only [List.mem_cons, List.not_mem_nil, or_false] at hf
    rcases hf with rfl | rfl | rfl | rfl
    · exact absurd rfl hne
    · cases s.other typeField <;> cases s.listed <;> cases s.explicit <;> cases directive <;>
        simp [typeField, field?, get?, Value.sameKey]
    · exact absurd rfl hne
    · exact absurd rfl hne

theorem find?_writeProperty :
    ∃ key, typeField.find? (writeProperty s p) = some (key, .text p.typeName) := by
  obtain ⟨name, typeName, directive⟩ := p
  rw [writeProperty, Style.key, Style.place]
  cases s.other typeField <;> cases s.listed <;> cases s.explicit <;> cases directive <;>
    exact ⟨_, rfl⟩

variable {s p} {strict : Bool} {v : Value}

theorem readProperty_writeProperty (h : readProperty strict v = .done p) :
    readProperty false (.mapping (writeProperty s p)) = .done p := by
  obtain ⟨es, -, -, -, hname, htype, -⟩ := readProperty_eq_done_iff.mp h
  obtain ⟨_, _, -, hname⟩ := required_eq_done_iff.mp hname
  obtain ⟨_, _, -, htype⟩ := required_eq_done_iff.mp htype
  have hfirst : (directives (writeProperty s p)).headD .null = directiveValue s p.directive := by
    rw [directives_writeProperty]
    cases p.directive <;> rfl
  have hlength : (directives (writeProperty s p)).length < 2 := by
    rw [directives_writeProperty]
    cases p.directive <;> simp
  obtain ⟨key, hfind⟩ := find?_writeProperty s p
  refine readProperty_eq_done_iff.mpr ⟨writeProperty s p, rfl, hlength,
    onlyFields_writeProperty s p, required_eq_done_iff.mpr ⟨_, _, rfl, readMatching_text hname⟩,
    required_eq_done_iff.mpr ⟨key, _, hfind, readFilled_text htype⟩, ?_⟩
  rw [hfirst, readOptionalDirective_directiveValue]

end Properties

/-! ## Models -/

section Models

variable {strict : Bool} {v : Value} {m : Model} (style : Property → Style)

theorem onlyFields_writeModel :
    OnlyFields [spaceField, nameField, propertiesField] (writeModel style m) := by
  constructor
  · simp [writeModel, spaceField, nameField, propertiesField, Field.named]
  · simp [spaceField, nameField, propertiesField, Field.named]

theorem readModel_writeModel (h : readModel strict v = .done m) :
    readModel false (.mapping (writeModel style m)) = .done m := by
  obtain ⟨es, -, -, hspace, hname, hproperties, hnodup⟩ := readModel_eq_done_iff.mp h
  obtain ⟨_, _, -, hname⟩ := required_eq_done_iff.mp hname
  have hspace : readSpace false (.text m.space) = .done m.space := by
    rcases optional_eq_done_iff.mp hspace with ⟨-, hempty⟩ | ⟨_, _, -, hread⟩
    · rw [hempty]
      rfl
    · exact readMatching_text hread
  have hitems : List.Forall₂ (fun v p => readProperty false v = .done p)
      (m.properties.map fun p => .mapping (writeProperty (style p) p)) m.properties := by
    rw [List.forall₂_map_left_iff]
    rcases optional_eq_done_iff.mp hproperties with ⟨-, hempty⟩ | ⟨_, _, -, hread⟩
    · rw [hempty]
      exact .nil
    · obtain ⟨vs, -, hvs⟩ := exists_items_of_readProperties hread
      generalize m.properties = ps at hvs
      induction hvs with
      | nil => exact .nil
      | cons hp _ ih => exact .cons (readProperty_writeProperty hp) ih
  refine readModel_eq_done_iff.mpr ⟨writeModel style m, rfl, onlyFields_writeModel style,
    optional_eq_done_iff.mpr (.inr ⟨_, _, rfl, hspace⟩),
    required_eq_done_iff.mpr ⟨_, _, rfl, readMatching_text hname⟩,
    optional_eq_done_iff.mpr (.inr ⟨_, _, rfl, readProperties_eq_done_iff.mpr ⟨_, rfl, hitems⟩⟩),
    hnodup⟩

/-- Reading is idempotent on what it gives: a model that some value is read as is read again from
every way of writing it, directly or from an origin. -/
theorem parse_writeModel (h : modelForm.parse v strict = .ok m) :
    modelForm.parse (.mapping (writeModel style m)) = .ok m ∧
      ∀ origin, modelForm.enter (.mapping (writeModel style m)) origin = .ok m := by
  have hread : readModel strict v = .done m := by
    unfold Form.parse at h
    split at h
    · next hdone =>
      cases h
      exact hdone
    · cases h
    · cases h
  have hagain : modelForm.read false (.mapping (writeModel style m)) = .done m :=
    readModel_writeModel style hread
  simp [Form.parse, Form.enter, hagain]

/-- A model that is written with the other spelling of every key and its directives in lists. -/
theorem parse_writeModel_listed :
    let directive : Entries := [(.text "kind", .text "DTO"), (.text "allow_null", .text "Y")]
    let line : Entries := [(.text "name", .text " @Line "),
      (.text "type_name", .text "shop.Item\u00A0"),
      (.text "annotation", .mapping directive)]
    let code : Entries := [(.text "name", .text "Code"), (.text "typeName", .text "string"),
      (.text "annotations", .list [.null])]
    let order : Entries := [(.text "namespace", .text " shop.sales"), (.text "name", .text "Order"),
      (.text "properties", .list [.mapping line, .mapping code])]
    let m : Model := ⟨"shop.sales", "Order", [⟨"@Line", "shop.Item", some (.nested true true)⟩,
      ⟨"Code", "string", none⟩]⟩
    modelForm.parse (.mapping order) = .ok m ∧
      modelForm.parse (.mapping (writeModel (fun _ => ⟨fun _ => true, true, true⟩) m)) = .ok m := by
  intro directive line code order m
  have horder : modelForm.parse (.mapping order) = .ok m := rfl
  exact ⟨horder, (parse_writeModel _ horder).1⟩

end Models

end Description

end ShadowTypes
