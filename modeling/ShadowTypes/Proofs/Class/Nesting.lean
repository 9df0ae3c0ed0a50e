import ShadowTypes.Proofs.Class.Describing
import ShadowTypes.Proofs.ExactNames

/-!
# Classes as types of properties

A hint for objects of a registered class is written as the qualified name that the class has as a
model, and so a pass over the models takes the property for a nested one. What the hint writes and
what the model is called are put together apart from each other, and they part ways for a class
without any namespace.
-/

namespace ShadowTypes

open Text

variable {k : Catalogue} {c d : Class} {m : Model} {optional : Bool} {h : Hint} {s t : String}
  {evaluate : Evaluator}

/-! ## Hints for objects of a class -/

/-- A hint for objects of a class, or for none as well if it is optional. Markers may stand next to
the class and next to the union. -/
inductive Class.IsFor (d : Class) : Bool → Hint → Prop
  | named : IsFor d false (.named d.className)
  | annotated {optional : Bool} {h : Hint} (ms : List Marker) :
      IsFor d optional h → IsFor d optional (.annotated h ms)
  | orNone {h : Hint} (checked : Bool) : IsFor d false h → IsFor d true (.union checked [h, .none])
  | noneOr {h : Hint} (checked : Bool) : IsFor d false h → IsFor d true (.union checked [.none, h])

def optionalMark (optional : Bool) : String := if optional then "?" else ""

theorem Class.IsFor.armTexts_eq (hd : d.IsFor false h) :
    Hint.armTexts [h, .none] = [h.text] ∧ Hint.armTexts [.none, h] = [h.text] := by
  cases hd <;> exact ⟨rfl, rfl⟩

theorem Class.IsFor.text_eq (hd : d.IsFor optional h) :
    h.text = d.className.text ++ optionalMark optional := by
  induction hd with
  | named => rw [Hint.text, optionalMark, if_neg Bool.false_ne_true, String.append_empty]
  | annotated ms _ ih => exact ih
  | orNone checked hh ih =>
    rw [optionalMark, if_neg Bool.false_ne_true, String.append_empty] at ih
    rw [Hint.text, hh.armTexts_eq.1, ih]
    simp [Hint.isNone, optionalMark]
  | noneOr checked hh ih =>
    rw [optionalMark, if_neg Bool.false_ne_true, String.append_empty] at ih
    rw [Hint.text, hh.armTexts_eq.2, ih]
    simp [Hint.isNone, optionalMark]

theorem Class.space_eq_empty_iff :
    c.space = "" ↔ c.module = "" ∧ ∀ s, c.lineage.space? = some s → s = "" := by
  rw [Class.space]
  cases c.lineage.space? with
  | none => simp
  | some s => by_cases hs : s = "" <;> simp [hs]

theorem Class.text_className (h : c.module ≠ builtinModule) :
    c.className.text = c.space ++ "." ++ c.name := if_neg h

/-! ## Type names of models -/

/-- What trimming blanks leaves alone, trimming white space leaves alone. -/
theorem trimmed_isSpace {l : List Char} (h : Trimmed isBlank l) : Trimmed isSpace l := by
  have hspace : ∀ c, isBlank c = false → isSpace c = false := by
    intro c hc
    rw [isBlank, Bool.or_eq_false_iff] at hc
    exact hc.1
  exact ⟨fun c hc => hspace c (h.head c hc), fun c hc => hspace c (h.last c hc)⟩

theorem trim_trimSpace_eq_self (h : Trimmed isBlank s.toList) : trim (trimSpace s) = s := by
  apply String.toList_inj.mp
  rw [toList_trim, toList_trimSpace, (trimmed_isSpace h).dropBothEnds_eq, h.dropBothEnds_eq]

theorem trimmed_toList_qualifiedName (hm : m.WellFormed) (optional : Bool) :
    Trimmed isBlank (m.qualifiedName ++ optionalMark optional).toList := by
  apply TypeName.trimmed_of_isBlank_eq_false
  intro c hc
  rw [String.toList_append, List.mem_append] at hc
  rcases hc with hc | hc
  · exact (hm.isPlain_qualifiedName c hc).1
  · cases optional with
    | false => simp [optionalMark] at hc
    | true =>
      have hmark : c = '?' := by simpa [optionalMark] using hc
      rw [hmark]
      decide

theorem bare_qualifiedName (hm : m.WellFormed) (optional : Bool) :
    TypeName.bare (m.qualifiedName ++ optionalMark optional) = m.qualifiedName := by
  apply hm.bare_eq
  cases optional with
  | false => exact .inl (String.append_empty)
  | true => exact .inr rfl

theorem not_isNullable_qualifiedName (hm : m.WellFormed) :
    ¬TypeName.isNullable m.qualifiedName = true := by
  have htrimmed : Trimmed isBlank m.qualifiedName.toList :=
    TypeName.trimmed_of_isBlank_eq_false fun c hc => (hm.isPlain_qualifiedName c hc).1
  rw [TypeName.isNullable_iff, htrimmed.dropBothEnds_eq]
  intro hlast
  exact (hm.isPlain_qualifiedName _ (List.mem_of_mem_getLast? hlast)).2 rfl

theorem key_qualifiedName (hm : m.WellFormed) :
    TypeName.key m.qualifiedName = fold m.qualifiedName := by
  rw [TypeName.key_eq_key_bare (not_isNullable_qualifiedName hm), TypeName.key_bare,
    hm.bare_eq (.inl rfl)]

/-- A type name stands for a model in a pass: without the mark it is a candidate, it is emitted as
the shadow type of a model that goes by the name, and unless it has the mark or is the name of a
text type, a property of the type is checked as a nested one. -/
structure Model.IsMeant (m : Model) (models : List Model) (optional : Bool) (t : String) :
    Prop where
  candidate : (Candidates.ofModels models).contains (TypeName.bare t) = true
  emitted : ∀ e : Emitter, ∃ k ∈ models, fold k.qualifiedName = fold m.qualifiedName ∧
    e.typeExpression t (Candidates.ofModels models) = e.reference k
  checked : optional = false → ∀ directive names, names.isString t = false →
    ∃ a v, Resolution.check t directive (Candidates.ofModels models) names = .nested a v

theorem isMeant_of_mem {models : List Model} (hmodels : ∀ k ∈ models, k.Accepted) (hm : m ∈ models)
    (optional : Bool) : m.IsMeant models optional (m.qualifiedName ++ optionalMark optional) := by
  have hw : m.WellFormed := (hmodels m hm).wellFormed
  have hbare := bare_qualifiedName hw optional
  have hcandidate : (Candidates.ofModels models).contains
      (TypeName.bare (m.qualifiedName ++ optionalMark optional)) = true := by
    rw [Candidates.contains_ofModels_iff, TypeName.key_bare, hbare]
    exact ⟨m, hm, rfl⟩
  refine ⟨hcandidate, ?_, ?_⟩
  · intro e
    obtain ⟨pre, k, post, rfl, hfold, -, hcanonical⟩ := exists_first_of_contains hcandidate
    have hk : k ∈ pre ++ k :: post := by simp
    rw [hbare] at hfold
    exact ⟨k, hk, hfold,
      Emitter.typeExpression_of_canonical? (hmodels k hk).wellFormed hcanonical⟩
  · rintro rfl directive names hnames
    rw [optionalMark, if_neg Bool.false_ne_true, String.append_empty] at hnames ⊢
    refine Resolution.exists_check_nested_iff.mpr
      ⟨eq_false_of_ne_true (not_isNullable_qualifiedName hw), hnames, ?_⟩
    rw [Candidates.contains_ofModels_iff, key_qualifiedName hw]
    exact ⟨m, hm, rfl⟩

/-! ## Nesting -/

/-- A hint that the description of a class shows. -/
def Class.Shows (find : Class.Lookup) (c : Class) (name : String) (h : Hint) : Prop :=
  ∃ hints, c.hints find = .ok hints ∧ (name, h) ∈ Class.shown hints

/-- Hints for objects of a class mean its model: they are written as the qualified name of the
model, with the mark if they are optional. Properties with such hints have just this type name, and
it stands for the model in a pass over the models of the registered classes. -/
structure Catalogue.Nests (k : Catalogue) (evaluate : Evaluator) (d : Class) (m : Model) :
    Prop where
  text_eq : ∀ optional h, d.IsFor optional h → h.text = m.qualifiedName ++ optionalMark optional ∧
    TypeName.bare h.text = m.qualifiedName
  property : ∀ c n, k.model c evaluate = .ok (.ok n) → ∀ name optional h,
    c.Shows (k.lookup evaluate) name h → d.IsFor optional h →
    ∃ p ∈ n.properties, p.name = trimSpace name ∧ p.typeName = h.text
  meant : ∀ ms event, k.discover k.registered evaluate = .ok (ms, event) → ∀ optional h,
    d.IsFor optional h → m.IsMeant (Description.partition ms).1 optional h.text

theorem mem_partition_iff {cs : List Class} {ms : List (Except Fault Model)}
    (h : List.Forall₂ (fun c r => k.model c evaluate = .ok r) cs ms) :
    m ∈ (Description.partition ms).1 ↔ ∃ c ∈ cs, k.model c evaluate = .ok (.ok m) := by
  induction h with
  | nil => simp [Description.partition]
  | @cons c r cs ms hr _ ih =>
    rw [List.exists_mem_cons_iff, ← ih, hr]
    cases r <;> simp [Description.partition, Except.toOption, eq_comm]

/-- The models of a pass over classes are those of the classes that are read. -/
theorem mem_models_iff {cs : List Class} {ms : List (Except Fault Model)} {event : Event}
    (h : k.discover cs evaluate = .ok (ms, event)) :
    m ∈ (Description.partition ms).1 ↔ ∃ c ∈ cs, k.model c evaluate = .ok (.ok m) := by
  rw [Catalogue.discover] at h
  obtain ⟨ms', hms, h⟩ := exists_of_bind_eq_ok h
  cases h
  exact mem_partition_iff (forall₂_of_mapM_eq_ok hms)

theorem exists_property_of_shows {n : Model} (hn : k.model c evaluate = .ok (.ok n)) {name : String}
    (hshows : c.Shows (k.lookup evaluate) name h) (ht : Trimmed isBlank h.text.toList) :
    ∃ p ∈ n.properties, p.name = trimSpace name ∧ p.typeName = h.text := by
  obtain ⟨-, hints, hhints, hrepresents⟩ := Catalogue.represents_of_model hn
  obtain ⟨hints', hhints', hmem⟩ := hshows
  cases hhints.symm.trans hhints'
  obtain ⟨p, hp, hname, htype⟩ := exists_of_mem_forall₂ hrepresents.properties hmem
  exact ⟨p, hp, hname, htype.trans (trim_trimSpace_eq_self ht)⟩

/-- Hints that are written as the name of the model of their class mean this model. -/
theorem nests_of_text_eq (hd : d ∈ k.registered) (hm : k.model d evaluate = .ok (.ok m))
    (htext : ∀ optional h, d.IsFor optional h → h.text = m.qualifiedName ++ optionalMark optional) :
    k.Nests evaluate d m where
  text_eq := by
    intro optional h hh
    rw [htext optional h hh]
    exact ⟨rfl, bare_qualifiedName (Catalogue.represents_of_model hm).1.wellFormed optional⟩
  property := by
    intro c n hn name optional h hshows hh
    apply exists_property_of_shows hn hshows
    rw [htext optional h hh]
    exact trimmed_toList_qualifiedName (Catalogue.represents_of_model hm).1.wellFormed optional
  meant := by
    intro ms event hms optional h hh
    have haccepted : ∀ n ∈ (Description.partition ms).1, n.Accepted := by
      intro n hn
      obtain ⟨c, -, hc⟩ := (mem_models_iff hms).mp hn
      exact (Catalogue.represents_of_model hc).1
    rw [htext optional h hh]
    exact isMeant_of_mem haccepted ((mem_models_iff hms).mpr ⟨d, hd, hm⟩) optional

theorem qualifiedName_eq_text (hm : k.model d evaluate = .ok (.ok m))
    (hmodule : d.module ≠ builtinModule) (hspace : trimSpace d.space = d.space) (hname : trimSpace d.name = d.name)
    (hne : d.space ≠ "") : d.className.text = m.qualifiedName := by
  obtain ⟨-, hints, -, hrepresents⟩ := Catalogue.represents_of_model hm
  rw [Class.text_className hmodule, Model.qualifiedName, qualify, hrepresents.space_eq,
    hrepresents.name_eq, hspace, hname, if_neg hne]

/-- Take a registered class that is not built in, has no white space around its namespace and its
name and is read as a model. Hints for its objects mean the model exactly if the class has a
namespace: an empty one, which only a module without a name leads to, is written as a point in front
of the name in hints and left out in the name of the model. -/
theorem nests_iff (hd : d ∈ k.registered) (hm : k.model d evaluate = .ok (.ok m))
    (hmodule : d.module ≠ builtinModule) (hspace : trimSpace d.space = d.space)
    (hname : trimSpace d.name = d.name) :
    (k.Nests evaluate d m ↔ d.space ≠ "") ∧
    (d.space = "" ↔ d.module = "" ∧ ∀ s, d.lineage.space? = some s → s = "") := by
  obtain ⟨-, hints, -, hrepresents⟩ := Catalogue.represents_of_model hm
  refine ⟨?_, Class.space_eq_empty_iff⟩
  constructor
  · intro h hempty
    have htext := (h.text_eq false _ .named).1
    have hspace_eq : m.space = "" := by rw [hrepresents.space_eq, hspace, hempty]
    rw [Class.IsFor.named.text_eq, Class.text_className hmodule, hempty,
      Model.qualifiedName_of_space_eq hspace_eq, hrepresents.name_eq, hname] at htext
    -- the point in front makes the hint one character longer
    have hlength := congrArg String.length htext
    simp at hlength
  · intro hne
    apply nests_of_text_eq hd hm
    intro optional h hh
    rw [hh.text_eq, qualifiedName_eq_text hm hmodule hspace hname hne]

/-- A class of a module with a name. -/
theorem nests_in_module :
    let d : Class := { name := "Line", module := "shop", path := "Line", identity := 1, lineage :=
      [{ identity := 1, module := "shop", name := "Line", space := some "shop" }, Lineage.top] }
    let k : Catalogue := { classes := [("Line", d)], register := [("shop.Line", d)] }
    let m : Model := { space := "shop", name := "Line" }
    d ∈ k.registered ∧ k.model d = .ok (.ok m) ∧ d.module ≠ builtinModule ∧
      trimSpace d.space = d.space ∧ trimSpace d.name = d.name ∧
      k.Nests Catalogue.namesOnly d m := by
  intro d k m
  have hd : d ∈ k.registered := List.mem_singleton_self d
  have hm : k.model d = .ok (.ok m) := model_eq_ok_of_toOption (by decide +kernel)
  have hmodule : d.module ≠ builtinModule := by decide
  have hspace : trimSpace d.space = d.space := by decide +kernel
  have hname : trimSpace d.name = d.name := by decide +kernel
  exact ⟨hd, hm, hmodule, hspace, hname,
    (nests_iff hd hm hmodule hspace hname).1.mpr (by decide +kernel)⟩

/-- A class of a module without a name: a hint for its objects begins with a point. -/
theorem not_nests_without_module :
    let d : Class := { name := "D", module := "", path := "D", identity := 1, lineage :=
      [{ identity := 1, module := "", name := "D", space := some "" }, Lineage.top] }
    let k : Catalogue := { classes := [("D", d)], register := [(".D", d)] }
    let m : Model := { name := "D" }
    d ∈ k.registered ∧ k.model d = .ok (.ok m) ∧ m.qualifiedName = "D" ∧
      (Hint.named d.className).text = ".D" ∧ ¬k.Nests Catalogue.namesOnly d m := by
  intro d k m
  have hm : k.model d = .ok (.ok m) := model_eq_ok_of_toOption (by decide +kernel)
  refine ⟨List.mem_singleton_self d, hm, by decide +kernel, by decide +kernel, ?_⟩
  intro h
  have htext : (Hint.named d.className).text = m.qualifiedName ++ optionalMark false :=
    (h.text_eq false _ .named).1
  exact absurd htext (by decide +kernel)

end ShadowTypes
