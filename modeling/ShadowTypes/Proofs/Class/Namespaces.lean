import ShadowTypes.Proofs.Class.Describing

/-!
# Namespaces of classes

A class that opted in is to have the namespace it was given, and any other class that of its module,
in its own description and wherever another class refers to it. Three things stand in the way: an
empty namespace counts as none, a namespace that was given to a class is handed down to the classes
that are built on it, and classes of the built-in module are written without any namespace.
-/

namespace ShadowTypes

open Text

variable {k k' : Catalogue} {c : Class} {d : Declaration} {mark : Mark} {own : Layer}
  {rest : Lineage} {n s : String}

/-! ## What a mark asks for -/

/-- The namespace that a class of a module asks for: the one it gives itself or its module. -/
def Mark.wanted (module : String) : Mark → String
  | .inside n => n
  | .plain | .unmarked => module

/-- How hints are to write a class: with the namespace that it gives itself, and else with its
module, unless it is built in. -/
def Mark.reference (module name : String) : Mark → String
  | .inside n => qualify n name
  | .plain | .unmarked => if module = builtinModule then name else qualify module name

/-- The class is described, read and referred to with the namespace that its mark asks for. -/
structure Class.Honours (c : Class) (mark : Mark) : Prop where
  space_eq : c.space = mark.wanted c.module
  described : ∀ find v, c.describe find = .ok v →
    ∃ es : Entries, v = .mapping es ∧ es.field? "namespace" = some (.text (mark.wanted c.module))
  model : ∀ (k : Catalogue) (evaluate : Evaluator) m, k.model c evaluate = .ok (.ok m) →
    m.space = trimSpace (mark.wanted c.module)
  reference : (Hint.named c.className).text = mark.reference c.module c.name

/-- What it takes for a mark to be honoured, if the classes that a class is built on hand down a
namespace or none. -/
def Mark.IsHonoured (module : String) (inherited : Option String) : Mark → Prop
  | .inside n => n ≠ "" ∧ module ≠ builtinModule
  | .plain => module ≠ ""
  | .unmarked => module ≠ "" ∧ ∀ s, inherited = some s → s = "" ∨ s = module

/-! ## The namespace of a class -/

theorem Class.space_eq (hlineage : c.lineage = own :: rest) :
    c.space = match own.space.or rest.space? with
      | some s => if s = "" then c.module else s
      | none => c.module := by
  rw [Class.space, hlineage, Lineage.space?, List.findSome?_cons]
  cases own.space <;> rfl

theorem Class.text_named (c : Class) : (Hint.named c.className).text =
    if c.module = builtinModule then c.name else c.space ++ "." ++ c.name := rfl

theorem field?_of_describe {find : Class.Lookup} {v : Value} (h : c.describe find = .ok v) :
    ∃ es : Entries, v = .mapping es ∧ es.field? "namespace" = some (.text c.space) := by
  obtain ⟨hints, -, rfl⟩ := Class.exists_hints_of_describe h
  exact ⟨_, rfl, rfl⟩

theorem Class.honours_iff_space_eq : c.Honours mark ↔
    c.space = mark.wanted c.module ∧
      (Hint.named c.className).text = mark.reference c.module c.name := by
  constructor
  · intro h
    exact ⟨h.space_eq, h.reference⟩
  · rintro ⟨hspace, href⟩
    refine ⟨hspace, ?_, ?_, href⟩
    · intro find v hv
      rw [← hspace]
      exact field?_of_describe hv
    · intro k evaluate m hm
      obtain ⟨-, hints, -, hrepresents⟩ := Catalogue.represents_of_model hm
      rw [hrepresents.space_eq, hspace]

theorem qualify_ne_self (hn : n ≠ "") : qualify n s ≠ s := by
  rw [qualify, if_neg hn]
  intro h
  have hlength := congrArg String.length h
  simp at hlength

theorem qualify_eq_append_iff : n ++ "." ++ s = qualify n s ↔ n ≠ "" := by
  rw [qualify]
  split
  · next hn =>
    apply iff_of_false _ (not_not_intro hn)
    intro h
    have hlength := congrArg String.length h
    simp at hlength
  · next hn => exact iff_of_true rfl hn

/-- A class that gives itself a namespace has it if it is not empty, and is written with it if the
class is not built in. -/
theorem Class.honours_inside_iff (hlineage : c.lineage = own :: rest) (hown : own.space = some n) :
    c.Honours (.inside n) ↔ n ≠ "" ∧ c.module ≠ builtinModule := by
  have hspace : c.space = if n = "" then c.module else n := by
    rw [Class.space_eq hlineage, hown]
    rfl
  rw [Class.honours_iff_space_eq, Class.text_named, hspace, Mark.wanted, Mark.reference]
  by_cases hn : n = ""
  · rw [if_pos hn]
    refine iff_of_false (fun h => ?_) fun h => h.1 hn
    -- the class is not built in, since its module is the empty namespace
    have hmodule : c.module ≠ builtinModule := by
      rw [h.1, hn]
      decide
    rw [if_neg hmodule, h.1, qualify_eq_append_iff] at h
    exact h.2 hn
  · rw [if_neg hn, and_iff_right rfl, and_iff_right hn]
    split
    · next hmodule =>
      exact iff_of_false (fun h => qualify_ne_self hn h.symm) (not_not_intro hmodule)
    · next hmodule => exact iff_of_true (qualify_eq_append_iff.mpr hn) hmodule

/-- A class that gives itself no namespace has that of its module if no other one is handed down,
and is written with it if the module has a name. -/
theorem Class.honours_module_iff (hwanted : mark.wanted c.module = c.module)
    (href : mark.reference c.module c.name =
      if c.module = builtinModule then c.name else qualify c.module c.name) :
    c.Honours mark ↔ c.module ≠ "" ∧ c.space = c.module := by
  rw [Class.honours_iff_space_eq, Class.text_named, hwanted, href, and_comm]
  apply and_congr_left
  intro hspace
  rw [hspace]
  split
  · next hmodule => exact iff_of_true rfl (by rw [hmodule]; decide)
  · exact qualify_eq_append_iff

theorem Class.honours_iff (hlineage : c.lineage = own :: rest)
    (hown : own.space = Catalogue.givenSpace c.module mark) :
    c.Honours mark ↔ mark.IsHonoured c.module rest.space? := by
  cases mark with
  | inside n => exact Class.honours_inside_iff hlineage hown
  | plain =>
    rw [Class.honours_module_iff rfl rfl, Class.space_eq hlineage, hown, Mark.IsHonoured]
    apply and_iff_left
    change (if c.module = "" then c.module else c.module) = c.module
    exact ite_self _
  | unmarked =>
    rw [Class.honours_module_iff rfl rfl, Class.space_eq hlineage, hown, Mark.IsHonoured]
    apply and_congr_right
    intro _
    change (match rest.space? with
      | some s => if s = "" then c.module else s
      | none => c.module) = c.module ↔ _
    cases rest.space? with
    | none => simp
    | some s => by_cases hs : s = "" <;> simp [hs]

/-! ## Declared classes -/

/-- A declared class and what stands for it: the hint that is its label, and its name as a forward
reference of its module, or as a part of one. -/
structure Catalogue.Knows (k : Catalogue) (d : Declaration) (c : Class) : Prop where
  labelled : k.labelled d.label = .ok c
  module_eq : c.module = d.module
  name_eq : c.name = d.name
  read : ∀ p, (WrittenHint.label d.label).read k.labels p = .ok (.named c.className, p)
  nameMeaning : k.nameMeaning d.module d.name = .ok (.named c.className)
  meaning : Forward.isName d.name = true → ∀ (evaluate : Evaluator) g,
    k.meaning d.module d.name evaluate = .ok g → g = .named c.className

theorem exists_rest_of_extend {bases : List Lineage} {l : Lineage}
    (h : Lineage.extend own bases = .ok l) : ∃ rest, l = own :: rest := by
  unfold Lineage.extend at h
  simp only at h
  split at h
  · cases h
  · split at h
    · cases h
      exact ⟨_, rfl⟩
    · obtain ⟨rest, -, h⟩ := exists_of_bind_eq_ok h
      cases h
      exact ⟨rest, rfl⟩

theorem exists_layer_of_classOf {fields : Keyed Hint} (h : k.classOf d fields = .ok c) :
    c.module = d.module ∧ c.name = d.name ∧ ∃ own rest, c.lineage = own :: rest ∧
      own.space = Catalogue.givenSpace d.module d.mark := by
  obtain ⟨bases, -, h⟩ := exists_of_bind_eq_ok h
  obtain ⟨lineage, hlineage, h⟩ := exists_of_bind_eq_ok h
  obtain ⟨rest, rfl⟩ := exists_rest_of_extend hlineage
  cases h
  exact ⟨rfl, rfl, _, rest, rfl, rfl⟩

/-- The class that was declared last is the one that its label and its name stand for. -/
theorem knows_of_classes_eq {earlier : List (String × Class)}
    (h : k.classes = earlier ++ [(d.label, c)]) (hmodule : c.module = d.module)
    (hname : c.name = d.name) : k.Knows d c := by
  have hlabelled : k.labelled d.label = .ok c := by
    rw [Catalogue.labelled, h]
    simp
  have hnamed : k.named? d.module d.name = some c := by
    rw [Catalogue.named?, h]
    simp [hmodule, hname]
  have hmeaning : k.nameMeaning d.module d.name = .ok (.named c.className) := by
    rw [Catalogue.nameMeaning, hnamed]
  refine ⟨hlabelled, hmodule, hname, ?_, hmeaning, ?_⟩
  · intro p
    rw [WrittenHint.read, Catalogue.labels, hlabelled]
    rfl
  · intro hword evaluate g hg
    obtain ⟨-, -, hg⟩ := exists_of_bind_eq_ok hg
    rw [if_pos hword, hmeaning] at hg
    cases hg
    rfl

/-- Whatever the classes that a declared class is built on have been given by now, the class has the
namespace that its declaration asks for exactly if the namespace that it gives itself is not empty
and it is not built in, or else if its module has a name and, unless the class opted in, no other
namespace is handed down to it. -/
theorem honours_declared_iff (h : k.declare d = .ok k') :
    ∃ c own, k'.Knows d c ∧ c.lineage = own :: c.lineage.tail ∧
      ∀ rest : Lineage, ({ c with lineage := own :: rest } : Class).Honours d.mark ↔
        d.mark.IsHonoured d.module rest.space? := by
  obtain ⟨⟨fields, k₁⟩, -, h⟩ := exists_of_bind_eq_ok h
  obtain ⟨c, hc, h⟩ := exists_of_bind_eq_ok h
  cases h
  obtain ⟨hmodule, hname, own, rest, hlineage, hown⟩ := exists_layer_of_classOf hc
  refine ⟨c, own, knows_of_classes_eq rfl hmodule hname, by rw [hlineage]; rfl, ?_⟩
  intro rest'
  rw [← hmodule] at hown ⊢
  exact Class.honours_iff (c := { c with lineage := own :: rest' }) rfl hown

/-- A class that gives itself a namespace. -/
theorem honours_given_namespace :
    let d : Declaration :=
      { label := "D", module := "shop", name := "D", path := "D", mark := .inside "Acme" }
    ∃ k c, ({} : Catalogue).declare d = .ok k ∧ k.Knows d c ∧ c.Honours d.mark := by
  intro d
  have hsome : (({} : Catalogue).declare d).toOption.isSome = true := by decide +kernel
  obtain ⟨k, hk⟩ := Option.isSome_iff_exists.mp hsome
  obtain ⟨c, own, hknows, hlineage, hiff⟩ := honours_declared_iff (eq_ok_of_toOption hk)
  have hhonours := (hiff c.lineage.tail).mpr ⟨by decide, by decide⟩
  rw [← hlineage] at hhonours
  exact ⟨k, c, eq_ok_of_toOption hk, hknows, hhonours⟩

/-- A class that asks for the global namespace has that of its module, and a class that did not opt
in has the namespace of the class that it is built on. -/
theorem not_honours_empty_or_inherited :
    let ds : List Declaration := [
      { label := "Global", module := "shop", name := "Global", path := "Global",
        mark := .inside "" },
      { label := "Base", module := "shop", name := "Base", path := "Base", mark := .inside "Acme" },
      { label := "Sub", module := "shop", name := "Sub", path := "Sub", bases := ["Base"],
        mark := .unmarked }]
    ∃ k c d, ds.foldlM Catalogue.declare {} = .ok k ∧
      k.labelled "Global" = .ok c ∧ c.space = "shop" ∧ c.className.text = "shop.Global" ∧
      ¬c.Honours (.inside "") ∧
      k.labelled "Sub" = .ok d ∧ d.space = "Acme" ∧ d.className.text = "Acme.Sub" ∧
      ¬d.Honours .unmarked := by
  intro ds
  have hnames : ((ds.foldlM Catalogue.declare {}).toOption.bind fun k =>
      (k.labelled "Global").toOption.bind fun c => (k.labelled "Sub").toOption.map fun d =>
        ((c.space, c.className.text), d.module, d.space, d.className.text)) =
      some (("shop", "shop.Global"), "shop", "Acme", "Acme.Sub") := by decide +kernel
  obtain ⟨k, hk, hnames⟩ := Option.bind_eq_some_iff.mp hnames
  obtain ⟨c, hc, hnames⟩ := Option.bind_eq_some_iff.mp hnames
  obtain ⟨d, hd, hnames⟩ := Option.map_eq_some_iff.mp hnames
  simp only [Prod.mk.injEq] at hnames
  obtain ⟨⟨hcspace, hctext⟩, hmodule, hdspace, hdtext⟩ := hnames
  refine ⟨k, c, d, eq_ok_of_toOption hk, eq_ok_of_toOption hc, hcspace, hctext, ?_,
    eq_ok_of_toOption hd, hdspace, hdtext, ?_⟩
  · intro h
    have hspace : c.space = "" := h.space_eq
    simp [hcspace] at hspace
  · intro h
    have hspace : d.space = d.module := h.space_eq
    simp [hdspace, hmodule] at hspace

end ShadowTypes
