import ShadowTypes.Proofs.Generation

/-!
# Clashes of members

A property clashes if the name that it takes on the shadow type is reserved there or taken by an
earlier property. Generating an accepted model fails exactly if some property clashes; the fault is
then about the first one that does. Everything else about an accepted model generates.
-/

namespace ShadowTypes

namespace Emitter

/-- The name that a property takes on the shadow type: its member without the marks that escape. -/
def taken (e : Emitter) (p : Property) : String := Dialect.unescaped (e.dialect.member p.name)

/-- The name that the property takes is reserved, or one of the properties before takes it. -/
def Clashes (e : Emitter) (m : Model) (before : List Property) (p : Property) : Prop :=
  e.taken p ∈ e.reserved m.name ∨ ∃ q ∈ before, e.taken q = e.taken p

/-- The property, of which `before` are declared earlier, is the first of the model that clashes. -/
structure FirstClash (e : Emitter) (m : Model) (before : List Property) (p : Property) : Prop where
  split : ∃ after, m.properties = before ++ p :: after
  clashes : e.Clashes m before p
  earlier : ∀ pre q post, before = pre ++ q :: post → ¬ e.Clashes m pre q

/-- The faults of a property that clashes; a reserved name comes before a shared one. -/
inductive ClashFault (e : Emitter) (m : Model) (before : List Property) (p : Property) :
    Fault → Prop
  | reserved : e.taken p ∈ e.reserved m.name →
      ClashFault e m before p (reservedFault (some m.qualifiedName) (e.taken p) p.name)
  | shared {q : Property} : e.taken p ∉ e.reserved m.name → q ∈ before → e.taken q = e.taken p →
      ClashFault e m before p
        (sharedFault (some m.qualifiedName) q.name p.name (e.dialect.member p.name))

variable (e : Emitter) (m : Model)

/-- The names that properties take, each with the property that took it, the last one first. -/
def ownersOf (ps : List Property) : List (String × String) :=
  (ps.map fun q => (e.taken q, q.name)).reverse

theorem ownersOf_concat (ps : List Property) (p : Property) :
    e.ownersOf (ps ++ [p]) = (e.taken p, p.name) :: e.ownersOf ps := by
  simp [ownersOf]

theorem find?_ownersOf_eq_none_iff {ps : List Property} {k : String} :
    (e.ownersOf ps).find? (·.1 == k) = none ↔ ∀ q ∈ ps, e.taken q ≠ k := by
  simp [ownersOf]

theorem exists_of_find?_ownersOf {ps : List Property} {k : String} {o : String × String}
    (h : (e.ownersOf ps).find? (·.1 == k) = some o) :
    ∃ q ∈ ps, e.taken q = k ∧ o = (k, q.name) := by
  have hk := List.find?_some h
  have hmem := List.mem_of_find?_eq_some h
  simp only [ownersOf, List.mem_reverse, List.mem_map] at hmem
  obtain ⟨q, hq, rfl⟩ := hmem
  obtain rfl : e.taken q = k := by simpa using hk
  exact ⟨q, hq, rfl, rfl⟩

/-- The members of the properties `ps`, of which `before` are declared earlier. -/
def claim (before ps : List Property) : Except Fault (List String) :=
  claimMembers e.dialect (e.reserved m.name) (some m.qualifiedName) (e.ownersOf before)
    (ps.map Property.name)

theorem claim_cons (before : List Property) (p : Property) (ps : List Property) :
    e.claim m before (p :: ps) =
      if (e.reserved m.name).contains (e.taken p) then
        .error (reservedFault (some m.qualifiedName) (e.taken p) p.name)
      else match (e.ownersOf before).find? (·.1 == e.taken p) with
        | some (_, owner) =>
          .error (sharedFault (some m.qualifiedName) owner p.name (e.dialect.member p.name))
        | none => (e.claim m (before ++ [p]) ps).map (e.dialect.member p.name :: ·) := by
  rw [claim, claim, ownersOf_concat]
  rfl

theorem claim_cons_of_not_clashes {before : List Property} {p : Property}
    (h : ¬ e.Clashes m before p) (ps : List Property) :
    e.claim m before (p :: ps) =
      (e.claim m (before ++ [p]) ps).map (e.dialect.member p.name :: ·) := by
  simp only [Clashes, not_or, not_exists, not_and] at h
  have hr : ¬ (e.reserved m.name).contains (e.taken p) = true := by simpa using h.1
  have ho : (e.ownersOf before).find? (·.1 == e.taken p) = none :=
    (e.find?_ownersOf_eq_none_iff).mpr h.2
  rw [claim_cons, if_neg hr, ho]

theorem claim_cons_of_clashes {before : List Property} {p : Property}
    (h : e.Clashes m before p) (ps : List Property) :
    ∃ f, e.claim m before (p :: ps) = .error f ∧ e.ClashFault m before p f := by
  rw [claim_cons]
  by_cases hr : e.taken p ∈ e.reserved m.name
  · exact ⟨_, if_pos (by simpa using hr), .reserved hr⟩
  · have hb : ¬ (e.reserved m.name).contains (e.taken p) = true := by simpa using hr
    rw [if_neg hb]
    cases ho : (e.ownersOf before).find? (·.1 == e.taken p) with
    | none =>
      obtain ⟨q, hq, hk⟩ := h.resolve_left hr
      exact absurd hk ((e.find?_ownersOf_eq_none_iff).mp ho q hq)
    | some o =>
      obtain ⟨q, hq, hk, rfl⟩ := e.exists_of_find?_ownersOf ho
      exact ⟨_, rfl, .shared hr hq hk⟩

theorem claim_eq_ok (ps : List Property) (before : List Property)
    (h : ∀ pre q post, ps = pre ++ q :: post → ¬ e.Clashes m (before ++ pre) q) :
    e.claim m before ps = .ok (ps.map fun p => e.dialect.member p.name) := by
  induction ps generalizing before with
  | nil => rfl
  | cons p ps ih =>
    have hp : ¬ e.Clashes m before p := by simpa using h [] p ps rfl
    have hps := ih (before ++ [p]) (fun pre q post hq => by
      simpa using h (p :: pre) q post (by rw [hq, List.cons_append]))
    rw [e.claim_cons_of_not_clashes m hp, hps]
    rfl

/-- The first clash decides, whatever properties follow it. -/
theorem exists_claim_eq_error (mid : List Property) (before after : List Property) (p : Property)
    (hp : e.Clashes m (before ++ mid) p)
    (h : ∀ pre q post, mid = pre ++ q :: post → ¬ e.Clashes m (before ++ pre) q) :
    ∃ f, e.claim m before (mid ++ p :: after) = .error f ∧ e.ClashFault m (before ++ mid) p f := by
  induction mid generalizing before with
  | nil =>
    rw [List.append_nil] at hp ⊢
    exact e.claim_cons_of_clashes m hp after
  | cons q mid ih =>
    have hq : ¬ e.Clashes m before q := by simpa using h [] q mid rfl
    obtain ⟨f, hf, hc⟩ := ih (before ++ [q]) (by simpa using hp) (fun pre r post hr => by
      simpa using h (q :: pre) r post (by rw [hr, List.cons_append]))
    refine ⟨f, ?_, by simpa using hc⟩
    rw [List.cons_append, e.claim_cons_of_not_clashes m hq, hf]
    rfl

theorem exists_firstClash {before after : List Property} {p : Property}
    (hs : m.properties = before ++ p :: after) (hp : e.Clashes m before p) :
    ∃ before p, e.FirstClash m before p := by
  induction hn : before.length using Nat.strong_induction_on generalizing before p after with
  | _ n ih =>
    subst hn
    by_cases h : ∃ pre q post, before = pre ++ q :: post ∧ e.Clashes m pre q
    · obtain ⟨pre, q, post, rfl, hq⟩ := h
      exact ih pre.length (by simp) (by rw [hs, List.append_assoc]; rfl) hq rfl
    · exact ⟨before, p, ⟨after, hs⟩, hp, fun pre q post hb hq => h ⟨pre, q, post, hb, hq⟩⟩

variable {e m}

theorem memberNames_eq_ok
    (h : ∀ pre q post, m.properties = pre ++ q :: post → ¬ e.Clashes m pre q) :
    e.memberNames m = .ok (m.properties.map fun p => e.dialect.member p.name) :=
  e.claim_eq_ok m m.properties [] h

theorem FirstClash.memberNames_eq {before : List Property} {p : Property}
    (h : e.FirstClash m before p) :
    ∃ f, e.memberNames m = .error f ∧ e.ClashFault m before p f := by
  obtain ⟨after, hs⟩ := h.split
  have hf := e.exists_claim_eq_error m before [] after p h.clashes h.earlier
  rwa [← hs] at hf

end Emitter

theorem toFault_invalidModel {subject property origin : String} (hs : subject ≠ "")
    (hp : property ≠ "") (ho : origin ≠ "") (reason : String) (code : Code) :
    (Raised.fault (Fault.invalidModel (some subject) reason code (some property))).toFault
        (some subject) (some origin) =
      { code
        message := "Invalid schema for '" ++ (subject ++ "." ++ property) ++ "': " ++ reason
        context := { origin := some origin, model := some subject }
        details := [("field", .text property)] } := by
  simp [Raised.toFault, Fault.invalidModel, Fault.invalid, Fault.withContext, isGiven, hs, hp, ho,
    Details.present, Fault.optional, Value.isNull]

namespace Emitter

variable {e : Emitter} {m : Model}

/-- What the fault of a clash tells, once it is told for the model from an origin. -/
theorem ClashFault.toFault_eq {before : List Property} {p : Property} {f : Fault}
    (hf : e.ClashFault m before p f) (hm : m.WellFormed) (hp : p.WellFormed) :
    ∃ reason, (Raised.fault f).toFault (some m.qualifiedName) (some "generation") =
      { code := if e.taken p ∈ e.reserved m.name then .invalidModel else .duplicateProperty
        message :=
          "Invalid schema for '" ++ (m.qualifiedName ++ "." ++ p.name) ++ "': " ++ reason
        context := { origin := some "generation", model := some m.qualifiedName }
        details := [("field", .text p.name)] } := by
  have hn : p.name ≠ "" := fun h => Description.ne_nil_of_isName hp.isName (by simp [h])
  have ho : "generation" ≠ "" := by decide
  cases hf with
  | reserved hr =>
    rw [if_pos hr]
    exact ⟨_, toFault_invalidModel hm.qualifiedName_ne hn ho _ _⟩
  | shared hr hmem hk =>
    rw [if_neg hr]
    exact ⟨_, toFault_invalidModel hm.qualifiedName_ne hn ho _ _⟩

end Emitter

/-- An accepted model generates unless a property clashes. Otherwise the fault is about the first
property that does: a reserved name makes the model invalid, a shared one is a duplicate. -/
theorem generate_error_iff_clash {m : Model} (h : m.Accepted) (e : Emitter)
    (candidates : Candidates) (names : StringNames) :
    let w : Workshop := ⟨e, candidates, names, .none⟩
    ((∃ f, w.generate m.toDraft = .error f) ↔
      ∃ before p after, m.properties = before ++ p :: after ∧ e.Clashes m before p) ∧
    (∀ before p, e.FirstClash m before p → ∃ reason, w.generate m.toDraft = .error
      { code := if e.taken p ∈ e.reserved m.name then .invalidModel else .duplicateProperty
        message := "Invalid schema for '" ++ (m.qualifiedName ++ "." ++ p.name) ++ "': " ++ reason
        context := { origin := some "generation", model := some m.qualifiedName }
        details := [("field", .text p.name)] }) ∧
    ((∀ before p after, m.properties = before ++ p :: after → ¬ e.Clashes m before p) →
      ∃ text, w.generate m.toDraft =
        .ok ⟨m.qualifiedName, e.shadowName m.name, e.fileName m.name, text⟩) := by
  intro w
  have hm := h.wellFormed
  have hw : w.generate m.toDraft = _ := hm.generate_eq candidates names e
  have fails : ∀ before p, e.FirstClash m before p → ∃ reason, w.generate m.toDraft = .error
      { code := if e.taken p ∈ e.reserved m.name then .invalidModel else .duplicateProperty
        message := "Invalid schema for '" ++ (m.qualifiedName ++ "." ++ p.name) ++ "': " ++ reason
        context := { origin := some "generation", model := some m.qualifiedName }
        details := [("field", .text p.name)] } := by
    intro before p hp
    obtain ⟨after, hs⟩ := hp.split
    obtain ⟨f, hf, hc⟩ := hp.memberNames_eq
    obtain ⟨reason, hr⟩ := hc.toFault_eq hm (hm.properties p (by simp [hs]))
    refine ⟨reason, ?_⟩
    rw [hw, hf]
    exact congrArg Except.error hr
  have succeeds : (∀ before p after, m.properties = before ++ p :: after →
      ¬ e.Clashes m before p) → ∃ text, w.generate m.toDraft =
        .ok ⟨m.qualifiedName, e.shadowName m.name, e.fileName m.name, text⟩ := by
    intro hn
    rw [hw, Emitter.memberNames_eq_ok hn]
    exact ⟨_, rfl⟩
  refine ⟨⟨?_, ?_⟩, fails, succeeds⟩
  · rintro ⟨f, hf⟩
    by_contra hn
    obtain ⟨text, ht⟩ := succeeds fun before p after hs hp => hn ⟨before, p, after, hs, hp⟩
    rw [ht] at hf
    cases hf
  · rintro ⟨before, p, after, hs, hp⟩
    obtain ⟨before, p, hp⟩ := e.exists_firstClash m hs hp
    obtain ⟨reason, hr⟩ := fails before p hp
    exact ⟨_, hr⟩

/-- The reserved word and the word with an underscore are one member in Python. -/
theorem generate_class_and_class_underscore :
    ∃ reason, (Workshop.mk (.ofDialect .python) .empty .standard .none).generate
        (Model.toDraft { name := "Order", properties := [⟨"class", "int", none⟩,
          ⟨"class_", "int", none⟩, ⟨"check_is_valid", "int", none⟩] }) = .error
      { code := .duplicateProperty
        message := "Invalid schema for 'Order.class_': " ++ reason
        context := { origin := some "generation", model := some "Order" }
        details := [("field", .text "class_")] } := by
  refine (generate_error_iff_clash ⟨.mapping [(.text "name", .text "Order"),
    (.text "properties", .list [
      .mapping [(.text "name", .text "class"), (.text "typeName", .text "int")],
      .mapping [(.text "name", .text "class_"), (.text "typeName", .text "int")],
      .mapping [(.text "name", .text "check_is_valid"), (.text "typeName", .text "int")]])],
    false, rfl⟩ _ _ _).2.1 [⟨"class", "int", none⟩] ⟨"class_", "int", none⟩ ⟨⟨_, rfl⟩, ?_, ?_⟩
  · exact .inr ⟨_, List.mem_singleton_self _, by decide +kernel⟩
  · intro pre q post hs
    obtain ⟨rfl, rfl, -⟩ : pre = [] ∧ q = ⟨"class", "int", none⟩ ∧ post = [] := by
      cases pre <;> simp_all
    rintro (hr | ⟨r, hr, -⟩)
    · exact absurd hr (by decide +kernel)
    · cases hr

end ShadowTypes
