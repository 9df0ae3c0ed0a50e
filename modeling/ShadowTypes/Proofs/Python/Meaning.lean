import ShadowTypes.Proofs.Passes
import ShadowTypes.Proofs.Python.Classes
import ShadowTypes.Proofs.Python.Validity

/-!
# The meaning of generated conditions

Take a pass in the Python dialect that generates every model and gives its shadow types different
names. On every tree of their objects, however deep, the condition of a shadow type comes to a truth
value: nothing is ever asked of null. The value is true exactly if the object is valid for the
model.

The proof is an induction on the tree. A demand on a field is met exactly if its expression is true,
where the nested demand relies on the objects below; and the demands on all fields together are the
condition on one side and validity on the other.
-/

namespace ShadowTypes

namespace Python

/-- The object is one of the model's shadow type, and so are the objects below it. The fields are
the members; where text is checked they hold text or null, and where a nested object is checked,
null or an object of the shadow type that is referred to. Other fields hold anything. -/
inductive Instance (p : Pass) (models : List Model) : Model → Object → Prop
  | intro {m : Model} {fields : List (String × Object)}
      (members : fields.map Prod.fst = m.properties.map fun q => Dialect.python.member q.name)
      (text : ∀ q ∈ m.properties, ∀ r,
        (q.resolved (Candidates.ofModels models) p.names).check = .text r →
        ∀ v, (Object.shadow (p.emitter.shadowName m.name) fields).field?
          (Dialect.python.member q.name) = some v → v = .none ∨ ∃ s, v = .text s)
      (nested : ∀ q ∈ m.properties, ∀ a b,
        (q.resolved (Candidates.ofModels models) p.names).check = .nested a b →
        ∀ k ∈ models, Refers q k →
        ∀ v, (Object.shadow (p.emitter.shadowName m.name) fields).field?
          (Dialect.python.member q.name) = some v → v ≠ .none → Instance p models k v) :
      Instance p models m (.shadow (p.emitter.shadowName m.name) fields)

section

variable {type name : String} {fields : List (String × Object)}

theorem exists_field?_of_mem (h : name ∈ fields.map Prod.fst) :
    ∃ v, (Object.shadow type fields).field? name = some v := by
  obtain ⟨f, hf, rfl⟩ := List.mem_map.mp h
  have hs : (fields.find? (·.1 == f.1)).isSome = true :=
    List.find?_isSome.mpr ⟨f, hf, beq_self_eq_true _⟩
  obtain ⟨g, hg⟩ := Option.isSome_iff_exists.mp hs
  exact ⟨g.2, by rw [Object.field?, hg]; rfl⟩

theorem field?_eq_none (h : name ∉ fields.map Prod.fst) :
    (Object.shadow type fields).field? name = none := by
  have hf : fields.find? (·.1 == name) = none := by
    rw [List.find?_eq_none]
    intro f hf hname
    exact h (List.mem_map.mpr ⟨f, hf, beq_iff_eq.mp hname⟩)
  rw [Object.field?, hf]
  rfl

end

section

variable {p : Pass} {models : List Model} {k m : Model} {o : Object}

theorem Instance.model_eq (ho : Instance p models m o)
    (hs : (models.map fun m => p.emitter.shadowName m.name).Nodup) (hm : m ∈ models)
    (hk : k ∈ models) (hok : Instance p models k o) : m = k := by
  cases ho with
  | intro members text nested =>
    generalize hname : p.emitter.shadowName m.name = type at hok
    cases hok
    exact List.inj_on_of_nodup_map hs hm hk hname

/-- Where a value is of a shadow type, being valid for the models that the type names is being valid
for one of them. -/
theorem Instance.validNested_iff {q : Property} {v : Object} {names : StringNames}
    (hi : ∀ k ∈ models, Refers q k → Instance p models k v)
    (hs : (models.map fun m => p.emitter.shadowName m.name).Nodup)
    (hk : Governs names models q (.valid k)) :
    ValidNested names models q v ↔ Valid names models k v := by
  constructor
  · exact fun hvalid => hvalid k hk
  · intro hvalid j hj
    obtain ⟨hjm, hjr⟩ := hj.refers
    obtain ⟨hkm, hkr⟩ := hk.refers
    rwa [(hi j hjm hjr).model_eq hs hjm hkm (hi k hkm hkr)]

theorem member_ne_validityMethod (hd : p.emitter.dialect = .python) (hg : p.GeneratesAll models)
    (hm : m ∈ models) (hw : m.WellFormed) {q : Property} (hq : q ∈ m.properties) :
    Dialect.python.member q.name ≠ Dialect.python.validityMethod := by
  intro hmember
  have hword := (Dialect.member_python (hw.properties q hq).isName).1
  have htaken : p.emitter.taken q = Dialect.python.validityMethod := by
    rw [Emitter.taken, hd, Dialect.unescaped, Text.dropWhile_mark_of_isWordText hword,
      String.ofList_toList, hmember]
  apply hg.taken_notMem_reserved hm hq
  rw [htaken, Emitter.reserved, hd]
  exact List.mem_singleton_self _

theorem Instance.call_validityMethod (ho : Instance p models m o)
    (hd : p.emitter.dialect = .python) (hw : ∀ m ∈ models, m.WellFormed)
    (hg : p.GeneratesAll models)
    (hs : (models.map fun m => p.emitter.shadowName m.name).Nodup) (hm : m ∈ models) (n : Nat) :
    (Program.ofPass p models).call (n + 1) o Dialect.python.validityMethod =
      (classOf p models m).condition.eval ((Program.ofPass p models).call n) o := by
  cases ho with
  | @intro _ fields members text nested =>
    have hf : (Object.shadow (p.emitter.shadowName m.name) fields).field?
        Dialect.python.validityMethod = none := by
      apply field?_eq_none
      rw [members, List.mem_map]
      rintro ⟨q, hq, hname⟩
      exact member_ne_validityMethod hd hg hm (hw m hm) hq hname
    rw [Program.call]
    simp only [find?_class hd hw hs hm, hf, ↓reduceIte]

end

variable {models : List Model}

theorem yields_ofDemand {program : Program} {o v : Object} {name : String} {d : Demand}
    {valid : Prop} (hv : o.field? name = some v)
    (text : d = .nonEmpty ∨ d = .nonBlank → v = .none ∨ ∃ s, v = .text s)
    (nested : d = .nestedValid → v ≠ .none → ∃ b, (b = true ↔ valid) ∧ ∃ n, ∀ k, n ≤ k →
      program.call k v Dialect.python.validityMethod = .ok (.bool b)) :
    ∃ b, program.Yields o (.ofDemand name d) (.ok (.bool b)) ∧ (b = true ↔ Met v valid d) := by
  by_cases hne : v = .none
  · subst hne
    exact ⟨false, ⟨0, fun k _ => eval_ofDemand_of_none hv d⟩, by cases d <;> simp [Met]⟩
  cases d with
  | present => exact ⟨true, ⟨0, fun k _ => eval_given_of_ne hv hne⟩, by simp [Met, hne]⟩
  | nonEmpty =>
    obtain ⟨s, rfl⟩ := (text (.inl rfl)).resolve_left hne
    exact ⟨_, ⟨0, fun k _ => eval_nonEmpty hv⟩, by simp [Met]⟩
  | nonBlank =>
    obtain ⟨s, rfl⟩ := (text (.inr rfl)).resolve_left hne
    refine ⟨_, ⟨1, fun k hk => eval_nonBlank hv ?_⟩, ?_⟩
    · obtain ⟨j, rfl⟩ := Nat.exists_eq_add_of_le' hk
      rfl
    · rw [trim_ne_empty_iff]
      simp [Met]
  | nestedValid =>
    obtain ⟨b, hb, n, hn⟩ := nested rfl hne
    exact ⟨b, ⟨n, fun k hk => eval_nestedValid hv hne (hn k hk)⟩, by simp [Met, hne, hb]⟩

/-- If every demanded test of a field says whether its demand is met, the condition says whether the
object is valid. -/
theorem yields_condition {names : StringNames} {program : Program} {m : Model} {o : Object}
    (h : ∀ q ∈ m.properties, ∃ v, o.field? (Dialect.python.member q.name) = some v ∧
      ∀ d, (q.resolved (Candidates.ofModels models) names).check.demand? = some d →
        ∃ b, program.Yields o (.ofDemand (Dialect.python.member q.name) d) (.ok (.bool b)) ∧
          (b = true ↔ Met v (ValidNested names models q v) d)) :
    ∃ b, program.Yields o (.all (m.properties.filterMap (demanded? names models)))
        (.ok (.bool b)) ∧ (b = true ↔ Valid names models m o) := by
  have part : ∀ e ∈ m.properties.filterMap (demanded? names models), ∃ q ∈ m.properties, ∃ d,
      (q.resolved (Candidates.ofModels models) names).check.demand? = some d ∧
        e = .ofDemand (Dialect.python.member q.name) d := by
    intro e he
    obtain ⟨q, hq, hqe⟩ := List.mem_filterMap.mp he
    obtain ⟨d, hd, rfl⟩ := Option.map_eq_some_iff.mp hqe
    exact ⟨q, hq, d, hd, rfl⟩
  obtain ⟨b, hb, hall⟩ := Program.yields_all fun e he => by
    obtain ⟨q, hq, d, hd, rfl⟩ := part e he
    obtain ⟨v, -, hv⟩ := h q hq
    obtain ⟨c, hc, -⟩ := hv d hd
    exact ⟨c, hc⟩
  refine ⟨b, hb, ?_⟩
  rw [hall, valid_iff]
  constructor
  · intro ht q hq v hv d hd
    obtain ⟨w, hw, hdemand⟩ := h q hq
    obtain rfl : w = v := Option.some.inj (hw.symm.trans hv)
    obtain ⟨c, hc, hmet⟩ := hdemand d hd
    have hmem : Expression.ofDemand (Dialect.python.member q.name) d ∈
        m.properties.filterMap (demanded? names models) :=
      List.mem_filterMap.mpr ⟨q, hq, by rw [demanded?, hd]; rfl⟩
    exact hmet.mp (hc.eq (ht _ hmem))
  · intro hvalid e he
    obtain ⟨q, hq, d, hd, rfl⟩ := part e he
    obtain ⟨v, hv, hdemand⟩ := h q hq
    obtain ⟨c, hc, hmet⟩ := hdemand d hd
    rw [← hmet.mpr (hvalid q hq v hv d hd)]
    exact hc

/-- On every tree of objects of shadow types the condition of a shadow type comes to a truth value,
which is true exactly if the object is valid. -/
theorem yields_iff_valid {p : Pass} {models : List Model} (hd : p.emitter.dialect = .python)
    (ha : ∀ m ∈ models, m.Accepted) (hg : p.GeneratesAll models)
    (hs : (models.map fun m => p.emitter.shadowName m.name).Nodup) :
    ∀ m ∈ models, ∃ c,
      Class.ofModel? (p.workshop (Candidates.ofModels models)) m = some c ∧
      ∀ o, Instance p models m o →
        ∃ b, (Program.ofPass p models).Yields o c.condition (.ok (.bool b)) ∧
          (b = true ↔ Valid p.names models m o) := by
  have hw : ∀ m ∈ models, m.WellFormed := fun m hm => (ha m hm).wellFormed
  intro m hm
  refine ⟨_, ofModel?_eq hd (hw m hm) models, ?_⟩
  clear hm
  intro o ho
  -- the tree below a field is an instance of its own model, for which the hypothesis speaks
  induction ho with
  | @intro m fields members text nested ih =>
    apply yields_condition
    intro q hq
    obtain ⟨v, hv⟩ : ∃ v, (Object.shadow (p.emitter.shadowName m.name) fields).field?
        (Dialect.python.member q.name) = some v :=
      exists_field?_of_mem (members ▸ List.mem_map_of_mem hq)
    refine ⟨v, hv, fun d hdemand => yields_ofDemand hv ?_ ?_⟩
    · intro htext
      obtain ⟨r, hr⟩ := exists_text_of_demand? hdemand htext
      exact text q hq r hr v hv
    · rintro rfl hne
      obtain ⟨a, hcheck⟩ := exists_nested_of_demand? hdemand
      obtain ⟨k, hk, href, hgov⟩ := exists_governs_valid hdemand
      have hi : ∀ k ∈ models, Refers q k → Instance p models k v := fun k hk href =>
        nested q hq a true hcheck k hk href v hv hne
      obtain ⟨b, ⟨n, hn⟩, hb⟩ := ih q hq a true hcheck k hk href v hv hne
      refine ⟨b, hb.trans (Instance.validNested_iff hi hs hgov).symm, n + 1, fun j hj => ?_⟩
      -- a call costs one level of nesting
      obtain ⟨i, rfl⟩ : ∃ i, j = i + 1 := ⟨j - 1, by omega⟩
      rw [(hi k hk href).call_validityMethod hd hw hg hs hk]
      exact hn i (by omega)

/-- A blank text far down makes the objects above it invalid. -/
theorem yields_false_of_blank_below :
    let label : Property := ⟨"Label", "string", none⟩
    let next : Property := ⟨"Next", "ACME.node", some (.basic true)⟩
    let node : Model := { space := "acme", name := "Node", properties := [label, next] }
    let pass : Pass := { emitter := .ofDialect .python }
    let leaf := Object.shadow "NodeDTO" [("Label", .text " "), ("Next", .none)]
    let root := Object.shadow "NodeDTO" [("Label", .text "top"), ("Next", leaf)]
    ∃ c, Class.ofModel? (pass.workshop (Candidates.ofModels [node])) node = some c ∧
      (Program.ofPass pass [node]).Yields root c.condition (.ok (.bool false)) := by
  intro label next node pass leaf root
  have accepted : ∀ m ∈ [node], m.Accepted := by
    intro m hm
    rw [List.mem_singleton.mp hm]
    exact ⟨.mapping [(.text "namespace", .text "acme"), (.text "name", .text "Node"),
      (.text "properties", .list [
        .mapping [(.text "name", .text "Label"), (.text "typeName", .text "string")],
        .mapping [(.text "name", .text "Next"), (.text "typeName", .text "ACME.node"),
          (.text "annotation", .mapping [(.text "kind", .text "basic"),
            (.text "allow_null", .bool true)])]])], false, rfl⟩
  have generates : pass.GeneratesAll [node] := by
    intro o ho
    rw [List.mem_singleton.mp ho]
    have hmem : (pass.emitter.memberNames node).isOk = true := by decide +kernel
    have h := (accepted node (List.mem_singleton_self _)).wellFormed.generate_eq
      (Candidates.ofModels [node]) pass.names pass.emitter
    cases hn : pass.emitter.memberNames node with
    | error f =>
      rw [hn] at hmem
      cases hmem
    | ok members =>
      rw [hn] at h
      exact ⟨_, h⟩
  have hlabel : (label.resolved (Candidates.ofModels [node]) pass.names).check =
      .text .requireText := by decide +kernel
  have hnext : (next.resolved (Candidates.ofModels [node]) pass.names).check =
      .nested true true := by decide +kernel
  have hml : Dialect.python.member "Label" = "Label" := by decide +kernel
  have hmn : Dialect.python.member "Next" = "Next" := by decide +kernel
  -- both objects hold text and an object of the same type or null
  have isNode : ∀ s below, (below = .none ∨ Instance pass [node] node below) →
      Instance pass [node] node (.shadow "NodeDTO" [("Label", .text s), ("Next", below)]) := by
    intro s below hi
    refine .intro (by simp [node, label, next, hml, hmn]) ?_ ?_
    · intro q hq r hr v hv
      rcases List.mem_cons.mp hq with rfl | hq
      · rw [hml] at hv
        exact .inr ⟨s, (Option.some.inj hv).symm⟩
      · rw [List.mem_singleton.mp hq, hnext] at hr
        cases hr
    · intro q hq a b hc k hk href v hv hne
      rcases List.mem_cons.mp hq with rfl | hq
      · rw [hlabel] at hc
        cases hc
      · rw [List.mem_singleton.mp hq, hmn] at hv
        obtain rfl : below = v := Option.some.inj hv
        rw [List.mem_singleton.mp hk]
        exact hi.resolve_left hne
  have invalid : ¬ Valid pass.names [node] node root := by
    intro h
    have hdemand : (next.resolved (Candidates.ofModels [node]) pass.names).check.demand? =
        some .nestedValid := by
      rw [hnext]
      rfl
    obtain ⟨-, hleaf⟩ := valid_iff.mp h next (by simp [node]) leaf (by rw [hmn]; rfl) _ hdemand
    obtain ⟨k, hk, -, hgov⟩ := exists_governs_valid hdemand
    rw [List.mem_singleton.mp hk] at hgov
    obtain ⟨s, hs, c, hc, hblank⟩ := valid_iff.mp (hleaf node hgov) label (by simp [node])
      (.text " ") (by rw [hml]; rfl) .nonBlank (by rw [hlabel]; rfl)
    cases hs
    obtain rfl : c = ' ' := by simpa using hc
    exact absurd hblank (by decide)
  obtain ⟨c, hc, hmeaning⟩ := yields_iff_valid rfl accepted generates (by decide) node
    (List.mem_singleton_self _)
  obtain ⟨b, hb, hvalid⟩ := hmeaning root (isNode _ _ (.inr (isNode _ _ (.inl rfl))))
  obtain rfl : b = false := by
    rw [← Bool.not_eq_true, hvalid]
    exact invalid
  exact ⟨c, hc, hb⟩

end Python

end ShadowTypes
