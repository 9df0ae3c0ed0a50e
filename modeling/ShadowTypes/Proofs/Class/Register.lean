import Mathlib.Data.List.DropRight
import ShadowTypes.Proofs.Class.Namespaces
import ShadowTypes.Proofs.Keyed

/-!
# The register of classes

Classes opt in one after another, some of them again, and now and then the register is cleared. At
any time it lists one class for each module and path that opted in since it was cleared last: the
class that did so last, at the place of the first. The models of the listed classes are found one
by one. A class that cannot be described or read is a fault of its own, unless its hints fail in a
way that is not foreseen, which ends the work on all of them.
-/

namespace ShadowTypes

variable {k k' : Catalogue} {c d l : Class} {cs listed : List Class} {r : Keyed Class}

/-! ## Opting in -/

/-- The class with the namespace that it is given when it opts in: its own choice or its module. -/
def Class.optIn (c : Class) (space : Option String) : Class :=
  { c with lineage := match c.lineage with
    | own :: rest => { own with space := some (space.getD c.module) } :: rest
    | [] => [] }

/-- What happens to the register. -/
inductive Registration
  /-- A class opts in, with a namespace of its own or with its module. -/
  | optIn (c : Class) (space : Option String)
  /-- All classes are taken off. -/
  | clear

namespace Registration

def apply (r : Keyed Class) : Registration → Keyed Class
  | .optIn c space => r.set c.key (c.optIn space)
  | .clear => []

/-- The register after a history that began with an empty one. -/
def run (rs : List Registration) : Keyed Class := rs.foldl apply []

end Registration

/-! ## What the register lists -/

/-- Of the classes that opted in one after another, one is listed for each key: the last one, at the
place of the first. -/
structure Lists (cs listed : List Class) : Prop where
  all : ∀ c ∈ cs, ∃ l ∈ listed, l.key = c.key
  once : (listed.map Class.key).Nodup
  last : ∀ l ∈ listed, ∃ before after, cs = before ++ l :: after ∧ ∀ c ∈ after, c.key ≠ l.key
  order : listed.Pairwise fun l m =>
    (cs.map Class.key).idxOf l.key < (cs.map Class.key).idxOf m.key

/-- Every class is listed under its own key. -/
def Keyed.ByKey (r : Keyed Class) : Prop := ∀ e ∈ r, e.1 = e.2.key

theorem Keyed.ByKey.keys_eq (h : r.ByKey) : r.keys = r.items.map Class.key := by
  rw [Keyed.keys, Keyed.items, List.map_map]
  exact List.map_congr_left h

theorem Keyed.byKey_set (h : r.ByKey) (hnodup : r.keys.Nodup) (c : Class) :
    Keyed.ByKey (r.set c.key c) := by
  intro e he
  rcases Keyed.mem_set hnodup he with rfl | ⟨he, -⟩
  · rfl
  · exact h e he

namespace Lists

theorem nil : Lists [] [] where
  all := nofun
  once := List.nodup_nil
  last := nofun
  order := .nil

theorem mem_keys_iff (h : Lists cs listed) {key : String} :
    key ∈ listed.map Class.key ↔ key ∈ cs.map Class.key := by
  rw [List.mem_map, List.mem_map]
  constructor
  · rintro ⟨l, hl, rfl⟩
    obtain ⟨before, after, rfl, -⟩ := h.last l hl
    exact ⟨l, by simp, rfl⟩
  · rintro ⟨c, hc, rfl⟩
    exact h.all c hc

/-- Keys keep their places when one more class opts in, and a new key comes behind all of them. -/
theorem order_set (h : Lists cs r.items) (hr : r.ByKey) (c : Class) :
    (r.set c.key c).keys.Pairwise fun a b =>
      ((cs ++ [c]).map Class.key).idxOf a < ((cs ++ [c]).map Class.key).idxOf b := by
  have hmem : ∀ a ∈ r.keys, a ∈ cs.map Class.key := by
    intro a ha
    rw [hr.keys_eq] at ha
    exact h.mem_keys_iff.mp ha
  have hplace : ∀ a ∈ r.keys,
      ((cs ++ [c]).map Class.key).idxOf a = (cs.map Class.key).idxOf a := by
    intro a ha
    rw [List.map_append]
    exact List.idxOf_append_of_mem (hmem a ha)
  have hold : r.keys.Pairwise fun a b =>
      ((cs ++ [c]).map Class.key).idxOf a < ((cs ++ [c]).map Class.key).idxOf b := by
    have horder : (r.items.map Class.key).Pairwise fun a b =>
        (cs.map Class.key).idxOf a < (cs.map Class.key).idxOf b :=
      h.order.map Class.key fun _ _ hlt => hlt
    rw [← hr.keys_eq] at horder
    refine horder.imp_of_mem fun ha hb hlt => ?_
    rwa [hplace _ ha, hplace _ hb]
  rw [Keyed.keys_set]
  split
  · exact hold
  · next hnew =>
    refine List.pairwise_append.mpr ⟨hold, List.pairwise_singleton _ _, fun a ha b hb => ?_⟩
    obtain rfl := List.mem_singleton.mp hb
    have hnotMem : c.key ∉ cs.map Class.key := by
      rwa [hr.keys_eq, h.mem_keys_iff] at hnew
    rw [hplace a ha, List.map_append, List.idxOf_append_of_notMem hnotMem]
    exact (List.idxOf_lt_length_of_mem (hmem a ha)).trans_le (Nat.le_add_right _ _)

/-- One more class takes the place of an earlier one of its key, or comes last. -/
theorem set (h : Lists cs r.items) (hr : r.ByKey) (c : Class) :
    Lists (cs ++ [c]) (r.set c.key c).items := by
  have hnodup : r.keys.Nodup := hr.keys_eq ▸ h.once
  have hkeys := (Keyed.byKey_set hr hnodup c).keys_eq
  have hmem : ∀ key, key ∈ (r.set c.key c).keys ↔ key ∈ r.keys ∨ key = c.key := by
    intro key
    rw [Keyed.keys_set]
    split
    · next hc =>
      rw [iff_self_or]
      rintro rfl
      exact hc
    · rw [List.mem_append, List.mem_singleton]
  have horder := h.order_set hr c
  constructor
  · intro x hx
    rw [← List.mem_map (f := Class.key), ← hkeys, hmem, hr.keys_eq, h.mem_keys_iff]
    rcases List.mem_append.mp hx with hx | hx
    · exact .inl (List.mem_map_of_mem hx)
    · exact .inr (congrArg Class.key (List.mem_singleton.mp hx))
  · rw [← hkeys]
    exact horder.imp fun hlt heq => absurd hlt (by rw [heq]; exact Nat.lt_irrefl _)
  · intro l hl
    obtain ⟨e, he, rfl⟩ := List.mem_map.mp hl
    rcases Keyed.mem_set hnodup he with rfl | ⟨hold, hne⟩
    · exact ⟨cs, [], rfl, nofun⟩
    · obtain ⟨before, after, hsplit, hafter⟩ := h.last e.2 (List.mem_map_of_mem hold)
      refine ⟨before, after ++ [c], by rw [hsplit, List.append_assoc, List.cons_append], ?_⟩
      intro x hx
      rcases List.mem_append.mp hx with hx | hx
      · exact hafter x hx
      · rw [List.mem_singleton.mp hx, ← hr e hold]
        exact fun heq => hne heq.symm
  · rw [hkeys] at horder
    exact List.Pairwise.of_map Class.key (fun _ _ hlt => hlt) horder

end Lists

/-- What a declaration does to the register, once its class is formed. -/
def Mark.registrations (c : Class) : Mark → List Registration
  | .unmarked => []
  | .plain => [.optIn c none]
  | .inside s => [.optIn c (some s)]

/-- The class of a declaration before it opts in. -/
def Catalogue.Forms (k : Catalogue) (d : Declaration) (c : Class) : Prop :=
  ∃ fields k', k.fields d.fields = .ok (fields, k') ∧
    k'.classOf { d with mark := .unmarked } fields = .ok c

/-- A catalogue and what has happened to its register: classes were declared, classes opted in some
time after their declaration, and the register was cleared. -/
inductive Catalogue.Keeps : Catalogue → List Registration → Prop
  | empty : Keeps {} []
  | declare {k k' : Catalogue} {rs : List Registration} {d : Declaration} {c : Class} :
      Keeps k rs → k.Forms d c → k.declare d = .ok k' → Keeps k' (rs ++ d.mark.registrations c)
  | optIn {k : Catalogue} {rs : List Registration} (c : Class) (space : Option String) :
      Keeps k rs → Keeps { k with register := k.register.set c.key (c.optIn space) }
        (rs ++ [.optIn c space])
  | clear {k : Catalogue} {rs : List Registration} : Keeps k rs → Keeps k.clear (rs ++ [.clear])

end ShadowTypes
