import ShadowTypes.Proofs.Yaml.Composing
import ShadowTypes.Proofs.Yaml.Leaves
import ShadowTypes.Yaml.Value

/-!
# What stops the reading of a YAML text

While the nodes of a document are visited, merges and collections only blame the form of the text.
A leaf is blamed for the value that it lacks: its text is that of a scalar in the document, and its
tag that of a node there, for merging changes entries and makes keys to text, but nothing else.
-/

namespace ShadowTypes.Yaml

/-- A graph as merging leaves it: scalars keep their texts, and nodes their tags, unless they are
turned into text. -/
structure Derived (g h : Graph) : Prop where
  scalar : ∀ n tag s, h.node n = .scalar tag s → ∃ tag', g.node n = .scalar tag' s
  tag : ∀ n, (h.node n).tag = (g.node n).tag ∨ (h.node n).tag = .text

section Derived

variable {g h : Graph} {known : Failure → Prop}

theorem Derived.refl (g : Graph) : Derived g g where
  scalar _ tag _ h := ⟨tag, h⟩
  tag _ := .inl rfl

theorem node_set (h : Graph) (n m : Nat) (new : Node) :
    Graph.node (h.setIfInBounds n new) m = h.node m ∨
      m = n ∧ Graph.node (h.setIfInBounds n new) m = new := by
  by_cases hm : m = n
  · subst hm
    by_cases hsize : m < h.size
    · exact .inr ⟨rfl, by simp [Graph.node, hsize]⟩
    · exact .inl (by simp [Graph.node, hsize])
  · exact .inl (by simp [Graph.node, Array.getD_eq_getD_getElem?, Ne.symm hm])

theorem Derived.set (hd : Derived g h) {n : Nat} {new : Node}
    (hscalar : ∀ tag s, new = .scalar tag s → ∃ tag', h.node n = .scalar tag' s)
    (htag : new.tag = (h.node n).tag ∨ new.tag = .text) :
    Derived g (h.setIfInBounds n new) where
  scalar m tag s hm := by
    rcases node_set h n m new with heq | ⟨rfl, heq⟩
    · exact hd.scalar m tag s (heq ▸ hm)
    · obtain ⟨tag', h'⟩ := hscalar tag s (heq.symm.trans hm)
      exact hd.scalar m tag' s h'
  tag m := by
    rcases node_set h n m new with heq | ⟨rfl, heq⟩
    · exact heq ▸ hd.tag m
    · rw [heq]
      exact htag.elim (fun h => h ▸ hd.tag m) .inr

theorem Derived.withEntries (hd : Derived g h) (n : Nat) (es : List (Nat × Nat)) :
    Derived g (h.withEntries n es) :=
  hd.set nofun (.inl rfl)

theorem Derived.withPlainKeys (hd : Derived g h) (n : Nat) : Derived g (h.withPlainKeys n) := by
  unfold Graph.withPlainKeys
  generalize h.entries n = es
  induction es generalizing h with
  | nil => exact hd
  | cons e es ih =>
    rw [List.foldl_cons]
    refine ih ?_
    split
    · refine hd.set (fun tag s heq => ?_) (.inr (by cases h.node e.1 <;> rfl))
      cases hnode : h.node e.1 with
      | scalar tag' s' =>
        rw [hnode] at heq
        cases heq
        exact ⟨tag', rfl⟩
      | sequence tag' ns =>
        rw [hnode] at heq
        cases heq
      | mapping tag' es' =>
        rw [hnode] at heq
        cases heq
    · exact hd

end Derived

/-! ## Visiting -/

namespace Outline

variable {g h : Graph}

end Outline

end ShadowTypes.Yaml
