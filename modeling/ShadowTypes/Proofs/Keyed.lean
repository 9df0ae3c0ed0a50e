import Mathlib.Data.List.Nodup
import ShadowTypes.Keyed

/-!
# Keys of a keyed list

A keyed list whose keys are different stays so when items are set, and the item of a key is the one
that stands with it.
-/

namespace ShadowTypes

namespace Keyed

variable {α : Type} {d more : Keyed α} {e f : String × α} {k : String} {a : α}

theorem nodup_keys_set (h : d.keys.Nodup) (k : String) (a : α) : (d.set k a).keys.Nodup := by
  rw [keys_set]
  split
  · exact h
  · next hk => exact List.nodup_append_comm.mp (List.nodup_cons.mpr ⟨hk, h⟩)

theorem nodup_keys_merge (h : d.keys.Nodup) (more : Keyed α) : (d.merge more).keys.Nodup := by
  induction more generalizing d with
  | nil => exact h
  | cons e more ih => exact ih (nodup_keys_set h e.1 e.2)

/-- What is in the list once an item is set is this item or was there under another key. -/
theorem mem_set (h : d.keys.Nodup) (he : e ∈ d.set k a) : e = (k, a) ∨ (e ∈ d ∧ e.1 ≠ k) := by
  induction d with
  | nil => exact .inl (List.mem_singleton.mp he)
  | cons first d ih =>
    obtain ⟨hfirst, hrest⟩ := List.nodup_cons.mp h
    by_cases hkey : first.1 = k
    · rw [set, if_pos hkey] at he
      rcases List.mem_cons.mp he with rfl | he
      · exact .inl rfl
      · have hne : e.1 ≠ k := fun heq =>
          hfirst (List.mem_map.mpr ⟨e, he, heq.trans hkey.symm⟩)
        exact .inr ⟨List.mem_cons_of_mem _ he, hne⟩
    · rw [set, if_neg hkey] at he
      rcases List.mem_cons.mp he with rfl | he
      · exact .inr ⟨List.mem_cons_self, hkey⟩
      · rcases ih hrest he with rfl | ⟨he, hne⟩
        · exact .inl rfl
        · exact .inr ⟨List.mem_cons_of_mem _ he, hne⟩

theorem mem_merge (h : d.keys.Nodup) (he : e ∈ d.merge more) : e ∈ d ∨ e ∈ more := by
  induction more generalizing d with
  | nil => exact .inl he
  | cons f more ih =>
    rcases ih (nodup_keys_set h f.1 f.2) he with he | he
    · rcases mem_set h he with rfl | ⟨he, -⟩
      · exact .inr List.mem_cons_self
      · exact .inl he
    · exact .inr (List.mem_cons_of_mem f he)

theorem get?_eq_some_of_mem (h : d.keys.Nodup) (hf : f ∈ d) : d.get? f.1 = some f.2 := by
  induction d with
  | nil => cases hf
  | cons e d ih =>
    obtain ⟨he, hd⟩ := List.nodup_cons.mp h
    rcases List.mem_cons.mp hf with rfl | hf
    · simp [get?]
    · have hne : ¬e.1 = f.1 := fun heq => he (List.mem_map.mpr ⟨f, hf, heq.symm⟩)
      rw [← ih hd hf, get?, List.find?_cons_of_neg (by simpa using hne), get?]

end Keyed

end ShadowTypes
