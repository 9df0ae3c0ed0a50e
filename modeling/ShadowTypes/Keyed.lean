/-!
# Keyed lists

A keyed list holds one item per key, in the order in which the keys first came. A later item of a
key takes the place of the earlier one.
-/

namespace ShadowTypes

abbrev Keyed (α : Type) := List (String × α)

namespace Keyed

variable {α : Type}

/-- The list with the item of a key set, in its place or at the end. -/
def set : Keyed α → String → α → Keyed α
  | [], k, v => [(k, v)]
  | (k', v') :: d, k, v => if k' = k then (k, v) :: d else (k', v') :: set d k v

/-- The list overridden by the items of another one, in order. -/
def merge (d more : Keyed α) : Keyed α := more.foldl (fun d e => d.set e.1 e.2) d

def get? (d : Keyed α) (k : String) : Option α := (d.find? (·.1 == k)).map (·.2)

def keys (d : Keyed α) : List String := d.map (·.1)

def items (d : Keyed α) : List α := d.map (·.2)

@[simp] theorem merge_nil (d : Keyed α) : d.merge [] = d := rfl

@[simp] theorem merge_cons (d : Keyed α) (e : String × α) (more : Keyed α) :
    d.merge (e :: more) = (d.set e.1 e.2).merge more := rfl

/-- A new key goes to the end; the keys before it stay. -/
theorem keys_set (d : Keyed α) (k : String) (v : α) :
    (d.set k v).keys = if k ∈ d.keys then d.keys else d.keys ++ [k] := by
  induction d with
  | nil => simp [set, keys]
  | cons e d ih =>
    by_cases h : e.1 = k
    · simp [set, keys, h]
    · simp only [keys] at ih
      simp only [set, h, if_false, keys, List.map_cons, ih, List.mem_cons, Ne.symm h, false_or]
      split <;> simp_all

@[simp] theorem get?_nil (k : String) : get? ([] : Keyed α) k = none := rfl

/-- The item that was set is found under its key, and every other key keeps its item. -/
theorem get?_set (d : Keyed α) (k k' : String) (v : α) :
    (d.set k v).get? k' = if k = k' then some v else d.get? k' := by
  induction d with
  | nil => by_cases h : k = k' <;> simp [set, get?, h]
  | cons e d ih =>
    simp only [get?] at ih
    by_cases h : e.1 = k
    · subst h
      by_cases h' : e.1 = k' <;> simp [set, get?, h']
    · simp only [set, h, if_false, get?, List.find?_cons]
      by_cases h' : e.1 = k'
      · have hk : ¬ k = k' := fun hk => h (h'.trans hk.symm)
        simp [h', hk]
      · have hb : (e.1 == k') = false := by simp [h']
        simp only [hb]
        exact ih

end Keyed

end ShadowTypes
