import ShadowTypes.Proofs.Class.Register

/-!
# Models of the registered classes

The registered classes are described and read one after another. A class that cannot be described
because of a name that is missing or a hint that does not fit is a fault of its own, and so is a
class that cannot be read. Any other failure of a description ends the work on all classes: a
forward reference that is no expression does so.
-/

namespace ShadowTypes

variable {k k' : Catalogue} {c : Class} {cs : List Class} {x : Failure} {evaluate : Evaluator}

namespace Catalogue

/-- The classes have the same names in both catalogues, whatever else they are. -/
def NamesAlike (k k' : Catalogue) : Prop :=
  k.classes.map (fun e => e.2.className) = k'.classes.map fun e => e.2.className

theorem className_named? (module name : String) : (k.named? module name).map Class.className =
    (k.classes.map fun e => e.2.className).reverse.find? fun n =>
      n.module == module && n.name == name := by
  rw [named?, ← List.map_reverse, List.find?_map, Option.map_map]
  rfl

theorem NamesAlike.className_named?_eq (h : k.NamesAlike k') (module name : String) :
    (k.named? module name).map Class.className = (k'.named? module name).map Class.className := by
  rw [className_named?, className_named?, h]

theorem NamesAlike.lookup_eq (h : k.NamesAlike k') (evaluate : Evaluator) :
    k.lookup evaluate = k'.lookup evaluate := by
  have hname (module name : String) : k.nameMeaning module name = k'.nameMeaning module name := by
    have hnamed := h.className_named?_eq module name
    unfold nameMeaning
    cases hk : k.named? module name <;> cases hk' : k'.named? module name <;>
      simp_all
  have hmeaning (module text : String) :
      k.meaning module text evaluate = k'.meaning module text evaluate := by
    rw [meaning, meaning, funext (hname module)]
  funext module r
  have hown : (k.named? module ownName).isNone = (k'.named? module ownName).isNone := by
    rw [← Option.isNone_map, h.className_named?_eq, Option.isNone_map]
  rw [lookup, lookup, hmeaning, hmeaning, hown]

theorem NamesAlike.model_eq (h : k.NamesAlike k') (c : Class) :
    k.model c evaluate = k'.model c evaluate := by
  rw [model, model, describe, describe, h.lookup_eq]

/-! ## All classes -/

end Catalogue

end ShadowTypes
