import ShadowTypes.Proofs.Blanks
import ShadowTypes.Proofs.Resolution

/-!
# Listed names of the text type

Listed names are folded and type names are trimmed and folded. So a type name means text exactly if
it is, up to letter case and blanks around it, a listed name that has no blanks around it itself. A
list does what it is expected to do exactly if each of its names is also listed without blanks
around it, in some letter case; else there is a listed name that is not recognised.
-/

namespace ShadowTypes

namespace StringNames

variable {names : List String} {n t : String} {p : DraftProperty} {candidates : Candidates}

/-- A name of the list that is, as type names are compared, the given one and has no blanks around
it. -/
def ListsPlainly (names : List String) (t : String) : Prop :=
  ∃ n ∈ names, Text.trim n = n ∧ TypeName.key n = TypeName.key t

/-- The list means what it says: a type name means text exactly if it is a listed name up to letter
case and blanks around it, so that every listed name means text, and a property of a type by such a
name is checked as text unless the type is nullable. -/
structure Recognises (names : List String) : Prop where
  isString_iff : ∀ t, (ofNames names).isString t = true ↔
    ∃ n ∈ names, TypeName.key n = TypeName.key t
  listed : ∀ n ∈ names, (ofNames names).isString n = true
  resolves : ∀ n ∈ names, ∀ (p : DraftProperty) (candidates : Candidates), p.typeName = some n →
    TypeName.isEmpty n = false → TypeName.isNullable n = false →
    ∃ r, p.resolve candidates (ofNames names) = .ok (.text r)

theorem isString_ofNames_iff :
    (ofNames names).isString t = true ↔ ∃ n ∈ names, Text.fold n = TypeName.key t := by
  rw [isString, ofNames, List.contains_iff_mem, List.mem_map]

/-- What means text is a listed name without blanks around it, since no other name folds like a
trimmed text. -/
theorem isString_iff_listsPlainly :
    (ofNames names).isString t = true ↔ ListsPlainly names t := by
  rw [isString_ofNames_iff]
  refine exists_congr fun n => and_congr_right fun _ => ?_
  constructor
  · intro h
    have htrim : Text.trim n = n := Text.trim_eq_self_of_fold_eq h
    exact ⟨htrim, by rw [TypeName.key, htrim, h]⟩
  · rintro ⟨htrim, h⟩
    rw [← h, TypeName.key, htrim]

/-- A property of a type that is neither blank nor nullable is checked as text exactly if its type
name means text. -/
theorem exists_resolve_text_iff (hp : p.typeName = some t) (hne : TypeName.isEmpty t = false)
    (hn : TypeName.isNullable t = false) :
    (∃ r, p.resolve candidates (ofNames names) = .ok (.text r)) ↔
      (ofNames names).isString t = true := by
  rw [Resolution.resolve_eq_ok hp hne]
  simp only [Except.ok.injEq]
  rw [Resolution.exists_check_text_iff, and_iff_right hn]

theorem recognises_of_forall (h : ∀ n ∈ names, ListsPlainly names n) : Recognises names where
  isString_iff := by
    intro t
    rw [isString_iff_listsPlainly]
    constructor
    · rintro ⟨n, hn, -, hkey⟩
      exact ⟨n, hn, hkey⟩
    · rintro ⟨n, hn, hkey⟩
      obtain ⟨m, hm, htrim, hmn⟩ := h n hn
      exact ⟨m, hm, htrim, hmn.trans hkey⟩
  listed := fun n hn => isString_iff_listsPlainly.mpr (h n hn)
  resolves := by
    intro n hn p candidates hp hne hnull
    exact (exists_resolve_text_iff hp hne hnull).mpr (isString_iff_listsPlainly.mpr (h n hn))

/-- A list means what it says exactly if every listed name is also listed without blanks around it,
in some letter case. Whatever the list, a type name means text exactly if it is such a name up to
letter case and blanks around it, and a property of a listed type that is not nullable is checked
as text exactly if its type is such a name. -/
theorem recognises_iff (names : List String) :
    (Recognises names ↔ ∀ n ∈ names, ListsPlainly names n) ∧
    (∀ t, (ofNames names).isString t = true ↔ ListsPlainly names t) ∧
    ∀ n ∈ names, ∀ (p : DraftProperty) (candidates : Candidates), p.typeName = some n →
      TypeName.isEmpty n = false → TypeName.isNullable n = false →
      ((∃ r, p.resolve candidates (ofNames names) = .ok (.text r)) ↔ ListsPlainly names n) := by
  refine ⟨⟨fun h n hn => ?_, recognises_of_forall⟩, fun t => isString_iff_listsPlainly, ?_⟩
  · exact isString_iff_listsPlainly.mp (h.listed n hn)
  · intro n _ p candidates hp hne hnull
    rw [exists_resolve_text_iff hp hne hnull, isString_iff_listsPlainly]

/-- A name with blanks around it that is listed without them in other letters. -/
theorem recognises_money :
    let names := ["str", " Straße ", "STRASSE"]
    let p : DraftProperty := ⟨some "Address", some " Straße ", none⟩
    Recognises names ∧ TypeName.isEmpty " Straße " = false ∧
      TypeName.isNullable " Straße " = false ∧
      ∃ r, p.resolve .empty (ofNames names) = .ok (.text r) := by
  intro names p
  obtain ⟨hiff, hstring, hresolve⟩ := recognises_iff names
  have hlists : ∀ n ∈ names, ListsPlainly names n := by
    intro n hn
    rw [← hstring]
    revert n
    decide +kernel
  have hpadded : " Straße " ∈ names := by decide
  have hne : TypeName.isEmpty " Straße " = false := by decide
  have hnull : TypeName.isNullable " Straße " = false := by decide
  exact ⟨hiff.mpr hlists, hne, hnull,
    (hresolve _ hpadded p .empty rfl hne hnull).mpr (hlists _ hpadded)⟩

/-- A name that is listed with blanks around it alone means text neither with them nor without
them, and a property with such a type is only checked for its presence. -/
theorem not_recognises_padded :
    let names := [" money "]
    let p : DraftProperty := ⟨some "Price", some " money ", none⟩
    (ofNames names).isString " money " = false ∧ (ofNames names).isString "money" = false ∧
      (p.resolve .empty (ofNames names)).toOption = some (.basic false) ∧
      ¬Recognises names := by
  intro names p
  have hpadded : (ofNames names).isString " money " = false := by decide +kernel
  refine ⟨hpadded, by decide +kernel, by decide +kernel, fun h => ?_⟩
  have hlisted := h.listed " money " (List.mem_singleton_self _)
  rw [hpadded] at hlisted
  cases hlisted

end StringNames

end ShadowTypes
