import Mathlib.Data.List.NodupEquivFin
import ShadowTypes.Emitter

/-!
# Fragments in two dialects

What is demanded of a property hangs on its check alone, and every dialect has a template for each
demand. A fragment tells its demand and its member, whatever the member is called: no two templates
have a text in common. So the fragments that two emitters write for the same properties can be laid
side by side.
-/

namespace ShadowTypes

namespace Dialect

/-! ## Reading a demand off its fragment -/

def opening : Dialect → Demand → String
  | .python, .present => "self."
  | .python, _ => "(self."
  | .csharp, .nonEmpty => "!string.IsNullOrEmpty("
  | .csharp, .nonBlank => "!string.IsNullOrWhiteSpace("
  | .csharp, _ => ""

def closing : Dialect → Demand → String
  | .python, .present => " is not None"
  | .python, .nonEmpty => " != \"\")"
  | .python, .nonBlank => ".strip() != \"\")"
  | .python, .nestedValid => ".check_is_valid() is True)"
  | .csharp, .present => " is not null"
  | .csharp, .nonEmpty => ")"
  | .csharp, .nonBlank => ")"
  | .csharp, .nestedValid => "?.CheckIsValid() is true"

/-- What stands between the two places of a member in Python. -/
def guard : String := " is not None and self."

/-- The member in a fragment, or all that stands from its first place to its last one. -/
def middle (member : String) : Dialect → Demand → String
  | .python, .present => member
  | .python, _ => member ++ (guard ++ member)
  | .csharp, _ => member

theorem fragment_eq (d : Dialect) (member : String) (k : Demand) :
    d.fragment member k = d.opening k ++ (middle member d k ++ d.closing k) := by
  have hpython : "." ++ (Dialect.python.validityMethod ++ "() is True)") =
      Dialect.python.closing .nestedValid := by decide
  have hcsharp : "?." ++ (Dialect.csharp.validityMethod ++ "() is true") =
      Dialect.csharp.closing .nestedValid := by decide
  unfold fragment middle
  cases d <;> cases k
  all_goals
    simp only [String.append_assoc, hpython, hcsharp]
    rfl

theorem eq_or_of_comparable (d : Dialect) (k l : Demand)
    (ho : (d.opening k).toList <+: (d.opening l).toList ∨
      (d.opening l).toList <+: (d.opening k).toList)
    (hc : (d.closing k).toList <:+ (d.closing l).toList ∨
      (d.closing l).toList <:+ (d.closing k).toList) :
    k = l ∨ d = .python ∧ (k = .nonEmpty ∧ l = .nonBlank ∨ k = .nonBlank ∧ l = .nonEmpty) := by
  revert ho hc
  cases d <;> cases k <;> cases l <;> decide +kernel

theorem nonEmpty_ne_nonBlank (m n : String) :
    Dialect.python.fragment m .nonEmpty ≠ Dialect.python.fragment n .nonBlank := by
  intro h
  rw [fragment_eq, fragment_eq] at h
  have hlist := congrArg String.toList ((String.append_right_inj _).mp h)
  simp only [middle, String.toList_append, List.append_assoc] at hlist
  have hlength := congrArg List.length hlist
  have hshort : (Dialect.python.closing .nonEmpty).toList.length = 7 := by decide +kernel
  have hlong : (Dialect.python.closing .nonBlank).toList.length = 15 := by decide +kernel
  simp only [List.length_append, hshort, hlong] at hlength
  -- The first member is four characters longer, so it ends in the midst of the second one's guard.
  have hm : m.toList.length = n.toList.length + 4 := by omega
  have hguard : guard.toList = ' ' :: 'i' :: 's' :: ' ' :: 'n' :: "ot None and self.".toList := by
    decide +kernel
  have hnext := congrArg (·[m.toList.length]?) hlist
  rw [hguard, List.getElem?_append_right le_rfl, Nat.sub_self, hm,
    List.getElem?_append_right (Nat.le_add_right _ _), Nat.add_sub_cancel_left] at hnext
  exact absurd (Option.some.inj hnext) (by decide)

theorem middle_inj {m n : String} {d : Dialect} {k : Demand} (h : middle m d k = middle n d k) :
    m = n := by
  have hpython (h : m ++ (guard ++ m) = n ++ (guard ++ n)) : m = n := by
    have hlist := congrArg String.toList h
    simp only [String.toList_append] at hlist
    have hlength := congrArg List.length hlist
    simp only [List.length_append] at hlength
    exact String.toList_inj.mp (List.append_inj hlist (by omega)).1
  cases d with
  | csharp => exact h
  | python =>
    cases k with
    | present => exact h
    | nonEmpty | nonBlank | nestedValid => exact hpython h

theorem fragment_inj {d : Dialect} {m n : String} {k l : Demand} :
    d.fragment m k = d.fragment n l ↔ m = n ∧ k = l := by
  constructor
  · intro h
    have hkl : k = l := by
      have htext := congrArg String.toList h
      simp only [fragment_eq, String.toList_append] at htext
      have hopening := List.prefix_or_prefix_of_prefix (List.prefix_append _ _)
        (htext ▸ List.prefix_append _ _)
      have hclosing := List.suffix_or_suffix_of_suffix
        ((List.suffix_append _ _).trans (List.suffix_append _ _))
        (htext ▸ (List.suffix_append _ _).trans (List.suffix_append _ _))
      rcases eq_or_of_comparable d k l hopening.symm hclosing.symm with
        hkl | ⟨rfl, ⟨rfl, rfl⟩ | ⟨rfl, rfl⟩⟩
      · exact hkl
      · exact absurd h (nonEmpty_ne_nonBlank m n)
      · exact absurd h.symm (nonEmpty_ne_nonBlank n m)
    subst hkl
    rw [fragment_eq, fragment_eq, String.append_right_inj, String.append_left_inj] at h
    exact ⟨middle_inj h, rfl⟩
  · rintro ⟨rfl, rfl⟩
    rfl

/-- The text states the demand on the property: it is the dialect's template for the demand over the
member of the property, and neither for another demand nor over another member. -/
def States (d : Dialect) (text : String) (r : Resolved) (k : Demand) : Prop :=
  ∀ member l, text = d.fragment member l ↔ member = d.member r.name ∧ l = k

theorem states_fragment (d : Dialect) (r : Resolved) (k : Demand) :
    d.States (d.fragment (d.member r.name) k) r k := by
  intro member l
  rw [fragment_inj, eq_comm, @eq_comm _ k]

end Dialect

/-! ## Fragments of resolved properties -/

section

variable (e : Emitter) (rs : List Resolved)

/-- The fragment of a resolved property over its member, if anything is demanded. -/
def Emitter.fragment? (r : Resolved) : Option String :=
  e.dialect.fragment? (e.dialect.member r.name) r.check

theorem Emitter.fragment?_eq_none_iff (r : Resolved) :
    e.fragment? r = none ↔ r.check.demand? = none := Option.map_eq_none_iff

/-- The positions of the resolved properties of which anything is demanded, in order. -/
def demanding : List (Fin rs.length) :=
  (List.finRange rs.length).filter fun j => rs[j].check.demand?.isSome

theorem mem_demanding_iff (j : Fin rs.length) :
    j ∈ demanding rs ↔ rs[j].check.demand? ≠ none := by
  rw [demanding, List.mem_filter, Option.isSome_iff_ne_none]
  exact and_iff_right (List.mem_finRange j)

theorem sortedLT_demanding : (demanding rs).SortedLT :=
  ((List.sortedLT_finRange _).pairwise.filter _).sortedLT

def demandAt (j : Fin rs.length) : Demand := rs[j].check.demand?.getD .present

theorem filterMap_map_eq_map_filter {α β γ : Type} (ask : α → Option β) (write : α → β → γ)
    (default : β) (as : List α) :
    as.filterMap (fun a => (ask a).map (write a)) =
      (as.filter fun a => (ask a).isSome).map fun a => write a ((ask a).getD default) := by
  induction as with
  | nil => rfl
  | cons a as ih => cases ha : ask a <;> simp [ha, ih]

theorem Emitter.fragments_eq_map : e.fragments rs = (demanding rs).map fun j =>
    e.dialect.fragment (e.dialect.member rs[j].name) (demandAt rs j) := by
  have hfragments : e.fragments rs =
      (List.finRange rs.length).filterMap fun j =>
        rs[j].check.demand?.map (e.dialect.fragment (e.dialect.member rs[j].name)) := by
    rw [fragments, Dialect.fragments, List.filterMap_map]
    conv_lhs => rw [← List.map_get_finRange rs, List.filterMap_map]
    rfl
  rw [hfragments]
  exact filterMap_map_eq_map_filter (fun j : Fin rs.length => rs[j].check.demand?) _ .present _

end

/-- Two emitters write equally many fragments for the same resolved properties. Both fragments at a
position come from one property and state what its check demands, each in the words of its dialect
and over its dialect's member. The properties keep their order, and a property is passed over by one
emitter exactly if it is passed over by the other. -/
theorem fragments_side_by_side (e e' : Emitter) (rs : List Resolved) :
    ∃ (n : ℕ) (place : Fin n ↪o Fin rs.length) (demand : Fin n → Demand),
      (e.fragments rs).length = n ∧ (e'.fragments rs).length = n ∧
      (∀ i : Fin n, rs[place i].check.demand? = some (demand i) ∧
        ∃ text text', (e.fragments rs)[i]? = some text ∧ (e'.fragments rs)[i]? = some text' ∧
          e.dialect.States text rs[place i] (demand i) ∧
          e'.dialect.States text' rs[place i] (demand i)) ∧
      ∀ j : Fin rs.length, (e.fragment? rs[j] = none ↔ j ∉ Set.range place) ∧
        (e'.fragment? rs[j] = none ↔ j ∉ Set.range place) := by
  let place : Fin (demanding rs).length ↪o Fin rs.length :=
    OrderEmbedding.ofStrictMono (demanding rs).get (sortedLT_demanding rs).strictMono_get
  have hlength (e : Emitter) : (e.fragments rs).length = (demanding rs).length := by
    rw [e.fragments_eq_map, List.length_map]
  have hstates (e : Emitter) (i : Fin (demanding rs).length) : ∃ text,
      (e.fragments rs)[i]? = some text ∧
        e.dialect.States text rs[place i] (demandAt rs (place i)) := by
    refine ⟨_, ?_, e.dialect.states_fragment _ _⟩
    rw [e.fragments_eq_map, Fin.getElem?_fin, List.getElem?_map, List.getElem?_eq_getElem i.isLt]
    rfl
  have hnone (e : Emitter) (j : Fin rs.length) :
      e.fragment? rs[j] = none ↔ j ∉ Set.range place := by
    have hrange : j ∈ Set.range place ↔ j ∈ demanding rs := List.mem_iff_get.symm
    rw [hrange, mem_demanding_iff, not_not, e.fragment?_eq_none_iff]
  have hdemand (i : Fin (demanding rs).length) :
      rs[place i].check.demand? = some (demandAt rs (place i)) := by
    have hmem : place i ∈ demanding rs := List.get_mem _ _
    obtain ⟨k, hk⟩ := Option.ne_none_iff_exists'.mp ((mem_demanding_iff rs _).mp hmem)
    rw [demandAt, hk, Option.getD_some]
  refine ⟨_, place, fun i => demandAt rs (place i), hlength e, hlength e',
    fun i => ⟨hdemand i, ?_⟩, fun j => ⟨hnone e j, hnone e' j⟩⟩
  obtain ⟨text, htext, hs⟩ := hstates e i
  obtain ⟨text', htext', hs'⟩ := hstates e' i
  exact ⟨text, text', htext, htext', hs, hs'⟩

example :
    let rs : List Resolved := [⟨"class", "string", .text .allowBlank⟩, ⟨"Age", "int?", .basic true⟩,
      ⟨"Line", "shop.Item", .nested true true⟩]
    (Emitter.ofDialect .python).fragments rs = ["(self.class_ is not None and self.class_ != \"\")",
        "(self.Line is not None and self.Line.check_is_valid() is True)"] ∧
      (Emitter.ofDialect .csharp).fragments rs =
        ["!string.IsNullOrEmpty(class)", "Line?.CheckIsValid() is true"] := by
  decide +kernel

end ShadowTypes
