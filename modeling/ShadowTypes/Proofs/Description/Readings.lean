import Mathlib.Data.List.Forall2
import ShadowTypes.Description.Directive

/-!
# What readings come to

A reading comes to a fault, to complaints or to a result, in this order of precedence, and so does
whatever is put together from readings: of several readings the first fault wins, and without one
their complaints add up in order. The reading of a single value comes to a result or one complaint.
-/

namespace ShadowTypes

/-- The complaint about a part as one about the whole, in which the part lies one step in. -/
def Complaint.under (s : Step) (c : Complaint) : Complaint := { c with location := s :: c.location }

namespace Description

def entries? (v : Value) : Option Entries :=
  match v.opened with
  | .mapping es => some es
  | _ => none

def items? (v : Value) : Option (List Value) :=
  match v.opened with
  | .list vs => some vs
  | .set vs => some vs
  | .pair a b => some [a, b]
  | _ => none

/-! ## Readings put together -/

namespace Reading

variable {α β : Type} {p : α → Prop} {q : β → Prop} {r : Reading α} {s : Reading β}
  {f g : Option Fault} {cs ds : List Complaint}

def complaints : Reading α → List Complaint
  | .issues cs => cs
  | _ => []

/-- A reading comes to a fault if there is one, without one to all complaints, and without any to a
result. -/
inductive ComesTo (p : α → Prop) : Reading α → Option Fault → List Complaint → Prop
  | done {a : α} : p a → ComesTo p (.done a) none []
  | issues {c : Complaint} {cs : List Complaint} : ComesTo p (.issues (c :: cs)) none (c :: cs)
  | halted {f : Fault} {cs : List Complaint} : ComesTo p (.halted f) (some f) cs

theorem ComesTo.eq_issues (h : ComesTo p r none cs) (hne : cs ≠ []) : r = .issues cs := by
  cases h with
  | done => exact absurd rfl hne
  | issues => rfl

theorem ComesTo.of_done {a : α} (h : ComesTo p (.done a) f cs) : f = none ∧ cs = [] ∧ p a := by
  cases h with
  | done ha => exact ⟨rfl, rfl, ha⟩

theorem ComesTo.exists_eq_done (h : ComesTo p r none []) : ∃ a, r = .done a ∧ p a := by
  cases h with
  | done ha => exact ⟨_, rfl, ha⟩

/-- The reading of a single value: a result or one complaint. -/
def IsSingle (r : Reading α) : Prop := (∃ a, r = .done a) ∨ ∃ c, r = .issues [c]

theorem isSingle_done (a : α) : (done a).IsSingle := .inl ⟨a, rfl⟩

theorem isSingle_refuse (rule : Rule) (v : Value) : (refuse rule v : Reading α).IsSingle :=
  .inr ⟨_, rfl⟩

theorem IsSingle.comesTo (h : r.IsSingle) : ComesTo (r = .done ·) r none r.complaints := by
  rcases h with ⟨a, rfl⟩ | ⟨c, rfl⟩
  · exact .done rfl
  · exact .issues

theorem ComesTo.mono {p' : α → Prop} (h : ComesTo p r f cs) (hp : ∀ a, p a → p' a) :
    ComesTo p' r f cs := by
  cases h with
  | done ha => exact .done (hp _ ha)
  | issues => exact .issues
  | halted => exact .halted

theorem ComesTo.map {t : α → β} (h : ComesTo p r f cs) (ht : ∀ a, p a → q (t a)) :
    ComesTo q (r.map t) f cs := by
  cases h with
  | done ha => exact .done (ht _ ha)
  | issues => exact .issues
  | halted => exact .halted

/-- Of two readings the first fault wins, and complaints add up. -/
theorem ComesTo.both (h : ComesTo p r f cs) (k : ComesTo q s g ds) :
    ComesTo (fun x => p x.1 ∧ q x.2) (r.both s) (f.or g) (cs ++ ds) := by
  cases h with
  | done ha => cases k with
    | done hb => exact .done ⟨ha, hb⟩
    | issues => exact .issues
    | halted => exact .halted
  | issues => cases k with
    | done hb => exact (List.append_nil _).symm ▸ .issues
    | issues => exact .issues
    | halted => exact .halted
  | halted => cases k <;> exact .halted

theorem ComesTo.under (h : ComesTo p r f cs) (s : Step) :
    ComesTo p (r.under s) f (cs.map (·.under s)) := by
  cases h with
  | done ha => exact .done ha
  | issues => exact .issues
  | halted => exact .halted

theorem ComesTo.withIssues (h : ComesTo p r f cs) (more : List Complaint) :
    ComesTo p (r.withIssues more) f (cs ++ more) := by
  cases h with
  | done ha => cases more with
    | nil => exact .done ha
    | cons m ms => exact .issues
  | issues => exact .issues
  | halted => exact .halted

/-- Of a list of readings the first fault wins, and complaints add up in order. -/
theorem ComesTo.all {γ : Type} {p : γ → α → Prop} {read : γ → Reading α} {fault : γ → Option Fault}
    {problems : γ → List Complaint} {l : List γ}
    (h : ∀ x ∈ l, ComesTo (p x) (read x) (fault x) (problems x)) :
    ComesTo (List.Forall₂ p l) (.all (l.map read)) (l.findSome? fault) (l.flatMap problems) := by
  induction l with
  | nil => exact .done .nil
  | cons x l ih =>
    obtain ⟨hx, hl⟩ := List.forall_mem_cons.mp h
    have hfault : (x :: l).findSome? fault = (fault x).or (l.findSome? fault) := by
      rw [List.findSome?_cons]
      cases fault x <;> rfl
    rw [hfault, List.flatMap_cons]
    exact (hx.both (ih hl)).map fun _ ha => .cons ha.1 ha.2

end Reading

/-! ## Single values -/

section Leaves

open Reading

variable {strict : Bool} {v : Value}

theorem isSingle_readText : (readText strict v).IsSingle := by
  unfold readText
  repeat' split
  all_goals first | exact isSingle_done _ | exact isSingle_refuse _ _

theorem isSingle_readMatching {test : List Char → Bool} {rule : Rule} :
    (readMatching strict test rule v).IsSingle := by
  unfold readMatching
  split
  · split
    · exact isSingle_done _
    · exact isSingle_refuse _ _
  · exact isSingle_readText

theorem isSingle_readFilled : (readFilled strict v).IsSingle := by
  unfold readFilled
  split
  · dsimp only
    split
    · exact isSingle_refuse _ _
    · exact isSingle_done _
  · exact isSingle_readText

theorem isSingle_readFlagWord {s : String} : (readFlagWord v s).IsSingle := by
  unfold readFlagWord
  split
  · exact isSingle_done _
  · exact isSingle_refuse _ _

theorem isSingle_readFlagNumber {n : Int} : (readFlagNumber v n).IsSingle := by
  unfold readFlagNumber
  repeat' split
  all_goals first | exact isSingle_done _ | exact isSingle_refuse _ _

theorem isSingle_readFlag : (readFlag strict v).IsSingle := by
  unfold readFlag
  repeat' split
  all_goals first
    | exact isSingle_done _
    | exact isSingle_refuse _ _
    | exact isSingle_readFlagWord
    | exact isSingle_readFlagNumber

theorem isSingle_readKind {word : String} : (readKind word v).IsSingle := by
  unfold readKind
  repeat' split
  all_goals first | exact isSingle_done _ | exact isSingle_refuse _ _

end Leaves

end Description

end ShadowTypes
