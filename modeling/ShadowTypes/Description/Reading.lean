import ShadowTypes.Description.Rule

/-!
# Readings

Reading a part of a description gives what was read, or all complaints about the part, or a fault
that ends the whole reading at once. Readings of several parts are joined: complaints add up in
order, and the first fault wins over everything.
-/

namespace ShadowTypes.Description

/-- What came of reading a part of a description. -/
inductive Reading (α : Type)
  | done (a : α)
  | issues (cs : List Complaint)
  | halted (f : Fault)

namespace Reading

variable {α β : Type}

def map (f : α → β) : Reading α → Reading β
  | .done a => .done (f a)
  | .issues cs => .issues cs
  | .halted e => .halted e

/-- A reading that goes on with the result of another one. -/
def bind (r : Reading α) (next : α → Reading β) : Reading β :=
  match r with
  | .done a => next a
  | .issues cs => .issues cs
  | .halted e => .halted e

def both : Reading α → Reading β → Reading (α × β)
  | .halted e, _ => .halted e
  | .done _, .halted e => .halted e
  | .issues _, .halted e => .halted e
  | .done a, .done b => .done (a, b)
  | .done _, .issues ds => .issues ds
  | .issues cs, .done _ => .issues cs
  | .issues cs, .issues ds => .issues (cs ++ ds)

def all : List (Reading α) → Reading (List α)
  | [] => .done []
  | r :: rs => (r.both (all rs)).map fun p => p.1 :: p.2

def withIssues (r : Reading α) (more : List Complaint) : Reading α :=
  match r, more with
  | .done a, [] => .done a
  | .done _, m :: ms => .issues (m :: ms)
  | .issues cs, ms => .issues (cs ++ ms)
  | .halted e, _ => .halted e

/-- The reading of a part that lies one step further in. -/
def under (s : Step) : Reading α → Reading α
  | .issues cs => .issues (cs.map fun c => { c with location := s :: c.location })
  | r => r

def refuse (r : Rule) (found : Value) : Reading α := .issues [r.complaint found]

@[simp] theorem map_done (f : α → β) (a : α) : (Reading.done a).map f = .done (f a) := rfl

@[simp] theorem both_done (a : α) (b : β) : (Reading.done a).both (.done b) = .done (a, b) := rfl

@[simp] theorem all_nil : all ([] : List (Reading α)) = .done [] := rfl

theorem both_eq_done_iff {r : Reading α} {s : Reading β} {p : α × β} :
    r.both s = .done p ↔ r = .done p.1 ∧ s = .done p.2 := by
  obtain ⟨a, b⟩ := p
  cases r <;> cases s <;> simp [both]

theorem map_eq_done_iff {f : α → β} {r : Reading α} {b : β} :
    r.map f = .done b ↔ ∃ a, r = .done a ∧ f a = b := by
  cases r <;> simp [map]

theorem bind_eq_done_iff {next : α → Reading β} {r : Reading α} {b : β} :
    r.bind next = .done b ↔ ∃ a, r = .done a ∧ next a = .done b := by
  cases r <;> simp [bind]

end Reading

end ShadowTypes.Description
