import ShadowTypes.Fault.Raised

/-!
# Faults that exceptions carry

A fault that is raised, and the fault that a rejection makes of itself, know their code, message,
details and cause, and perhaps a model. All of this should survive when the exception ends the work
on a model, and the model of the work should only fill a gap. That holds of everything but the model
of a rejection, which gives way to the model of the work even if there is none.
-/

namespace ShadowTypes

/-- The fault keeps what a carried one knows. Its model is the carried one if there is one, and the
model of the work otherwise. -/
structure Fault.Keeps (carried : Fault) (model : Option String) (g : Fault) : Prop where
  code : g.code = carried.code
  message : g.message = carried.message
  details : g.details = carried.details
  cause : g.cause = carried.cause
  model : g.context.model =
    if isGiven carried.context.model then carried.context.model else model

namespace Raised

/-- The fault that is carried, or that a rejection makes of itself. -/
def carried? : Raised → Option Fault
  | .fault f => some f
  | .rejection r => some r.toFault
  | .failure _ => none

/-- Whatever is carried is kept by the fault that ends the work. -/
def KeepsCarried (x : Raised) (model origin : Option String) : Prop :=
  ∀ f, x.carried? = some f → f.Keeps model (x.toFault model origin)

/-- How the models of a carried fault and of the work get lost: the one of a rejection behind
another one or none at all, and an empty text in the place of null or null in the place of an empty
text. -/
inductive Forgets (model : Option String) : Raised → Prop
  | rejection {r : Rejection} (hr : isGiven r.model = true) (hne : r.model ≠ model) :
    Forgets model (.rejection r)
  | fault {f : Fault} (hf : isGiven f.context.model = false) (hm : isGiven model = false)
    (hne : f.context.model ≠ model) : Forgets model (.fault f)

section

variable (model origin : Option String)

/-- A fault keeps its model and learns the one of the work only if it has none. -/
theorem exists_toFault_fault (f : Fault) : ∃ o, (Raised.fault f).toFault model origin =
    { f with context := { f.context with
        model := if isGiven model && !isGiven f.context.model then model else f.context.model
        origin := o } } := by
  have hmodel : (if isGiven model && !isGiven f.context.model then
      f.withContext { model := some model } else f) =
      { f with context := { f.context with
          model := if isGiven model && !isGiven f.context.model then model
            else f.context.model } } := by
    split <;> rfl
  rw [toFault]
  dsimp only
  rw [hmodel]
  split <;> split <;> exact ⟨_, rfl⟩

theorem exists_toFault_eq {x : Raised} {f : Fault} (h : x.carried? = some f) :
    ∃ m o, x.toFault model origin =
      { f with context := { f.context with model := m, origin := o } } := by
  cases x with
  | fault g =>
    cases h
    exact ⟨_, exists_toFault_fault model origin _⟩
  | rejection r =>
    cases h
    exact ⟨model, origin, rfl⟩
  | failure => cases h

theorem keepsCarried_iff {x : Raised} {f : Fault} (h : x.carried? = some f) :
    x.KeepsCarried model origin ↔ (x.toFault model origin).context.model =
      if isGiven f.context.model then f.context.model else model := by
  refine ⟨fun hx => (hx f h).model, fun hmodel g hg => ?_⟩
  cases Option.some.inj (h.symm.trans hg)
  obtain ⟨m, o, heq⟩ := exists_toFault_eq model origin h
  rw [heq] at hmodel ⊢
  exact ⟨rfl, rfl, rfl, rfl, hmodel⟩

theorem keepsCarried_fault_iff (f : Fault) :
    (Raised.fault f).KeepsCarried model origin ↔ ¬ Forgets model (.fault f) := by
  obtain ⟨o, heq⟩ := exists_toFault_fault model origin f
  rw [keepsCarried_iff model origin rfl, heq]
  dsimp only
  cases hf : isGiven f.context.model with
  | true =>
    refine iff_of_true (by simp) ?_
    rintro (_ | ⟨hf', -, -⟩)
    exact absurd (hf.symm.trans hf') (by decide)
  | false =>
    cases hm : isGiven model with
    | true =>
      refine iff_of_true (by simp) ?_
      rintro (_ | ⟨-, hm', -⟩)
      exact absurd (hm.symm.trans hm') (by decide)
    | false =>
      refine ⟨?_, fun h => Decidable.byContradiction fun hne => h (.fault hf hm hne)⟩
      rintro hkept (_ | ⟨-, -, hne⟩)
      exact hne hkept

theorem keepsCarried_rejection_iff (r : Rejection) :
    (Raised.rejection r).KeepsCarried model origin ↔ ¬ Forgets model (.rejection r) := by
  rw [keepsCarried_iff model origin rfl]
  change model = (if isGiven r.toFault.context.model then r.toFault.context.model else model) ↔ _
  have hmodel : r.toFault.context.model = r.model := by
    rw [Rejection.toFault]
    split <;> rfl
  rw [hmodel]
  constructor
  · rintro hkept (⟨hr, hne⟩ | _)
    rw [if_pos hr] at hkept
    exact hne hkept.symm
  · intro h
    split
    · next hr => exact Decidable.byContradiction fun hne => h (.rejection hr (Ne.symm hne))
    · rfl

end

/-- An exception that carries a fault, or a rejection, ends the work on a model with this very fault
but for the model and the origin. The carried model is kept too, and the model of the work taken
only where there is none, unless the exception is a rejection with a model other than that of the
work, or one of the two models is null and the other one an empty text. -/
theorem keepsCarried_iff_not_forgets (x : Raised) (model origin : Option String) :
    (∀ f, x.carried? = some f → ∃ m o, x.toFault model origin =
      { f with context := { f.context with model := m, origin := o } }) ∧
    (x.KeepsCarried model origin ↔ ¬ Forgets model x) := by
  refine ⟨fun f h => exists_toFault_eq model origin h, ?_⟩
  cases x with
  | fault f => exact keepsCarried_fault_iff model origin f
  | rejection r => exact keepsCarried_rejection_iff model origin r
  | failure y =>
    refine iff_of_true (fun f hf => by cases hf) ?_
    rintro ⟨⟩

/-- A rejection with a model, met without any. -/
theorem not_keepsCarried_rejection :
    let missing : Complaint :=
      { location := [.key "name"], constraint := .text "missing"
        message := .text "Field required" }
    let r : Rejection := .ofComplaints [missing] (some "ModelSchema") (some "shop.Order")
    ¬ (Raised.rejection r).KeepsCarried none (some "") := by
  intro missing r h
  have hmodel : none = some "shop.Order" := (h _ rfl).model
  cases hmodel

end Raised

end ShadowTypes
