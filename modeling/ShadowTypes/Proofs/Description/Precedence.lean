import ShadowTypes.Proofs.Description.Complaints

/-!
# Which fault a model has

Reading a model can fail in three ways. A property with two directives ends it at once, whatever
else is wrong, if its conflict can be told. Otherwise all complaints are reported together, and only
a model without complaints is searched for a name that two properties share.
-/

namespace ShadowTypes

namespace Description

/-- The details that report complaints: a single one in full, or their number and all of them. -/
def reported (schema : String) : List Complaint → Details
  | [c] => ("schema", .text schema) :: (Detail.ofComplaint c).details
  | cs => [("schema", .text schema), ("error_count", .int cs.length),
      ("errors", .list (cs.map fun c => (Detail.ofComplaint c).entry))]

theorem details_toFault {schema : String} (h : schema ≠ "") (cs : List Complaint)
    (model : Option String) :
    (Rejection.ofComplaints cs (some schema) model).toFault.details = reported schema cs := by
  have hschema : (Rejection.ofComplaints cs (some schema) model).schemaDetails =
      [("schema", .text schema)] := if_neg h
  unfold Rejection.toFault reported
  rw [hschema]
  rcases cs with _ | ⟨c, _ | ⟨d, cs⟩⟩
  · rfl
  · rfl
  · simp [Rejection.ofComplaints, Function.comp_def]

theorem code_toFault (r : Rejection) : r.toFault.code = .invalidModel := by
  unfold Rejection.toFault
  split <;> rfl

section Enter

variable {α : Type} {form : Form α} {v : Value} (origin : String)

end Enter

end Description

end ShadowTypes
