import ShadowTypes.Proofs.Description.Precedence
import ShadowTypes.Proofs.Description.Spelling

/-!
# Descriptions in either spelling

A description with some keys in their other spelling is read as the same model. If there is
something wrong with the one, then the same is wrong with the other, place by place: the rules that
are broken and the advice are the same, and only the spellings in places, in what was found and in
what is quoted of it differ.
-/

namespace ShadowTypes

namespace Description

open Entries

/-! ## What is told -/

inductive StepAlike : Step → Step → Prop
  | refl (s : Step) : StepAlike s s
  | key {a b : String} : SameField (.text a) (.text b) → StepAlike (.key a) (.key b)

/-- The same message, or messages about an unknown kind, which quote the kind. -/
inductive MessageAlike : Value → Value → Prop
  | refl (m : Value) : MessageAlike m m
  | tagUnknown {t u : Value} : Respelled t u →
      MessageAlike (.text (Rule.tagUnknown (tagText t)).message)
        (.text (Rule.tagUnknown (tagText u)).message)

/-- Complaints that differ in spellings. -/
structure ComplaintAlike (c d : Complaint) : Prop where
  location : List.Forall₂ StepAlike c.location d.location
  constraint : c.constraint = d.constraint
  message : MessageAlike c.message d.message
  found : Respelled c.found d.found
  reason : c.reason = d.reason
  expected : c.expected = d.expected

/-- The same fault, or the conflicts of two spellings of a property. -/
inductive FaultAlike : Fault → Fault → Prop
  | refl (f : Fault) : FaultAlike f f
  | conflict {es fs : Entries} : RespelledEntries es fs → FaultAlike (conflict es) (conflict fs)

/-- The same result, or complaints or faults that differ in spellings. -/
inductive Reading.Alike {α : Type} : Reading α → Reading α → Prop
  | done (a : α) : Alike (.done a) (.done a)
  | issues {cs ds : List Complaint} : List.Forall₂ ComplaintAlike cs ds →
      Alike (.issues cs) (.issues ds)
  | halted {f g : Fault} : FaultAlike f g → Alike (.halted f) (.halted g)

section Complaints

variable {c d : Complaint} {v w : Value}

theorem ComplaintAlike.refl (c : Complaint) : ComplaintAlike c c :=
  ⟨List.forall₂_same.mpr fun s _ => .refl s, rfl, .refl _, .refl _, rfl, rfl⟩

theorem complaintAlike_complaint (r : Rule) (h : Respelled v w) {l l' : Location}
    (hl : List.Forall₂ StepAlike l l') : ComplaintAlike (r.complaint v l) (r.complaint w l') :=
  ⟨hl, rfl, .refl _, h, rfl, rfl⟩

theorem complaintAlike_tagUnknown (h : Respelled v w) {s t : String} (hmessage : MessageAlike
      (.text (Rule.tagUnknown s).message) (.text (Rule.tagUnknown t).message)) :
    ComplaintAlike ((Rule.tagUnknown s).complaint v) ((Rule.tagUnknown t).complaint w) :=
  ⟨.nil, rfl, hmessage, h, rfl, rfl⟩

theorem ComplaintAlike.under (h : ComplaintAlike c d) {s t : Step} (hs : StepAlike s t) :
    ComplaintAlike (c.under s) (d.under t) :=
  ⟨.cons hs h.location, h.constraint, h.message, h.found, h.reason, h.expected⟩

theorem ComplaintAlike.isAboutType_eq (h : ComplaintAlike c d) : c.isAboutType = d.isAboutType := by
  have hlast : Option.Rel StepAlike c.location.getLast? d.location.getLast? := by
    have hreverse := List.rel_reverse h.location
    rw [List.getLast?_eq_head?_reverse, List.getLast?_eq_head?_reverse]
    generalize c.location.reverse = a at hreverse
    generalize d.location.reverse = b at hreverse
    cases hreverse with
    | nil => exact .none
    | cons hs _ => exact .some hs
  unfold Complaint.isAboutType Location.lastWord
  generalize c.location.getLast? = a at hlast
  generalize d.location.getLast? = b at hlast
  cases hlast with
  | none => rfl
  | some hs =>
    cases hs with
    | refl => rfl
    | key hab => exact hab.spells_eq (f := typeField) (by decide)

theorem ComplaintAlike.advice_eq (h : ComplaintAlike c d) : c.advice = d.advice := by
  rw [Complaint.advice, Complaint.advice, h.isAboutType_eq, h.constraint, h.reason, h.expected]

end Complaints

/-! ## Readings put together -/

namespace Reading

variable {α β : Type} {r r' : Reading α} {q q' : Reading β} {cs ds : List Complaint} {v w : Value}

theorem Alike.refl (r : Reading α) : Alike r r := by
  cases r with
  | done a => exact .done a
  | issues cs => exact .issues (List.forall₂_same.mpr fun c _ => .refl c)
  | halted f => exact .halted (.refl f)

theorem Alike.refuse (rule : Rule) (h : Respelled v w) :
    Alike (refuse rule v : Reading α) (refuse rule w) :=
  .issues (.cons (complaintAlike_complaint rule h .nil) .nil)

theorem Alike.map (h : Alike r r') (f : α → β) : Alike (r.map f) (r'.map f) := by
  cases h with
  | done a => exact .done (f a)
  | issues hcs => exact .issues hcs
  | halted hf => exact .halted hf

theorem Alike.both (h : Alike r r') (k : Alike q q') : Alike (r.both q) (r'.both q') := by
  cases h with
  | done a => cases k with
    | done b => exact .done (a, b)
    | issues hds => exact .issues hds
    | halted hg => exact .halted hg
  | issues hcs => cases k with
    | done b => exact .issues hcs
    | issues hds => exact .issues (List.rel_append hcs hds)
    | halted hg => exact .halted hg
  | halted hf => exact .halted hf

theorem Alike.all {rs rs' : List (Reading α)} (h : List.Forall₂ Alike rs rs') :
    Alike (all rs) (all rs') := by
  induction h with
  | nil => exact .done []
  | cons hr _ ih => exact (hr.both ih).map _

theorem Alike.under (h : Alike r r') {s t : Step} (hs : StepAlike s t) :
    Alike (r.under s) (r'.under t) := by
  cases h with
  | done a => exact .done a
  | issues hcs =>
    refine .issues ?_
    rw [List.forall₂_map_left_iff, List.forall₂_map_right_iff]
    exact hcs.imp fun _ _ hc => hc.under hs
  | halted hf => exact .halted hf

theorem Alike.withIssues (h : Alike r r') (hcs : List.Forall₂ ComplaintAlike cs ds) :
    Alike (r.withIssues cs) (r'.withIssues ds) := by
  cases h with
  | done a => cases hcs with
    | nil => exact .done a
    | cons hc hcs => exact .issues (.cons hc hcs)
  | issues hcs' => exact .issues (List.rel_append hcs' hcs)
  | halted hf => exact .halted hf

end Reading

open Reading

section Mappings

variable {α : Type} {es fs : Entries} {f : Field} {fields : List Field} {v w : Value}
  {read : Value → Reading α} {r r' : Reading α}

theorem alike_required (h : RespelledEntries es fs) (hf : f.Regular)
    (hread : ∀ v w, Respelled v w → Alike (read v) (read w)) :
    Alike (f.required es read) (f.required fs read) := by
  have hfound := h.pointwise.find? h.unambiguous hf
  unfold Field.required
  generalize f.find? es = a at hfound
  generalize f.find? fs = b at hfound
  cases hfound with
  | none => exact .issues (.cons (complaintAlike_complaint _ h.mapping (.cons (.refl _) .nil)) .nil)
  | some hab => exact (hread _ _ hab.2).under (.key hab.1)

theorem alike_optional (h : RespelledEntries es fs) (hf : f.Regular) (default : α)
    (hread : ∀ v w, Respelled v w → Alike (read v) (read w)) :
    Alike (f.optional es default read) (f.optional fs default read) := by
  have hfound := h.pointwise.find? h.unambiguous hf
  unfold Field.optional
  generalize f.find? es = a at hfound
  generalize f.find? fs = b at hfound
  cases hfound with
  | none => exact .done default
  | some hab => exact (hread _ _ hab.2).under (.key hab.1)

theorem complaintAlike_unknownKey {k l : Value} (hkey : SameField k l) (hvalue : Respelled v w) :
    ComplaintAlike (unknownKey (k, v)) (unknownKey (l, w)) := by
  rcases hkey with rfl | ⟨f, hf, hk, hl⟩
  · cases k with
    | text s => exact complaintAlike_complaint _ hvalue (.cons (.refl _) .nil)
    | _ => exact .refl _
  · have hsame : SameField k l := .inr ⟨f, hf, hk, hl⟩
    obtain ⟨a, rfl⟩ := Field.exists_text_of_spells hk
    obtain ⟨b, rfl⟩ := Field.exists_text_of_spells hl
    exact complaintAlike_complaint _ hvalue (.cons (.key hsame) .nil)

theorem forall₂_unknownKeys (h : RespelledEntries es fs) (hf : ∀ f ∈ fields, f.Regular) :
    List.Forall₂ ComplaintAlike (unknownKeys fields es) (unknownKeys fields fs) := by
  rw [unknownKeys_eq h.unambiguous hf,
    unknownKeys_eq (h.pointwise.unambiguous h.unambiguous) hf, List.forall₂_map_left_iff,
    List.forall₂_map_right_iff]
  have hsame : ∀ {k l : Value}, SameField k l →
      fields.any (·.spells k) = fields.any (·.spells l) := by
    intro k l hkey
    rw [Bool.eq_iff_iff, List.any_eq_true, List.any_eq_true]
    exact exists_congr fun f => and_congr_right fun hmem => by rw [hkey.spells_eq (hf f hmem)]
  have hpointwise := h.pointwise
  clear h
  induction hpointwise with
  | nil => exact .nil
  | @cons k l v w es fs hkey hvalue _ ih =>
    rw [List.filter_cons, List.filter_cons, hsame hkey]
    split
    · exact .cons (complaintAlike_unknownKey hkey hvalue) ih
    · exact ih

theorem alike_closing (h : RespelledEntries es fs) (hf : ∀ f ∈ fields, f.Regular)
    (hr : Alike r r') : Alike (closing fields es r) (closing fields fs r') := by
  have hunknown := forall₂_unknownKeys h hf
  rw [closing_eq, closing_eq, h.pointwise.brokenKey?]
  -- A key that holds half of a surrogate pair is told in place of all other complaints.
  cases brokenKey? fs with
  | none => cases hr with
    | done a => exact (Alike.done a).withIssues hunknown
    | issues hcs => exact (Alike.issues hcs).withIssues hunknown
    | halted hg => exact .halted hg
  | some k => cases hr with
    | done a => exact .refl _
    | issues hcs => exact .refl _
    | halted hg => exact .halted hg

theorem alike_readEntries {read read' : Entries → Reading α} (h : Respelled v w)
    (hsame : ∀ es, v = w → Alike (read es) (read' es))
    (hread : ∀ es fs, RespelledEntries es fs → Alike (read es) (read' fs)) :
    Alike (readEntries v read) (readEntries w read') := by
  cases h with
  | refl =>
    unfold readEntries
    split
    · exact hsame _ rfl
    · exact .refl _
  | list hvs => exact .refuse _ (.list hvs)
  | mapping hu hes => exact hread _ _ ⟨hu, hes⟩

end Mappings

/-! ## Single values -/

section Leaves

variable (strict : Bool) {v w : Value}

theorem alike_readMatching (test : List Char → Bool) (rule : Rule) (h : Respelled v w) :
    Alike (readMatching strict test rule v) (readMatching strict test rule w) := by
  cases h with
  | refl => exact .refl _
  | list hvs => exact .refuse .textType (.list hvs)
  | mapping hu hes => exact .refuse .textType (.mapping hu hes)

theorem alike_readFilled (h : Respelled v w) :
    Alike (readFilled strict v) (readFilled strict w) := by
  cases h with
  | refl => exact .refl _
  | list hvs => exact .refuse .textType (.list hvs)
  | mapping hu hes => exact .refuse .textType (.mapping hu hes)

theorem alike_readFlag (h : Respelled v w) : Alike (readFlag strict v) (readFlag strict w) := by
  cases h with
  | refl => exact .refl _
  | list hvs => cases strict <;> exact .refuse .boolType (.list hvs)
  | mapping hu hes => cases strict <;> exact .refuse .boolType (.mapping hu hes)

theorem alike_readKind (word : String) (h : Respelled v w) :
    Alike (readKind word v) (readKind word w) := by
  cases h with
  | refl => exact .refl _
  | list hvs => exact .refuse (.literal word) (.list hvs)
  | mapping hu hes => exact .refuse (.literal word) (.mapping hu hes)

theorem alike_ofValue (h : Respelled v w) :
    Alike (.done (TextRule.ofValue v)) (.done (TextRule.ofValue w)) := by
  cases h with
  | refl => exact .refl _
  | list hvs => exact .refl _
  | mapping hu hes => exact .refl _

end Leaves

/-! ## Directives -/

section Directives

variable (strict : Bool) {v w : Value}

theorem alike_readBasic (h : Respelled v w) : Alike (readBasic strict v) (readBasic strict w) := by
  refine alike_readEntries h (fun _ _ => .refl _) fun es fs h => ?_
  have hkind := alike_optional h (f := kindField) (by decide) () fun _ _ =>
    alike_readKind "basic"
  have hnull := alike_optional h (f := allowNullField) (by decide) Check.defaultAllowNull fun _ _ =>
    alike_readFlag strict
  exact alike_closing h (by decide) ((hkind.both hnull).map _)

theorem alike_readNested (h : Respelled v w) :
    Alike (readNested strict v) (readNested strict w) := by
  refine alike_readEntries h (fun _ _ => .refl _) fun es fs h => ?_
  have hkind := alike_optional h (f := kindField) (by decide) () fun _ _ =>
    alike_readKind "nested_model"
  have hnull := alike_optional h (f := allowNullField) (by decide) Check.defaultAllowNull fun _ _ =>
    alike_readFlag strict
  have hvalidate := alike_optional h (f := validateField) (by decide) Check.defaultValidate
    fun _ _ => alike_readFlag strict
  exact alike_closing h (by decide) ((hkind.both (hnull.both hvalidate)).map _)

theorem alike_readTextDirective (h : Respelled v w) :
    Alike (readTextDirective v) (readTextDirective w) := by
  refine alike_readEntries h (fun _ _ => .refl _) fun es fs h => ?_
  have hkind := alike_optional h (f := kindField) (by decide) () fun _ _ =>
    alike_readKind "string"
  have hrule := alike_optional h (f := ruleField) (by decide) Check.defaultRule fun _ _ =>
    alike_ofValue
  exact alike_closing h (by decide) ((hkind.both hrule).map _)

/-- What a directive is read as, by the kind of its mapping. -/
def readTagged (strict : Bool) (v : Value) : Option Value → Reading Directive
  | none => .refuse .tagMissing v
  | some (.text "basic") => (readBasic strict v).under (.key "basic")
  | some (.text "nested_model") => (readNested strict v).under (.key "nested_model")
  | some (.text "string") => (readTextDirective v).under (.key "string")
  | some tag => .refuse (.tagUnknown (tagText tag)) v

theorem readDirective_mapping (strict : Bool) (es : Entries) :
    readDirective strict (.mapping es) = readTagged strict (.mapping es) (es.field? "kind") := rfl

theorem alike_readTagged (h : Respelled v w) {a b : Option Value} (hab : Option.Rel Respelled a b) :
    Alike (readTagged strict v a) (readTagged strict w b) := by
  -- Only this message quotes a value; the three known kinds are texts, which have one spelling.
  have hunknown : ∀ t u, Respelled t u → Alike
      (.refuse (.tagUnknown (tagText t)) v : Reading Directive)
      (.refuse (.tagUnknown (tagText u)) w) := fun t u htu =>
    .issues (.cons (complaintAlike_tagUnknown h (.tagUnknown htu)) .nil)
  cases hab with
  | none => exact .refuse _ h
  | some htu =>
    unfold readTagged
    cases htu with
    | refl t =>
      split
      · exact .refuse _ h
      · exact (alike_readBasic strict h).under (.refl _)
      · exact (alike_readNested strict h).under (.refl _)
      · exact (alike_readTextDirective h).under (.refl _)
      · exact hunknown _ _ (.refl _)
    | list hvs => exact hunknown _ _ (.list hvs)
    | mapping hu hes => exact hunknown _ _ (.mapping hu hes)

theorem alike_readDirective (h : Respelled v w) :
    Alike (readDirective strict v) (readDirective strict w) := by
  cases h with
  | refl => exact .refl _
  | list hvs => exact .refuse .mappingType (.list hvs)
  | mapping hu hes =>
    rw [readDirective_mapping, readDirective_mapping]
    exact alike_readTagged strict (.mapping hu hes) (hes.field? (by decide))

theorem alike_readOptionalDirective (h : Respelled v w) :
    Alike (readOptionalDirective strict v) (readOptionalDirective strict w) := by
  cases h with
  | refl => exact .refl _
  | list hvs => exact (alike_readDirective strict (.list hvs)).map some
  | mapping hu hes => exact (alike_readDirective strict (.mapping hu hes)).map some

end Directives

/-! ## Properties and models -/

section Models

variable (strict : Bool) {v w : Value} {es fs : Entries}

theorem alike_readFolded (h : RespelledEntries es fs) :
    Alike (readFolded strict es) (readFolded strict fs) := by
  have hname := alike_required h (f := nameField) (by decide) fun _ _ =>
    alike_readMatching strict isName .namePattern
  have htype := alike_required h (f := typeField) (by decide) fun _ _ =>
    alike_readFilled strict
  have hdirective := alike_optional h (f := directiveField) (by decide) none fun _ _ =>
    alike_readOptionalDirective strict
  exact alike_closing h (by decide) ((hname.both (htype.both hdirective)).map _)

theorem alike_readProperty (h : Respelled v w) :
    Alike (readProperty strict v) (readProperty strict w) := by
  refine alike_readEntries h (fun es heq => heq ▸ .refl _) fun es fs hes => ?_
  have hlength := hes.pointwise.forall₂_directives.length_eq
  rw [foldDirectives_eq, foldDirectives_eq, hlength]
  by_cases htwo : 2 ≤ (directives fs).length
  · rw [if_pos htwo, if_pos htwo]
    by_cases ht : Tellable fs
    · rw [if_pos (hes.tellable_iff.mpr ht), if_pos ht]
      exact .halted (.conflict hes)
    · rw [if_neg (mt hes.tellable_iff.mp ht), if_neg ht]
      exact .refuse _ h
  · rw [if_neg htwo, if_neg htwo]
    exact alike_readFolded strict hes.folded

theorem alike_readItems {α : Type} {read : Value → Reading α} {vs ws : List Value}
    (h : List.Forall₂ Respelled vs ws) (hread : ∀ v w, Respelled v w → Alike (read v) (read w)) :
    Alike (readItems read vs) (readItems read ws) := by
  have hitems : ∀ n, List.Forall₂ Alike
      ((vs.zipIdx n).map fun x => (read x.1).under (.index x.2))
      ((ws.zipIdx n).map fun x => (read x.1).under (.index x.2)) := by
    induction h with
    | nil => exact fun _ => .nil
    | cons hvw _ ih => exact fun n => .cons ((hread _ _ hvw).under (.refl _)) (ih (n + 1))
  exact .all (hitems 0)

theorem alike_readProperties (h : Respelled v w) :
    Alike (readProperties strict v) (readProperties strict w) := by
  cases h with
  | refl => exact .refl _
  | list hvs =>
    cases strict with
    | true => exact .refuse .listType (.list hvs)
    | false => exact alike_readItems hvs fun _ _ => alike_readProperty false
  | mapping hu hes => exact .refuse .listType (.mapping hu hes)

theorem alike_readModel (h : Respelled v w) :
    Alike (readModel strict v) (readModel strict w) := by
  refine alike_readEntries h (fun _ _ => .refl _) fun es fs hes => ?_
  have hspace := alike_optional hes (f := spaceField) (by decide) "" fun _ _ =>
    alike_readMatching strict isSpace .spacePattern
  have hname := alike_required hes (f := nameField) (by decide) fun _ _ =>
    alike_readMatching strict isName .namePattern
  have hproperties := alike_optional hes (f := propertiesField) (by decide) [] fun _ _ =>
    alike_readProperties strict
  have hfields : Alike (readFields strict es) (readFields strict fs) :=
    alike_closing hes (by decide) ((hspace.both (hname.both hproperties)).map _)
  generalize readFields strict es = r at hfields
  generalize readFields strict fs = r' at hfields
  cases hfields with
  | done m => exact .refl _
  | issues hcs => exact .issues hcs
  | halted hf => exact .halted hf

theorem Respelled.hint_eq (h : Respelled v w) : hint v = hint w := by
  cases h with
  | refl => rfl
  | list => rfl
  | @mapping es fs hu hes =>
    have hname := hes.field? (s := "name") (by decide)
    have hspace := hes.field? (s := "namespace") (by decide)
    unfold hint
    dsimp only [Value.opened_mapping]
    generalize es.field? "name" = a at hname
    generalize fs.field? "name" = b at hname
    generalize es.field? "namespace" = a' at hspace
    generalize fs.field? "namespace" = b' at hspace
    cases hname with
    | none => rfl
    | some hvw =>
      cases hspace with
      | none => cases hvw <;> rfl
      | some hvw' => cases hvw <;> cases hvw' <;> rfl

end Models

/-! ## Outcomes -/

/-- Complaints one by one, which differ in spellings and come with the same advice. -/
def ComplaintsAlike : List Complaint → List Complaint → Prop :=
  List.Forall₂ fun c d => ComplaintAlike c d ∧ c.advice = d.advice

/-- What is raised about a model in one spelling and in another. -/
inductive RaisedAlike : Raised → Raised → Prop
  | rejection {cs ds : List Complaint} {schema model : Option String} : ComplaintsAlike cs ds →
      RaisedAlike (.rejection (.ofComplaints cs schema model))
        (.rejection (.ofComplaints ds schema model))
  | fault {f g : Fault} : FaultAlike f g → f.code = g.code → RaisedAlike (.fault f) (.fault g)

/-- The details about a model in one spelling and in another. -/
inductive DetailsAlike : Details → Details → Prop
  | reported {cs ds : List Complaint} {schema : String} : ComplaintsAlike cs ds →
      DetailsAlike (reported schema cs) (reported schema ds)
  | fault {f g : Fault} : FaultAlike f g → DetailsAlike f.details g.details

section Outcomes

variable {v w : Value}

theorem FaultAlike.code_eq {f g : Fault} (h : FaultAlike f g) : f.code = g.code := by
  cases h <;> rfl

theorem FaultAlike.context_eq {f g : Fault} (h : FaultAlike f g) : f.context = g.context := by
  cases h <;> rfl

theorem complaintsAlike_of_forall₂ {cs ds : List Complaint}
    (h : List.Forall₂ ComplaintAlike cs ds) : ComplaintsAlike cs ds :=
  h.imp fun _ _ hc => ⟨hc, hc.advice_eq⟩

theorem context_toFault (r : Rejection) :
    r.toFault.context = { origin := some "validation", model := r.model } := by
  unfold Rejection.toFault
  split <;> rfl

/-- The spelling of keys does not matter. If some keys of a description are put into their other
spelling, then the same model is read from it, directly or from an origin. If there is something
wrong with it, then the code, the broken constraints, the messages and the advice stay, in the same
order; what changes is the spelling of keys in places and in what was found, and in the message
about an unknown kind, which quotes the kind. -/
theorem parse_respelled (h : Respelled v w) (strict : Bool) :
    (∀ m, modelForm.parse v strict = .ok m ↔ modelForm.parse w strict = .ok m) ∧
    (∀ x, modelForm.parse v strict = .error x →
      ∃ y, modelForm.parse w strict = .error y ∧ RaisedAlike x y) ∧
    ∀ origin,
      (∀ m, modelForm.enter v origin strict = .ok m ↔ modelForm.enter w origin strict = .ok m) ∧
      ∀ e, modelForm.enter v origin strict = .error e →
        ∃ e', modelForm.enter w origin strict = .error e' ∧ e'.code = e.code ∧
          e'.context = e.context ∧ DetailsAlike e.details e'.details := by
  have hread : Alike (modelForm.read strict v) (modelForm.read strict w) := alike_readModel strict h
  unfold Form.parse Form.enter
  rw [h.hint_eq]
  generalize modelForm.read strict v = r at hread
  generalize modelForm.read strict w = r' at hread
  cases hread with
  | done a => exact ⟨fun _ => .rfl, by simp, fun _ => ⟨fun _ => .rfl, by simp⟩⟩
  | @issues cs ds hcs =>
    have halike := complaintsAlike_of_forall₂ hcs
    refine ⟨by simp, ?_, fun origin => ⟨by simp, ?_⟩⟩
    · rintro _ ⟨⟩
      exact ⟨_, rfl, .rejection halike⟩
    · rintro _ ⟨⟩
      have hcode : ∀ r : Rejection, (r.toFault.fromOrigin origin).code = .invalidModel := fun r =>
        (Fault.code_withContext _ _).trans (code_toFault r)
      refine ⟨_, rfl, (hcode _).trans (hcode _).symm, ?_, ?_⟩
      · rw [Fault.fromOrigin, Fault.fromOrigin, Fault.withContext, Fault.withContext,
          context_toFault, context_toFault]
        rfl
      · change DetailsAlike
          (Rejection.ofComplaints cs (some "ModelSchema") (hint w)).toFault.details
          (Rejection.ofComplaints ds (some "ModelSchema") (hint w)).toFault.details
        rw [details_toFault (by decide), details_toFault (by decide)]
        exact .reported halike
  | @halted f g hf =>
    refine ⟨by simp, ?_, fun origin => ⟨by simp, ?_⟩⟩
    · rintro _ ⟨⟩
      exact ⟨_, rfl, .fault hf hf.code_eq⟩
    · rintro _ ⟨⟩
      refine ⟨_, rfl, hf.code_eq.symm, ?_, ?_⟩
      · simp only [Fault.withContext, hf.context_eq]
      · change DetailsAlike f.details g.details
        exact .fault hf

/-- A property in either spelling without a name, with a flag that is no truth value. -/
theorem parse_respelled_flag :
    let order (typeKey flagKey : String) : Value := .mapping [(.text "name", .text "Order"),
      (.text "properties", .list [.mapping [(.text typeKey, .text "int"), (.text "annotation",
        .mapping [(.text "kind", .text "basic"), (.text flagKey, .text "maybe")])]])]
    Respelled (order "typeName" "allowNull") (order "type_name" "allow_null") ∧
      ∃ x y, modelForm.parse (order "typeName" "allowNull") = .error x ∧
        modelForm.parse (order "type_name" "allow_null") = .error y ∧ RaisedAlike x y := by
  intro order
  have htype : SameField (.text "typeName") (.text "type_name") :=
    sameField_spellings (f := typeField) (by decide)
  have hflag : SameField (.text "allowNull") (.text "allow_null") :=
    sameField_spellings (f := allowNullField) (by decide)
  have horder : Respelled (order "typeName" "allowNull") (order "type_name" "allow_null") :=
    .mapping (by decide) (.cons (.inl rfl) (.refl _) (.cons (.inl rfl) (.list (.cons
      (.mapping (by decide) (.cons htype (.refl _) (.cons (.inl rfl)
        (.mapping (by decide) (.cons (.inl rfl) (.refl _) (.cons hflag (.refl _) .nil)))
        .nil))) .nil)) .nil))
  obtain ⟨y, hy, halike⟩ := (parse_respelled horder false).2.1 _ rfl
  exact ⟨horder, _, y, rfl, hy, halike⟩

/-- A kind is quoted as it is found, so that the spelling of a key inside it shows in a message. -/
theorem message_respelled_kind :
    let order (key : String) : Value := .mapping [(.text "name", .text "Order"),
      (.text "properties", .list [.mapping [(.text "name", .text "Code"),
        (.text "typeName", .text "int"),
        (.text "annotation", .mapping [(.text "kind", .mapping [(.text key, .int 1)])])]])]
    Respelled (order "typeName") (order "type_name") ∧
      ∃ c d, modelForm.parse (order "typeName") =
          .error (.rejection (.ofComplaints [c] (some "ModelSchema") none)) ∧
        modelForm.parse (order "type_name") =
          .error (.rejection (.ofComplaints [d] (some "ModelSchema") none)) ∧
        (Detail.ofComplaint c).message ≠ (Detail.ofComplaint d).message := by
  intro order
  have htype : SameField (.text "typeName") (.text "type_name") :=
    sameField_spellings (f := typeField) (by decide)
  have horder : Respelled (order "typeName") (order "type_name") :=
    .mapping (by decide) (.cons (.inl rfl) (.refl _) (.cons (.inl rfl) (.list (.cons
      (.mapping (by decide) (.cons (.inl rfl) (.refl _) (.cons (.inl rfl) (.refl _)
        (.cons (.inl rfl) (.mapping (by decide) (.cons (.inl rfl)
          (.mapping (by decide) (.cons htype (.refl _) .nil)) .nil)) .nil)))) .nil)) .nil))
  refine ⟨horder, _, _, rfl, rfl, ?_⟩
  intro heq
  exact absurd (Value.text.inj heq) (by decide +kernel)

end Outcomes

end Description

end ShadowTypes
