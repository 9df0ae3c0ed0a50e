import Mathlib.Data.List.Forall2
import ShadowTypes.Fault.Report
import ShadowTypes.Proofs.Fault.Paths

/-!
# Faults that tell reports

Reports become one fault, and the fault tells all of them, in order: it is read back into details,
and each detail tells the location, the constraint, the message and the value of its report. A
report on its own is told by the message and the details of the fault, several ones by a list.
-/

namespace ShadowTypes

def Step.value : Step → Value
  | .index n => .int n
  | .flag b => .bool b
  | .key s => .text s

theorem Step.ofValue_value (s : Step) : ofValue s.value = s := by
  cases s <;> rfl

def Location.value (l : Location) : Value := .list (l.map Step.value)

theorem Location.ofValue_value (l : Location) : ofValue l.value = .ok l := by
  cases l with
  | nil => rfl
  | cons s ss => exact congrArg Except.ok (map_map_eq_self fun t _ => t.ofValue_value)

/-! ## What a report says -/

namespace Report

variable (es : Entries)

def location : Location :=
  match es.field? "loc" with
  | some (.list vs) => vs.map Step.ofValue
  | _ => []

def constraint : Value := (es.field? "type").getD (.text "validation_error")

def message : Value := (es.field? "msg").getD (.text "Validation failed")

def found : Value := (es.field? "input").getD .null

/-- What else a report knows, by name. -/
def known : Entries :=
  match es.field? "ctx" with
  | some (.mapping ks) => ks
  | _ => []

def complaint : Complaint where
  location := location es
  constraint := constraint es
  message := message es
  found := found es
  reason := (known es).field? "error"
  expected := (known es).field? "expected_tags"

def detail : Detail := .ofComplaint (complaint es)

/-- A report as validators write it: its location is a list of numbers and of plain names, its
constraint and its message are text, and what else it knows is known by name. Any of them may be
left out. -/
structure IsProper : Prop where
  place : (es.field? "loc").getD (.list []) = (location es).value
  plain : (location es).IsPlain
  constraint : ∃ s, constraint es = .text s
  message : ∃ s, message es = .text s
  known : (es.field? "ctx").getD (.mapping []) = .mapping (known es)

/-- The detail tells the report. Its path tells the location, too. -/
structure Tells (d : Detail) : Prop where
  path : d.path = (location es).path
  location : Location.ofPath d.path = location es
  constraint : d.constraint = constraint es
  message : d.message = message es
  found : d.found = found es
  advice : d.advice = (complaint es).advice

variable {es}

theorem ofValue_loc (h : IsProper es) :
    Location.ofValue ((es.field? "loc").getD .null) = .ok (location es) := by
  have hplace := h.place
  cases hloc : es.field? "loc" with
  | none =>
    rw [location, hloc]
    rfl
  | some v =>
    rw [hloc] at hplace
    exact (congrArg _ hplace).trans (Location.ofValue_value _)

theorem ofReport_eq (h : IsProper es) : Complaint.ofReport (.mapping es) = .ok (complaint es) := by
  obtain ⟨s, hs⟩ := h.constraint
  have hkey : (constraint es).isKey = true := by
    rw [hs]
    rfl
  rw [Complaint.ofReport, h.known, Complaint.ofEntries, ofValue_loc h]
  change (if (complaint es).isAboutType then Except.ok (complaint es)
    else if !(constraint es).isKey then _ else Except.ok (complaint es)) = _
  rw [hkey]
  exact ite_self _

theorem tells_detail (h : IsProper es) : Tells es (detail es) where
  path := rfl
  location := Location.ofPath_path h.plain
  constraint := rfl
  message := rfl
  found := rfl
  advice := rfl

theorem mapM_ofReport {es : List Entries} (h : ∀ e ∈ es, IsProper e) :
    (es.map Value.mapping).mapM Complaint.ofReport = .ok (es.map complaint) := by
  induction es with
  | nil => rfl
  | cons e es ih =>
    obtain ⟨he, hes⟩ := List.forall_mem_cons.mp h
    rw [List.map_cons, List.mapM_cons, ofReport_eq he, ih hes]
    rfl

end Report

/-! ## Reading a fault back -/

def Value.asText? : Value → Option String
  | .text s => some s
  | _ => none

theorem Fault.asText?_optional (s : Option String) : (optional s).asText? = s := by
  cases s <;> rfl

namespace Detail

/-- The detail that consists of a message and of parts known by name. -/
def ofParts (message : Value) (part : String → Option Value) : Detail where
  path := ((part "field").bind Value.asText?).getD ""
  constraint := (part "constraint").getD .null
  message := message
  found := (part "value").getD .null
  advice := (part "suggested_fix").bind Value.asText?

/-- The detail that an entry of a list tells. -/
def ofEntry : Value → Detail
  | .mapping es => ofParts ((Entries.field? es "message").getD .null) (Entries.field? es)
  | _ => ofParts .null fun _ => none

/-- A null that was left out is read back, and there is no empty advice to be left out. -/
theorem ofEntry_entry {d : Detail} (h : d.advice ≠ some "") : ofEntry d.entry = d := by
  obtain ⟨path, constraint, message, found, advice⟩ := d
  have hfound : found = .null ∨ found.isNull = false := by
    cases found <;> simp [Value.isNull]
  have hadvice : advice = none ∨ ∃ a, advice = some a ∧ a ≠ "" := by
    cases advice with
    | none => exact .inl rfl
    | some a => exact .inr ⟨a, rfl, fun ha => h (congrArg some ha)⟩
  rcases hfound with rfl | hf <;> rcases hadvice with rfl | ⟨a, rfl, ha⟩
  all_goals simp_all [entry, ofEntry, ofParts, Entries.field?, Entries.get?, Value.sameKey,
    Value.isNull, Value.asText?]

theorem ofParts_details (message : Value) (d : Detail) :
    ofParts message d.details.get? = { d with message := message } := by
  have hadvice : (Keyed.get? d.details "suggested_fix").bind Value.asText? = d.advice :=
    Fault.asText?_optional d.advice
  rw [ofParts, hadvice]
  rfl

end Detail

namespace Fault

def behind (path text : String) : String :=
  String.ofList (text.toList.drop (path ++ ": ").toList.length)

theorem behind_append (path message : String) :
    behind path (path ++ ": " ++ message) = message := by
  rw [behind, String.toList_append (s := path ++ ": "), List.drop_left, String.ofList_toList]

/-- The details that a fault tells: those of its list of errors, or else the one in its message and
its own details. -/
def reported (f : Fault) : List Detail :=
  match Keyed.get? f.details "errors" with
  | some (.list vs) => vs.map Detail.ofEntry
  | _ =>
    let d := Detail.ofParts .null (Keyed.get? f.details)
    [{ d with message := .text (behind d.path f.message) }]

end Fault

namespace Rejection

variable {r : Rejection}

theorem get?_schemaDetails_append {k : String} (hk : k ≠ "schema") (d : Details) :
    Keyed.get? (r.schemaDetails ++ d) k = Keyed.get? d k := by
  have hschema : ∀ e ∈ r.schemaDetails, ¬ (e.1 == k) = true := by
    rw [schemaDetails]
    split
    · split <;> simp [Ne.symm hk]
    · simp
  rw [Keyed.get?, List.find?_append, List.find?_eq_none.mpr hschema, Option.none_or, Keyed.get?]

theorem toFault_single {d : Detail} (h : r.details = [d]) :
    r.text = d.line ∧ r.toFault.message = d.line ∧
      r.toFault.details = r.schemaDetails ++ d.details := by
  rw [text, toFault, h]
  exact ⟨rfl, rfl, rfl⟩

theorem toFault_list (h : r.details.length ≠ 1) :
    r.toFault.details = r.schemaDetails ++
      [("error_count", .int r.details.length), ("errors", .list (r.details.map Detail.entry))] := by
  rw [toFault]
  split
  · next d hd => exact absurd (congrArg List.length hd) h
  · rfl

/-- The fault that a rejection becomes tells the details of the rejection. -/
theorem reported_toFault (hmessage : ∀ d ∈ r.details, ∃ s, d.message = .text s)
    (hadvice : ∀ d ∈ r.details, d.advice ≠ some "") : r.toFault.reported = r.details := by
  by_cases hlength : r.details.length = 1
  · obtain ⟨d, hd⟩ := List.length_eq_one_iff.mp hlength
    obtain ⟨-, hline, hdetails⟩ := toFault_single hd
    obtain ⟨s, hs⟩ := hmessage d (hd ▸ List.mem_singleton_self d)
    have hparts : Detail.ofParts .null (Keyed.get? (r.schemaDetails ++ d.details)) =
        { d with message := .null } := by
      rw [← Detail.ofParts_details]
      simp only [Detail.ofParts, get?_schemaDetails_append, ne_eq, String.reduceEq,
        not_false_eq_true]
    have hbehind : Fault.behind d.path d.line = s := by
      rw [Detail.line, hs]
      exact Fault.behind_append d.path s
    rw [Fault.reported, hdetails, hparts, hline, get?_schemaDetails_append (by decide), hd]
    change [{ d with message := .text (Fault.behind d.path d.line) }] = [d]
    rw [hbehind, ← hs]
  · rw [Fault.reported, toFault_list hlength, get?_schemaDetails_append (by decide)]
    exact map_map_eq_self fun d hd => Detail.ofEntry_entry (hadvice d hd)

end Rejection

/-! ## Every report once and in order -/

theorem Complaint.advice_ne_empty (c : Complaint) : c.advice ≠ some "" := by
  rw [advice]
  split
  · decide
  · split <;> try decide
    · exact fun h => by simp at h
    · split
      · split
        · next hgiven =>
          rw [Bool.and_eq_true, bne_iff_ne] at hgiven
          exact fun h => hgiven.2 (Option.some.inj h)
        · decide
      · decide

namespace Rejection

/-- The rejection and its fault tell the reports. A single one is the text of the rejection, the
message of the fault and the parts in its details; any other number of them is counted, and as many
are listed. -/
structure Reports (r : Rejection) (es : List Entries) : Prop where
  told : List.Forall₂ Report.Tells es r.toFault.reported
  single : ∀ e, es = [e] →
    r.text = (Report.location e).path ++ ": " ++ (Report.message e).toText ∧
    r.toFault.message = r.text ∧
    Keyed.get? r.toFault.details "field" = some (.text (Report.location e).path) ∧
    Keyed.get? r.toFault.details "constraint" = some (Report.constraint e) ∧
    Keyed.get? r.toFault.details "value" = some (Report.found e)
  several : es.length ≠ 1 →
    Keyed.get? r.toFault.details "error_count" = some (.int es.length) ∧
    ∃ vs, Keyed.get? r.toFault.details "errors" = some (.list vs) ∧ vs.length = es.length

variable {es : List Entries} (schema model : Option String)

theorem reports_ofComplaints (h : ∀ e ∈ es, Report.IsProper e) :
    (ofComplaints (es.map Report.complaint) schema model).Reports es := by
  let r := ofComplaints (es.map Report.complaint) schema model
  have hdetails : r.details = es.map Report.detail := List.map_map
  refine ⟨?_, ?_, ?_⟩
  · have hreported : r.toFault.reported = r.details := by
      apply reported_toFault <;> rw [hdetails, List.forall_mem_map]
      · exact fun e he => (h e he).message
      · exact fun e _ => Complaint.advice_ne_empty _
    rw [hreported, hdetails, List.forall₂_map_right_iff, List.forall₂_same]
    exact fun e he => Report.tells_detail (h e he)
  · rintro e rfl
    obtain ⟨htext, hmessage, hparts⟩ := toFault_single (r := r) hdetails
    have hpart {k : String} (hk : k ≠ "schema") :
        Keyed.get? r.toFault.details k = Keyed.get? (Report.detail e).details k := by
      rw [hparts, get?_schemaDetails_append hk]
    exact ⟨htext, hmessage.trans htext.symm, hpart (by decide), hpart (by decide),
      hpart (by decide)⟩
  · intro hne
    have hlength : r.details.length = es.length := by rw [hdetails, List.length_map]
    rw [← hlength] at hne ⊢
    rw [toFault_list hne, get?_schemaDetails_append (by decide),
      get?_schemaDetails_append (by decide)]
    exact ⟨rfl, _, rfl, List.length_map _⟩

/-- Proper reports become one fault that tells them all, once and in order, and a path tells its
location: no other one has this path. -/
theorem reports_told (h : ∀ e ∈ es, Report.IsProper e) :
    (∃ cs, (es.map Value.mapping).mapM Complaint.ofReport = .ok cs ∧
      (ofComplaints cs schema model).Reports es) ∧
    ∀ l : Location, l.IsPlain → Location.ofPath l.path = l ∧
      ∀ l' : Location, l'.IsPlain → l'.path = l.path → l' = l := by
  refine ⟨⟨_, Report.mapM_ofReport h, reports_ofComplaints schema model h⟩, fun l hl =>
    ⟨Location.ofPath_path hl, fun l' hl' hpath => ?_⟩⟩
  rw [← Location.ofPath_path hl', hpath, Location.ofPath_path hl]

/-- A truth value in the place of a position, a negative position with what else is known about it,
and a report that leaves everything out. -/
theorem reports_told_three :
    let l : Location := [.key "properties", .index 0, .key "typeName", .flag true]
    let es : List Entries := [
      [(.text "loc", l.value), (.text "type", .text "string_type"),
        (.text "msg", .text "Input should be a string"), (.text "input", .int 5)],
      [(.text "loc", .list [.int (-1)]), (.text "type", .text "value_error"),
        (.text "msg", .text "too short"), (.text "ctx", .mapping [(.text "error", .text "")])],
      []]
    (∀ e ∈ es, Report.IsProper e) ∧
    (∃ cs, (es.map Value.mapping).mapM Complaint.ofReport = .ok cs ∧
      (ofComplaints cs (some "ModelSchema") none).Reports es) ∧
    l.IsPlain ∧ Location.ofPath l.path = l := by
  intro l es
  have hproper : ∀ e ∈ es, Report.IsProper e := by
    simp only [es, List.forall_mem_cons]
    refine ⟨⟨rfl, by decide +kernel, ⟨_, rfl⟩, ⟨_, rfl⟩, rfl⟩,
      ⟨rfl, by decide +kernel, ⟨_, rfl⟩, ⟨_, rfl⟩, rfl⟩,
      ⟨rfl, by decide +kernel, ⟨_, rfl⟩, ⟨_, rfl⟩, rfl⟩, ?_⟩
    exact fun e he => by cases he
  have hplain : l.IsPlain := by decide +kernel
  obtain ⟨htold, hpath⟩ := reports_told (some "ModelSchema") none hproper
  exact ⟨hproper, htold, hplain, (hpath l hplain).1⟩

end Rejection

end ShadowTypes
