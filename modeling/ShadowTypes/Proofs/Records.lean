import ShadowTypes.Log
import ShadowTypes.Proofs.Fault.Updates
import ShadowTypes.Proofs.Keyed

/-!
# Records of events

An event is written as a record of its fields and of what every event has. Nothing of an event is
lost on the way if its fields are texts, numbers or nulls, under names of their own.
-/

namespace ShadowTypes

variable {e : Event} {d more : Details} {k : String} {v : Value}

/-- The record says what the event says. -/
structure Event.Recorded (e : Event) (r : Entries) : Prop where
  name : r.field? "event" = some (.text e.name)
  level : r.field? "level" = some (.text e.level.text)
  logger : r.field? "logger" = some (.text e.logger)
  fields : ∀ f ∈ e.fields, r.field? f.1 = some f.2

/-- The event can be written, and nothing of it is lost. -/
def Event.Writes (e : Event) : Prop := ∃ r, e.record? = some r ∧ e.Recorded r

def Event.common (e : Event) : Details :=
  [("event", .text e.name), ("level", .text e.level.text), ("logger", .text e.logger),
    ("service", .text "dtogen"), ("version", .text "0.1.0")]

/-! ## Values by name as entries -/

/-- Values by name as the entries of a mapping. -/
def Details.entries (d : Details) : Entries := d.map fun f => (.text f.1, f.2)

theorem Details.field?_entries (d : Details) (name : String) :
    d.entries.field? name = Keyed.get? d name := by
  have hkey : ∀ f : String × Value,
      (Value.text f.1).sameKey (.text name) = (f.1 == name) := by
    intro f
    rw [Bool.eq_iff_iff, Value.sameKey_text, beq_iff_eq, Value.text.injEq]
  rw [Entries.field?, Entries.get?, Details.entries, List.find?_map, Option.map_map, Keyed.get?]
  exact congrArg (fun p => (List.find? p d).map Prod.snd) (funext hkey)

theorem Details.shapeEntries?_entries (h : ∀ f ∈ d, Json.shape? f.2 = some f.2) :
    Json.shapeEntries? d.entries = some d.entries := by
  induction d with
  | nil => rfl
  | cons f d ih =>
    obtain ⟨hf, hd⟩ := List.forall_mem_cons.mp h
    change Json.shapeEntries? ((.text f.1, f.2) :: Details.entries d) = _
    rw [Json.shapeEntries?, hf, ih hd]
    rfl

theorem Details.insert_entries (hk : k ∉ Keyed.keys d) :
    d.entries.insert (.text k) v = Details.entries (d ++ [(k, v)]) := by
  induction d with
  | nil => rfl
  | cons f d ih =>
    rw [Keyed.keys, List.map_cons, List.mem_cons, not_or] at hk
    have hkey : ¬(Value.text f.1).sameKey (.text k) = true := by
      rw [Value.sameKey_text, Value.text.injEq]
      exact Ne.symm hk.1
    change Entries.insert ((.text f.1, f.2) :: Details.entries d) _ _ = _
    rw [Entries.insert, if_neg hkey, ih hk.2]
    rfl

theorem Details.ofList_entries (h : (Keyed.keys d).Nodup) :
    Entries.ofList d.entries = d.entries := by
  induction d using List.reverseRecOn with
  | nil => rfl
  | append_singleton d f ih =>
    rw [Keyed.keys, List.map_append, List.map_singleton, List.nodup_append] at h
    obtain ⟨hd, -, hnew⟩ := h
    have hf : f.1 ∉ Keyed.keys d := fun hmem => hnew _ hmem _ (List.mem_singleton_self _) rfl
    have hsplit : Details.entries (d ++ [f]) = Details.entries d ++ [(.text f.1, f.2)] :=
      List.map_append
    have hd' : Entries.ofList (Details.entries d) = Details.entries d := ih hd
    rw [Entries.ofList, hsplit, List.foldl_append, ← Entries.ofList, hd']
    exact (Details.insert_entries hf).trans hsplit

theorem Keyed.last?_eq_none {α : Type} {d : Keyed α} (h : k ∉ d.keys) : d.last? k = none := by
  rw [last?, get?, Option.map_eq_none_iff, List.find?_eq_none]
  intro f hf hkey
  exact h (List.mem_map.mpr ⟨f, List.mem_reverse.mp hf, beq_iff_eq.mp hkey⟩)

/-! ## Events as records -/

/-- An event is written with all that it says if its fields have the shape of JSON as they are and
names of their own. -/
theorem Event.writes_of_plain (hnodup : (Keyed.keys e.fields).Nodup)
    (hfree : ∀ k ∈ Keyed.keys e.fields, k ∉ Keyed.keys e.common)
    (hplain : ∀ f ∈ e.fields, Json.shape? f.2 = some f.2) : e.Writes := by
  let d : Details := e.fields.merge e.common
  have hd : (Keyed.keys d).Nodup := Keyed.nodup_keys_merge hnodup e.common
  have hshape : ∀ f ∈ d, Json.shape? f.2 = some f.2 := by
    intro f hf
    rcases Keyed.mem_merge hnodup hf with hf | hf
    · exact hplain f hf
    · simp only [common, List.mem_cons, List.not_mem_nil, or_false] at hf
      rcases hf with rfl | rfl | rfl | rfl | rfl <;> rfl
  refine ⟨d.entries, ?_, ?_⟩
  · have hmapping : Json.shape? (.mapping d.entries) = some (.mapping d.entries) := by
      rw [Json.shape?, Details.shapeEntries?_entries hshape, Option.map_some,
        Details.ofList_entries hd]
    dsimp only [d, Details.entries, common] at hmapping ⊢
    dsimp only [record?]
    rw [hmapping]
  · have hfield : ∀ k, d.entries.field? k =
        (Keyed.last? e.common k).or (Keyed.get? e.fields k) := by
      intro k
      rw [Details.field?_entries]
      exact Keyed.get?_merge e.fields e.common k
    refine ⟨hfield "event", hfield "level", hfield "logger", ?_⟩
    intro f hf
    have hnone : Keyed.last? e.common f.1 = none :=
      Keyed.last?_eq_none (hfree f.1 (List.mem_map_of_mem hf))
    rw [hfield, hnone, Option.none_or]
    exact Keyed.get?_eq_some_of_mem hnodup hf

theorem Event.forall₂_recorded {threshold : Nat} {events : List Event}
    (hlevel : ∀ e ∈ events, threshold ≤ e.level.rank) (hwrites : ∀ e ∈ events, e.Writes) :
    List.Forall₂ Event.Recorded events (Event.records threshold events) := by
  have hkept : events.filter (threshold ≤ ·.level.rank) = events :=
    List.filter_eq_self.mpr fun e he => decide_eq_true (hlevel e he)
  rw [records, hkept]
  clear hlevel hkept
  induction events with
  | nil => exact .nil
  | cons e events ih =>
    obtain ⟨⟨r, hr, hrecorded⟩, hevents⟩ := List.forall_mem_cons.mp hwrites
    rw [List.filterMap_cons_some hr]
    exact .cons hrecorded (ih hevents)

theorem Level.debug_le_rank (l : Level) : 10 ≤ l.rank := by
  cases l <;> decide

end ShadowTypes
