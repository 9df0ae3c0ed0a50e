import Mathlib.Logic.Relation
import ShadowTypes.Proofs.Isolation

/-!
# Worker pools

A pass with several workers hands its drafts to a pool. Every draft is submitted with a place for
its outcome, workers take the waiting tasks and fill the places in any order, and the outcomes are
collected place by place once everything is submitted. Whatever the workers do, what is collected
is a beginning of what one worker computes in order, the pool is never stuck, and it comes to an
end; so the workers cannot be told from the outcomes.
-/

namespace ShadowTypes

/-- Work on an item, with the place of its result. -/
structure Task (α : Type) where
  place : Nat
  item : α

/-- A pool at work. A place is empty until the result of its task is there. -/
structure Pool (α β : Type) where
  items : List α
  queue : List (Task α) := []
  busy : List (Task α) := []
  places : List (Option β) := []
  collected : List β := []

namespace Pool

variable {α β : Type}

def start (all : List α) : Pool α β := { items := all }

/-- Everything is submitted and collected. -/
def Done (s : Pool α β) : Prop := s.items = [] ∧ s.collected.length = s.places.length

/-- What can happen next. Which of the waiting tasks is taken and which of the running ones ends is
left open, and so is how far the workers are when items are submitted. -/
inductive Step (work : α → β) (workers : Nat) : Pool α β → Pool α β → Prop
  | submit {s : Pool α β} {a : α} {rest : List α} (next : s.items = a :: rest) :
      Step work workers s { s with
        items := rest, queue := s.queue ++ [⟨s.places.length, a⟩], places := s.places ++ [none] }
  | take {s : Pool α β} {t : Task α} {before after : List (Task α)}
      (waiting : s.queue = before ++ t :: after) (free : s.busy.length < workers) :
      Step work workers s { s with queue := before ++ after, busy := t :: s.busy }
  | finish {s : Pool α β} {t : Task α} {before after : List (Task α)}
      (running : s.busy = before ++ t :: after) :
      Step work workers s { s with
        busy := before ++ after, places := s.places.set t.place (some (work t.item)) }
  | collect {s : Pool α β} {b : β} (submitted : s.items = [])
      (ready : s.places[s.collected.length]? = some (some b)) :
      Step work workers s { s with collected := s.collected ++ [b] }

/-- What can happen in any number of steps. -/
def Reaches (work : α → β) (workers : Nat) : Pool α β → Pool α β → Prop :=
  Relation.ReflTransGen (Step work workers)

/-! ## What the pool holds -/

/-- What holds of a pool that was given the items `all`. -/
structure Invariant (work : α → β) (all : List α) (s : Pool α β) : Prop where
  items : s.items = all.drop s.places.length
  task : ∀ t ∈ s.queue ++ s.busy, all[t.place]? = some t.item
  place : ∀ (i : Nat) (b : β), s.places[i]? = some (some b) → (all.map work)[i]? = some b
  pending : ∀ i : Nat, s.places[i]? = some none → ∃ t ∈ s.queue ++ s.busy, t.place = i
  collected : s.collected <+: all.map work

variable {work : α → β} {workers : Nat} {all : List α} {s s' : Pool α β}

theorem invariant_start (work : α → β) (all : List α) : Invariant work all (start all) where
  items := rfl
  task := by simp [start]
  place := by simp [start]
  pending := by simp [start]
  collected := List.nil_prefix

namespace Invariant

theorem submit {a : α} {rest : List α} (h : Invariant work all s) (next : s.items = a :: rest) :
    Invariant work all { s with
      items := rest, queue := s.queue ++ [⟨s.places.length, a⟩], places := s.places ++ [none] } := by
  have hdrop : a :: rest = all.drop s.places.length := next ▸ h.items
  have ha : all[s.places.length]? = some a := by
    rw [← List.head?_drop, ← hdrop, List.head?_cons]
  constructor
  · change rest = all.drop (s.places ++ [none]).length
    rw [List.length_append, List.length_singleton, ← List.tail_drop, ← hdrop, List.tail_cons]
  · intro t ht
    simp only [List.mem_append, List.mem_singleton] at ht
    rcases ht with (ht | rfl) | ht
    · exact h.task t (List.mem_append_left _ ht)
    · exact ha
    · exact h.task t (List.mem_append_right _ ht)
  · intro i b hi
    refine h.place i b ?_
    by_cases hlt : i < s.places.length
    · rwa [List.getElem?_append_left hlt] at hi
    · rw [List.getElem?_append_right (by omega), List.getElem?_singleton] at hi
      split at hi <;> cases hi
  · intro i hi
    by_cases hlt : i < s.places.length
    · rw [List.getElem?_append_left hlt] at hi
      obtain ⟨t, ht, hplace⟩ := h.pending i hi
      refine ⟨t, ?_, hplace⟩
      simp only [List.mem_append] at ht ⊢
      tauto
    · have hle := (List.getElem?_eq_some_iff.mp hi).1
      rw [List.length_append, List.length_singleton] at hle
      exact ⟨⟨s.places.length, a⟩, by simp, by simp; omega⟩
  · exact h.collected

theorem take {t : Task α} {before after : List (Task α)} (h : Invariant work all s)
    (waiting : s.queue = before ++ t :: after) :
    Invariant work all { s with queue := before ++ after, busy := t :: s.busy } := by
  have hmem : ∀ u, u ∈ (before ++ after) ++ t :: s.busy ↔ u ∈ s.queue ++ s.busy := by
    intro u
    rw [waiting]
    simp only [List.mem_append, List.mem_cons]
    tauto
  constructor
  · exact h.items
  · intro u hu
    exact h.task u ((hmem u).mp hu)
  · exact h.place
  · intro i hi
    obtain ⟨u, hu, hplace⟩ := h.pending i hi
    exact ⟨u, (hmem u).mpr hu, hplace⟩
  · exact h.collected

theorem finish {t : Task α} {before after : List (Task α)} (h : Invariant work all s)
    (running : s.busy = before ++ t :: after) :
    Invariant work all { s with
      busy := before ++ after, places := s.places.set t.place (some (work t.item)) } := by
  have hmem : ∀ u, u ∈ s.queue ++ s.busy ↔ u = t ∨ u ∈ s.queue ++ (before ++ after) := by
    intro u
    rw [running]
    simp only [List.mem_append, List.mem_cons]
    tauto
  have ht : all[t.place]? = some t.item := h.task t ((hmem t).mpr (.inl rfl))
  constructor
  · change s.items = all.drop (s.places.set t.place _).length
    rw [List.length_set]
    exact h.items
  · intro u hu
    exact h.task u ((hmem u).mpr (.inr hu))
  · intro i b hi
    rw [List.getElem?_set] at hi
    split at hi
    · next hplace =>
      split at hi <;> cases hi
      rw [← hplace, List.getElem?_map, ht, Option.map_some]
    · exact h.place i b hi
  · intro i hi
    rw [List.getElem?_set] at hi
    split at hi
    · split at hi <;> cases hi
    · next hplace =>
      obtain ⟨u, hu, rfl⟩ := h.pending i hi
      rcases (hmem u).mp hu with rfl | hu
      · exact absurd rfl hplace
      · exact ⟨u, hu, rfl⟩
  · exact h.collected

theorem collect {b : β} (h : Invariant work all s)
    (ready : s.places[s.collected.length]? = some (some b)) :
    Invariant work all { s with collected := s.collected ++ [b] } where
  items := h.items
  task := h.task
  place := h.place
  pending := h.pending
  collected := by
    have hb := h.place _ b ready
    obtain ⟨rest, hrest⟩ := h.collected
    rw [← hrest, List.getElem?_append_right (Nat.le_refl _), Nat.sub_self] at hb
    obtain ⟨tail, rfl⟩ : ∃ tail, rest = b :: tail := by
      cases rest with
      | nil => cases hb
      | cons c tail =>
        cases hb
        exact ⟨tail, rfl⟩
    refine ⟨tail, ?_⟩
    change s.collected ++ [b] ++ tail = all.map work
    rw [← hrest, List.append_assoc, List.singleton_append]

theorem step (h : Invariant work all s) (hs : Step work workers s s') : Invariant work all s' := by
  cases hs with
  | submit next => exact h.submit next
  | take waiting free => exact h.take waiting
  | finish running => exact h.finish running
  | collect submitted ready => exact h.collect ready

end Invariant

theorem Reaches.invariant (h : Reaches work workers (start all) s) : Invariant work all s := by
  induction h with
  | refl => exact invariant_start work all
  | tail _ hs ih => exact ih.step hs

/-! ## How the pool ends -/

namespace Invariant

theorem length_le (h : Invariant work all s) (hitems : s.items = []) :
    all.length ≤ s.places.length := by
  rw [← List.drop_eq_nil_iff, ← h.items]
  exact hitems

theorem collected_eq (h : Invariant work all s) (hd : s.Done) : s.collected = all.map work := by
  have hle := h.length_le hd.1
  refine h.collected.eq_of_length_le ?_
  rw [List.length_map, hd.2]
  exact hle

theorem done_or_step (h : Invariant work all s) (hw : 0 < workers) :
    s.Done ∨ ∃ s', Step work workers s s' := by
  cases hitems : s.items with
  | cons a rest => exact .inr ⟨_, .submit hitems⟩
  | nil =>
    by_cases hlength : s.collected.length = s.places.length
    · exact .inl ⟨hitems, hlength⟩
    · right
      have hle : s.collected.length ≤ all.length := by
        simpa using h.collected.length_le
      have hall := h.length_le hitems
      have hlt : s.collected.length < s.places.length := by omega
      cases hplace : s.places[s.collected.length] with
      | some b =>
        exact ⟨_, .collect hitems (by rw [List.getElem?_eq_getElem hlt, hplace])⟩
      | none =>
        -- The place that is collected next is empty, so its task waits or runs.
        obtain ⟨t, ht, -⟩ := h.pending _ (by rw [List.getElem?_eq_getElem hlt, hplace])
        rcases List.mem_append.mp ht with hq | hb
        · cases hbusy : s.busy with
          | nil =>
            obtain ⟨before, after, hsplit⟩ := List.append_of_mem hq
            exact ⟨_, .take hsplit (by rw [hbusy]; exact hw)⟩
          | cons u us =>
            have hsplit : s.busy = [] ++ u :: us := hbusy
            exact ⟨_, .finish hsplit⟩
        · obtain ⟨before, after, hsplit⟩ := List.append_of_mem hb
          exact ⟨_, .finish hsplit⟩

end Invariant

def left (s : Pool α β) : Nat :=
  4 * s.items.length + 2 * s.queue.length + s.busy.length + (s.places.length - s.collected.length)

theorem Step.left_lt (h : Step work workers s s') : s'.left < s.left := by
  cases h with
  | submit next =>
    simp only [left, next, List.length_append, List.length_cons, List.length_nil]
    omega
  | take waiting free =>
    simp only [left, waiting, List.length_append, List.length_cons]
    omega
  | finish running =>
    simp only [left, running, List.length_append, List.length_cons, List.length_set]
    omega
  | collect submitted ready =>
    have hlt := (List.getElem?_eq_some_iff.mp ready).1
    simp only [left, List.length_append, List.length_cons, List.length_nil]
    omega

theorem wellFounded_step (work : α → β) (workers : Nat) :
    WellFounded fun s' s : Pool α β => Step work workers s s' :=
  Subrelation.wf Step.left_lt (measure left).wf

theorem exists_done (h : Reaches work workers (start all) s) (hw : 0 < workers) :
    ∃ s', Reaches work workers s s' ∧ s'.Done := by
  induction s using (wellFounded_step work workers).induction with
  | _ s ih =>
    rcases h.invariant.done_or_step hw with hd | ⟨s', hs⟩
    · exact ⟨s, .refl, hd⟩
    · obtain ⟨s'', hr, hd⟩ := ih s' hs (h.tail hs)
      exact ⟨s'', .head hs hr, hd⟩

end Pool

/-! ## Passes with workers -/

namespace Pass

/-- The work on one draft of a pass, which reads the draft and what the pass shares. -/
def work (p : Pass) (candidates : Candidates) (x : Draft × Nat) : Outcome :=
  outcome (p.workshop candidates) x.2 x.1

/-- The pass hands its drafts to a pool. -/
def Pooled (p : Pass) (drafts : List Draft) : Prop := 1 < p.workers ∧ 1 < drafts.length

/-- A state of the pool to which the pass hands its drafts. -/
def PoolReaches (p : Pass) (candidates : Candidates) (drafts : List Draft)
    (s : Pool (Draft × Nat) Outcome) : Prop :=
  Pool.Reaches (p.work candidates) p.workers.toNat (Pool.start drafts.zipIdx) s

/-- What the pass can end with, by any doing of its workers. -/
inductive Ends (p : Pass) (drafts : List Draft) : Except Failure (List Outcome) → Prop
  | refused {f : Failure} (unnamed : candidates drafts = .error f) : Ends p drafts (.error f)
  | single {c : Candidates} (named : candidates drafts = .ok c) (alone : ¬ p.Pooled drafts) :
      Ends p drafts (.ok (drafts.zipIdx.map (p.work c)))
  | pooled {c : Candidates} {s : Pool (Draft × Nat) Outcome} (named : candidates drafts = .ok c)
      (shared : p.Pooled drafts) (reaches : p.PoolReaches c drafts s) (done : s.Done) :
      Ends p drafts (.ok s.collected)

variable {p : Pass} {drafts : List Draft}

theorem Pooled.toNat_pos (h : p.Pooled drafts) : 0 < p.workers.toNat := by
  have := h.1
  omega

theorem map_outcomes_run_of_ok {c : Candidates} (h : candidates drafts = .ok c) :
    (p.run drafts).map PassResult.outcomes = .ok (drafts.zipIdx.map (p.work c)) := by
  rw [run, h]
  rfl

theorem map_outcomes_run_of_error {f : Failure} (h : candidates drafts = .error f) :
    (p.run drafts).map PassResult.outcomes = .error f := by
  rw [run, h]
  rfl

/-- However its workers go about it, a pass ends, and with nothing but the outcomes of its run. -/
theorem ends_iff {e : Except Failure (List Outcome)} :
    p.Ends drafts e ↔ e = (p.run drafts).map PassResult.outcomes := by
  constructor
  · intro h
    cases h with
    | refused unnamed => rw [map_outcomes_run_of_error unnamed]
    | single named alone => rw [map_outcomes_run_of_ok named]
    | pooled named shared reaches done =>
      rw [map_outcomes_run_of_ok named, reaches.invariant.collected_eq done]
  · rintro rfl
    cases hc : candidates drafts with
    | error f =>
      rw [map_outcomes_run_of_error hc]
      exact .refused hc
    | ok c =>
      rw [map_outcomes_run_of_ok hc]
      by_cases hp : p.Pooled drafts
      · have hstart : p.PoolReaches c drafts (Pool.start drafts.zipIdx) := Relation.ReflTransGen.refl
        obtain ⟨s, hs, hd⟩ := Pool.exists_done hstart hp.toNat_pos
        rw [← hs.invariant.collected_eq hd]
        exact .pooled hc hp hs hd
      · exact .single hc hp

theorem map_outcomes_run_workers (n : Int) :
    ({ p with workers := n }.run drafts).map PassResult.outcomes =
      (p.run drafts).map PassResult.outcomes := by
  cases hc : candidates drafts with
  | error f => rw [map_outcomes_run_of_error hc, map_outcomes_run_of_error hc]
  | ok c =>
    rw [map_outcomes_run_of_ok hc, map_outcomes_run_of_ok hc]
    rfl

theorem map_index_outcomes {r : PassResult} (h : p.run drafts = .ok r) :
    r.outcomes.map Outcome.index = List.range drafts.length := by
  have hr : (p.run drafts).map PassResult.outcomes = .ok r.outcomes := by
    rw [h]
    rfl
  cases hc : candidates drafts with
  | error f =>
    rw [map_outcomes_run_of_error hc] at hr
    cases hr
  | ok c =>
    rw [map_outcomes_run_of_ok hc] at hr
    rw [← Except.ok.inj hr, List.map_map]
    exact (List.zipIdx_map_snd 0 drafts).trans (List.range_eq_range'.symm)

end Pass

/-- The workers of a pass cannot be told from its outcomes. A pass with any number of workers can
end, by whatever they take up and finish in whatever order, exactly with what one worker ends with.
On the way there the pool has collected a beginning of these outcomes, it is done or can go on, and
it cannot go on for ever. Every draft has one outcome, in its place. -/
theorem ends_iff_single_worker (p : Pass) (drafts : List Draft) :
    (∀ e, p.Ends drafts e ↔
      e = ({ p with workers := 1 }.run drafts).map PassResult.outcomes) ∧
    (∀ c s, p.Pooled drafts → p.PoolReaches c drafts s →
      s.collected <+: (p.generateAll c drafts).outcomes ∧
      (s.Done ∨ ∃ s', Pool.Step (p.work c) p.workers.toNat s s')) ∧
    (∀ c, WellFounded fun s' s => Pool.Step (p.work c) p.workers.toNat s s') ∧
    (∀ r, p.run drafts = .ok r → r.outcomes.map Outcome.index = List.range drafts.length) := by
  refine ⟨fun e => ?_, fun c s hp hs => ?_, fun c => Pool.wellFounded_step _ _,
    fun r hr => Pass.map_index_outcomes hr⟩
  · rw [Pass.map_outcomes_run_workers]
    exact Pass.ends_iff
  · have hinv := Pool.Reaches.invariant hs
    exact ⟨hinv.collected, hinv.done_or_step hp.toNat_pos⟩

end ShadowTypes
