import Mathlib.Data.List.Perm.Basic
import ShadowTypes.Proofs.Workers

/-!
# Pools that log

The tasks of a pool log while they run, into one log that all of them share. The log of a pool that
is done has what every item logs, each once, in an order that hangs on the workers.
-/

namespace ShadowTypes

namespace Pool

variable {α β ε : Type}

def tasks (s : Pool α β) : List (Task α) := s.queue ++ s.busy

/-- A pool at work on the items `all` and what its tasks have logged. What a task logs is there
before its result is in its place; the other steps leave all running tasks at work. -/
inductive Logged (work : α → β) (emit : α → List ε) (workers : Nat) (all : List α) :
    Pool α β → List ε → Prop
  | start : Logged work emit workers all (start all) []
  | quiet {s s' : Pool α β} {log : List ε} (logged : Logged work emit workers all s log)
      (step : Step work workers s s') (running : s.busy.length ≤ s'.busy.length) :
      Logged work emit workers all s' log
  | finish {s : Pool α β} {log : List ε} {t : Task α} {before after : List (Task α)}
      (logged : Logged work emit workers all s log) (running : s.busy = before ++ t :: after) :
      Logged work emit workers all { s with
        busy := before ++ after, places := s.places.set t.place (some (work t.item)) }
        (log ++ emit t.item)

variable {work : α → β} {emit : α → List ε} {workers : Nat} {all : List α} {s s' : Pool α β}
  {log : List ε}

theorem Logged.reaches (h : Logged work emit workers all s log) :
    Reaches work workers (Pool.start all) s := by
  induction h with
  | start => exact .refl
  | quiet _ step _ ih => exact ih.tail step
  | finish _ running ih => exact ih.tail (.finish running)

theorem Reaches.exists_logged (emit : α → List ε) (h : Reaches work workers (Pool.start all) s) :
    ∃ log, Logged work emit workers all s log := by
  induction h with
  | refl => exact ⟨[], .start⟩
  | tail _ hs ih =>
    obtain ⟨log, hlog⟩ := ih
    cases hs with
    | submit next => exact ⟨log, hlog.quiet (.submit next) (Nat.le_refl _)⟩
    | take waiting free => exact ⟨log, hlog.quiet (.take waiting free) (Nat.le_succ _)⟩
    | finish running => exact ⟨_, hlog.finish running⟩
    | collect submitted ready => exact ⟨log, hlog.quiet (.collect submitted ready) (Nat.le_refl _)⟩

/-! ## What is in the log and what is still to come -/

/-- What holds of the log of a pool that was given the items `all`. What is still to be logged
belongs to the tasks, whose places are empty, and to the items that are not submitted yet. -/
structure LogInvariant (emit : α → List ε) (all : List α) (s : Pool α β) (log : List ε) :
    Prop where
  empty : ∀ t ∈ s.tasks, s.places[t.place]? = some none
  distinct : (s.tasks.map Task.place).Nodup
  filled : ∀ i < s.collected.length, ∃ b, s.places[i]? = some (some b)
  logged : (log ++ (s.tasks.flatMap (fun t => emit t.item) ++ s.items.flatMap emit)).Perm
    (all.flatMap emit)

theorem logInvariant_start (emit : α → List ε) (all : List α) :
    LogInvariant emit all (Pool.start all : Pool α β) [] where
  empty := nofun
  distinct := List.nodup_nil
  filled := nofun
  logged := .refl _

namespace LogInvariant

theorem submit {a : α} {rest : List α} (h : LogInvariant emit all s log)
    (next : s.items = a :: rest) :
    LogInvariant emit all { s with
      items := rest, queue := s.queue ++ [⟨s.places.length, a⟩], places := s.places ++ [none] }
      log := by
  have hperm : (s.queue ++ [(⟨s.places.length, a⟩ : Task α)] ++ s.busy).Perm
      (⟨s.places.length, a⟩ :: s.tasks) := by
    rw [List.append_assoc]
    exact List.perm_middle
  have hlt : ∀ t ∈ s.tasks, t.place < s.places.length := fun t ht =>
    (List.getElem?_eq_some_iff.mp (h.empty t ht)).1
  constructor
  · intro t ht
    change (s.places ++ [none])[t.place]? = some none
    rcases List.mem_cons.mp (hperm.mem_iff.mp ht) with rfl | ht
    · exact List.getElem?_concat_length
    · rw [List.getElem?_append_left (hlt t ht)]
      exact h.empty t ht
  · refine (hperm.map Task.place).nodup_iff.mpr (List.nodup_cons.mpr ⟨?_, h.distinct⟩)
    intro hmem
    obtain ⟨t, ht, hplace⟩ := List.mem_map.mp hmem
    exact absurd hplace (Nat.ne_of_lt (hlt t ht))
  · intro i hi
    obtain ⟨b, hb⟩ := h.filled i hi
    refine ⟨b, ?_⟩
    change (s.places ++ [none])[i]? = some (some b)
    rw [List.getElem?_append_left (List.getElem?_eq_some_iff.mp hb).1]
    exact hb
  · refine (List.Perm.append_left log ?_).trans h.logged
    rw [next, List.flatMap_cons, ← List.append_assoc]
    refine List.Perm.append_right _ ((hperm.flatMap_right _).trans ?_)
    rw [List.flatMap_cons]
    exact List.perm_append_comm

theorem take {t : Task α} {before after : List (Task α)} (h : LogInvariant emit all s log)
    (waiting : s.queue = before ++ t :: after) :
    LogInvariant emit all { s with queue := before ++ after, busy := t :: s.busy } log := by
  have hperm : ((before ++ after) ++ t :: s.busy).Perm s.tasks := by
    refine List.perm_middle.trans ?_
    rw [tasks, waiting, List.append_assoc, List.append_assoc, List.cons_append]
    exact List.perm_middle.symm
  constructor
  · intro u hu
    exact h.empty u (hperm.mem_iff.mp hu)
  · exact (hperm.map Task.place).nodup_iff.mpr h.distinct
  · exact h.filled
  · exact (((hperm.flatMap_right _).append_right _).append_left log).trans h.logged

theorem finish {t : Task α} {before after : List (Task α)} (h : LogInvariant emit all s log)
    (running : s.busy = before ++ t :: after) (b : β) :
    LogInvariant emit all { s with
      busy := before ++ after, places := s.places.set t.place (some b) } (log ++ emit t.item) := by
  have hperm : s.tasks.Perm (t :: (s.queue ++ (before ++ after))) := by
    rw [tasks, running, ← List.append_assoc, ← List.append_assoc]
    exact List.perm_middle
  obtain ⟨hnew, hdistinct⟩ := List.nodup_cons.mp ((hperm.map Task.place).nodup_iff.mp h.distinct)
  constructor
  · intro u hu
    change (s.places.set t.place (some b))[u.place]? = some none
    have hne : t.place ≠ u.place := fun heq => hnew (heq ▸ List.mem_map_of_mem hu)
    rw [List.getElem?_set_ne hne]
    exact h.empty u (hperm.mem_iff.mpr (List.mem_cons_of_mem t hu))
  · exact hdistinct
  · intro i hi
    change ∃ b', (s.places.set t.place (some b))[i]? = some (some b')
    obtain ⟨b', hb'⟩ := h.filled i hi
    by_cases hplace : t.place = i
    · refine ⟨b, ?_⟩
      rw [hplace, List.getElem?_set_self (List.getElem?_eq_some_iff.mp hb').1]
    · exact ⟨b', by rw [List.getElem?_set_ne hplace, hb']⟩
  · refine List.Perm.trans ?_ h.logged
    rw [List.append_assoc, ← List.append_assoc (emit t.item)]
    refine List.Perm.append_left log (List.Perm.append_right _ ?_)
    exact (hperm.flatMap_right fun u => emit u.item).symm

theorem collect {b : β} (h : LogInvariant emit all s log)
    (ready : s.places[s.collected.length]? = some (some b)) :
    LogInvariant emit all { s with collected := s.collected ++ [b] } log where
  empty := h.empty
  distinct := h.distinct
  filled := by
    intro i hi
    rw [List.length_append, List.length_singleton, Nat.lt_succ_iff_lt_or_eq] at hi
    rcases hi with hi | rfl
    · exact h.filled i hi
    · exact ⟨b, ready⟩
  logged := h.logged

theorem step (h : LogInvariant emit all s log) (hs : Step work workers s s')
    (running : s.busy.length ≤ s'.busy.length) : LogInvariant emit all s' log := by
  cases hs with
  | submit next => exact h.submit next
  | take waiting free => exact h.take waiting
  | finish ended =>
    -- a task that ends would leave fewer tasks at work
    simp only [ended, List.length_append, List.length_cons] at running
    omega
  | collect submitted ready => exact h.collect ready

end LogInvariant

theorem Logged.invariant (h : Logged work emit workers all s log) :
    LogInvariant emit all s log := by
  induction h with
  | start => exact logInvariant_start emit all
  | quiet _ step running ih => exact ih.step step running
  | finish _ running ih => exact ih.finish running _

theorem LogInvariant.tasks_eq_nil (h : LogInvariant emit all s log) (hd : s.Done) :
    s.tasks = [] := by
  refine List.eq_nil_iff_forall_not_mem.mpr fun t ht => ?_
  have hempty := h.empty t ht
  obtain ⟨b, hb⟩ := h.filled t.place (hd.2 ▸ (List.getElem?_eq_some_iff.mp hempty).1)
  rw [hempty] at hb
  cases hb

theorem Logged.perm (h : Logged work emit workers all s log) (hd : s.Done) :
    log.Perm (all.flatMap emit) := by
  have hlogged := h.invariant.logged
  rw [h.invariant.tasks_eq_nil hd, hd.1, List.flatMap_nil, List.flatMap_nil, List.append_nil,
    List.append_nil] at hlogged
  exact hlogged

end Pool

end ShadowTypes
