import Mathlib.Data.List.Induction
import ShadowTypes.Fault.Basic

/-!
# Updates of a fault

A fault may be updated any number of times, in its context or in its details. What it is about stays
through all updates, and so does the time. A part of the context is what the last update that gives
this part says, be it nothing, and the details are united, a later item taking the place of an
earlier one. The faults before an update are as they were after it.
-/

namespace ShadowTypes

namespace Keyed

variable {α : Type}

/-- The item that a key is given last. -/
def last? (d : Keyed α) (k : String) : Option α := Keyed.get? d.reverse k

theorem last?_cons (e : String × α) (d : Keyed α) (k : String) :
    last? (e :: d) k = (last? d k).or (if e.1 = k then some e.2 else none) := by
  have hsingle : Keyed.get? [e] k = if e.1 = k then some e.2 else none := by
    by_cases h : e.1 = k <;> simp [get?, h]
  rw [← hsingle, last?, List.reverse_cons]
  simp only [last?, get?, List.find?_append, Option.map_or]

theorem last?_append (d e : Keyed α) (k : String) :
    last? (d ++ e) k = (last? e k).or (last? d k) := by
  simp only [last?, get?, List.reverse_append, List.find?_append, Option.map_or]

/-- Items of the second list go before those of the first one. -/
theorem get?_merge (d more : Keyed α) (k : String) :
    (d.merge more).get? k = (more.last? k).or (d.get? k) := by
  induction more generalizing d with
  | nil => rfl
  | cons e more ih =>
    rw [merge_cons, ih, get?_set, last?_cons, Option.or_assoc]
    congr 1
    split <;> rfl

/-- No key is lost, and new keys follow in the order in which they first appear. -/
theorem keys_merge (d more : Keyed α) :
    (d.merge more).keys = d.keys ++ (more.keys.filter (· ∉ d.keys)).eraseDups := by
  induction more generalizing d with
  | nil => simp [keys]
  | cons e more ih =>
    rw [merge_cons, ih, keys_set]
    have hkeys : keys (e :: more) = e.1 :: keys more := rfl
    rw [hkeys]
    by_cases he : e.1 ∈ d.keys
    · simp [he]
    · have hfilter : (keys more).filter (· ∉ d.keys ++ [e.1]) =
          ((keys more).filter (· ∉ d.keys)).filter (!· == e.1) := by
        rw [List.filter_filter]
        refine List.filter_congr fun x _ => ?_
        by_cases hx : x = e.1 <;> simp [hx]
      simp only [he, if_false, hfilter, List.filter_cons, not_false_eq_true, decide_true, if_true,
        List.eraseDups_cons, List.append_assoc, List.singleton_append]

end Keyed

/-- A call that updates a fault. -/
inductive Update
  | context (u : ContextUpdate)
  | details (d : Details)

namespace Update

def added : Update → Details
  | .context u => u.details
  | .details d => d

/-- What an update gives for a part of the context, if it gives the part. -/
def given? (part : ContextUpdate → Option (Option String)) : Update → Option (Option String)
  | .context u => part u
  | .details _ => none

/-- What the last of the updates that give a part of the context gives for it. -/
def lastGiven? (part : ContextUpdate → Option (Option String)) (us : List Update) :
    Option (Option String) :=
  us.reverse.findSome? (given? part)

theorem lastGiven?_concat (part : ContextUpdate → Option (Option String)) (us : List Update)
    (u : Update) : lastGiven? part (us ++ [u]) = (u.given? part).or (lastGiven? part us) := by
  rw [lastGiven?, List.reverse_concat, List.findSome?_cons]
  cases u.given? part <;> rfl

end Update

namespace Fault

def update (f : Fault) : Update → Fault
  | .context u => f.withContext u
  | .details d => f.withDetails d

def updates (f : Fault) (us : List Update) : Fault := us.foldl update f

def chain (f : Fault) : List Update → List Fault
  | [] => [f]
  | u :: us => f :: (f.update u).chain us

/-- What updates make of a fault. -/
structure Updated (f : Fault) (us : List Update) (g : Fault) : Prop where
  code : g.code = f.code
  message : g.message = f.message
  cause : g.cause = f.cause
  time : g.context.time = f.context.time
  correlation : g.context.correlation =
    (Update.lastGiven? ContextUpdate.correlation us).getD f.context.correlation
  origin : g.context.origin = (Update.lastGiven? ContextUpdate.origin us).getD f.context.origin
  model : g.context.model = (Update.lastGiven? ContextUpdate.model us).getD f.context.model
  /-- A key has the item that an update gave it last, or else the item that it had. -/
  item : ∀ k, g.details.get? k = (Keyed.last? (us.flatMap Update.added) k).or (f.details.get? k)
  keys : g.details.keys = f.details.keys ++
    ((Keyed.keys (us.flatMap Update.added)).filter (· ∉ f.details.keys)).eraseDups

section

variable (f : Fault) (us : List Update) (u : Update)

theorem updates_concat : f.updates (us ++ [u]) = (f.updates us).update u :=
  List.foldl_append

theorem context_update : (f.update u).context =
    { f.context with
      correlation := (u.given? ContextUpdate.correlation).getD f.context.correlation
      origin := (u.given? ContextUpdate.origin).getD f.context.origin
      model := (u.given? ContextUpdate.model).getD f.context.model } := by
  cases u <;> rfl

theorem details_update : (f.update u).details = f.details.merge u.added := by
  cases u <;> rfl

end

theorem Updated.concat {f g : Fault} {us : List Update} (h : Updated f us g) (u : Update) :
    Updated f (us ++ [u]) (g.update u) where
  code := by cases u <;> exact h.code
  message := by cases u <;> exact h.message
  cause := by cases u <;> exact h.cause
  time := by cases u <;> exact h.time
  correlation := by rw [context_update, Update.lastGiven?_concat, Option.getD_or, ← h.correlation]
  origin := by rw [context_update, Update.lastGiven?_concat, Option.getD_or, ← h.origin]
  model := by rw [context_update, Update.lastGiven?_concat, Option.getD_or, ← h.model]
  item k := by
    rw [details_update, Keyed.get?_merge, h.item, List.flatMap_append, List.flatMap_singleton,
      Keyed.last?_append, Option.or_assoc]
  keys := by
    have hnew : u.added.keys.filter (· ∉ g.details.keys) =
        (u.added.keys.filter (· ∉ f.details.keys)).removeAll
          ((Keyed.keys (us.flatMap Update.added)).filter (· ∉ f.details.keys)) := by
      rw [List.removeAll, List.filter_filter, h.keys]
      refine List.filter_congr fun k _ => ?_
      by_cases hk : k ∈ f.details.keys <;> simp [hk]
    rw [details_update, Keyed.keys_merge, hnew, h.keys, List.flatMap_append, List.flatMap_singleton,
      List.append_assoc, ← List.eraseDups_append, ← List.filter_append]
    exact congrArg _ (congrArg List.eraseDups (congrArg _ (List.map_append ..).symm))

theorem updated_updates (f : Fault) (us : List Update) : Updated f us (f.updates us) := by
  induction us using List.reverseRecOn with
  | nil =>
    refine ⟨rfl, rfl, rfl, rfl, rfl, rfl, rfl, fun k => rfl, ?_⟩
    simp [updates, Keyed.keys]
  | append_singleton us u ih =>
    rw [updates_concat]
    exact ih.concat u

theorem getElem?_chain (f : Fault) (us vs : List Update) :
    (f.chain (us ++ vs))[us.length]? = some (f.updates us) := by
  induction us generalizing f with
  | nil => cases vs <;> rfl
  | cons u us ih => exact ih (f.update u)

/-- After any calls that update a fault, code, message, cause and time are those of the fault, every
part of its context is what the last call that gave the part gave for it, and its details are united
with those that were added, a later item of a key in the place of an earlier one and no key lost.
Whatever calls follow, the fault stands unchanged in its place of the chain. -/
theorem chain_updated (f : Fault) (us : List Update) :
    (f.chain us).length = us.length + 1 ∧
      ∃ g, Updated f us g ∧ ∀ vs, (f.chain (us ++ vs))[us.length]? = some g := by
  refine ⟨?_, f.updates us, f.updated_updates us, f.getElem?_chain us⟩
  induction us generalizing f with
  | nil => rfl
  | cons u us ih => exact congrArg (· + 1) (ih (f.update u))

example (f : Fault) : (f.updates [.context { origin := some (some "ingress") },
    .details [("line", .int 3)], .context { origin := some none }]).context.origin = none := rfl

end Fault

end ShadowTypes
