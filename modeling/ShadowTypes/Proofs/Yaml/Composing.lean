import ShadowTypes.Proofs.Yaml.Scanning
import ShadowTypes.Yaml.Outline

/-!
# What stops the reading of YAML nodes

Nodes are read off the tokens until the tokens end, with the reason for which scanning ended, or
until too many collections are open.
-/

namespace ShadowTypes.Yaml

/-! ## Steps with a state -/

/-- A step that begins in a state with the invariant ends in one, or stops for one of the known
reasons. -/
structure Safe {σ α : Type} (known : Failure → Prop) (I : σ → Prop)
    (m : StateT σ (Except Stop) α) : Prop where
  sound : ∀ s, I s → Sound known (m.run s)
  keeps : ∀ s, I s → ∀ a s', m.run s = .ok (a, s') → I s'

section Safe

variable {σ α β : Type} {known : Failure → Prop} {I : σ → Prop} {m : StateT σ (Except Stop) α}
  {f : α → StateT σ (Except Stop) β}

theorem safe_pure (a : α) : Safe known I (pure a : StateT σ (Except Stop) α) where
  sound _ _ := sound_ok _
  keeps s hs _ _ h := by
    cases h
    exact hs

theorem safe_get : Safe known I (get : StateT σ (Except Stop) σ) where
  sound _ _ := sound_ok _
  keeps s hs _ _ h := by
    cases h
    exact hs

theorem safe_modify {g : σ → σ} (hg : ∀ s, I s → I (g s)) :
    Safe known I (modify g : StateT σ (Except Stop) PUnit) where
  sound _ _ := sound_ok _
  keeps s hs _ _ h := by
    cases h
    exact hg s hs

theorem safe_throw {e : Stop} (he : ∀ x, e = .failure x → known x) :
    Safe known I (throw e : StateT σ (Except Stop) α) where
  sound _ _ := ⟨fun x h => by cases h; exact he x rfl⟩
  keeps _ _ _ _ h := by cases h

theorem safe_malformed : Safe known I (throw .malformed : StateT σ (Except Stop) α) :=
  safe_throw fun _ h => by cases h

theorem Safe.bind_of {Q : α → Prop} (hm : Safe known I m)
    (hQ : ∀ s, I s → ∀ a s', m.run s = .ok (a, s') → Q a)
    (hf : ∀ a, Q a → Safe known I (f a)) : Safe known I (m >>= f) where
  sound s hs := by
    refine ⟨fun x h => ?_⟩
    change (m.run s >>= fun r => (f r.1).run r.2) = _ at h
    cases hrun : m.run s with
    | error e =>
      rw [hrun] at h
      cases h
      exact (hm.sound s hs).raised x hrun
    | ok r =>
      rw [hrun] at h
      exact ((hf r.1 (hQ s hs _ _ hrun)).sound r.2 (hm.keeps s hs _ _ hrun)).raised x h
  keeps s hs b s' h := by
    change (m.run s >>= fun r => (f r.1).run r.2) = _ at h
    cases hrun : m.run s with
    | error e =>
      rw [hrun] at h
      cases h
    | ok r =>
      rw [hrun] at h
      exact (hf r.1 (hQ s hs _ _ hrun)).keeps r.2 (hm.keeps s hs _ _ hrun) _ _ h

theorem Safe.bind (hm : Safe known I m) (hf : ∀ a, Safe known I (f a)) :
    Safe known I (m >>= f) :=
  hm.bind_of (fun _ _ _ _ _ => trivial) fun a _ => hf a

theorem Safe.ite {c : Prop} [Decidable c] {n : StateT σ (Except Stop) α} (hm : Safe known I m)
    (hn : Safe known I n) : Safe known I (if c then m else n) := by
  split
  · exact hm
  · exact hn

theorem Safe.unless {c : Prop} [Decidable c] {rest : PUnit → StateT σ (Except Stop) α}
    (h : Safe known I (rest ⟨⟩)) : Safe known I
      (if c then (throw .malformed : StateT σ (Except Stop) PUnit) >>= rest else rest ⟨⟩) :=
  .ite (safe_malformed.bind fun _ => h) h

end Safe

namespace Node

/-- The tokens end because the text does, because it is malformed or because reading it breaks
down. -/
def State.Ends (s : State) : Prop := ∀ x, s.stop = some (.failure x) → Breakdown x

/-- A step that reads nodes stops for a known reason. -/
abbrev Reads {α : Type} (m : Composer α) : Prop := Safe Breakdown State.Ends m

theorem run_peek (s : State) : peek.run s =
    (match s.tokens, s.stop with
      | t :: _, _ => (pure (some t) : Composer _)
      | [], none => pure none
      | [], some e => throw e).run s := rfl

theorem reads_peek : Reads peek where
  sound s hs := by
    refine ⟨fun x h => ?_⟩
    rw [run_peek] at h
    split at h
    · cases h
    · cases h
    · next hstop =>
      cases h
      exact hs x hstop
  keeps s hs a s' h := by
    rw [run_peek] at h
    split at h
    · cases h
      exact hs
    · cases h
      exact hs
    · cases h

/-- A change that leaves the end of the tokens alone, and what comes after it. -/
theorem reads_modify_bind {α : Type} {g : State → State} {f : PUnit → Composer α}
    (hf : ∀ a, Reads (f a)) (hg : ∀ s, (g s).stop = s.stop) : Reads (modify g >>= f) :=
  Safe.bind (safe_modify fun s hs x hx => hs x (hg s ▸ hx)) hf

theorem reads_drop : Reads drop := safe_modify fun _ hs => hs

theorem reads_accept (t : Token) : Reads (accept t) :=
  reads_peek.bind fun _ => .ite (reads_drop.bind fun _ => safe_pure _) (safe_pure _)

theorem reads_isNext (ts : List Token) : Reads (isNext ts) := by
  refine reads_peek.bind fun t => ?_
  split
  · exact safe_pure _
  · exact safe_pure _

theorem reads_tag? : Reads tag? := by
  refine reads_peek.bind fun t => ?_
  split
  · exact reads_drop.bind fun _ => safe_pure _
  · exact safe_pure _

theorem reads_anchor? : Reads anchor? := by
  refine reads_peek.bind fun t => ?_
  split
  · exact reads_drop.bind fun _ => safe_pure _
  · exact safe_pure _

theorem reads_refuse {α : Type} : Reads (refuse : Composer α) := safe_malformed

theorem reads_address (tag : Option String × String) : Reads (address tag) := by
  unfold address
  split
  · exact safe_pure _
  · refine safe_get.bind fun s => ?_
    split
    · exact safe_pure _
    · exact reads_refuse

theorem reads_mapM_address (tag : Option (Option String × String)) :
    Reads (tag.mapM address) := by
  cases tag with
  | none => exact safe_pure none
  | some t => exact (reads_address t).bind fun _ => safe_pure _

theorem reads_properties : Reads properties := by
  have hrest (anchor : Option String) (tag : Option (Option String × String)) :
      Reads (do return (anchor, ← tag.mapM address)) :=
    (reads_mapM_address tag).bind fun _ => safe_pure _
  refine reads_anchor?.bind fun before => reads_tag?.bind fun tag => ?_
  exact .ite (reads_anchor?.bind fun _ => hrest ..) (hrest ..)

theorem reads_add (anchor : Option String) (node : Node) : Reads (add anchor node) := by
  refine safe_get.bind fun s => ?_
  exact reads_modify_bind (fun _ => safe_pure _) fun _ => rfl

theorem reads_absent : Reads absent := reads_add ..

theorem reads_inside {α : Type} {parts : Composer α} (h : Reads parts) : Reads (inside parts) := by
  have hnesting : ∀ x, Stop.failure ⟨"RecursionError", "maximum recursion depth exceeded"⟩ =
      .failure x → Breakdown x := by
    rintro x ⟨⟩
    exact .nesting
  have hrest : Reads (do
      modify fun s => { s with depth := s.depth + 1 }
      let found ← parts
      modify fun s => { s with depth := s.depth - 1 }
      return found) :=
    reads_modify_bind (fun _ => h.bind fun _ => reads_modify_bind (fun _ => safe_pure _)
      fun _ => rfl) fun _ => rfl
  refine safe_get.bind fun s => ?_
  exact .ite ((safe_throw hnesting).bind fun _ => hrest) hrest

theorem reads_collection {α : Type} {anchor : Option String} {whole : List α → Node}
    {parts : Composer (List α)} (h : Reads parts) : Reads (collection anchor whole parts) :=
  (reads_add ..).bind fun _ => (reads_inside h).bind fun _ =>
    reads_modify_bind (fun _ => safe_pure _) fun _ => rfl

theorem reads_bare (anchor address : Option String) : Reads (bare anchor address) :=
  .ite reads_refuse (reads_add ..)

/-! ## Nodes -/

/-- The readers of nodes call each other with less fuel, so one induction on the fuel tells of all
of them. -/
structure ReadAll (fuel : Nat) : Prop where
  compose (block indentless : Bool) : Reads (compose block indentless fuel)
  composeUnless (ends : List Token) (block indentless : Bool) :
    Reads (composeUnless ends block indentless fuel)
  blockItems : Reads (blockItems fuel)
  indentlessItems : Reads (indentlessItems fuel)
  blockEntries : Reads (blockEntries fuel)
  flowItems (first : Bool) : Reads (flowItems first fuel)
  flowPair : Reads (flowPair fuel)
  flowEntries (first : Bool) : Reads (flowEntries first fuel)

theorem readAll_zero : ReadAll 0 where
  compose _ _ := reads_refuse
  composeUnless _ _ _ := reads_refuse
  blockItems := reads_refuse
  indentlessItems := reads_refuse
  blockEntries := reads_refuse
  flowItems _ := reads_refuse
  flowPair := reads_refuse
  flowEntries _ := reads_refuse

section ReadAll

variable {fuel : Nat} (h : ReadAll fuel)
include h

/-- What follows the properties of a node, after its anchor is found to be new. -/
theorem ReadAll.reads_content (block indentless : Bool) (anchor : Option String)
    (address : Option String) : Reads (do
      let sequence := Node.sequence (tagOr .sequence address)
      let mapping := Node.mapping (tagOr .mapping address)
      match ← peek with
      | some (.scalar text plain) =>
        drop
        add anchor (.scalar (scalarTag address plain text) text)
      | some .flowSequenceStart =>
        drop
        collection anchor sequence (Node.flowItems true fuel)
      | some .flowMappingStart =>
        drop
        collection anchor mapping (Node.flowEntries true fuel)
      | some .blockSequenceStart =>
        if block then
          drop
          collection anchor sequence (Node.blockItems fuel)
        else bare anchor address
      | some .blockMappingStart =>
        if block then
          drop
          collection anchor mapping (Node.blockEntries fuel)
        else bare anchor address
      | some .blockEntry =>
        if indentless then collection anchor sequence (Node.indentlessItems fuel)
        else bare anchor address
      | _ => bare anchor address) := by
  refine reads_peek.bind fun t => ?_
  split
  · exact reads_drop.bind fun _ => reads_add ..
  · exact reads_drop.bind fun _ => reads_collection (h.flowItems true)
  · exact reads_drop.bind fun _ => reads_collection (h.flowEntries true)
  · exact .ite (reads_drop.bind fun _ => reads_collection h.blockItems) (reads_bare ..)
  · exact .ite (reads_drop.bind fun _ => reads_collection h.blockEntries) (reads_bare ..)
  · exact .ite (reads_collection h.indentlessItems) (reads_bare ..)
  · exact reads_bare ..

theorem ReadAll.compose_succ (block indentless : Bool) :
    Reads (Node.compose block indentless (fuel + 1)) := by
  unfold Node.compose
  refine reads_peek.bind fun t => ?_
  split
  · refine reads_drop.bind fun _ => safe_get.bind fun s => ?_
    split
    · exact safe_pure _
    · exact reads_refuse
  · refine reads_properties.bind fun (anchor, address) => ?_
    have hcontent := h.reads_content block indentless anchor address
    dsimp only
    split
    · exact safe_get.bind fun _ => .unless hcontent
    · exact hcontent

theorem ReadAll.composeUnless_succ (ends : List Token) (block indentless : Bool) :
    Reads (Node.composeUnless ends block indentless (fuel + 1)) :=
  (reads_isNext _).bind fun _ => .ite reads_absent (h.compose ..)

theorem ReadAll.blockItems_succ : Reads (Node.blockItems (fuel + 1)) :=
  (reads_accept _).bind fun _ => .ite
    ((h.composeUnless ..).bind fun _ => h.blockItems.bind fun _ => safe_pure _)
    ((reads_accept _).bind fun _ => .ite (safe_pure _) reads_refuse)

theorem ReadAll.indentlessItems_succ : Reads (Node.indentlessItems (fuel + 1)) :=
  (reads_accept _).bind fun _ => .ite
    ((h.composeUnless ..).bind fun _ => h.indentlessItems.bind fun _ => safe_pure _)
    (safe_pure _)

theorem ReadAll.blockEntries_succ : Reads (Node.blockEntries (fuel + 1)) := by
  have hmore (k v : Nat) : Reads (do return (k, v) :: (← Node.blockEntries fuel)) :=
    h.blockEntries.bind fun _ => safe_pure _
  unfold Node.blockEntries
  refine (reads_accept _).bind fun _ => .ite ?_
    ((reads_accept _).bind fun _ => .ite (safe_pure _) reads_refuse)
  refine (h.composeUnless ..).bind fun k => (reads_accept _).bind fun _ => ?_
  exact .ite ((h.composeUnless ..).bind (hmore k)) (reads_absent.bind (hmore k))

theorem ReadAll.flowPair_succ : Reads (Node.flowPair (fuel + 1)) := by
  unfold Node.flowPair
  refine (h.composeUnless ..).bind fun k => (reads_accept _).bind fun _ => ?_
  exact .ite ((h.composeUnless ..).bind fun _ => safe_pure _)
    (reads_absent.bind fun _ => safe_pure _)

theorem ReadAll.flowItems_succ (first : Bool) : Reads (Node.flowItems first (fuel + 1)) := by
  have hmore (n : Nat) : Reads (do return n :: (← Node.flowItems false fuel)) :=
    (h.flowItems false).bind fun _ => safe_pure _
  have hitem : Reads (do
      if ← accept .key then
        let n ← collection none (.mapping .mapping) (Node.flowPair fuel)
        return n :: (← Node.flowItems false fuel)
      else if ← accept .flowSequenceEnd then return []
      else
        let n ← Node.compose false false fuel
        return n :: (← Node.flowItems false fuel)) :=
    (reads_accept _).bind fun _ => .ite ((reads_collection h.flowPair).bind hmore)
      ((reads_accept _).bind fun _ => .ite (safe_pure _) ((h.compose ..).bind hmore))
  unfold Node.flowItems
  refine (reads_accept _).bind fun _ => .ite (safe_pure _) ?_
  exact .ite ((reads_accept _).bind fun _ => .unless hitem) hitem

theorem ReadAll.flowEntries_succ (first : Bool) : Reads (Node.flowEntries first (fuel + 1)) := by
  have hmore (k v : Nat) : Reads (do return (k, v) :: (← Node.flowEntries false fuel)) :=
    (h.flowEntries false).bind fun _ => safe_pure _
  have hentry : Reads (do
      if ← accept .key then
        let k ← Node.composeUnless [.value, .flowEntry, .flowMappingEnd] false false fuel
        let v ← if ← accept .value then
            Node.composeUnless [.flowEntry, .flowMappingEnd] false false fuel
          else absent
        return (k, v) :: (← Node.flowEntries false fuel)
      else if ← accept .flowMappingEnd then return []
      else
        let k ← Node.compose false false fuel
        let v ← absent
        return (k, v) :: (← Node.flowEntries false fuel)) := by
    refine (reads_accept _).bind fun _ => .ite ?_ ?_
    · refine (h.composeUnless ..).bind fun k => (reads_accept _).bind fun _ => ?_
      exact .ite ((h.composeUnless ..).bind (hmore k)) (reads_absent.bind (hmore k))
    · exact (reads_accept _).bind fun _ => .ite (safe_pure _)
        ((h.compose ..).bind fun k => reads_absent.bind (hmore k))
  unfold Node.flowEntries
  refine (reads_accept _).bind fun _ => .ite (safe_pure _) ?_
  exact .ite ((reads_accept _).bind fun _ => .unless hentry) hentry

end ReadAll

theorem readAll (fuel : Nat) : ReadAll fuel := by
  induction fuel with
  | zero => exact readAll_zero
  | succ fuel ih =>
    exact ⟨ih.compose_succ, ih.composeUnless_succ, ih.blockItems_succ, ih.indentlessItems_succ,
      ih.blockEntries_succ, ih.flowItems_succ, ih.flowPair_succ, ih.flowEntries_succ⟩

/-! ## Documents -/

end Node

end ShadowTypes.Yaml
