import ShadowTypes.DocumentFile
import ShadowTypes.Proofs.Document.Shape
import ShadowTypes.Proofs.Outcomes

/-!
# The contents of document files

The bytes of a file spell a text, the text stands for a value, and the value holds descriptions. A
file that is loaded has one result for each of these, which is a model exactly if the description
parses as this model.
-/

namespace ShadowTypes

namespace Document

def Decodes (depths : Depths) (format : Format) (s : String) (v : Value) : Prop :=
  match format with
  | .json => Json.read s depths.json = .ok v
  | .yaml => Yaml.read s depths.yaml = .ok v

/-- A description in a document, and what it is read as. -/
structure Item where
  value : Value
  result : Except Fault Model

def Item.IsRight (e : Item) : Prop :=
  ∀ m, e.result = .ok m ↔ Description.modelForm.parse e.value = .ok m

variable {depths : Depths} {format : Format} {s name origin : String} {v : Value} {ms : Models}

theorem decode_of_decodes (h : Decodes depths format s v) :
    decode format name s origin depths = .ok (.ok v) := by
  cases format with
  | json | yaml =>
    change _ = _ at h
    simp only [decode, h]

theorem load_of_decodes (h : Decodes depths (.ofName name) s v) :
    load s name origin depths = receive v origin := by
  rw [load, decode_of_decodes h]
  rfl

theorem ofName_text (format : Format) : Format.ofName format.text = format := by
  cases format <;> rfl

theorem decodes_of_decode (h : decode format name s origin depths = .ok (.ok v)) :
    Decodes depths format s v := by
  cases format with
  | json =>
    rw [decode] at h
    dsimp only at h
    split at h
    · next hread =>
      cases h
      exact hread
    · split at h <;> cases h
  | yaml =>
    rw [decode] at h
    dsimp only at h
    split at h
    · next hread =>
      cases h
      exact hread
    · cases h
    · cases h

/-- The results of a value that is received are those of the descriptions that it holds. -/
theorem exists_of_receive_eq_ok (h : receive v origin = .ok (.ok ms)) :
    ∃ vs, (Holds v vs ∨ HoldsBlank v ∧ vs = []) ∧ ms = ofList vs origin := by
  have hkey : ¬HasEndlessKey v := by
    intro hkey
    rw [receive_of_hasEndlessKey hkey] at h
    cases h
  have hparse : parse v origin = .ok ms :=
    Except.ok.inj ((receive_of_not_hasEndlessKey hkey).symm.trans h)
  by_cases hblank : HoldsBlank v
  · rw [hblank.parse_eq] at hparse
    cases hparse
    exact ⟨[], .inr ⟨hblank, rfl⟩, rfl⟩
  · by_cases hholds : ∃ vs, Holds v vs
    · obtain ⟨vs, hvs⟩ := hholds
      rw [hvs.parse_eq] at hparse
      exact ⟨vs, .inl hvs, (Except.ok.inj hparse).symm⟩
    · obtain ⟨f, hf, -⟩ := exists_fault_of_not_holds hholds hblank
      rw [hf] at hparse
      cases hparse

theorem enterAt_eq_ok_iff {α : Type} {f : Description.Form α} {i : Nat} {a : α} :
    f.enterAt origin false i v = .ok a ↔ f.parse v = .ok a := by
  rw [Description.Form.enterAt, Description.Form.enter, Description.Form.parse]
  cases f.read false v <;> simp

theorem exists_items_of_ofList (vs : List Value) (origin : String) :
    ∃ items : List Item, items.map Item.value = vs ∧
      items.map Item.result = ofList vs origin ∧ ∀ e ∈ items, e.IsRight := by
  refine ⟨vs.zipIdx.map fun x => ⟨x.1, Description.modelForm.enterAt origin false x.2 x.1⟩, ?_, ?_,
    ?_⟩
  · rw [List.map_map]
    exact List.zipIdx_map_fst 0 vs
  · rw [List.map_map]
    rfl
  · rw [List.forall_mem_map]
    exact fun x _ m => enterAt_eq_ok_iff

end Document

namespace DocumentFile

open Document

/-- The bytes of a file spell a value, in the format that its suffix names. -/
def Spells (t : FileTree) (depths : Depths) (p : PathName) (v : Value) : Prop :=
  ∃ bytes format s, t.reach p = .ok (.file bytes) ∧ format? p.suffix = some format ∧
    FileTree.textOf bytes = .ok s ∧ Decodes depths format s v

/-- What a path name leads to: the items of the document that its bytes spell, or a fault if they
spell none. -/
inductive Yields (t : FileTree) (depths : Depths) (p : PathName) :
    Except Fault (List Item) → Prop
  | refused {f : Fault} {events : List Event} : load t p depths = .ok (.error f, events) →
      (∀ v vs, Spells t depths p v → ¬Holds v vs) → Yields t depths p (.error f)
  | loaded {v : Value} {items : List Item} {events : List Event} : Spells t depths p v →
      Holds v (items.map Item.value) ∨ HoldsBlank v ∧ items = [] → (∀ e ∈ items, e.IsRight) →
      load t p depths = .ok (.ok (items.map Item.result), events) → Yields t depths p (.ok items)

variable {t : FileTree} {depths : Depths} {p : PathName} {bytes : List UInt8} {events : List Event}
  {ms : Models} {r : Except Fault Models}

theorem reach_of_look {u : FileNode} (h : t.look p = .ok (some u)) : t.reach p = .ok u := by
  rw [FileTree.look] at h
  split at h
  · next hreach =>
    cases h
    exact hreach
  · cases h
  · cases h

theorem exists_of_read_eq_ok (h : read p bytes depths = .ok (.ok ms, events)) :
    ∃ format s v, format? p.suffix = some format ∧ FileTree.textOf bytes = .ok s ∧
      Decodes depths format s v ∧ receive v p.text = .ok (.ok ms) := by
  rw [read] at h
  split at h
  · cases h
  · next format hformat =>
    split at h
    · cases h
    · next s hs =>
      obtain ⟨r, hr, h⟩ := exists_of_bind_eq_ok h
      cases h
      obtain ⟨d, hd, hr⟩ := exists_of_bind_eq_ok hr
      cases d with
      | error f => cases hr
      | ok v =>
        rw [ofName_text] at hd
        exact ⟨format, s, v, hformat, hs, decodes_of_decode hd, hr⟩

theorem load_eq_read (h : t.reach p = .ok (.file bytes)) :
    load t p depths = read p bytes depths := by
  rw [load, FileTree.look, h]
  dsimp only [bind, Except.bind]

theorem read_of_receive {format : Format} {s : String} {v : Value}
    (hformat : format? p.suffix = some format) (hs : FileTree.textOf bytes = .ok s)
    (hv : Decodes depths format s v) (hr : receive v p.text = .ok r) :
    read p bytes depths = .ok (r, [event p r]) := by
  rw [← ofName_text format] at hv
  rw [read, hformat]
  dsimp only
  rw [hs]
  dsimp only
  rw [load_of_decodes hv, hr]
  rfl

theorem load_of_holds {v : Value} {vs : List Value} (h : Spells t depths p v) (hvs : Holds v vs) :
    ∃ events, load t p depths = .ok (.ok (ofList vs p.text), events) := by
  obtain ⟨bytes, format, s, hreach, hformat, hs, hv⟩ := h
  have hreceive : receive v p.text = .ok (.ok (ofList vs p.text)) :=
    (receive_of_not_hasEndlessKey hvs.not_hasEndlessKey).trans (congrArg Except.ok hvs.parse_eq)
  exact ⟨_, (load_eq_read hreach).trans (read_of_receive hformat hs hv hreceive)⟩

/-- A path name that is loaded yields a fault, or what its bytes hold. -/
theorem exists_yields_of_load (h : load t p depths = .ok (r, events)) :
    ∃ d, Yields t depths p d ∧ r = d.map (List.map Item.result) := by
  cases r with
  | error f =>
    refine ⟨.error f, .refused h fun v vs hv hvs => ?_, rfl⟩
    obtain ⟨events, hload⟩ := load_of_holds hv hvs
    rw [hload] at h
    cases h
  | ok ms =>
    obtain ⟨u, hu, hread⟩ := exists_of_bind_eq_ok h
    split at hread
    · next bytes =>
      obtain ⟨format, s, v, hformat, hs, hv, hreceive⟩ := exists_of_read_eq_ok hread
      obtain ⟨vs, hvs, rfl⟩ := exists_of_receive_eq_ok hreceive
      obtain ⟨items, hvalues, hresults, hright⟩ := exists_items_of_ofList vs p.text
      have hload : load t p depths = .ok (.ok (items.map Item.result), events) := by
        rw [hresults]
        exact h
      refine ⟨.ok items, .loaded ⟨bytes, format, s, reach_of_look hu, hformat, hs, hv⟩ ?_ hright
        hload, ?_⟩
      · rw [hvalues]
        refine hvs.imp_right fun ⟨hblank, hnil⟩ => ⟨hblank, ?_⟩
        rwa [hnil, List.map_eq_nil_iff] at hvalues
      · rw [← hresults]
        rfl
    · cases hread

end DocumentFile

end ShadowTypes
