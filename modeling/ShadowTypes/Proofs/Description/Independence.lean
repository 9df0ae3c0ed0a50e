import ShadowTypes.Description.Entry

/-!
# Independence of entries

The entries of a list are parsed one by one, and parsing an entry may raise anything: a rejection, a
fault, or a failure from outside. Whatever it is becomes the fault of this entry alone, which tells
the position of the entry. Other entries bear on that position and on nothing else.
-/

namespace ShadowTypes

namespace Keyed

variable {α : Type}

theorem set_set (d : Keyed α) (k : String) (v w : α) : (d.set k v).set k w = d.set k w := by
  induction d with
  | nil => simp [set]
  | cons e d ih =>
    by_cases h : e.1 = k
    · simp [set, h]
    · simp [set, h, ih]

end Keyed

/-- The detail that holds the position of an entry. -/
def Fault.positionKey : String := "batch_index"

namespace Description

/-- How values are parsed, whatever that may raise. -/
structure Parser (α : Type) where
  name : String
  parse : Value → Except Raised α

def Form.parser {α : Type} (f : Form α) (strict : Bool) : Parser α := ⟨f.name, (f.parse · strict)⟩

/-- The fault that stands for what ended the parsing of a value that enters from an origin; `model`
is the qualified name that the value seems to have. -/
def entryFault (schema origin : String) (model : Option String) : Raised → Fault
  | .rejection r => { r with model }.toFault.fromOrigin origin
  | .fault f =>
    let known := if isGiven f.context.model then f.context.model else model
    f.withContext { origin := some (some origin), model := some known }
  | .failure x =>
    { code := .invalidModel
      message := "Ingress validation failed: " ++ x.text
      context := { origin := some origin, model }
      details := [("schema", .text schema)]
      cause := some x }

/-- The result with its fault, if it is one, telling a position. -/
def told {α : Type} (position : Int) (r : Except Fault α) : Except Fault α :=
  r.mapError (·.withDetails [(Fault.positionKey, .int position)])

/-- The result with the position that its fault tells moved. -/
def moved {α : Type} (distance : Int) : Except Fault α → Except Fault α
  | .error e => match e.details.get? Fault.positionKey with
    | some (.int position) => told (position + distance) (.error e)
    | _ => .error e
  | r => r

namespace Parser

variable {α : Type} (p : Parser α) (origin : String)

/-- Parses a value that enters from an origin. -/
def enter (v : Value) : Except Fault α :=
  (p.parse v).mapError (entryFault p.name origin (hint v))

def enterAll (vs : List Value) : List (Except Fault α) :=
  vs.mapIdx fun i v => told i (p.enter origin v)

end Parser

/-! ## Positions of faults -/

section Positions

variable {α : Type} (r : Except Fault α) (i j : Int)

theorem told_told : told j (told i r) = told j r := by
  cases r with
  | ok a => rfl
  | error e =>
    change Except.error ((e.withDetails _).withDetails _) = Except.error (e.withDetails _)
    simp [Fault.withDetails, Keyed.set_set]

theorem moved_told : moved j (told i r) = told (i + j) r := by
  cases r with
  | ok a => rfl
  | error e =>
    have hposition : ((e.withDetails [(Fault.positionKey, .int i)]).details.get?
        Fault.positionKey) = some (.int i) := by
      rw [Fault.details_withDetails, Keyed.merge_cons, Keyed.merge_nil, Keyed.get?_set, if_pos rfl]
    change moved j (.error (e.withDetails _)) = _
    rw [moved, hposition]
    exact told_told (.error e) i (i + j)

end Positions

/-! ## Entries of a form -/

section Form

variable {α : Type} (f : Form α) (origin : String) (strict : Bool)

theorem Form.enter_eq_parser (v : Value) :
    f.enter v origin strict = (f.parser strict).enter origin v := by
  unfold enter Parser.enter parser parse
  dsimp only
  cases f.read strict v <;> rfl

theorem Form.enterAll_eq_parser (vs : List Value) :
    f.enterAll vs origin strict = (f.parser strict).enterAll origin vs := by
  have hat : ∀ (v : Value) (i : Nat),
      f.enterAt origin strict i v = told i ((f.parser strict).enter origin v) := by
    intro v i
    rw [enterAt, f.enter_eq_parser]
    cases (f.parser strict).enter origin v <;> rfl
  unfold enterAll Parser.enterAll
  rw [List.mapIdx_eq_zipIdx_map]
  exact List.map_congr_left fun e _ => hat e.1 e.2

end Form

namespace Parser

variable {α : Type} (p : Parser α) (origin : String)

theorem getElem?_enterAll (vs : List Value) (i : Nat) :
    (p.enterAll origin vs)[i]? = vs[i]?.map fun v => told i (p.enter origin v) :=
  List.getElem?_mapIdx

theorem enterAll_append (vs ws : List Value) :
    p.enterAll origin (vs ++ ws) =
      p.enterAll origin vs ++ (p.enterAll origin ws).map (moved vs.length) := by
  have hmoved : (p.enterAll origin ws).map (moved vs.length) =
      ws.mapIdx fun i v => told ↑(i + vs.length) (p.enter origin v) := by
    refine List.ext_getElem? fun i => ?_
    rw [List.getElem?_map, getElem?_enterAll, List.getElem?_mapIdx, Option.map_map]
    refine congrArg (Option.map · ws[i]?) ?_
    funext v
    rw [Function.comp_apply, moved_told, Int.natCast_add]
  rw [hmoved, enterAll, List.mapIdx_append]
  rfl

theorem enter_of_parse_eq_ok {v : Value} {a : α} (h : p.parse v = .ok a) :
    p.enter origin v = .ok a := by
  rw [enter, h]
  rfl

theorem exists_enter_of_parse_eq_error {v : Value} {x : Raised} (h : p.parse v = .error x) :
    ∃ e, p.enter origin v = .error e ∧ e.context.origin = some origin := by
  refine ⟨_, by rw [enter, h]; rfl, ?_⟩
  cases x <;> rfl

/-- Every entry of a list has one result, in order: that of the entry on its own, with its position
among the details if it is a fault. The same entry in another list has the same result but for the
position, and the results of two lists one behind the other are those of either list, with the
positions of the second one moved. This holds of every parser, whatever it raises, and entries that
are read as a form are parsed so. -/
theorem enterAll_entrywise (vs : List Value) :
    (p.enterAll origin vs).length = vs.length ∧
    (∀ (i : Nat) v, vs[i]? = some v →
      (∀ a, p.parse v = .ok a →
        p.enter origin v = .ok a ∧ (p.enterAll origin vs)[i]? = some (.ok a)) ∧
      ∀ x, p.parse v = .error x → ∃ e, p.enter origin v = .error e ∧
        e.context.origin = some origin ∧
        (p.enterAll origin vs)[i]? = some (.error (e.withDetails [("batch_index", .int i)]))) ∧
    (∀ ws (i j : Nat) v, vs[i]? = some v → ws[j]? = some v →
      ∃ r, (p.enterAll origin vs)[i]? = some r ∧
        (p.enterAll origin ws)[j]? = some (told j r)) ∧
    (∀ ws, p.enterAll origin (vs ++ ws) =
      p.enterAll origin vs ++ (p.enterAll origin ws).map (moved vs.length)) ∧
    ∀ (f : Form α) strict, p = f.parser strict →
      f.enterAll vs origin strict = p.enterAll origin vs ∧
      ∀ v, f.enter v origin strict = p.enter origin v := by
  refine ⟨List.length_mapIdx, ?_, ?_, p.enterAll_append origin vs, ?_⟩
  · intro i v hv
    have hentry : (p.enterAll origin vs)[i]? = some (told i (p.enter origin v)) := by
      rw [getElem?_enterAll, hv, Option.map_some]
    constructor
    · intro a ha
      have henter := p.enter_of_parse_eq_ok origin ha
      rw [hentry, henter]
      exact ⟨rfl, rfl⟩
    · intro x hx
      obtain ⟨e, he, horigin⟩ := p.exists_enter_of_parse_eq_error origin hx
      rw [hentry, he]
      exact ⟨e, rfl, horigin, rfl⟩
  · intro ws i j v hv hw
    refine ⟨told i (p.enter origin v), ?_, ?_⟩
    · rw [getElem?_enterAll, hv, Option.map_some]
    · rw [getElem?_enterAll, hw, Option.map_some, told_told]
  · rintro f strict rfl
    exact ⟨f.enterAll_eq_parser origin strict vs, f.enter_eq_parser origin strict⟩

end Parser

end Description

end ShadowTypes
