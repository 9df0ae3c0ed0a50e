import ShadowTypes.Proofs.Description.Complaints
import ShadowTypes.Proofs.Lines
import ShadowTypes.Proofs.Names

/-!
# The grammar of descriptions

What a model looks like among the values of JSON texts: what names, namespaces, types and flags are,
which keys a mapping may have, and how many directives a property. The grammar says this without
reading anything. There is no complaint about a single value exactly if it is one of the grammar.
-/

namespace ShadowTypes

namespace Description

open Entries

/-- All keys are texts without half of a surrogate pair. -/
def PlainKeys (es : Entries) : Prop :=
  ∀ k ∈ es.map Prod.fst, ∃ s, k = .text s ∧ Text.isBroken s = false

/-- The values of JSON texts whose strings hold no half of a surrogate pair. -/
inductive IsJson : Value → Prop
  | null : IsJson .null
  | bool (b : Bool) : IsJson (.bool b)
  | int (n : Int) : IsJson (.int n)
  | float (x : Double) : IsJson (.float x)
  | text {s : String} : Text.isBroken s = false → IsJson (.text s)
  | list {vs : List Value} : (∀ v ∈ vs, IsJson v) → IsJson (.list vs)
  | mapping {es : Entries} : PlainKeys es → (∀ e ∈ es, IsJson e.2) → IsJson (.mapping es)

/-- A word, or the mark and a word. -/
def IsName (s : String) : Prop :=
  ∃ w, Text.isWordText w = true ∧ (s.toList = w ∨ s.toList = '@' :: w)

/-- Nothing, or words with points between them. -/
def IsSpace (s : String) : Prop :=
  s = "" ∨ ∃ ws ≠ [], (∀ w ∈ ws, Text.isWordText w = true) ∧ s.toList = Text.joinWith '.' ws

/-- The words that stand for a flag, in small letters. -/
def flagWords : List String :=
  ["0", "off", "f", "false", "n", "no", "1", "on", "t", "true", "y", "yes"]

/-- What stands for a flag: a truth value, a word for one in any letter case, zero or one. -/
inductive IsFlag : Value → Prop
  | bool (b : Bool) : IsFlag (.bool b)
  | word {s : String} : String.ofList (s.toList.map Text.asciiLower) ∈ flagWords → IsFlag (.text s)
  | int {n : Int} : n = 0 ∨ n = 1 → IsFlag (.int n)
  | float {x : Double} {n : Int} : x.toInt? = some n → n = 0 ∨ n = 1 → IsFlag (.float x)

/-- A word for a kind in small letters, without hyphens and underscores. -/
def squashed (kind : String) : String :=
  String.ofList ((Text.fold (String.ofList (kind.toList.map fun c =>
    if c = '-' then '_' else c))).toList.filter (· != '_'))

/-- A directive: its kind in one of the ways to write it, flags, and nothing that the kind does not
have. -/
structure IsDirective (d : Family) (es : Entries) : Prop where
  kind : ∃ s, es.field? "kind" = some (.text s) ∧ kindAlias? (squashed s) = some d.kind
  keys : OnlyFields d.fields es
  flags : ∀ f ∈ d.flags, ∀ key v, f.find? es = some (key, v) → IsFlag v

/-- A property: a name, a type that is not blank, and at most one directive. -/
structure IsProperty (es : Entries) : Prop where
  name : ∃ s, es.field? "name" = some (.text s) ∧ IsName (Text.trimSpace s)
  type : ∃ key s, typeField.find? es = some (key, .text s) ∧ ∃ c ∈ s.toList, Text.isBlank c = false
  directive : directives es = [] ∨
    ∃ ds, directives es = [.mapping ds] ∧ ∃ d ∈ families, IsDirective d ds
  keys : OnlyFields [nameField, typeField, directiveField, .named "annotations"] es

/-- A model: a name, and perhaps a namespace and properties with distinct names. -/
structure IsModel (es : Entries) : Prop where
  name : ∃ s, es.field? "name" = some (.text s) ∧ IsName (Text.trimSpace s)
  space : ∀ v, es.field? "namespace" = some v → ∃ s, v = .text s ∧ IsSpace (Text.trimSpace s)
  properties : ∀ v, es.field? "properties" = some v → ∃ vs, v = .list vs ∧
    (∀ p ∈ vs, ∃ ps, p = .mapping ps ∧ IsProperty ps) ∧ (vs.map nameOf).Nodup
  keys : OnlyFields [spaceField, nameField, propertiesField] es

/-! ## Single values -/

theorem isName_iff {s : String} : isName s.toList = true ↔ IsName s := by
  constructor
  · exact exists_word_of_isName
  · rintro ⟨w, hw, h | h⟩
    · rw [h]
      unfold isName
      split
      · exact absurd (Text.notMem_of_isWordText Text.isWord_at hw) (by simp)
      · exact hw
    · rw [h]
      exact hw

theorem isSpace_iff {s : String} : isSpace s.toList = true ↔ IsSpace s := by
  have hempty : s.toList.isEmpty = true ↔ s = "" := by
    rw [List.isEmpty_iff, String.toList_eq_nil_iff]
  rw [isSpace, Bool.or_eq_true, hempty, List.all_eq_true, IsSpace]
  refine or_congr_right ⟨fun h => ?_, ?_⟩
  · exact ⟨_, Text.splitAt_ne_nil _ _, h, (Text.joinWith_splitAt _ _).symm⟩
  · rintro ⟨ws, hne, hws, h⟩
    have hpoint : ∀ w ∈ ws, '.' ∉ w :=
      fun w hw => Text.notMem_of_isWordText Text.isWord_point (hws w hw)
    rw [h, Text.splitAt_joinWith hne hpoint]
    exact hws

section Values

variable {v : Value}

theorem IsJson.readText_eq (h : IsJson v) : readText false v = match v with
    | .text s => .done s
    | v => .refuse .textType v := by
  cases h with
  | text hs => simp [readText, hs]
  | _ => rfl

theorem complaints_readMatching (h : IsJson v) {test : List Char → Bool} {rule : Rule} :
    (readMatching false test rule v).complaints = [] ↔
      ∃ s, v = .text s ∧ test (Text.trimSpace s).toList = true := by
  rw [readMatching, h.readText_eq]
  cases h with
  | text hs =>
    dsimp only
    split
    · next htest => simpa [Reading.complaints] using htest
    · next htest => simpa [Reading.complaints, Reading.refuse] using htest
  | _ => simp [Reading.complaints, Reading.refuse]

theorem complaints_readFilled (h : IsJson v) :
    (readFilled false v).complaints = [] ↔
      ∃ s, v = .text s ∧ ∃ c ∈ s.toList, Text.isBlank c = false := by
  rw [readFilled, h.readText_eq]
  cases h with
  | @text s hs =>
    have hblank : Text.trim (Text.trimSpace s) = "" ↔ ¬ ∃ c ∈ s.toList, Text.isBlank c = false := by
      rw [Text.trim_eq_empty_iff, Text.forall_isBlank_trimSpace]
      simp
    dsimp only
    split
    · next htrim => simpa [Reading.complaints, Reading.refuse] using hblank.mp htrim
    · next htrim => simpa [Reading.complaints, hblank] using htrim
  | _ => simp [Reading.complaints, Reading.refuse]

theorem complaints_readFlagNumber {n : Int} :
    (readFlagNumber v n).complaints = [] ↔ n = 0 ∨ n = 1 := by
  unfold readFlagNumber
  split
  · next h => simp [Reading.complaints, h]
  · next hzero =>
    split
    · next h => simp [Reading.complaints, h]
    · next hone => simp [Reading.complaints, Reading.refuse, hzero, hone]

theorem complaints_of_bounded {n : Int} {b : Bool} (h : n = 0 ∨ n = 1 → b = true) :
    (if b then readFlagNumber v n else .refuse .boolType v).complaints = [] ↔ n = 0 ∨ n = 1 := by
  split
  · exact complaints_readFlagNumber
  · next hb => exact iff_of_false (List.cons_ne_nil _ _) (mt h hb)

theorem flagOfWord?_eq_none_iff {s : String} :
    flagOfWord? s = none ↔ String.ofList (s.toList.map Text.asciiLower) ∉ flagWords := by
  have happend : flagWords =
    ["0", "off", "f", "false", "n", "no"] ++ ["1", "on", "t", "true", "y", "yes"] := rfl
  rw [flagOfWord?, happend, List.mem_append, not_or, ← List.contains_iff_mem,
    ← List.contains_iff_mem]
  split
  · next h => simp only [h, not_true_eq_false, false_and, reduceCtorEq]
  · next hno =>
    split
    · next h => simp only [h, not_true_eq_false, and_false, reduceCtorEq]
    · next hyes => exact iff_of_true rfl ⟨hno, hyes⟩

theorem complaints_readFlagWord {s : String} :
    (readFlagWord v s).complaints = [] ↔
      String.ofList (s.toList.map Text.asciiLower) ∈ flagWords := by
  rw [← not_iff_not, ← flagOfWord?_eq_none_iff, readFlagWord]
  cases flagOfWord? s with
  | none => exact iff_of_true (List.cons_ne_nil _ _) rfl
  | some b => exact iff_of_false (not_not_intro rfl) nofun

theorem complaints_readFlag (h : IsJson v) :
    (readFlag false v).complaints = [] ↔ IsFlag v := by
  cases h with
  | bool b => exact iff_of_true rfl (.bool b)
  | text hs =>
    refine complaints_readFlagWord.trans ⟨.word, ?_⟩
    rintro ⟨⟩
    assumption
  | int n =>
    have hflag : IsFlag (.int n) ↔ n = 0 ∨ n = 1 := ⟨fun | .int h => h, .int⟩
    rw [hflag, readFlag]
    exact complaints_of_bounded (by rintro (rfl | rfl) <;> decide)
  | float x =>
    have hflag : IsFlag (.float x) ↔ ∃ n, x.toInt? = some n ∧ (n = 0 ∨ n = 1) :=
      ⟨fun | .float hn h => ⟨_, hn, h⟩, fun ⟨_, hn, h⟩ => .float hn h⟩
    rw [hflag, readFlag]
    cases hx : x.toInt? with
    | none => exact iff_of_false (List.cons_ne_nil _ _) (by simp)
    | some n =>
      simp only [Option.some.injEq, exists_eq_left']
      exact complaints_of_bounded (by rintro (rfl | rfl) <;> decide)
  | null => exact iff_of_false (List.cons_ne_nil _ _) nofun
  | list hvs => exact iff_of_false (List.cons_ne_nil _ _) nofun
  | mapping hkeys hvs => exact iff_of_false (List.cons_ne_nil _ _) nofun

end Values

end Description

end ShadowTypes
