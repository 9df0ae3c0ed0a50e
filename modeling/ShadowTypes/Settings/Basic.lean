import ShadowTypes.Description.Field
import ShadowTypes.FileTree
import ShadowTypes.Json.Reader
import ShadowTypes.Settings.Environment
import ShadowTypes.StringNames

/-!
# Settings

Settings come from the environment, then from an environment file in the working directory, then
from defaults. The names of the variables begin with a common word, and their letter case does not
count. All values that cannot be read are reported together, in the order of the settings.
-/

namespace ShadowTypes

structure Settings where
  suffix : String := "DTO"
  dialect : String := "python"
  outputFolder : String := "generated"
  stringNames : List String := StringNames.defaults
  workers : Int := 1
  logLevel : String := "INFO"
  logJson : Bool := false
  deriving DecidableEq, Repr

namespace Settings

/-- A setting that cannot be read. -/
structure Issue where
  location : Location
  constraint : String
  message : String
  deriving DecidableEq, Repr

/-- Why there are no settings. -/
inductive Fault
  | issues (is : List Issue)
  | failure (x : Failure)
  deriving Repr

def common : String := "DTOGEN_"

def file : PathName := ⟨.here, [".env"]⟩

/-- Where a value comes from. -/
structure Origin where
  name : String
  bindings : Environment.Bindings

/-- The value of a setting from the first origin that has it. -/
def find? (origins : List Origin) (setting : String) : Option String :=
  origins.findSome? fun o => Environment.lookupFolded? o.bindings (common ++ setting)

/-- What follows zeros and underscores, the last of which is `last`; a point keeps it. -/
def afterZeros (last : Char) : List Char → Option (List Char)
  | [] => some [last]
  | c :: r =>
    if c = '0' || c = '_' then afterZeros c r
    else if Text.isAsciiDigit c then some (c :: r)
    else if c = '.' then some (last :: c :: r)
    else none

/-- A number without the zeros in front of it; no number if it starts with anything but a digit. -/
def withoutZeros : List Char → Option (List Char)
  | [] => none
  | c :: r =>
    if c = '0' then afterZeros c r
    else if Text.isAsciiDigit c then some (c :: r)
    else none

def withoutFraction (l : List Char) : List Char :=
  let whole := l.takeWhile (· != '.')
  let fraction := l.drop (whole.length + 1)
  if !fraction.isEmpty && fraction.all (· == '0') then whole else l

/-- A number without the single underscores inside it. -/
def withoutGaps : List Char → Option (List Char)
  | [] => some []
  | '_' :: _ => none
  | [c] => some [c]
  | c :: '_' :: r => if r.isEmpty then none else (withoutGaps r).map (c :: ·)
  | c :: r => (withoutGaps r).map (c :: ·)

/-- A whole number: a sign, digits with single underscores between them, and a fraction of zeros.
Among the zeros in front there may be any number of underscores. -/
def int (s : String) : Except (String × String) Int :=
  let malformed := ("int_parsing",
    "Input should be a valid integer, unable to parse string as an integer")
  let l := Text.dropBothEnds Text.isSpace s.toList
  let (negative, l) := match l with
    | '-' :: r => (true, r)
    | '+' :: r => (false, r)
    | l => (false, l)
  match (withoutZeros l).bind fun l => withoutGaps (withoutFraction l) with
  | none => .error malformed
  | some ds =>
    if Numeral.maxDigits < ds.length + (if negative then 1 else 0) then
      .error ("int_parsing_size",
        "Unable to parse input string as an integer, exceeded maximum size")
    else if ds.all Text.isAsciiDigit then
      let n := Int.ofNat (ds.foldl (fun n c => n * 10 + (c.toNat - '0'.toNat)) 0)
      .ok (if negative then -n else n)
    else .error malformed

def texts (name : String) (v : Value) : Except (List Issue) (List String) :=
  match v with
  | .list vs =>
    let bad := vs.zipIdx.filterMap fun (v, i) => match v with
      | .text _ => none
      | _ => some ⟨[.key name, .index i], "string_type", "Input should be a valid string"⟩
    if bad.isEmpty then
      .ok (vs.filterMap fun
        | .text s => some s
        | _ => none)
    else .error bad
  | _ => .error [⟨[.key name], "list_type", "Input should be a valid list"⟩]

def listName : String := "STRING_TYPE_NAMES"

def decodeList (depth : Nat) (o : Origin) : Except Failure (Option Value) :=
  match Environment.lookupFolded? o.bindings (common ++ listName) with
  | none => .ok none
  | some s => match Json.read s depth with
    | .ok .null => .ok none
    | .ok v => .ok (some v)
    | .error (.tooDeep c) => .error ⟨"RecursionError", (Json.Fault.tooDeep c).message⟩
    | .error _ => .error ⟨"SettingsError",
        "error parsing value for field \"" ++ listName ++ "\" from source \"" ++ o.name ++ "\""⟩

/-- What is wrong with a text that no bytes spell. -/
def brokenText (name : String) : Issue :=
  let rule := Description.Rule.textBytes
  ⟨[.key name], rule.constraint, rule.message⟩

def readInt (name : String) (default : Int) : Option String → Except (List Issue) Int
  | none => .ok default
  | some s =>
    if Text.isBroken s then .error [brokenText name]
    else (int s).mapError fun (constraint, message) => [⟨[.key name], constraint, message⟩]

def readFlag (name : String) (default : Bool) : Option String → Except (List Issue) Bool
  | none => .ok default
  | some s => match Description.flagOfWord? s with
    | some b => .ok b
    | none =>
      let rule := Description.Rule.boolWord
      .error [if Text.isBroken s then brokenText name
        else ⟨[.key name], rule.constraint, rule.message⟩]

def issuesOf {α : Type} : Except (List Issue) α → List Issue
  | .ok _ => []
  | .error is => is

/-- The settings of an environment and the files of its working directory. -/
def load (outer : Environment.Bindings) (tree : FileTree) (depth : Nat := Json.usualDepth) :
    Except Fault Settings := do
  let text ← match tree.find? file with
    | some (.file bytes) => (FileTree.textOf bytes).mapError Fault.failure
    | _ => pure ""
  let origins : List Origin := [⟨"EnvSettingsSource", outer⟩,
    ⟨"DotEnvSettingsSource", Environment.bindings text outer⟩]
  let lists ← (origins.mapM (decodeList depth)).mapError Fault.failure
  let defaults : Settings := {}
  let names : Except (List Issue) (List String) := match lists.findSome? id with
    | some v => texts listName v
    | none => .ok defaults.stringNames
  let workers := readInt "MAX_WORKERS" defaults.workers (find? origins "MAX_WORKERS")
  let json := readFlag "LOG_JSON" defaults.logJson (find? origins "LOG_JSON")
  match names, workers, json with
  | .ok names, .ok workers, .ok json => return {
      suffix := (find? origins "DTO_SUFFIX").getD defaults.suffix
      dialect := (find? origins "TARGET_DIALECT").getD defaults.dialect
      outputFolder := (find? origins "OUTPUT_DIR").getD defaults.outputFolder
      stringNames := names
      workers
      logLevel := (find? origins "LOG_LEVEL").getD defaults.logLevel
      logJson := json }
  | _, _, _ => throw (.issues (issuesOf names ++ issuesOf workers ++ issuesOf json))

end Settings

end ShadowTypes
