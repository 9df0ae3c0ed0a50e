import ShadowTypes.Description.Reading
import ShadowTypes.Text.Blank
import ShadowTypes.Text.Folding
import ShadowTypes.Text.Lines
import ShadowTypes.Text.Utf8

/-!
# Fields of descriptions

A field has two spellings of its key; the first of them wins if both are present, and the other
key is then as unknown as any. This module reads single values: texts, names, namespaces and flags.
Outside strict reading, bytes stand for the text they spell, and numbers and words for flags.
-/

namespace ShadowTypes.Description

open Text

structure Field where
  /-- The key that wins, and that is named when the field is missing. -/
  key : String
  /-- The other spelling. -/
  otherKey : String
  deriving DecidableEq, Repr

def Field.named (key : String) : Field := ⟨key, key⟩

def Field.find? (f : Field) (es : Entries) : Option (String × Value) :=
  match es.field? f.key with
  | some v => some (f.key, v)
  | none => (es.field? f.otherKey).map (f.otherKey, ·)

def Field.required {α : Type} (f : Field) (es : Entries) (read : Value → Reading α) : Reading α :=
  match f.find? es with
  | some (key, v) => (read v).under (.key key)
  | none => .issues [Rule.missing.complaint (.mapping es) [.key f.key]]

def Field.optional {α : Type} (f : Field) (es : Entries) (default : α) (read : Value → Reading α) :
    Reading α :=
  match f.find? es with
  | some (key, v) => (read v).under (.key key)
  | none => .done default

/-- Whole numbers from its negative up to below it fit a machine word. -/
def wordLimit : Int := 9223372036854775808

/-- What stands for a value that cannot be written. -/
def unprintable (v : Value) : String := "<unprintable " ++ v.typeName ++ " object>"

/-- The step to the value at a key: small whole numbers are positions. -/
def stepOfKey (k : Value) : Step :=
  let shown : Step := .key (if k.isUnwritable then unprintable k else k.display)
  match k with
  | .text s => .key s
  | .bool b => .index (if b then 1 else 0)
  | .int n => if -wordLimit ≤ n && n < wordLimit then .index n else shown
  | _ => shown

def unknownKeys (fields : List Field) (es : Entries) : List Complaint :=
  let used := fields.filterMap fun f => (f.find? es).map (·.1)
  es.filterMap fun (k, v) =>
    match k with
    | .text s => if used.contains s then none else some (Rule.extra.complaint v [.key s])
    | k => some (Rule.keyType.complaint k [stepOfKey k])

/-- The reading of the fields of a mapping, with complaints about keys that no field uses. A key
with half a surrogate pair is the only complaint. -/
def closing {α : Type} (fields : List Field) (es : Entries) (r : Reading α) : Reading α :=
  let broken := es.find? fun e => match e.1 with
    | .text s => isBroken s
    | _ => false
  match r, broken with
  | .halted f, _ => .halted f
  | _, some (k, _) => .refuse .textBytes k
  | r, none => r.withIssues (unknownKeys fields es)

def readEntries {α : Type} (v : Value) (read : Entries → Reading α) : Reading α :=
  match v.opened with
  | .mapping es => read es
  | _ => .refuse .mappingType v

/-- Reads a text, of which half a surrogate pair can be no part. -/
def readText (strict : Bool) (v : Value) : Reading String :=
  match v with
  | .text s => if isBroken s then .refuse .textBytes v else .done s
  | .bytes b =>
    if strict then .refuse .textType v
    else match Utf8.decode b with
      | .ok s => .done s
      | .error _ => .refuse .textBytes v
  | v => .refuse .textType v

/-- A word with an optional mark in front, which escapes it. -/
def isName (l : List Char) : Bool :=
  match l with
  | '@' :: r => isWordText r
  | l => isWordText l

def isSpace (l : List Char) : Bool := l.isEmpty || (splitAt '.' l).all isWordText

/-- Reads a text without the white space around it, if the rest passes the test. -/
def readMatching (strict : Bool) (test : List Char → Bool) (rule : Rule) (v : Value) :
    Reading String :=
  match readText strict v with
  | .done s => if test (trimSpace s).toList then .done (trimSpace s) else .refuse rule v
  | r => r

def readName (strict : Bool) (v : Value) : Reading String :=
  readMatching strict isName .namePattern v

def readSpace (strict : Bool) (v : Value) : Reading String :=
  readMatching strict isSpace .spacePattern v

/-- Reads a text that is not blank, without the blanks around it. -/
def readFilled (strict : Bool) (v : Value) : Reading String :=
  match readText strict v with
  | .done s =>
    let t := trim (trimSpace s)
    if t = "" then .refuse .blankText v else .done t
  | r => r

/-- The flag that a word stands for, in any letter case. -/
def flagOfWord? (s : String) : Option Bool :=
  let word := String.ofList (s.toList.map asciiLower)
  if ["0", "off", "f", "false", "n", "no"].contains word then some false
  else if ["1", "on", "t", "true", "y", "yes"].contains word then some true
  else none

def readFlagWord (v : Value) (s : String) : Reading Bool :=
  match flagOfWord? s with
  | some b => .done b
  | none => .refuse (if isBroken s then .textBytes else .boolWord) v

def readFlagNumber (v : Value) (n : Int) : Reading Bool :=
  if n = 0 then .done false
  else if n = 1 then .done true
  else .refuse .boolWord v

def readFlag (strict : Bool) (v : Value) : Reading Bool :=
  match v with
  | .bool b => .done b
  | v =>
    if strict then .refuse .boolType v
    else match v with
      | .text s => readFlagWord v s
      | .bytes b => match Utf8.decode b with
        | .ok s => readFlagWord v s
        | .error _ => .refuse .boolWord v
      | .int n =>
        if -wordLimit ≤ n && n < wordLimit then readFlagNumber v n else .refuse .boolType v
      | .float x => match x.toInt? with
        | some n =>
          if -wordLimit < n && n < wordLimit then readFlagNumber v n else .refuse .boolType v
        | none => .refuse .boolType v
      | v => .refuse .boolType v

end ShadowTypes.Description
