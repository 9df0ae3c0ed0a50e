import ShadowTypes.Description.Field
import ShadowTypes.Model

/-!
# Directives in descriptions

A directive is a mapping with a kind and the settings of its kind. Inside a property the kind
selects the directive and may be written in several ways.
-/

namespace ShadowTypes.Description

def kindField : Field := .named "kind"

def allowNullField : Field := ⟨"allowNull", "allow_null"⟩

def validateField : Field := ⟨"checkIsValid", "check_is_valid"⟩

def ruleField : Field := .named "check"

def readKind (word : String) (v : Value) : Reading Unit :=
  match v with
  | .text s =>
    if s = word then .done ()
    else .refuse (if Text.isBroken s then .textBytes else .literal word) v
  | v => .refuse (.literal word) v

def readBasic (strict : Bool) (v : Value) : Reading Directive :=
  readEntries v fun es =>
    let kind := kindField.optional es () (readKind "basic")
    let allowNull := allowNullField.optional es Check.defaultAllowNull (readFlag strict)
    closing [kindField, allowNullField] es
      ((kind.both allowNull).map fun p => Directive.basic p.2)

def readNested (strict : Bool) (v : Value) : Reading Directive :=
  readEntries v fun es =>
    let kind := kindField.optional es () (readKind "nested_model")
    let allowNull := allowNullField.optional es Check.defaultAllowNull (readFlag strict)
    let validate := validateField.optional es Check.defaultValidate (readFlag strict)
    closing [kindField, allowNullField, validateField] es
      ((kind.both (allowNull.both validate)).map fun p => Directive.nested p.2.1 p.2.2)

/-- Reads a directive about text; any value stands for a rule. -/
def readTextDirective (v : Value) : Reading Directive :=
  readEntries v fun es =>
    let kind := kindField.optional es () (readKind "string")
    let rule := ruleField.optional es Check.defaultRule fun v => .done (TextRule.ofValue v)
    closing [kindField, ruleField] es
      ((kind.both rule).map fun p => Directive.text p.2)

/-- A tag as it is named in a refusal: three replacement characters stand for each half of a
surrogate pair. -/
def tagText (tag : Value) : String :=
  if tag.isUnwritable then unprintable tag
  else Text.ofCodePoints ((Text.codePoints tag.toText).flatMap fun n =>
    if Text.isSurrogate n then List.replicate 3 0xFFFD else [n])

def readDirective (strict : Bool) (v : Value) : Reading Directive :=
  readEntries v fun es =>
    match es.field? "kind" with
    | none => .refuse .tagMissing v
    | some (.text "basic") => (readBasic strict v).under (.key "basic")
    | some (.text "nested_model") => (readNested strict v).under (.key "nested_model")
    | some (.text "string") => (readTextDirective v).under (.key "string")
    | some tag => .refuse (.tagUnknown (tagText tag)) v

def kindAliases : List (String × String) := [
  ("basic", "basic"), ("basicpropertycheck", "basic"),
  ("nested", "nested_model"), ("nestedmodel", "nested_model"), ("nested_model", "nested_model"),
  ("dto", "nested_model"), ("dtopropertycheck", "nested_model"),
  ("string", "string"), ("stringpropertycheck", "string")]

def kindAlias? (word : String) : Option String :=
  (kindAliases.find? (·.1 == word)).map (·.2)

/-- A kind in its usual spelling: letter case, hyphens and underscores do not count. A word that
stands for no kind stays. -/
def canonicalKind (kind : String) : String :=
  let tag := Text.fold (String.ofList (kind.toList.map fun c => if c = '-' then '_' else c))
  let joined := String.ofList (tag.toList.filter (· != '_'))
  match kindAlias? joined with
  | some k => k
  | none => (kindAlias? tag).getD kind

def withCanonicalKind (v : Value) : Value :=
  match v.opened with
  | .mapping es => match Entries.field? es "kind" with
    | some (.text kind) => .mapping (Entries.insert es (.text "kind") (.text (canonicalKind kind)))
    | _ => v
  | _ => v

end ShadowTypes.Description
