import ShadowTypes.Description.Directive

/-!
# Properties in descriptions

A property has a name, a type and at most one directive. Directives may also come as a list, whose
only entry other than null is then the directive; two of them are a conflict, which ends the
reading of the whole description. The conflict tells the name of the property and what the
directives are called; if one of these cannot be written, that is a complaint like any other.
-/

namespace ShadowTypes.Description

def nameField : Field := .named "name"

def typeField : Field := ⟨"typeName", "type_name"⟩

def directiveField : Field := .named "annotation"

/-- The directives of a property other than null, the single one first. -/
def presentDirectives (single : Option Value) (many : Value) : List Value :=
  let listed := match many.opened with
    | .list vs => vs
    | _ => if many.isFilled then [many] else []
  (single.toList ++ listed).filter fun v => !v.isNull

/-- What a directive is called in a conflict: its kind, or the type of the value. -/
def directiveName (v : Value) : Value :=
  match v.opened with
  | .mapping es => (Entries.field? es "kind").getD (.text "?")
  | v => .text v.typeName

def conflictOf (whole name : Value) (directives : List Value) : Reading Entries :=
  let names := directives.map directiveName
  if (name :: names).any Value.isUnwritable then .refuse .unwritable whole
  else .halted (.conflictingDirectives none (some name.toText) (names.map Value.toText))

/-- The entries of a property with the list of directives folded into the single one. -/
def gatherDirectives (whole : Value) (es : Entries) : Reading Entries :=
  match es.field? "annotations" with
  | none => .done es
  | some many =>
    let rest := es.erase (.text "annotations")
    match presentDirectives (rest.field? "annotation") many with
    | [] => .done (rest.insert (.text "annotation") .null)
    | [v] => .done (rest.insert (.text "annotation") v)
    | vs => conflictOf whole ((rest.field? "name").getD .null) vs

/-- The entries of a property with the kind of its directive in the usual spelling. -/
def respellDirective (es : Entries) : Entries :=
  match es.field? "annotation" with
  | some v => match v.opened with
    | .mapping _ => es.insert (.text "annotation") (withCanonicalKind v)
    | _ => es
  | none => es

/-- The entries of a property with a single directive, whose kind is in its usual spelling. -/
def foldDirectives (whole : Value) (es : Entries) : Reading Entries :=
  (gatherDirectives whole es).map respellDirective

def readOptionalDirective (strict : Bool) (v : Value) : Reading (Option Directive) :=
  match v with
  | .null => .done none
  | v => (readDirective strict v).map some

def readFolded (strict : Bool) (es : Entries) : Reading Property :=
  let name := nameField.required es (readName strict)
  let type := typeField.required es (readFilled strict)
  let directive := directiveField.optional es none (readOptionalDirective strict)
  closing [nameField, typeField, directiveField] es
    ((name.both (type.both directive)).map fun p => Property.mk p.1 p.2.1 p.2.2)

def readProperty (strict : Bool) (v : Value) : Reading Property :=
  readEntries v fun es => (foldDirectives v es).bind (readFolded strict)

end ShadowTypes.Description
