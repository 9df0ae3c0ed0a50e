import ShadowTypes.Fault.Rejection
import ShadowTypes.Number.Numeral

/-!
# Rules of descriptions

What a description must be like, place by place. Every rule has the word for the constraint that
breaks with it and a message.
-/

namespace ShadowTypes.Description

def namePattern : String := "^@?[^\\W\\d]\\w*$"

def spacePattern : String := "^(?:[^\\W\\d]\\w*(?:\\.[^\\W\\d]\\w*)*)?$"

def kinds : List String := ["basic", "nested_model", "string"]

/-- A rule that a description can break. -/
inductive Rule
  | missing
  | extra
  | keyType
  | mappingType
  | listType
  | textType
  | textBytes
  | namePattern
  | spacePattern
  | blankText
  | boolType
  | boolWord
  | literal (word : String)
  | tagMissing
  | tagUnknown (tag : String)
  | unwritable
  deriving DecidableEq, Repr

namespace Rule

def constraint : Rule → String
  | .missing => "missing"
  | .extra => "extra_forbidden"
  | .keyType => "invalid_key"
  | .mappingType => "model_attributes_type"
  | .listType => "tuple_type"
  | .textType => "string_type"
  | .textBytes => "string_unicode"
  | .namePattern | .spacePattern => "string_pattern_mismatch"
  | .blankText | .unwritable => "value_error"
  | .boolType => "bool_type"
  | .boolWord => "bool_parsing"
  | .literal _ => "literal_error"
  | .tagMissing => "union_tag_not_found"
  | .tagUnknown _ => "union_tag_invalid"

/-- Why a blank text is refused. -/
def blankReason : String := "String cannot be empty or whitespace-only"

def expectedTags : String := ", ".intercalate (kinds.map fun k => "'" ++ k ++ "'")

def message : Rule → String
  | .missing => "Field required"
  | .extra => "Extra inputs are not permitted"
  | .keyType => "Keys should be strings"
  | .mappingType => "Input should be a valid dictionary or object to extract fields from"
  | .listType => "Input should be a valid tuple"
  | .textType => "Input should be a valid string"
  | .textBytes => "Input should be a valid string, unable to parse raw data as a unicode string"
  | .namePattern => "String should match pattern '" ++ Description.namePattern ++ "'"
  | .spacePattern => "String should match pattern '" ++ Description.spacePattern ++ "'"
  | .blankText => "Value error, " ++ blankReason
  | .boolType => "Input should be a valid boolean"
  | .boolWord => "Input should be a valid boolean, unable to interpret input"
  | .literal word => "Input should be '" ++ word ++ "'"
  | .tagMissing => "Unable to extract tag using discriminator 'kind'"
  | .tagUnknown tag =>
    "Input tag '" ++ tag ++ "' found using 'kind' does not match any of the expected tags: " ++
      expectedTags
  | .unwritable => "Value error, " ++ Numeral.unwritable.text

def complaint (r : Rule) (found : Value) (location : Location := []) : Complaint where
  location
  constraint := .text r.constraint
  message := .text r.message
  found
  reason := match r with
    | .blankText => some (.text blankReason)
    | .unwritable => some (.text Numeral.unwritable.text)
    | _ => none
  expected := match r with
    | .tagUnknown _ => some (.text expectedTags)
    | _ => none

end Rule

end ShadowTypes.Description
