import ShadowTypes.Dialect
import ShadowTypes.Resolution

/-!
# Demands and their fragments

A check that constrains anything demands one of four things of a value: to be there, to be there
and not empty, to be there and not blank, or to be there and valid. A fragment is such a demand on
a member, spelled in a dialect.
-/

namespace ShadowTypes

inductive Demand
  | present
  | nonEmpty
  | nonBlank
  | nestedValid
  deriving DecidableEq, Repr

def Check.demand? : Check → Option Demand
  | .basic true => none
  | .basic false => some .present
  | .nested _ true => some .nestedValid
  | .nested true false => none
  | .nested false false => some .present
  | .text .allowNull => none
  | .text .allowEmpty => some .present
  | .text .allowBlank => some .nonEmpty
  | .text .requireText | .text .unknown => some .nonBlank

namespace Dialect

def fragment (d : Dialect) (member : String) (demand : Demand) : String :=
  match d, demand with
  | .python, .present => "self." ++ member ++ " is not None"
  | .python, .nonEmpty => "(self." ++ member ++ " is not None and self." ++ member ++ " != \"\")"
  | .python, .nonBlank =>
    "(self." ++ member ++ " is not None and self." ++ member ++ ".strip() != \"\")"
  | .python, .nestedValid =>
    "(self." ++ member ++ " is not None and self." ++ member ++ "." ++ d.validityMethod ++
      "() is True)"
  | .csharp, .present => member ++ " is not null"
  | .csharp, .nonEmpty => "!string.IsNullOrEmpty(" ++ member ++ ")"
  | .csharp, .nonBlank => "!string.IsNullOrWhiteSpace(" ++ member ++ ")"
  | .csharp, .nestedValid => member ++ "?." ++ d.validityMethod ++ "() is true"

def fragment? (d : Dialect) (member : String) (check : Check) : Option String :=
  check.demand?.map (d.fragment member)

def fragments (d : Dialect) (checks : List (String × Check)) : List String :=
  checks.filterMap fun (member, check) => d.fragment? member check

@[simp] theorem fragments_nil (d : Dialect) : d.fragments [] = [] := rfl

end Dialect

end ShadowTypes
