import ShadowTypes.Candidates
import ShadowTypes.Dialect
import ShadowTypes.Text.Lines
import ShadowTypes.Text.Quoted

/-!
# Type expressions

How the declared type of a property is written in a dialect. A candidate becomes its shadow type,
spelled as the model declares it: C# keeps the namespace, Python the last part of the name. Any
other type stays as it is in C#; Python translates the common names, keeps a dotted path of
identifiers, and quotes the rest.
-/

namespace ShadowTypes.TypeExpression

/-- The common type names, in folded case, with their names in Python. -/
def commonTypes : List (String × String) := [
  ("string", "str"), ("system.string", "str"), ("str", "str"),
  ("char", "str"), ("system.char", "str"),
  ("int", "int"), ("long", "int"), ("short", "int"), ("byte", "int"),
  ("system.int16", "int"), ("system.int32", "int"), ("system.int64", "int"),
  ("bool", "bool"), ("boolean", "bool"), ("system.boolean", "bool"),
  ("float", "float"), ("double", "float"), ("system.single", "float"),
  ("system.double", "float"),
  ("decimal", "decimal.Decimal"), ("system.decimal", "decimal.Decimal"),
  ("system.datetime", "datetime.datetime"), ("system.datetimeoffset", "datetime.datetime"),
  ("system.timespan", "datetime.timedelta"),
  ("system.guid", "uuid.UUID"),
  ("object", "object"), ("system.object", "object")]

def common? (base : String) : Option String :=
  (commonTypes.find? (·.1 == Text.fold base)).map (·.2)

/-- Whether the characters are identifiers, none of them reserved, with points between them. -/
def isPath (l : List Char) : Bool :=
  (Text.splitAt '.' l).all fun part =>
    Text.isIdentifier part && !Dialect.isKeyword (String.ofList part)

/-- The last part of a dotted name. -/
def shortName (s : String) : String :=
  String.ofList (s.toList.reverse.takeWhile (· != '.')).reverse

def plain (base : String) : String :=
  match common? base with
  | some t => t
  | none => if isPath base.toList then base else Text.quoted base

/-- The type as the dialect writes it, without the mark of nullable types. -/
def write (d : Dialect) (suffix typeName : String) (candidates : Candidates) : String :=
  let base := TypeName.bare typeName
  match d, candidates.canonical? base with
  | .csharp, some declared => declared ++ suffix
  | .csharp, none => base
  | .python, some declared => shortName declared ++ suffix
  | .python, none => plain base

end ShadowTypes.TypeExpression
