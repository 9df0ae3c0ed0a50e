import ShadowTypes.Emitter

/-!
# Source text of shadow types

The text of a shadow type is a fixed frame around one declaration per member and one conjunction
of fragments. In Python it is a module with one class; in C# a class inside its namespace, or the
same class one level further out if the model has no namespace.
-/

namespace ShadowTypes

/-- The generated text of one shadow type. -/
structure Source where
  qualifiedName : String
  typeName : String
  fileName : String
  text : String
  deriving DecidableEq, Repr

namespace Source

def ofLines (ls : List String) : String := "\n".intercalate ls

def pythonField (l : Layout) (member type : String) : String :=
  l.property ++ member ++ ": " ++ type ++ " | None = None"

/-- The statement that returns the conjunction of the fragments, in Python. -/
def pythonReturn (l : Layout) : List String → List String
  | [] => [l.property ++ l.property ++ "return True"]
  | f :: fs =>
    [l.property ++ l.property ++ "return (", l.check ++ f] ++
      fs.map (fun g => l.check ++ "and " ++ g) ++ [l.property ++ l.property ++ ")"]

/-- The lines of a Python module; `fields` holds members and their types. -/
def pythonLines (l : Layout) (method qualified shadow : String) (fields : List (String × String))
    (fragments : List String) : List String :=
  ["\"\"\"Shadow type of " ++ qualified ++ ".\"\"\"",
    "from __future__ import annotations",
    "",
    "from dataclasses import dataclass",
    "",
    "",
    "@dataclass",
    "class " ++ shadow ++ ":"] ++
  fields.map (fun f => pythonField l f.1 f.2) ++
  (if fields.isEmpty then [] else [""]) ++
  [l.property ++ "def " ++ method ++ "(self) -> bool:"] ++
  pythonReturn l fragments ++ [""]

def csharpField (l : Layout) (member type : String) : String :=
  l.property ++ "public " ++ type ++ "? " ++ member ++ " \x7b get; set; \x7d"

def csharpCondition (l : Layout) : List String → String
  | [] => "true"
  | fs => ("\n" ++ l.check ++ "&& ").intercalate fs

/-- The lines of a C# class inside a namespace. -/
def csharpClass (l : Layout) (method shadow : String) (fields : List (String × String))
    (fragments : List String) : List String :=
  ["    public class " ++ shadow, "    \x7b"] ++
  fields.map (fun f => csharpField l f.1 f.2) ++
  (if fields.isEmpty then [] else [""]) ++
  ["        public bool " ++ method ++ "()",
    "        \x7b",
    "            return " ++ csharpCondition l fragments ++ ";",
    "        \x7d",
    "    \x7d"]

def level : Nat := 4

def outdentLine (cs : List Char) : List Char :=
  if (List.replicate level ' ').isPrefixOf cs then cs.drop level else cs

/-- A text whose lines are one level further out. -/
def outdent (s : String) : String :=
  String.ofList (Text.joinLines ((Text.splitLines s.toList).map outdentLine))

def csharpText (space body : String) : String :=
  if space = "" then outdent body ++ "\n"
  else "namespace " ++ space ++ "\n\x7b\n" ++ body ++ "\n\x7d\n"

end Source

namespace Emitter

/-- The text of the shadow type of a model whose members are already named. -/
def frame (e : Emitter) (m : Model) (members : List String) (fragments : List String)
    (candidates : Candidates) : String :=
  let types := m.properties.map fun p => e.typeExpression p.typeName candidates
  let fields := members.zip types
  let shadow := e.shadowName m.name
  let method := e.dialect.validityMethod
  match e.dialect with
  | .python =>
    Source.ofLines (Source.pythonLines e.layout method m.qualifiedName shadow fields fragments)
  | .csharp =>
    Source.csharpText m.space
      (Source.ofLines (Source.csharpClass e.layout method shadow fields fragments))

def render (e : Emitter) (m : Model) (fragments : List String) (candidates : Candidates) :
    Except Fault String := do
  let members ← e.memberNames m
  return e.frame m members fragments candidates

def source (e : Emitter) (m : Model) (text : String) : Source :=
  ⟨m.qualifiedName, e.shadowName m.name, e.fileName m.name, text⟩

end Emitter

end ShadowTypes
