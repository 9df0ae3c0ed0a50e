import ShadowTypes.Text.Lines
import ShadowTypes.Value.Display

/-!
# Failures from outside

A failure is an exception that some other program raised: the word for its kind and its text. The
text depends on the kind and the arguments: a failed look-up quotes its key, and a failed system
call names the call's error number and the files it was about.
-/

namespace ShadowTypes

/-- An exception raised outside the library. -/
structure Failure where
  kind : String
  text : String
  deriving DecidableEq, Repr, Inhabited

namespace Failure

def argumentText : List Value → String
  | [] => ""
  | [x] => x.toText
  | xs => "(" ++ ", ".intercalate (xs.map Value.display) ++ ")"

/-- The kind of a failed system call with the given error number. -/
def systemKind : Int → String
  | 1 | 13 => "PermissionError"
  | 2 => "FileNotFoundError"
  | 3 => "ProcessLookupError"
  | 4 => "InterruptedError"
  | 10 => "ChildProcessError"
  | 11 | 114 | 115 => "BlockingIOError"
  | 17 => "FileExistsError"
  | 20 => "NotADirectoryError"
  | 21 => "IsADirectoryError"
  | 32 | 108 => "BrokenPipeError"
  | 103 => "ConnectionAbortedError"
  | 104 => "ConnectionResetError"
  | 110 => "TimeoutError"
  | 111 => "ConnectionRefusedError"
  | _ => "OSError"

/-- The kind of a failed system call whose error number may be anything. -/
def systemKindOf : Value → String
  | .int n => systemKind n
  | .bool b => systemKind (if b then 1 else 0)
  | _ => "OSError"

/-- The text of a failed system call: number, description and up to two file names. -/
def systemText (number description : Value) (files : List Value) : String :=
  let head := "[Errno " ++ number.toText ++ "] " ++ description.toText
  match files with
  | [] => head
  | file :: rest =>
    if file.isNull then head
    else
      let other := match rest with
        | [_, second] => if second.isNull then "" else " -> " ++ second.display
        | _ => ""
      head ++ ": " ++ file.display ++ other

def countLimit : Int := 9223372036854775808

/-- The files that a failed system call of a kind names. A call that would have had to wait may have
a count in their place, which is not named. -/
def systemFiles (kind : String) (files : List Value) : Except Failure (List Value) :=
  match files.head? with
  | some (.int n) =>
    if kind != "BlockingIOError" then .ok files
    else if -countLimit ≤ n && n < countLimit then .ok []
    else .error ⟨"ValueError", "cannot fit 'int' into an index-sized integer"⟩
  | some (.bool _) => .ok (if kind = "BlockingIOError" then [] else files)
  | some (.float _) =>
    if kind != "BlockingIOError" then .ok files
    else .error ⟨"TypeError", "'float' object cannot be interpreted as an integer"⟩
  | _ => .ok files

def system (number : Int) (description : String) (files : List String) : Failure :=
  ⟨systemKind number, systemText (.int number) (.text description) (files.map .text)⟩

def ofArguments (kind : String) (arguments : List Value) : Except Failure Failure :=
  if kind = "KeyError" then
    match arguments with
    | [x] => .ok ⟨kind, x.display⟩
    | xs => .ok ⟨kind, argumentText xs⟩
  else if kind = "OSError" || kind = "FileNotFoundError" then
    match arguments with
    | number :: description :: files =>
      if 3 < files.length then .ok ⟨kind, argumentText arguments⟩
      else do
        let refined := if kind = "OSError" then systemKindOf number else kind
        return ⟨refined, systemText number description (← systemFiles refined files)⟩
    | xs => .ok ⟨kind, argumentText xs⟩
  else .ok ⟨kind, argumentText arguments⟩

/-- A file name holds the character that ends it. -/
def nullByte : Failure := ⟨"ValueError", "embedded null byte"⟩

def escaped (n : Nat) : String :=
  if n ≤ 0xFF then "\\x" ++ String.ofList (Text.hex 2 n)
  else if n ≤ 0xFFFF then "\\u" ++ String.ofList (Text.hex 4 n)
  else "\\U" ++ String.ofList (Text.hex 8 n)

/-- From the given position on a text holds code points that an encoding has no bytes for. -/
def unencodable (s : String) (position length : Nat) (codec : String := "utf-8")
    (reason : String := "surrogates not allowed") : Failure :=
  let place :=
    if length = 1 then
      " '" ++ escaped ((Text.codePoints s).getD position 0) ++ "' in position " ++ Nat.repr position
    else "s in position " ++ Nat.repr position ++ "-" ++ Nat.repr (position + length - 1)
  ⟨"UnicodeEncodeError",
    "'" ++ codec ++ "' codec can't encode character" ++ place ++ ": " ++ reason⟩

def missingText (operation : String) : Failure :=
  ⟨"AttributeError", "'NoneType' object has no attribute '" ++ operation ++ "'"⟩

/-- A text operation met an option without a value. -/
def valueless (operation : String) : Failure :=
  ⟨"AttributeError", "'list' object has no attribute '" ++ operation ++ "'"⟩

def report (f : Failure) : String := if f.text = "" then f.kind else f.kind ++ ": " ++ f.text

def summary (f : Failure) : String := Text.lastLine f.report

end Failure

end ShadowTypes
