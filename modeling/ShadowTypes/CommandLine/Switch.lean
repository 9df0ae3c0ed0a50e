import ShadowTypes.Dialect
import ShadowTypes.Text.Lines
import ShadowTypes.Text.Quoted

/-!
# Switches

The switches of the command line, the ways to write them, and what can be wrong with a command
line.
-/

namespace ShadowTypes.CommandLine

def program : String := "dtogen"

inductive Switch
  | help
  | module
  | out
  | dialect
  | suffix
  | workers
  | jsonLogs
  | dryRun
  deriving DecidableEq, Repr

namespace Switch

def all : List Switch := [.help, .module, .out, .dialect, .suffix, .workers, .jsonLogs, .dryRun]

def spellings : Switch → List String
  | .help => ["-h", "--help"]
  | .module => ["-m", "--module"]
  | .out => ["-o", "--out"]
  | .dialect => ["--dialect"]
  | .suffix => ["--suffix"]
  | .workers => ["-w", "--workers"]
  | .jsonLogs => ["--json-logs"]
  | .dryRun => ["--dry-run"]

def takesValue : Switch → Bool
  | .help | .jsonLogs | .dryRun => false
  | .module | .out | .dialect | .suffix | .workers => true

def table : List (String × Switch) := all.flatMap fun s => s.spellings.map (·, s)

def ofSpelling? (name : String) : Option Switch := (table.find? (·.1 == name)).map (·.2)

def title (s : Switch) : String := "/".intercalate s.spellings

theorem ofSpelling?_of_mem {s : Switch} {name : String} (h : name ∈ s.spellings) :
    ofSpelling? name = some s := by
  cases s <;> simp only [spellings, List.mem_cons, List.not_mem_nil, or_false] at h <;>
    rcases h with rfl | rfl <;> decide

end Switch

abbrev Given := Switch × Option String

/-- What is wrong with a command line. -/
inductive UsageFault
  | ambiguous (word : String) (candidates : List String)
  | missingValue (s : Switch)
  | strayValue (s : Switch) (value : String)
  | notInteger (s : Switch) (value : String)
  | notChoice (s : Switch) (value : String) (choices : List String)
  | unknown (words : List String)
  | noSources
  | tooFewWorkers
  deriving DecidableEq, Repr

namespace UsageFault

def about (s : Switch) (text : String) : String := "argument " ++ s.title ++ ": " ++ text

def message : UsageFault → String
  | .ambiguous word candidates =>
    "ambiguous option: " ++ word ++ " could match " ++ ", ".intercalate candidates
  | .missingValue s => about s "expected one argument"
  | .strayValue s value => about s ("ignored explicit argument " ++ Text.quoted value)
  | .notInteger s value => about s ("invalid int value: " ++ Text.quoted value)
  | .notChoice s value choices =>
    about s ("invalid choice: " ++ Text.quoted value ++ " (choose from " ++
      ", ".intercalate (choices.map Text.quoted) ++ ")")
  | .unknown words => "unrecognized arguments: " ++ " ".intercalate words
  | .noSources => "no model sources given (pass documents, directories or --module)"
  | .tooFewWorkers => "--workers must be at least 1"

/-- The line that reports the fault. If the message has several lines, the last one does. -/
def line (f : UsageFault) : String := Text.lastLine (program ++ ": error: " ++ f.message)

end UsageFault

end ShadowTypes.CommandLine
