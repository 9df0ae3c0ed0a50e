import ShadowTypes.CommandLine.Run
import ShadowTypes.Proofs.FileTree.Ways

/-!
# What can be printed

A console prints a text exactly if it has bytes for all of its code points. The ASCII characters
have bytes on every console, so that the pieces of a line that stand between such characters count
one by one: the name of a model, a path name, and what is wrong.
-/

namespace ShadowTypes

namespace Console

variable {c : Console} {s : String} {ch : Char}

/-- The console has bytes for all code points of the text. -/
def Takes (c : Console) (s : String) : Prop := Text.Within (fun n => c.refuses n = false) s

theorem refusal?_eq_none_iff : c.refusal? s = none ↔ c.Takes s := by
  rw [refusal?, Option.map_eq_none_iff, Text.run?_eq_none_iff, Takes]

theorem exists_print_iff {lines : List String} :
    (∃ output, c.print lines = .ok output) ↔ ∀ s ∈ lines, c.Takes s := by
  simp only [← refusal?_eq_none_iff, ← List.findSome?_eq_none_iff]
  rw [print]
  cases lines.findSome? c.refusal? <;> simp

theorem isMarked_of_lt (h : ch.toNat < 128) : Text.isMarked ch = false := by
  have hmark : ch ≠ Text.halfMark := by
    rintro rfl
    exact absurd h (by decide)
  have hshift : ¬Text.halfShift ≤ ch.toNat := by
    rw [Text.halfShift]
    omega
  simp [Text.isMarked, hmark, hshift]

theorem takes_append_cons (h : ch.toNat < 128) (a b : String) :
    c.Takes (a ++ String.singleton ch ++ b) ↔ c.Takes a ∧ c.Takes b :=
  Text.within_append_cons (isMarked_of_lt h) (c.ascii _ h) a b

/-- A text of ASCII characters, which every console takes. -/
def isAscii (s : String) : Bool := s.toList.all (·.toNat < 128)

theorem isAscii_append (a b : String) : isAscii (a ++ b) = (isAscii a && isAscii b) := by
  rw [isAscii, String.toList_append, List.all_append]
  rfl

theorem takes_of_isAscii (h : isAscii s = true) : c.Takes s := by
  have hpoints : ∀ l : List Char, (∀ ch ∈ l, ch.toNat < 128) →
      ∀ n ∈ (Text.spellings l).map Text.pointOf, c.refuses n = false := by
    intro l hl
    induction l with
    | nil => nofun
    | cons d l ih =>
      obtain ⟨hd, hl⟩ := List.forall_mem_cons.mp hl
      have hsplit := Text.spellings_append_cons (isMarked_of_lt hd) [] l
      rw [List.nil_append] at hsplit
      rw [hsplit]
      exact List.forall_mem_cons.mpr ⟨c.ascii _ hd, ih hl⟩
  exact hpoints _ fun ch hch => of_decide_eq_true (List.all_eq_true.mp h ch hch)

theorem takes_singleton (h : Text.isMarked ch = false) :
    c.Takes (String.singleton ch) ↔ c.refuses ch.toNat = false := by
  have hpoints := Text.codePoints_append_cons h "" ""
  rw [String.empty_append, String.append_empty] at hpoints
  rw [Takes, Text.Within, hpoints]
  simp [Text.codePoints, Text.spellings]

theorem takes_joinWith {ls : List (List Char)} (h : ∀ l ∈ ls, c.Takes (String.ofList l)) :
    c.Takes (String.ofList (Text.joinWith '/' ls)) := by
  induction ls with
  | nil => exact Text.within_empty
  | cons l ls ih =>
    obtain ⟨hl, hls⟩ := List.forall_mem_cons.mp h
    cases ls with
    | nil => exact hl
    | cons m ls =>
      have hsplit : String.ofList (Text.joinWith '/' (l :: m :: ls)) = String.ofList l ++
          String.singleton '/' ++ String.ofList (Text.joinWith '/' (m :: ls)) := by
        refine String.toList_inj.mp ?_
        simp [Text.joinWith]
      rw [hsplit, takes_append_cons (by decide)]
      exact ⟨hl, ih hls⟩

/-- A path name is printed like its parts, so the text that it stands for can be printed too. -/
theorem takes_of_takes_ofText (h : ∀ q ∈ (PathName.ofText s).parts, c.Takes q) : c.Takes s := by
  have hpieces : ∀ l ∈ Text.splitAt '/' s.toList, c.Takes (String.ofList l) := by
    intro l hl
    -- Empty parts and single points do not count in a path name.
    by_cases hblank : String.ofList l = "" ∨ String.ofList l = "."
    · refine takes_of_isAscii ?_
      rcases hblank with heq | heq <;> rw [heq] <;> decide
    · rw [not_or] at hblank
      refine h _ (List.mem_filter.mpr ⟨List.mem_map_of_mem hl, ?_⟩)
      simpa using hblank
  have hjoined := takes_joinWith hpieces
  rwa [Text.joinWith_splitAt, String.ofList_toList] at hjoined

theorem takes_of_takes_join {out : PathName} (h : c.Takes (out.join (.ofText s)).text) :
    c.Takes s := by
  have hparts := (PathName.within_text (c.ascii _ (by decide)) (c.ascii _ (by decide)) _).mp h
  refine takes_of_takes_ofText fun q hq => hparts q ?_
  rw [PathName.join]
  split
  · exact hq
  · exact List.mem_append_right _ hq

end Console

namespace CommandLine

open Console (Takes takes_append_cons)

variable {c : Console} {o : Options}

/-- A line for a source holds two marks, the name of the model and a path name. -/
theorem takes_generated_iff (name target : String) :
    c.Takes ("  " ++ styled .green "✓" ++ " " ++ name ++ " " ++ styled .dim ("→ " ++ target)) ↔
      c.refuses '✓'.toNat = false ∧ c.refuses '→'.toNat = false ∧ c.Takes name ∧
        c.Takes target := by
  have hline : "  " ++ styled .green "✓" ++ " " ++ name ++ " " ++ styled .dim ("→ " ++ target) =
      "  \x1b[32" ++ String.singleton 'm' ++ String.singleton '✓' ++
        String.singleton '\x1b' ++ "[0m" ++ String.singleton ' ' ++ name ++
        String.singleton ' ' ++ "\x1b[2" ++ String.singleton 'm' ++ String.singleton '→' ++
        String.singleton ' ' ++ target ++ String.singleton '\x1b' ++ "[0m" := by
    refine String.toList_inj.mp ?_
    simp [styled, Style.code]
  have hbegin : c.Takes "  \x1b[32" := Console.takes_of_isAscii (by decide)
  have hreset : c.Takes "[0m" := Console.takes_of_isAscii (by decide)
  have hdim : c.Takes "\x1b[2" := Console.takes_of_isAscii (by decide)
  rw [hline]
  simp (disch := decide) only [takes_append_cons, Console.takes_singleton, hbegin, hreset, hdim,
    true_and, and_true, and_assoc, and_left_comm]

/-- A line for a fault holds a mark, what the fault is about, its message and the name of its
code. -/
theorem takes_faultLine_iff (f : Fault) : c.Takes (faultLine f) ↔
    c.refuses '✗'.toNat = false ∧ c.Takes (label f) ∧ c.Takes f.message := by
  have hline : faultLine f = "  \x1b[31" ++ String.singleton 'm' ++ String.singleton '✗' ++
      String.singleton '\x1b' ++ "[0m" ++ String.singleton ' ' ++ label f ++
      String.singleton ':' ++ "" ++ String.singleton ' ' ++ f.message ++ String.singleton ' ' ++
      ("\x1b[2m[" ++ f.code.name ++ "]\x1b[0m") := by
    refine String.toList_inj.mp ?_
    simp [faultLine, styled, Style.code]
  have hbegin : c.Takes "  \x1b[31" := Console.takes_of_isAscii (by decide)
  have hreset : c.Takes "[0m" := Console.takes_of_isAscii (by decide)
  have hempty : c.Takes "" := Text.within_empty
  have hcode : c.Takes ("\x1b[2m[" ++ f.code.name ++ "]\x1b[0m") := by
    refine Console.takes_of_isAscii ?_
    cases f.code <;> decide
  rw [hline]
  simp (disch := decide) only [takes_append_cons, Console.takes_singleton, hbegin, hreset, hempty,
    hcode, true_and, and_true, and_assoc]

theorem isAscii_repr (n : Nat) : Console.isAscii (Nat.repr n) = true := by
  rw [Console.isAscii, Nat.repr, String.toList_ofList, List.all_eq_true]
  intro ch hch
  have hdigit := Nat.isDigit_of_mem_toDigits (by decide) (by decide) hch
  simp only [Char.isDigit, Bool.and_eq_true, decide_eq_true_eq, UInt32.le_iff_toNat_le] at hdigit
  exact decide_eq_true (Nat.lt_of_le_of_lt hdigit.2 (by decide))

theorem takes_totalLine (c : Console) (dryRun : Bool) (generated faults : Nat) :
    c.Takes (totalLine dryRun generated faults) := by
  refine Console.takes_of_isAscii ?_
  have hcolor : Console.isAscii (if faults = 0 then Style.green else Style.yellow).code = true := by
    split <;> decide
  have hverb : Console.isAscii (if dryRun then "would generate" else "generated") = true := by
    split <;> decide
  have htypes : Console.isAscii " type(s), " = true := by decide
  have herrors : Console.isAscii " error(s)" = true := by decide
  simp only [totalLine, styled, Console.isAscii_append, hcolor, hverb, htypes, herrors,
    isAscii_repr]
  decide

theorem exists_print_summary_iff {r : Result} :
    (∃ output, c.print (summary o r) = .ok output) ↔
      (∀ source ∈ r.generated, c.Takes (generatedLine o source)) ∧
        ∀ f ∈ r.faults, c.Takes (faultLine f) := by
  rw [Console.exists_print_iff, summary, List.forall_mem_append, List.forall_mem_append,
    List.forall_mem_map, List.forall_mem_map, List.forall_mem_singleton]
  exact and_iff_left (takes_totalLine c _ _ _)

theorem takes_generatedLine_of_dry (h : o.dryRun = true) (source : Source) :
    c.Takes (generatedLine o source) ↔ c.refuses '✓'.toNat = false ∧ c.refuses '→'.toNat = false ∧
      c.Takes source.qualifiedName ∧ c.Takes source.fileName := by
  rw [generatedLine, h]
  exact takes_generated_iff ..

theorem takes_generatedLine_of_out {out : PathName} (h : o.dryRun = false) (hout : o.out = some out)
    (source : Source) : c.Takes (generatedLine o source) ↔
      c.refuses '✓'.toNat = false ∧ c.refuses '→'.toNat = false ∧
        c.Takes source.qualifiedName ∧ c.Takes (Stored.target out source).text := by
  rw [generatedLine, h, hout]
  exact takes_generated_iff ..

theorem label_of_model {f : Fault} {m : String} (h : f.context.model = some m) (hm : m ≠ "") :
    label f = m := by
  rw [label, h]
  exact if_neg hm

theorem takes_of_takes_fault {out : PathName} {source : Source} {cause : Failure}
    (h : c.Takes (faultLine (Stored.fault out source cause))) :
    c.Takes source.qualifiedName ∧ c.Takes source.fileName := by
  obtain ⟨-, hlabel, hmessage⟩ := (takes_faultLine_iff _).mp h
  constructor
  · by_cases hname : source.qualifiedName = ""
    · rw [hname]
      exact Text.within_empty
    · rw [label_of_model rfl hname] at hlabel
      exact hlabel
  · have heq : (Stored.fault out source cause).message = "Could not write " ++
        String.singleton '\'' ++ (Stored.target out source).text ++ String.singleton '\'' ++
          (": " ++ cause.text) := by
      refine String.toList_inj.mp ?_
      simp [Stored.fault, Fault.fileUnwritable]
    rw [heq, takes_append_cons (by decide), takes_append_cons (by decide)] at hmessage
    exact Console.takes_of_takes_join hmessage.1.2

end CommandLine

end ShadowTypes
