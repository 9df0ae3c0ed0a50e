import ShadowTypes.Pass
import ShadowTypes.Proofs.Python.Expression

/-!
# Evaluating expressions

An expression is evaluated on the object under test. A comparison evaluates both of its sides, a
conjunction its right side only if the left one is true. A call of the validity method on an object
of a shadow type evaluates the condition of that type on the object; such calls may nest, and a
number bounds how deeply they do.
-/

namespace ShadowTypes

namespace Python

/-- Why an evaluation has no value: something was asked of null, or of an object that does not know
the answer, or calls nest too deeply. -/
inductive Trap
  | nullDereference
  | unknown
  | unfinished
  deriving DecidableEq, Repr

abbrev Answer := Except Trap Object

namespace Object

def field? (name : String) : Object → Option Object
  | .shadow _ fields => (fields.find? (·.1 == name)).map (·.2)
  | _ => Option.none

def read (name : String) : Object → Answer
  | .none => .error .nullDereference
  | o => match o.field? name with
    | some v => .ok v
    | Option.none => .error .unknown

/-- The null object and the truth values, of which there is one each. -/
def single? : Object → Option (Option Bool)
  | .none => some Option.none
  | .bool b => some (some b)
  | _ => Option.none

def same (o p : Object) : Answer :=
  match o.single?, p.single? with
  | some a, some b => .ok (.bool (a == b))
  | Option.none, Option.none => .error .unknown
  | _, _ => .ok (.bool false)

/-- The comparison by value, between values that are compared so. -/
def differ : Object → Object → Answer
  | .none, .none => .ok (.bool false)
  | .bool a, .bool b => .ok (.bool (a != b))
  | .text s, .text t => .ok (.bool (s != t))
  | .shadow .., _ | _, .shadow .. | .foreign _, _ | _, .foreign _ => .error .unknown
  | _, _ => .ok (.bool true)

/-- Whether a value counts as true. -/
def truth : Object → Except Trap Bool
  | .none => .ok false
  | .bool b => .ok b
  | .text s => .ok (s != "")
  | _ => .error .unknown

def opposite : Object → Answer
  | .bool b => .ok (.bool !b)
  | _ => .error .unknown

end Object

/-- The value of an expression on an object; `call` calls methods. -/
def Expression.eval (call : Object → String → Answer) (o : Object) : Expression → Answer
  | .self => .ok o
  | .constant c => .ok c
  | .attribute e name => do (← e.eval call o).read name
  | .call e method => do call (← e.eval call o) method
  | .same e f => do (← e.eval call o).same (← f.eval call o)
  | .notSame e f => do (← (← e.eval call o).same (← f.eval call o)).opposite
  | .differ e f => do (← e.eval call o).differ (← f.eval call o)
  | .and e f => do
    let v ← e.eval call o
    if ← v.truth then f.eval call o else return v

/-- A class with its validity method: the method's condition, and the name of the class. -/
structure Class where
  name : String
  condition : Expression

abbrev Program := List Class

/-- Calls a method. Texts can be stripped of blanks; an object of a shadow type can be tested, unless
a field hides the method. -/
def Program.call (p : Program) : Nat → Object → String → Answer
  | 0, _, _ => .error .unfinished
  | n + 1, o, method => match o with
    | .none => .error .nullDereference
    | .text s => if method = "strip" then .ok (.text (Text.trim s)) else .error .unknown
    | .shadow type _ =>
      match p.find? (·.name == type), o.field? method with
      | some c, none =>
        if method = Dialect.python.validityMethod then c.condition.eval (p.call n) o
        else .error .unknown
      | _, _ => .error .unknown
    | _ => .error .unknown

/-- The class that a model generates: its condition is the conjunction of its fragments. -/
def Class.ofModel? (w : Workshop) (m : Model) : Option Class :=
  match m.resolve w.candidates w.names with
  | .ok resolved => ((w.emitter.fragments resolved).mapM read?).map fun es =>
    ⟨w.emitter.shadowName m.name, .all es⟩
  | .error _ => none

/-- The classes that a pass over models generates. -/
def Program.ofPass (p : Pass) (models : List Model) : Program :=
  models.filterMap (Class.ofModel? (p.workshop (Candidates.ofModels models)))

/-- The answer of an expression on an object once calls may nest deeply enough. -/
def Program.Yields (p : Program) (o : Object) (e : Expression) (a : Answer) : Prop :=
  ∃ n, ∀ k, n ≤ k → e.eval (p.call k) o = a

theorem Program.Yields.unique {p : Program} {o : Object} {e : Expression} {a b : Answer}
    (ha : p.Yields o e a) (hb : p.Yields o e b) : a = b := by
  obtain ⟨n, hn⟩ := ha
  obtain ⟨k, hk⟩ := hb
  rw [← hn (max n k) (Nat.le_max_left n k), hk (max n k) (Nat.le_max_right n k)]

/-! ## Evaluating by parts -/

section

variable {call : Object → String → Answer} {o a b : Object} {e f : Expression}

theorem eval_constant (call : Object → String → Answer) (o a : Object) :
    (Expression.constant a).eval call o = .ok a := rfl

theorem eval_call (he : e.eval call o = .ok a) (method : String) :
    (e.call method).eval call o = call a method := by
  change (e.eval call o >>= fun v => call v method) = _
  rw [he]
  rfl

theorem eval_same (he : e.eval call o = .ok a) (hf : f.eval call o = .ok b) :
    (e.same f).eval call o = a.same b := by
  change (e.eval call o >>= fun v => f.eval call o >>= fun w => v.same w) = _
  rw [he, hf]
  rfl

theorem eval_notSame (he : e.eval call o = .ok a) (hf : f.eval call o = .ok b) :
    (e.notSame f).eval call o = a.same b >>= Object.opposite := by
  change (e.eval call o >>= fun v => f.eval call o >>= fun w => v.same w >>= Object.opposite) = _
  rw [he, hf]
  rfl

theorem eval_differ (he : e.eval call o = .ok a) (hf : f.eval call o = .ok b) :
    (e.differ f).eval call o = a.differ b := by
  change (e.eval call o >>= fun v => f.eval call o >>= fun w => v.differ w) = _
  rw [he, hf]
  rfl

theorem eval_and_true (he : e.eval call o = .ok (.bool true)) :
    (e.and f).eval call o = f.eval call o := by
  rw [Expression.eval, he]
  rfl

theorem eval_and_false (he : e.eval call o = .ok (.bool false)) :
    (e.and f).eval call o = .ok (.bool false) := by
  rw [Expression.eval, he]
  rfl

end

/-! ## Tests of a field -/

section

variable {call : Object → String → Answer} {o v : Object} {name : String}

theorem eval_field (hv : o.field? name = some v) :
    (Expression.field name).eval call o = .ok v := by
  have hr : o.read name = .ok v := by
    cases o with
    | none => cases hv
    | _ => simp only [Object.read, hv]
  exact hr

theorem eval_given_of_none (hv : o.field? name = some .none) :
    (Expression.given name).eval call o = .ok (.bool false) := by
  rw [Expression.given, eval_notSame (eval_field hv) (eval_constant _ _ _)]
  rfl

theorem eval_given_of_ne (hv : o.field? name = some v) (hne : v ≠ .none) :
    (Expression.given name).eval call o = .ok (.bool true) := by
  have hs : v.same .none = .ok (.bool false) := by
    cases v with
    | none => exact absurd rfl hne
    | _ => rfl
  rw [Expression.given, eval_notSame (eval_field hv) (eval_constant _ _ _), hs]
  rfl

theorem eval_ofDemand_of_none (hv : o.field? name = some .none) (d : Demand) :
    (Expression.ofDemand name d).eval call o = .ok (.bool false) := by
  cases d with
  | present => exact eval_given_of_none hv
  | nonEmpty => exact eval_and_false (eval_given_of_none hv)
  | nonBlank => exact eval_and_false (eval_given_of_none hv)
  | nestedValid => exact eval_and_false (eval_given_of_none hv)

theorem eval_nonEmpty {s : String} (hv : o.field? name = some (.text s)) :
    (Expression.ofDemand name .nonEmpty).eval call o = .ok (.bool (s != "")) := by
  rw [Expression.ofDemand, eval_and_true (eval_given_of_ne hv nofun)]
  exact eval_differ (eval_field hv) (eval_constant _ _ _)

theorem eval_nonBlank {s : String} (hv : o.field? name = some (.text s))
    (hc : call (.text s) "strip" = .ok (.text (Text.trim s))) :
    (Expression.ofDemand name .nonBlank).eval call o = .ok (.bool (Text.trim s != "")) := by
  rw [Expression.ofDemand, eval_and_true (eval_given_of_ne hv nofun)]
  exact eval_differ ((eval_call (eval_field hv) _).trans hc) (eval_constant _ _ _)

theorem eval_nestedValid {b : Bool} (hv : o.field? name = some v) (hne : v ≠ .none)
    (hc : call v Dialect.python.validityMethod = .ok (.bool b)) :
    (Expression.ofDemand name .nestedValid).eval call o = .ok (.bool b) := by
  rw [Expression.ofDemand, eval_and_true (eval_given_of_ne hv hne),
    eval_same ((eval_call (eval_field hv) _).trans hc) (eval_constant _ _ _)]
  cases b <;> rfl

end

/-! ## Conjunctions -/

namespace Program

variable {p : Program} {o : Object} {e f : Expression} {b c : Bool}

theorem Yields.eq (hb : p.Yields o e (.ok (.bool b))) (hc : p.Yields o e (.ok (.bool c))) :
    b = c := by
  injection hb.unique hc with h
  injection h

theorem Yields.and (hb : p.Yields o e (.ok (.bool b))) (hc : p.Yields o f (.ok (.bool c))) :
    p.Yields o (e.and f) (.ok (.bool (b && c))) := by
  obtain ⟨n, hn⟩ := hb
  obtain ⟨k, hk⟩ := hc
  refine ⟨max n k, fun j hj => ?_⟩
  have he := hn j (by omega)
  have hf := hk j (by omega)
  cases b with
  | true => rw [eval_and_true he, hf, Bool.true_and]
  | false => rw [eval_and_false he, Bool.false_and]

theorem yields_all {es : List Expression} (h : ∀ e ∈ es, ∃ b, p.Yields o e (.ok (.bool b))) :
    ∃ b, p.Yields o (.all es) (.ok (.bool b)) ∧
      (b = true ↔ ∀ e ∈ es, p.Yields o e (.ok (.bool true))) := by
  have part : ∀ e b, p.Yields o e (.ok (.bool b)) →
      (b = true ↔ p.Yields o e (.ok (.bool true))) := by
    intro e b hb
    constructor
    · rintro rfl
      exact hb
    · exact hb.eq
  induction es using Expression.all.induct with
  | case1 => exact ⟨true, ⟨0, fun _ _ => rfl⟩, by simp⟩
  | case2 e =>
    obtain ⟨b, hb⟩ := h e List.mem_cons_self
    exact ⟨b, hb, by simpa using part e b hb⟩
  | case3 e f es ih =>
    obtain ⟨b, hb⟩ := h e List.mem_cons_self
    obtain ⟨c, hc, hall⟩ := ih fun g hg => h g (List.mem_cons_of_mem _ hg)
    refine ⟨b && c, hb.and hc, ?_⟩
    rw [Bool.and_eq_true, hall, part e b hb, List.forall_mem_cons (a := e)]

end Program

end Python

end ShadowTypes
