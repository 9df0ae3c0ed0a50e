/-!
# Expressions in forward references

What is kept of an expression is where its names are bound: functions and comprehensions have scopes
of their own, and an expression in them can give names to values. The rules of scopes tell which
expressions may stand in quotes: a loop keeps its names to itself, what it runs over names nothing,
only a function yields, and only a comprehension awaits.
-/

namespace ShadowTypes.Forward

mutual
/-- An expression, as far as scopes go. -/
inductive Expression
  /-- A name that is looked up. -/
  | name (n : String)
  /-- Anything whose parts stand in the same scope. -/
  | parts (es : List Expression)
  /-- A value that is given a name. -/
  | named (n : String) (value : Expression)
  | yielded (value : Expression)
  | awaited (value : Expression)
  /-- A function, the defaults of whose parameters are found outside of it. -/
  | function (defaults : List Expression) (body : Expression)
  /-- A comprehension, the first source of whose items is found outside of it. It gives its items
  one by one if `isLazy`. -/
  | comprehension (isLazy : Bool) (source : Expression) (clauses : List Clause)

/-- A clause inside a comprehension. -/
inductive Clause
  /-- The names, or other places, that a loop binds. -/
  | target (isAsync : Bool) (place : Expression)
  /-- What a further loop runs over. -/
  | source (e : Expression)
  /-- A condition, or what the comprehension gives. -/
  | part (e : Expression)
end

/-! ## What an expression does to its scope -/

/-- What expressions do to the scope in which they stand. -/
structure Effects where
  /-- The names that are looked up. -/
  names : List String := []
  /-- The names that are given to values. -/
  given : List String := []
  /-- Whether something is awaited. -/
  awaits : Bool := false

def Effects.append (a b : Effects) : Effects :=
  ⟨a.names ++ b.names, a.given ++ b.given, a.awaits || b.awaits⟩

instance : Append Effects := ⟨Effects.append⟩

mutual
def Expression.effects : Expression → Effects
  | .name n => { names := [n] }
  | .parts es => effectsOfAll es
  | .named n value => value.effects ++ { given := [n] }
  | .yielded value => value.effects
  | .awaited value => value.effects ++ { awaits := true }
  | .function defaults _ => effectsOfAll defaults
  | .comprehension isLazy source clauses =>
    source.effects ++ { awaits := !isLazy && clausesAwait clauses }

def effectsOfAll : List Expression → Effects
  | [] => {}
  | e :: es => e.effects ++ effectsOfAll es

def clausesAwait : List Clause → Bool
  | [] => false
  | .target isAsync e :: cs => isAsync || e.effects.awaits || clausesAwait cs
  | .source e :: cs => e.effects.awaits || clausesAwait cs
  | .part e :: cs => e.effects.awaits || clausesAwait cs
end

/-! ## The rules of scopes -/

inductive ScopeKind
  | outermost
  | function
  | comprehension
  deriving DecidableEq, Repr

structure Scope where
  kind : ScopeKind := .outermost
  /-- The names that the loops around it bind, up to the next function. -/
  loopNames : List String := []
  /-- Whether no value can be given a name here. -/
  isClosed : Bool := false

mutual
/-- Whether an expression keeps the rules of scopes where it stands. -/
def Expression.fits (s : Scope) : Expression → Bool
  | .name _ => true
  | .parts es => allFit s es
  | .named n value => !s.isClosed && !s.loopNames.contains n && value.fits s
  | .yielded value => s.kind = .function && value.fits s
  | .awaited value => s.kind = .comprehension && value.fits s
  | .function defaults body =>
    allFit s defaults && body.fits { s with kind := .function, loopNames := [] }
  | .comprehension isLazy source clauses =>
    source.fits { s with isClosed := true } &&
      (isLazy || s.kind = .comprehension || !clausesAwait clauses) &&
      clausesFit { s with kind := .comprehension } [] clauses

/-- Whether expressions keep the rules of scopes where they stand. -/
def allFit (s : Scope) : List Expression → Bool
  | [] => true
  | e :: es => e.fits s && allFit s es

/-- Whether the clauses of a comprehension keep the rules of scopes, after clauses in which values
have been given some names, which no further loop binds. -/
def clausesFit (s : Scope) (given : List String) : List Clause → Bool
  | [] => true
  | .target _ e :: cs =>
    let s' := { s with loopNames := e.effects.names ++ s.loopNames }
    e.effects.given.isEmpty && !e.effects.names.any given.contains && e.fits s' &&
      clausesFit s' given cs
  | .source e :: cs => e.fits { s with isClosed := true } && clausesFit s given cs
  | .part e :: cs => e.fits s && clausesFit s (e.effects.given ++ given) cs
end

end ShadowTypes.Forward
