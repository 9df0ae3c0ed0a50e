import ShadowTypes.Calendar
import ShadowTypes.Number.Double

/-!
# Document values

The values that a decoded document can hold. A mapping keeps its entries in the order in which
their keys first appear. Keys are compared by value: a number has one value however it is written,
and the two truth values are the numbers one and zero. A collection may contain itself: it is then
a ring with a number, and stands inside itself as a reference to that number.
-/

namespace ShadowTypes

inductive Value
  | null
  | bool (b : Bool)
  | int (n : Int)
  | float (x : Double)
  | text (s : String)
  | bytes (b : List UInt8)
  | date (d : Date)
  | moment (m : Moment)
  | list (items : List Value)
  /-- A key with its value, as an item of an ordered mapping. -/
  | pair (key value : Value)
  | set (items : List Value)
  | mapping (entries : List (Value × Value))
  /-- A collection that refers to itself, or to a ring around it, from within. -/
  | ring (number : Nat) (body : Value)
  /-- The ring around this place that has the number. -/
  | again (number : Nat)
  deriving Repr, Inhabited

namespace Value

/-- The integer that a number or a truth value equals. -/
def asInt? : Value → Option Int
  | .bool b => some (if b then 1 else 0)
  | .int n => some n
  | .float x => x.toInt?
  | _ => none

def sameKey : Value → Value → Bool
  | .null, .null => true
  | .text s, .text t => s == t
  | .bytes a, .bytes b => a == b
  | .date a, .date b => a == b
  | .moment a, .moment b => a.sameInstant b
  | .pair a b, .pair c d => sameKey a c && sameKey b d
  | .float x, .float y => x.sameValue y
  | x, y => match x.asInt?, y.asInt? with
    | some m, some n => m == n
    | _, _ => false

theorem sameKey_text {k : Value} {s : String} : k.sameKey (.text s) = true ↔ k = .text s := by
  cases k <;> simp [sameKey, asInt?]

def isKey : Value → Bool
  | .list _ | .set _ | .mapping _ | .ring .. | .again _ => false
  | .pair a b => isKey a && isKey b
  | _ => true

def typeName : Value → String
  | .null => "NoneType"
  | .bool _ => "bool"
  | .int _ => "int"
  | .float _ => "float"
  | .text _ => "str"
  | .bytes _ => "bytes"
  | .date _ => "date"
  | .moment _ => "datetime"
  | .list _ => "list"
  | .pair .. => "tuple"
  | .set _ => "set"
  | .mapping _ | .again _ => "dict"
  | .ring _ v => typeName v

/-- Nothing, zero, false and the empty text and collections hold nothing. -/
def isFilled : Value → Bool
  | .null => false
  | .bool b => b
  | .int n => n != 0
  | .float x => !x.isZero
  | .text s => s != ""
  | .bytes b => !b.isEmpty
  | .list xs => !xs.isEmpty
  | .set xs => !xs.isEmpty
  | .mapping es => !es.isEmpty
  | .date _ | .moment _ | .pair .. | .ring .. | .again _ => true

def isNull : Value → Bool
  | .null => true
  | _ => false

/-! ## Rings -/

mutual
/-- The value with the ring `v` in the places that refer to its number `n`. -/
def unroll (n : Nat) (v : Value) : Value → Value
  | .again m => if m = n then v else .again m
  | .list xs => .list (unrollItems n v xs)
  | .pair a b => .pair (unroll n v a) (unroll n v b)
  | .mapping es => .mapping (unrollEntries n v es)
  | .ring m b => if m = n then .ring m b else .ring m (unroll n v b)
  | x => x

def unrollItems (n : Nat) (v : Value) : List Value → List Value
  | [] => []
  | x :: xs => unroll n v x :: unrollItems n v xs

/-- The entries with the ring in the places that refer to it; keys refer to none. -/
def unrollEntries (n : Nat) (v : Value) : List (Value × Value) → List (Value × Value)
  | [] => []
  | (k, x) :: es => (k, unroll n v x) :: unrollEntries n v es
end

/-- The collection that a ring is, which holds the ring where it contains itself; any other value
as it is. -/
def opened : Value → Value
  | .ring n b => unroll n (.ring n b) b
  | v => v

@[simp] theorem opened_null : opened .null = .null := rfl

@[simp] theorem opened_list (xs : List Value) : opened (.list xs) = .list xs := rfl

@[simp] theorem opened_mapping (es : List (Value × Value)) :
    opened (.mapping es) = .mapping es := rfl

end Value

/-- The entries of a mapping: keys, each with a value or with whatever else belongs to it. -/
abbrev Entries (α : Type := Value) := List (Value × α)

namespace Entries

def get? (es : Entries) (k : Value) : Option Value :=
  (es.find? fun e => e.1.sameKey k).map (·.2)

def field? (es : Entries) (name : String) : Option Value := es.get? (.text name)

def hasKey (es : Entries) (k : Value) : Bool := es.any fun e => e.1.sameKey k

def hasField (es : Entries) (name : String) : Bool := es.hasKey (.text name)

/-- The entries with the value at `k` replaced in its place, or added at the end. -/
def insert {α : Type} : Entries α → Value → α → Entries α
  | [], k, v => [(k, v)]
  | (k', v') :: es, k, v => if k'.sameKey k then (k', v) :: es else (k', v') :: insert es k v

def erase (es : Entries) (k : Value) : Entries := es.filter fun e => !e.1.sameKey k

/-- Entries in the order of their keys' first appearance, each with its last value. -/
def ofList {α : Type} (l : List (Value × α)) : Entries α :=
  l.foldl (fun es e => insert es e.1 e.2) []

@[simp] theorem get?_nil (k : Value) : get? [] k = none := rfl

@[simp] theorem insert_nil {α : Type} (k : Value) (v : α) : insert [] k v = [(k, v)] := rfl

end Entries

end ShadowTypes
