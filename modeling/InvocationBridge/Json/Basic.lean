import InvocationBridge.Fields

/-!
JSON values.

An integer and a float are never the same number. Objects that were read, and those built with
`Fields.insert`, list their fields in increasing order of the names; a record that is written in an
order of its own is an object in that order.
-/

namespace InvocationBridge

inductive Number where
  | int (n : Int)
  | float (x : Float)

inductive Json where
  | null
  | bool (b : Bool)
  | num (n : Number)
  | str (s : String)
  | arr (items : List Json)
  | obj (fields : List (String × Json))

namespace Number

/-- Equality of numbers; the two zeros of floats are equal. -/
def same : Number → Number → Bool
  | int m, int n => m == n
  | float x, float y => x == y
  | _, _ => false

end Number

namespace Json

def ofInt (n : Int) : Json := num (.int n)

def ofNat (n : Nat) : Json := ofInt n

/-- The field `name`, if the value is an object that has it. -/
def field? (name : String) : Json → Option Json
  | obj fields => Fields.get? name fields
  | _ => none

def hasField (name : String) (v : Json) : Bool := (field? name v).isSome

/-- The value at the end of a path of field names. -/
def at? : List String → Json → Option Json
  | [], v => some v
  | name :: names, v => (field? name v).bind (at? names)

def str? : Json → Option String
  | str s => some s
  | _ => none

def bool? : Json → Option Bool
  | bool b => some b
  | _ => none

def arr? : Json → Option (List Json)
  | arr items => some items
  | _ => none

def obj? : Json → Option (Fields Json)
  | obj fields => some fields
  | _ => none

/-- The integer in a number, if it is not negative. -/
def nat? : Json → Option Nat
  | num (.int n) => if 0 ≤ n then some n.toNat else none
  | _ => none

mutual

/-- Equality of values. -/
def same : Json → Json → Bool
  | null, null => true
  | bool a, bool b => a == b
  | num m, num n => m.same n
  | str s, str t => s == t
  | arr xs, arr ys => sameItems xs ys
  | obj xs, obj ys => sameFields xs ys
  | _, _ => false

def sameItems : List Json → List Json → Bool
  | [], [] => true
  | x :: xs, y :: ys => same x y && sameItems xs ys
  | _, _ => false

def sameFields : List (String × Json) → List (String × Json) → Bool
  | [], [] => true
  | (a, x) :: xs, (b, y) :: ys => a == b && same x y && sameFields xs ys
  | _, _ => false

end

end Json

end InvocationBridge
