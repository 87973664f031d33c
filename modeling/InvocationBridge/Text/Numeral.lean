import InvocationBridge.Bytes

/-!
Unsigned decimal numerals with a bound.
-/

namespace InvocationBridge.Numeral

/-- The value of an ASCII digit. -/
def digit? (c : Char) : Option Nat :=
  if '0' ≤ c ∧ c ≤ '9' then some (c.toNat - 0x30) else none

/-- Continue the number `n` with further digits, all of which must be digits. -/
def extend? (n : Nat) : List Char → Option Nat
  | [] => some n
  | c :: cs => do extend? (n * 10 + (← digit? c)) cs

/-- The number that at least one digit spells. -/
def ofDigits? : List Char → Option Nat
  | [] => none
  | c :: cs => extend? 0 (c :: cs)

/-- The number that a numeral spells, if it is below `bound`: digits, after at most one `+`. -/
def parse? (bound : Nat) (cs : List Char) : Option Nat :=
  let digits := match cs with
    | '+' :: rest => rest
    | _ => cs
  (ofDigits? digits).filter (· < bound)

end InvocationBridge.Numeral
