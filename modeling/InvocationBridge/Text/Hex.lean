import InvocationBridge.Bytes

/-!
Hexadecimal digits: written in lower case, read in either.
-/

namespace InvocationBridge.Hex

/-- The digit for a number below sixteen. -/
def digit (n : Nat) : Char :=
  if n < 10 then Char.ofNat (0x30 + n) else Char.ofNat (0x57 + n)

/-- The value of an octet that is a digit in ASCII. -/
def value? (b : UInt8) : Option Nat :=
  if 0x30 ≤ b ∧ b ≤ 0x39 then some (b.toNat - 0x30)
  else if 0x41 ≤ b ∧ b ≤ 0x46 then some (b.toNat - 0x37)
  else if 0x61 ≤ b ∧ b ≤ 0x66 then some (b.toNat - 0x57)
  else none

/-- Two digits for each octet. -/
def ofByte (b : UInt8) : List Char := [digit (b.toNat / 16), digit (b.toNat % 16)]

def ofBytes (bs : Bytes) : List Char := bs.flatMap ofByte

/-- The octets that an even number of digits spells. -/
def toBytes? : Bytes → Option Bytes
  | [] => some []
  | [_] => none
  | a :: b :: rest => do
    let high ← value? a
    let low ← value? b
    let bytes ← toBytes? rest
    return (high * 16 + low).toUInt8 :: bytes

/-- The digits of a number, without leading zeros. -/
def ofNat (n : Nat) : List Char := Nat.toDigits 16 n

end InvocationBridge.Hex
