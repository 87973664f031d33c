import InvocationBridge.Bytes

/-!
Base64 in the standard alphabet with mandatory padding.

`encode` writes it; `decode` reads it back and says exactly what is wrong with any other text.
-/

namespace InvocationBridge.Base64

/-- The symbol for a six-bit value. -/
def symbol (n : Nat) : UInt8 :=
  if n < 26 then (0x41 + n).toUInt8
  else if n < 52 then (0x61 + (n - 26)).toUInt8
  else if n < 62 then (0x30 + (n - 52)).toUInt8
  else if n = 62 then 0x2B
  else 0x2F

/-- The six-bit value of a symbol. -/
def value? (b : UInt8) : Option Nat :=
  if 0x41 ≤ b ∧ b ≤ 0x5A then some (b.toNat - 0x41)
  else if 0x61 ≤ b ∧ b ≤ 0x7A then some (b.toNat - 0x61 + 26)
  else if 0x30 ≤ b ∧ b ≤ 0x39 then some (b.toNat - 0x30 + 52)
  else if b = 0x2B then some 62
  else if b = 0x2F then some 63
  else none

/-- The padding sign. -/
def pad : UInt8 := 0x3D

def encode : Bytes → Bytes
  | [] => []
  | [a] => [symbol (a.toNat / 4), symbol (a.toNat % 4 * 16), pad, pad]
  | [a, b] =>
    [symbol (a.toNat / 4), symbol (a.toNat % 4 * 16 + b.toNat / 16), symbol (b.toNat % 16 * 4), pad]
  | a :: b :: c :: rest =>
    symbol (a.toNat / 4) :: symbol (a.toNat % 4 * 16 + b.toNat / 16) ::
      symbol (b.toNat % 16 * 4 + c.toNat / 64) :: symbol (c.toNat % 64) :: encode rest

/-- What is wrong with a text, and where. -/
inductive Fault where
  | symbol (octet : UInt8) (offset : Nat)
  | length (count : Nat)
  | padding
  | lastSymbol (octet : UInt8) (offset : Nat)
  deriving DecidableEq

def Fault.message : Fault → String
  | .symbol octet offset => s!"Invalid symbol {octet.toNat}, offset {offset}."
  | .length count => s!"Invalid input length: {count}"
  | .padding => "Invalid padding"
  | .lastSymbol octet offset => s!"Invalid last symbol {octet.toNat}, offset {offset}."

/-- The three octets of four six-bit values. -/
def join (a b c d : Nat) : Bytes :=
  [(a * 4 + b / 16).toUInt8, (b % 16 * 16 + c / 4).toUInt8, (c % 4 * 64 + d).toUInt8]

/-- The values of symbols that stand from `offset` on, none of them padding. -/
def values (offset : Nat) : Bytes → Except Fault (List Nat)
  | [] => .ok []
  | b :: rest =>
    match value? b with
    | none => .error (.symbol b offset)
    | some v => (values (offset + 1) rest).map (v :: ·)

/-- The octets of full groups of four values. -/
def joinAll : List Nat → Bytes
  | a :: b :: c :: d :: rest => join a b c d ++ joinAll rest
  | _ => []

/-- The last group, read from position `i` of the group: its values and the number of padding signs.
Padding is due at the third or fourth position and ends the group. `first` is the position of the
first padding sign, once there was one. -/
def lastGroup (start : Nat) (i : Nat) (first : Option Nat) : Bytes → Except Fault (List Nat × Nat)
  | [] => .ok ([], 0)
  | b :: rest =>
    if b = pad then
      if i < 2 then .error (.symbol pad (start + i))
      else (lastGroup start (i + 1) (first <|> some i) rest).map fun (vs, pads) => (vs, pads + 1)
    else
      match first with
      | some place => .error (.symbol pad (start + place))
      | none =>
        match value? b with
        | none => .error (.symbol b (start + i))
        | some v => (lastGroup start (i + 1) none rest).map fun (vs, pads) => (v :: vs, pads)

/-- The octets of the last group, from its values: bits beyond the last whole octet must be zero.
`octet` is the last symbol as written. -/
def finish (start : Nat) (octet : UInt8) : List Nat → Except Fault Bytes
  | [a, b] =>
    if b % 16 = 0 then .ok ((join a b 0 0).take 1)
    else .error (.lastSymbol octet (start + 1))
  | [a, b, c] =>
    if c % 4 = 0 then .ok ((join a b c 0).take 2)
    else .error (.lastSymbol octet (start + 2))
  | [a, b, c, d] => .ok (join a b c d)
  | _ => .ok []

/-- The number of octets before the last group, which has one to four of them. -/
def groupStart (length : Nat) : Nat := (length - 1) / 4 * 4

/-- The octets that a text stands for. A stray sign after complete groups is looked for first, then
the groups from the left, then the last group with its padding, its length and its spare bits. -/
def decode (text : Bytes) : Except Fault Bytes := do
  let start := groupStart text.length
  match text.getLast? with
  | some b =>
    if text.length % 4 = 1 ∧ b ≠ pad ∧ value? b = none then
      throw (.symbol b (text.length - 1))
  | none => pure ()
  let whole ← values 0 (text.take start)
  let (vs, pads) ← lastGroup start 0 none (text.drop start)
  if text ≠ [] ∧ vs.length < 2 then
    throw (.length (start + vs.length))
  if (vs.length + pads) % 4 ≠ 0 then
    throw .padding
  let octet := (text.drop start).getD (vs.length - 1) 0
  let tail ← finish start octet vs
  return joinAll whole ++ tail

end InvocationBridge.Base64
