import InvocationBridge.Text.Hex

/-!
Universally unique identifiers: sixteen octets, four accepted spellings and one written form.
-/

namespace InvocationBridge

/-- An identifier of sixteen octets. -/
structure Uuid where
  octets : Bytes
  length_eq : octets.length = 16
  deriving DecidableEq

namespace Uuid

/-- The hyphenated form in lower case. -/
def toChars (u : Uuid) : List Char :=
  let part (start count : Nat) := Hex.ofBytes ((u.octets.drop start).take count)
  part 0 4 ++ '-' :: part 4 2 ++ '-' :: part 6 2 ++ '-' :: part 8 2 ++ '-' :: part 10 6

def toString (u : Uuid) : String := String.ofList u.toChars

def ofOctets? (octets : Bytes) : Option Uuid :=
  if h : octets.length = 16 then some ⟨octets, h⟩ else none

/-- The 32 digits of a text of 36 with hyphens after the 8th, 12th, 16th and 20th digit. -/
def unhyphenate? (text : Bytes) : Option Bytes :=
  let hyphenAt (i : Nat) : Bool := text[i]? == some 0x2D
  if text.length = 36 ∧ hyphenAt 8 ∧ hyphenAt 13 ∧ hyphenAt 18 ∧ hyphenAt 23 then
    some (text.take 8 ++ (text.drop 9).take 4 ++ (text.drop 14).take 4 ++ (text.drop 19).take 4 ++
      text.drop 24)
  else none

/-- An ASCII letter in lower case, and any other octet as it is. -/
def lowered (b : UInt8) : UInt8 := if 0x41 ≤ b ∧ b ≤ 0x5A then b + 0x20 else b

/-- What is left of a text after a beginning in lower case, which it may have in either case. -/
def dropStart? : Bytes → Bytes → Option Bytes
  | [], text => some text
  | _ :: _, [] => none
  | a :: as, b :: text => if a = lowered b then dropStart? as text else none

/-- The text between braces. -/
def unbrace? (text : Bytes) : Option Bytes :=
  match text with
  | 0x7B :: rest => if rest.getLast? = some 0x7D then some rest.dropLast else none
  | _ => none

/-- The 32 digits of an accepted spelling: bare, hyphenated, hyphenated in braces, or hyphenated
after `urn:uuid:`. -/
def digits? (text : Bytes) : Option Bytes :=
  if text.length = 32 then some text
  else if text.length = 36 then unhyphenate? text
  else if text.length = 38 then (unbrace? text).bind unhyphenate?
  else if text.length = 45 then
    (dropStart? (Bytes.ofText "urn:uuid:") text).bind unhyphenate?
  else none

/-- The identifier that a text spells, with letters in either case. -/
def parse? (text : String) : Option Uuid := do
  ofOctets? (← Hex.toBytes? (← digits? (Bytes.ofText text)))

/-- A random identifier (version 4): sixteen random octets with the version and variant bits set. -/
def ofRandom (random : Nat → UInt8) : Uuid where
  octets := (List.range 16).map fun i =>
    if i = 6 then (0x40 + (random i).toNat % 0x10).toUInt8
    else if i = 8 then (0x80 + (random i).toNat % 0x40).toUInt8
    else random i
  length_eq := by simp

end Uuid

end InvocationBridge
