/-!
Octets and their reading as UTF-8 text.

`Utf8.encode` writes characters; `Utf8.pieces` reads octets as characters and damaged stretches.
Strict and lossy decoding are two views of the pieces.
-/

namespace InvocationBridge

/-- Octets as they travel: payloads, bodies, header values. -/
abbrev Bytes := List UInt8

namespace Utf8

/-- The octets of one character, by the size of its scalar value. -/
def encodeChar (c : Char) : Bytes :=
  let n := c.toNat
  if n < 0x80 then [n.toUInt8]
  else if n < 0x800 then [(0xC0 + n / 0x40).toUInt8, (0x80 + n % 0x40).toUInt8]
  else if n < 0x10000 then
    [(0xE0 + n / 0x1000).toUInt8, (0x80 + n / 0x40 % 0x40).toUInt8, (0x80 + n % 0x40).toUInt8]
  else
    [(0xF0 + n / 0x40000).toUInt8, (0x80 + n / 0x1000 % 0x40).toUInt8,
      (0x80 + n / 0x40 % 0x40).toUInt8, (0x80 + n % 0x40).toUInt8]

def encode (cs : List Char) : Bytes := cs.flatMap encodeChar

/-- How many octets the character that starts with `lead` takes, or `0` if none starts so. -/
def width (lead : UInt8) : Nat :=
  if lead < 0x80 then 1
  else if lead < 0xC2 then 0
  else if lead < 0xE0 then 2
  else if lead < 0xF0 then 3
  else if lead < 0xF5 then 4
  else 0

def isContinuation (b : UInt8) : Bool := decide (0x80 ≤ b) && decide (b < 0xC0)

/-- Whether `b` may come right after `lead`. Beside the continuation range this rules out
overlong forms, surrogates and scalar values above the last one. -/
def mayFollow (lead b : UInt8) : Bool :=
  if lead = 0xE0 then decide (0xA0 ≤ b) && decide (b < 0xC0)
  else if lead = 0xED then decide (0x80 ≤ b) && decide (b < 0xA0)
  else if lead = 0xF0 then decide (0x90 ≤ b) && decide (b < 0xC0)
  else if lead = 0xF4 then decide (0x80 ≤ b) && decide (b < 0x90)
  else isContinuation b

/-- Six more bits of a scalar value. -/
def extend (n : Nat) (b : UInt8) : Nat := n * 0x40 + b.toNat % 0x40

/-- The text in some octets, in order: a character, or `none` for each longest stretch that begins
a character and does not complete it (a single octet if it begins none). -/
def pieces : Bytes → List (Option Char)
  | [] => []
  | a :: rest =>
    match width a with
    | 1 => some (Char.ofNat a.toNat) :: pieces rest
    | 2 =>
      match rest with
      | b :: rest₂ =>
        if mayFollow a b then some (Char.ofNat (extend (a.toNat % 0x20) b)) :: pieces rest₂
        else none :: pieces (b :: rest₂)
      | [] => [none]
    | 3 =>
      match rest with
      | b :: rest₂ =>
        if mayFollow a b then
          match rest₂ with
          | c :: rest₃ =>
            if isContinuation c then
              some (Char.ofNat (extend (extend (a.toNat % 0x10) b) c)) :: pieces rest₃
            else none :: pieces (c :: rest₃)
          | [] => [none]
        else none :: pieces (b :: rest₂)
      | [] => [none]
    | 4 =>
      match rest with
      | b :: rest₂ =>
        if mayFollow a b then
          match rest₂ with
          | c :: rest₃ =>
            if isContinuation c then
              match rest₃ with
              | d :: rest₄ =>
                if isContinuation d then
                  some (Char.ofNat (extend (extend (extend (a.toNat % 0x08) b) c) d)) ::
                    pieces rest₄
                else none :: pieces (d :: rest₄)
              | [] => [none]
            else none :: pieces (c :: rest₃)
          | [] => [none]
        else none :: pieces (b :: rest₂)
      | [] => [none]
    | _ => none :: pieces rest

/-- The characters, if nothing is damaged. -/
def decode? (bs : Bytes) : Option (List Char) := (pieces bs).mapM id

/-- The characters, with U+FFFD for each damaged stretch. -/
def decodeLossy (bs : Bytes) : List Char := (pieces bs).map (·.getD '\uFFFD')

/-- The characters before the first damaged stretch. -/
def leading (bs : Bytes) : List Char := (pieces bs).takeWhile Option.isSome |>.filterMap id

end Utf8

/-- The octets of a text. -/
def Bytes.ofText (s : String) : Bytes := Utf8.encode s.toList

/-- The text in some octets, if they are UTF-8. -/
def Bytes.text? (bs : Bytes) : Option String := (Utf8.decode? bs).map String.ofList

/-- The text in some octets, with U+FFFD for each damaged stretch. -/
def Bytes.textLossy (bs : Bytes) : String := String.ofList (Utf8.decodeLossy bs)

end InvocationBridge
