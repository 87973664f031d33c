import InvocationBridge.Json.Reader.Fault

/-!
Reading numbers.

The digits of a number make a significand of one word and a power of ten. Digits that do not fit
the significand are left out: each one before the point raises the power instead.
-/

namespace InvocationBridge.Json.Reader

def isDigit (b : UInt8) : Bool := decide (0x30 ≤ b) && decide (b ≤ 0x39)

def digitValue (b : UInt8) : Nat := b.toNat - 0x30

/-- The values of the digits in front. -/
def digits (bs : Bytes) : List Nat := (bs.takeWhile isDigit).map digitValue

def skipDigits (bs : Bytes) : Bytes := bs.dropWhile isDigit

/-- Append digits to a significand as long as it stays in a word, and count the digits from the
first one that does not fit. -/
def appendDigits (significand : Nat) : List Nat → Nat × Nat
  | [] => (significand, 0)
  | d :: ds =>
    if significand * 10 + d < UInt64.size then appendDigits (significand * 10 + d) ds
    else (significand, ds.length + 1)

/-- The float for a signed significand times a power of ten. -/
def float (negative : Bool) (significand : Nat) (power : Int) (rest : Bytes) :
    Except Fault (Number × Bytes) :=
  match Decimal.scaled? significand power with
  | some x => .ok (.float (if negative then -x else x), rest)
  | none => .error (.before rest .numberOutOfRange)

/-- The largest exponent that is taken as written. -/
def exponentLimit : Nat := 0x7FFFFFFF

/-- The value of the digits of an exponent that follow the number `n`, and what comes after them. If
a digit takes the value beyond the limit, what comes after that digit. -/
def exponentDigits (n : Nat) : Bytes → Except Bytes (Nat × Bytes)
  | [] => .ok (n, [])
  | b :: rest =>
    if isDigit b then
      if n * 10 + digitValue b ≤ exponentLimit then exponentDigits (n * 10 + digitValue b) rest
      else .error rest
    else .ok (n, b :: rest)

/-- The digits of an exponent with the sign `down`. Beyond the limit the number is zero if its
significand is zero or the exponent negative, and else out of range. -/
def exponentValue (negative : Bool) (significand : Nat) (power : Int) (down : Bool) :
    Bytes → Except Fault (Number × Bytes)
  | [] => .error (.before [] .eofValue)
  | b :: rest =>
    if isDigit b then
      match exponentDigits (digitValue b) rest with
      | .ok (n, rest) => float negative significand (if down then power - n else power + n) rest
      | .error rest =>
        if significand = 0 ∨ down then
          .ok (.float (if negative then -0.0 else 0.0), skipDigits rest)
        else .error (.before rest .numberOutOfRange)
    else .error (.before rest .invalidNumber)

/-- A number from its exponent on, after the `e`. -/
def exponent (negative : Bool) (significand : Nat) (power : Int) :
    Bytes → Except Fault (Number × Bytes)
  | 0x2B :: rest => exponentValue negative significand power false rest
  | 0x2D :: rest => exponentValue negative significand power true rest
  | bs => exponentValue negative significand power false bs

/-- Whether an exponent starts here. -/
def startsExponent (b : UInt8) : Bool := b == 0x65 || b == 0x45

/-- A number from its digits after the point on. -/
def fraction (negative : Bool) (significand : Nat) (power : Int) (bs : Bytes) :
    Except Fault (Number × Bytes) :=
  let ds := digits bs
  let rest := skipDigits bs
  if ds = [] then
    .error (.upon rest (if rest = [] then .eofValue else .invalidNumber))
  else
    let (significand, excess) := appendDigits significand ds
    let power := power - (ds.length - excess : Nat)
    match rest with
    | b :: after =>
      if startsExponent b then exponent negative significand power after
      else float negative significand power rest
    | [] => float negative significand power rest

/-- A number without point and exponent: an integer if it fits 64 bits, signed when negative, and
else a float. A negative zero is a float. -/
def integer (negative : Bool) (significand excess : Nat) (rest : Bytes) :
    Except Fault (Number × Bytes) :=
  if excess ≠ 0 then float negative significand excess rest
  else if !negative then .ok (.int significand, rest)
  else if significand ≠ 0 ∧ significand ≤ UInt64.size / 2 then
    .ok (.int (-(significand : Int)), rest)
  else .ok (.float (-(significand.toUInt64.toFloat)), rest)

/-- A number after its sign. -/
def number (negative : Bool) : Bytes → Except Fault (Number × Bytes)
  | [] => .error (.before [] .eofValue)
  | b :: rest =>
    if !isDigit b then .error (.before rest .invalidNumber)
    else if b = 0x30 ∧ rest.head?.any isDigit then .error (.upon rest .invalidNumber)
    else
      let (significand, excess) := appendDigits 0 (digits (b :: rest))
      match skipDigits rest with
      | [] => integer negative significand excess []
      | c :: after =>
        if c = 0x2E then fraction negative significand excess after
        else if startsExponent c then exponent negative significand excess after
        else integer negative significand excess (c :: after)

end InvocationBridge.Json.Reader
