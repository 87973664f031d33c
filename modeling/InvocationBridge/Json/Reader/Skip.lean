import InvocationBridge.Json.Reader.Number
import InvocationBridge.Json.Reader.Text

/-!
Skipping values that nobody asked for.

Only the shape of the text is checked: nesting has no limit, numbers no range, and strings need be
neither UTF-8 nor free of lone surrogates.
-/

namespace InvocationBridge.Json.Reader

/-- Skip the digits of an exponent, of which there must be one. -/
def skipExponentDigits : Bytes → Except Fault Bytes
  | [] => .error (.before [] .invalidNumber)
  | b :: rest => if isDigit b then .ok (skipDigits rest) else .error (.before rest .invalidNumber)

/-- Skip an exponent after its `e`. -/
def skipExponent : Bytes → Except Fault Bytes
  | 0x2B :: rest => skipExponentDigits rest
  | 0x2D :: rest => skipExponentDigits rest
  | bs => skipExponentDigits bs

/-- Skip the digits after a point, and an exponent. -/
def skipFraction (bs : Bytes) : Except Fault Bytes :=
  if digits bs = [] then .error (.upon bs .invalidNumber)
  else
    match skipDigits bs with
    | [] => .ok []
    | b :: rest => if startsExponent b then skipExponent rest else .ok (b :: rest)

/-- Skip a number after its sign. -/
def skipNumber : Bytes → Except Fault Bytes
  | [] => .error (.before [] .invalidNumber)
  | b :: rest =>
    if !isDigit b then .error (.before rest .invalidNumber)
    else if b = 0x30 ∧ rest.head?.any isDigit then .error (.upon rest .invalidNumber)
    else
      match skipDigits rest with
      | [] => .ok []
      | c :: after =>
        if c = 0x2E then skipFraction after
        else if startsExponent c then skipExponent after
        else .ok (c :: after)

/-- Skip a string after its opening quote. -/
def skipString : Bytes → Except Fault Bytes
  | [] => .error (.before [] .eofString)
  | b :: rest =>
    if b = 0x22 then .ok rest
    else if b = 0x5C then
      match rest with
      | [] => .error (.before [] .eofString)
      | e :: rest =>
        if (escape? e).isSome then skipString rest
        else if e = 0x75 then
          match rest with
          | h₁ :: h₂ :: h₃ :: h₄ :: rest =>
            if (hex4? h₁ h₂ h₃ h₄).isSome then skipString rest
            else .error (.before rest .invalidEscape)
          | _ => .error (.before [] .eofString)
        else .error (.before rest .invalidEscape)
    else if b < 0x20 then .error (.before (b :: rest) .controlCharacter)
    else skipString rest

/-- Skip a name and its colon. -/
def skipName (bs : Bytes) : Except Fault Bytes :=
  match skipSpace bs with
  | [] => .error (.upon [] .eofObject)
  | b :: rest =>
    if b = 0x22 then do
      let rest ← skipString rest
      match skipSpace rest with
      | [] => .error (.upon [] .eofObject)
      | c :: after => if c = 0x3A then .ok after else .error (.upon (c :: after) .expectedColon)
    else .error (.upon (b :: rest) .keyNotString)

mutual

/-- Skip a value. Every level of nesting costs an octet, and so does every item, so `fuel` lasts if
there are no more octets than that. -/
def skipValue : (fuel : Nat) → Bytes → Except Fault Bytes
  | 0, _ => .error (.upon [] .eofValue)
  | fuel + 1, bs =>
    match skipSpace bs with
    | [] => .error (.upon [] .eofValue)
    | b :: rest =>
      if b = 0x6E then word [0x75, 0x6C, 0x6C] rest
      else if b = 0x74 then word [0x72, 0x75, 0x65] rest
      else if b = 0x66 then word [0x61, 0x6C, 0x73, 0x65] rest
      else if b = 0x2D then skipNumber rest
      else if isDigit b then skipNumber (b :: rest)
      else if b = 0x22 then skipString rest
      else if b = 0x5B then
        match skipSpace rest with
        | [] => .error (.upon [] .eofList)
        | c :: after =>
          if c = 0x5D then .ok after
          else do
            let rest ← skipValue fuel (c :: after)
            skipMore fuel false rest
      else if b = 0x7B then
        match skipSpace rest with
        | [] => .error (.upon [] .eofObject)
        | c :: after =>
          if c = 0x7D then .ok after
          else do
            let rest ← skipName (c :: after)
            let rest ← skipValue fuel rest
            skipMore fuel true rest
      else .error (.upon (b :: rest) .expectedValue)

/-- Skip the items after the first one, of an object if they are `named`, up to the bracket. -/
def skipMore : (fuel : Nat) → (named : Bool) → Bytes → Except Fault Bytes
  | 0, named, _ => .error (.upon [] (if named then .eofObject else .eofList))
  | fuel + 1, named, bs =>
    match skipSpace bs with
    | [] => .error (.upon [] (if named then .eofObject else .eofList))
    | b :: rest =>
      if b = (if named then 0x7D else 0x5D) then .ok rest
      else if b = 0x2C then do
        let rest ← if named then skipName rest else .ok rest
        let rest ← skipValue fuel rest
        skipMore fuel named rest
      else .error (.upon (b :: rest) (if named then .expectedObjectEnd else .expectedListEnd))

end

/-- Skip a value, however deep. -/
def skip (bs : Bytes) : Except Fault Bytes := skipValue (bs.length + 1) bs

end InvocationBridge.Json.Reader
