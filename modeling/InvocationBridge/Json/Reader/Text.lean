import InvocationBridge.Json.Reader.Fault

/-!
Reading strings.
-/

namespace InvocationBridge.Json.Reader

/-- The octet that a letter after a backslash stands for. -/
def escape? (b : UInt8) : Option UInt8 :=
  if b = 0x22 ∨ b = 0x5C ∨ b = 0x2F then some b
  else if b = 0x62 then some 0x08
  else if b = 0x66 then some 0x0C
  else if b = 0x6E then some 0x0A
  else if b = 0x72 then some 0x0D
  else if b = 0x74 then some 0x09
  else none

/-- The number that four hexadecimal digits spell. -/
def hex4? (a b c d : UInt8) : Option Nat := do
  let high := (← Hex.value? a) * 16 + (← Hex.value? b)
  let low := (← Hex.value? c) * 16 + (← Hex.value? d)
  return high * 256 + low

def isHighSurrogate (n : Nat) : Bool := decide (0xD800 ≤ n) && decide (n < 0xDC00)

def isLowSurrogate (n : Nat) : Bool := decide (0xDC00 ≤ n) && decide (n < 0xE000)

/-- The scalar value of a pair of surrogates. -/
def joinSurrogates (high low : Nat) : Nat :=
  0x10000 + (high - 0xD800) * 0x400 + (low - 0xDC00)

/-- The octets of a string up to its closing quote, with escapes replaced. -/
def stringOctets : Bytes → Except Fault (Bytes × Bytes)
  | [] => .error (.before [] .eofString)
  | b :: rest =>
    if b = 0x22 then .ok ([], rest)
    else if b = 0x5C then
      match rest with
      | [] => .error (.before [] .eofString)
      | e :: rest =>
        match escape? e with
        | some octet => (stringOctets rest).map fun (s, rest) => (octet :: s, rest)
        | none =>
          if e = 0x75 then
            match rest with
            | h₁ :: h₂ :: h₃ :: h₄ :: rest =>
              match hex4? h₁ h₂ h₃ h₄ with
              | none => .error (.before rest .invalidEscape)
              | some n =>
                if isLowSurrogate n then .error (.before rest .loneSurrogate)
                else if isHighSurrogate n then
                  match rest with
                  | [] => .error (.before [] .eofString)
                  | b₁ :: rest =>
                    if b₁ ≠ 0x5C then .error (.before rest .unexpectedEscapeEnd)
                    else
                      match rest with
                      | [] => .error (.before [] .eofString)
                      | b₂ :: rest =>
                        if b₂ ≠ 0x75 then .error (.before rest .unexpectedEscapeEnd)
                        else
                          match rest with
                          | l₁ :: l₂ :: l₃ :: l₄ :: rest =>
                            match hex4? l₁ l₂ l₃ l₄ with
                            | none => .error (.before rest .invalidEscape)
                            | some m =>
                              if isLowSurrogate m then
                                (stringOctets rest).map fun (s, rest) =>
                                  (Utf8.encodeChar (Char.ofNat (joinSurrogates n m)) ++ s, rest)
                              else .error (.before rest .loneSurrogate)
                          | _ => .error (.before [] .eofString)
                else
                  (stringOctets rest).map fun (s, rest) =>
                    (Utf8.encodeChar (Char.ofNat n) ++ s, rest)
            | _ => .error (.before [] .eofString)
          else .error (.before rest .invalidEscape)
    else if b < 0x20 then .error (.before rest .controlCharacter)
    else (stringOctets rest).map fun (s, rest) => (b :: s, rest)

/-- A string after its opening quote. The column of damaged text is counted back from the closing
quote by the octets from the damage on. -/
def string (bs : Bytes) : Except Fault (String × Bytes) := do
  let (octets, rest) ← stringOctets bs
  match octets.text? with
  | some s => return (s, rest)
  | none =>
    let sound := (Utf8.encode (Utf8.leading octets)).length
    throw ⟨.invalidCodePoint, rest.length, octets.length - sound⟩

end InvocationBridge.Json.Reader
