import InvocationBridge.Json.Error

/-!
What JSON readers share: faults, spaces and words.

A reader returns its result and the octets after it. When it stops at a fault it tells how many
octets were left, from which `Fault.toError` finds the place in the text.
-/

namespace InvocationBridge.Json

/-- A fault, and the number of octets that were left when it was noticed. `back` moves the column
to the left. -/
structure Fault where
  cause : Cause
  left : Nat
  back : Nat := 0

namespace Fault

/-- A fault noticed with `rest` still ahead. -/
def before (rest : Bytes) (cause : Cause) : Fault := ⟨cause, rest.length, 0⟩

/-- A fault in the first octet of `rest`. It is placed behind that octet, or at the end of the text
if there is none. -/
def upon (rest : Bytes) (cause : Cause) : Fault := ⟨cause, rest.length - 1, 0⟩

/-- The error for a fault in a text. -/
def toError (text : Bytes) (fault : Fault) : Error :=
  let place := Position.after (text.take (text.length - fault.left))
  ⟨fault.cause, some ⟨place.line, place.column - fault.back⟩⟩

end Fault

namespace Reader

def isSpace (b : UInt8) : Bool := b == 0x20 || b == 0x0A || b == 0x09 || b == 0x0D

def skipSpace (bs : Bytes) : Bytes := bs.dropWhile isSpace

/-- The rest of a word, of which the first letter was read. -/
def word : (letters : Bytes) → Bytes → Except Fault Bytes
  | [], rest => .ok rest
  | _ :: _, [] => .error (.before [] .eofValue)
  | letter :: letters, b :: rest =>
    if b = letter then word letters rest else .error (.before rest .expectedIdent)

/-- The whole of a text, by a reader after which only spaces may be left. -/
def whole {α : Type} (reader : Bytes → Except Fault (α × Bytes)) (text : Bytes) : Except Error α :=
  match reader text with
  | .error fault => .error (fault.toError text)
  | .ok (v, rest) =>
    match skipSpace rest with
    | [] => .ok v
    | b :: rest => .error (Fault.toError text (.upon (b :: rest) .trailingCharacters))

end Reader

end InvocationBridge.Json
