import InvocationBridge.Json.Reader.Number
import InvocationBridge.Json.Reader.Text

/-!
Reading a value of one kind, and what to say of a value of another kind.
-/

namespace InvocationBridge.Json.Reader

/-- The fault of a value that is not what was expected. Words, numbers and strings are read first,
and their own faults count; arrays and objects are not entered. -/
def mismatch (expected : String) (bs : Bytes) : Fault :=
  let found (reading : Except Fault (Found × Bytes)) : Fault :=
    match reading with
    | .ok (what, rest) => .before rest (.invalidType what expected)
    | .error fault => fault
  match skipSpace bs with
  | [] => .upon [] .eofValue
  | b :: rest =>
    if b = 0x6E then found ((word [0x75, 0x6C, 0x6C] rest).map (.null, ·))
    else if b = 0x74 then found ((word [0x72, 0x75, 0x65] rest).map (.bool true, ·))
    else if b = 0x66 then found ((word [0x61, 0x6C, 0x73, 0x65] rest).map (.bool false, ·))
    else if b = 0x2D then found ((number true rest).map fun (n, rest) => (.number n, rest))
    else if isDigit b then found ((number false (b :: rest)).map fun (n, rest) => (.number n, rest))
    else if b = 0x22 then found ((string rest).map fun (s, rest) => (.string s, rest))
    else if b = 0x5B then .before (b :: rest) (.invalidType .sequence expected)
    else if b = 0x7B then .before (b :: rest) (.invalidType .map expected)
    else .upon (b :: rest) .expectedValue

/-- A value that must be a string. -/
def text (bs : Bytes) : Except Fault (String × Bytes) :=
  match skipSpace bs with
  | 0x22 :: rest => string rest
  | bs => .error (mismatch "a string" bs)

/-- A value that must be a string or null. -/
def optionalText (bs : Bytes) : Except Fault (Option String × Bytes) :=
  match skipSpace bs with
  | 0x6E :: rest => (word [0x75, 0x6C, 0x6C] rest).map (none, ·)
  | bs => (text bs).map fun (s, rest) => (some s, rest)

end InvocationBridge.Json.Reader
